import PatternNfa.Proofs.CaseMark
import PatternNfa.Proofs.Groups
import PatternNfa.Proofs.Quantifiers

/-! Patterns composed of patterns. In a group of its own, a pattern means what it means by itself, so patterns in groups
can be put one after the other, offered as alternatives and repeated. -/

namespace PatternNfa

/-- The tokens of lexemes that begin at byte `offset` of a pattern that regards case. -/
def Lexeme.written (offset : Nat) (lexemes : List Lexeme) : List Token :=
  Token.join (Token.ofLexemes false offset false lexemes)

namespace Lexeme

theorem written_apart (offset : Nat) (lexemes : List Lexeme) : (written offset lexemes).IsChain Token.Apart :=
  Token.join_apart _

theorem any_isSingle_written (offset : Nat) (lexemes : List Lexeme) :
    (written offset lexemes).any Token.isSingle = lexemes.any isSingle := by
  rw [written, Token.any_isSingle_join, Token.any_isSingle_ofLexemes]

/-- Tokens written further on differ in the offsets of their group marks only, which are gone when they are built. -/
theorem built_anywhere {lexemes : List Lexeme} {ordered : List Token} {nfa : Nfa}
    (ended : Token.reversePolish (written 0 lexemes) = .ok ordered) (built : Nfa.ofTokens ordered = .ok nfa)
    (offset : Nat) : ∃ ordered, Token.reversePolish (written offset lexemes) = .ok ordered ∧
      Nfa.ofTokens ordered = .ok nfa := by
  have alike := Token.join_alike (Token.ofLexemes_alike false false offset 0 false lexemes)
  rw [Nat.zero_add] at alike
  obtain ⟨ordered', ended', same⟩ := (Token.reversePolish_alike alike).of_ok ended
  refine ⟨ordered', ended', ?_⟩
  have equal : ∀ asked other, Predicate.Recased false false asked other → asked = other := by
    intro asked other recased
    cases recased <;> rfl
  have built' := Nfa.ofTokens_alike (same.imp fun _ _ same => same.mono equal)
  obtain ⟨nfa', done, same⟩ := built'.of_ok built
  rw [done, same.eq]

theorem written_group (offset : Nat) (inside rest : List Lexeme) : ∃ start stop later,
    written offset (group inside ++ rest) = .opening offset :: written start inside ++
      Token.join (.closing stop :: Token.ofLexemes false later (pending false inside) rest) := by
  obtain ⟨start, stop, later, same⟩ := Token.ofLexemes_group false offset false inside rest
  exact ⟨start, stop, later, by rw [written, same, Token.join_group, written]⟩

/-- The tokens of the lexemes between two group marks. -/
def Grouped (inside : List Lexeme) (tokens : List Token) : Prop :=
  ∃ begun start stop, tokens = .opening begun :: written start inside ++ [.closing stop]

theorem grouped_only (offset : Nat) (inside : List Lexeme) : Grouped inside (written offset (group inside)) := by
  obtain ⟨start, stop, _, same⟩ := written_group offset inside []
  rw [List.append_nil] at same
  exact ⟨offset, start, stop, same⟩

theorem written_quantified (inside : List Lexeme) (quantifier : Quantifier) : ∃ tokens, Grouped inside tokens ∧
    written 0 (group inside ++ [.plain (Operator.quantified quantifier).symbol]) =
      tokens ++ [.operator (.quantified quantifier)] := by
  obtain ⟨start, stop, later, same⟩ := written_group 0 inside [.plain (Operator.quantified quantifier).symbol]
  have seam : Token.join (.closing stop :: Token.ofLexemes false later (pending false inside)
      [.plain (Operator.quantified quantifier).symbol]) = [.closing stop, .operator (.quantified quantifier)] := by
    cases quantifier <;> rfl
  exact ⟨_, ⟨0, start, stop, rfl⟩, by simp [same, seam]⟩

section

variable {first : List Lexeme} (settled : pending false first = false) (second : List Lexeme)
include settled

theorem written_concat : ∃ before after, Grouped first before ∧ Grouped second after ∧
    written 0 (group first ++ group second) = before ++ .operator .concat :: after := by
  obtain ⟨start, stop, later, same⟩ := written_group 0 first (group second)
  have seam : Token.join (.closing stop :: Token.ofLexemes false later false (group second)) =
      .closing stop :: .operator .concat :: written later (group second) := rfl
  rw [settled, seam] at same
  exact ⟨_, _, ⟨0, start, stop, rfl⟩, grouped_only later second, by simp [same]⟩

theorem written_alternate : ∃ before after, Grouped first before ∧ Grouped second after ∧
    written 0 (group first ++ .plain '|' :: group second) = before ++ .operator .alternate :: after := by
  obtain ⟨start, stop, later, same⟩ := written_group 0 first (.plain '|' :: group second)
  let next := later + (Lexeme.plain '|').width
  have seam : Token.join (.closing stop :: Token.ofLexemes false later false (.plain '|' :: group second)) =
      .closing stop :: .operator .alternate :: written next (group second) := rfl
  rw [settled, seam] at same
  exact ⟨_, _, ⟨0, start, stop, rfl⟩, grouped_only next second, by simp [same]⟩

end

end Lexeme

/-- The automaton accepts just the texts of the expression's language. -/
def Nfa.Means [CaseMap] [Categories] (nfa : Nfa) (expr : Expr) : Prop :=
  ∀ input : String, nfa.accepts input = true ↔ expr.Denotes input.toList

namespace Nfa.Means

variable [CaseMap] [Categories] {nfa first second : Nfa} {expr left right : Expr}

theorem concat (whole : nfa.Means (.concat left right)) (before : first.Means left) (after : second.Means right)
    (s : String) : nfa.accepts s = true ↔ ∃ u v, s = u ++ v ∧ first.accepts u = true ∧ second.accepts v = true := by
  rw [whole, Expr.denotes_concat_iff]
  constructor
  · intro ⟨u, v, split, matched, matched'⟩
    refine ⟨String.ofList u, String.ofList v, ?_, ?_, ?_⟩
    · rw [← String.ofList_append, ← split, String.ofList_toList]
    · rwa [before, String.toList_ofList]
    · rwa [after, String.toList_ofList]
  · intro ⟨u, v, split, matched, matched'⟩
    refine ⟨u.toList, v.toList, ?_, (before u).mp matched, (after v).mp matched'⟩
    rw [split, String.toList_append]

theorem alternate (whole : nfa.Means (.alternate left right)) (before : first.Means left) (after : second.Means right)
    (s : String) : nfa.accepts s = true ↔ first.accepts s = true ∨ second.accepts s = true := by
  rw [whole, Expr.denotes_alternate_iff, before, after]

theorem quantified {quantifier : Quantifier} (whole : nfa.Means (.quantified quantifier expr)) (once : first.Means expr)
    (s : String) : nfa.accepts s = true ↔ ∃ parts : List String, quantifier.Allows parts.length ∧
      s = String.join parts ∧ ∀ part ∈ parts, first.accepts part = true := by
  rw [whole, Expr.denotes_quantified_iff]
  constructor
  · intro ⟨parts, allowed, split, each⟩
    refine ⟨parts.map String.ofList, ?_, ?_, ?_⟩
    · rwa [List.length_map]
    · apply String.toList_injective
      simp [split, String.toList_join, List.flatMap_map]
    · simpa [once _] using each
  · intro ⟨parts, allowed, split, each⟩
    refine ⟨parts.map String.toList, ?_, ?_, ?_⟩
    · rwa [List.length_map]
    · rw [split, String.toList_join, List.flatMap_def]
    · simpa [← once _] using each

end Nfa.Means

/-- Derived tokens are compiled into an automaton for the language of their expression. -/
theorem Derives.built [CaseMap] [Categories] {tokens : List Token} {expr : Expr}
    (derivation : Derives .choice tokens expr) :
    ∃ ordered nfa, Token.reversePolish tokens = .ok ordered ∧ Nfa.ofTokens ordered = .ok nfa ∧ nfa.Means expr := by
  obtain ⟨other, ended, same⟩ := derivation.reversePolish
  obtain ⟨nfa, built, wired, language⟩ := Nfa.ofTokens_of_expr other.ofPostorder?_postorder
  refine ⟨_, nfa, ended, built, fun input => ?_⟩
  rw [Nfa.accepts_iff wired, language, same]

namespace Pattern

theorem tokens_of_reads {pattern : Pattern} {lexemes : List Lexeme} (unmarked : ¬ caseMark <+: pattern.toList)
    (reads : Lexeme.Reads pattern.toList lexemes) : pattern.tokens = .ok (Lexeme.written 0 lexemes) := by
  rw [tokens_eq (Source.ofText_unmarked unmarked), reads]
  rfl

theorem reads_of_tokens {pattern : Pattern} {tokens : List Token} (unmarked : ¬ caseMark <+: pattern.toList)
    (scanned : pattern.tokens = .ok tokens) :
    ∃ lexemes, Lexeme.Reads pattern.toList lexemes ∧ tokens = Lexeme.written 0 lexemes := by
  rw [tokens_eq (Source.ofText_unmarked unmarked)] at scanned
  obtain ⟨lexemes, read, rfl⟩ := exists_of_map scanned
  exact ⟨lexemes, .of_start read, rfl⟩

theorem head?_ne_of_compiled {pattern : Pattern} {nfa : Nfa} (compiled : pattern.compile = .ok nfa) :
    pattern.toList.head? ≠ some '?' := by
  intro begins
  obtain ⟨rest, text⟩ := List.head?_eq_some_iff.mp begins
  obtain ⟨tokens, ordered, scanned, ended, built⟩ := compiled_stages compiled
  have unmarked : ¬ caseMark <+: pattern.toList := by
    rw [text]
    intro marked
    cases (List.cons_prefix_cons.mp marked).1
  obtain ⟨lexemes, reads, rfl⟩ := reads_of_tokens unmarked scanned
  have operator : (Lexeme.written 0 lexemes).head? = some (.operator .optional) := by
    have read := reads 0
    rw [text, Lexeme.read_plain (by decide) (by decide) (by decide)] at read
    obtain ⟨after, _, rfl⟩ := exists_of_map read
    exact Token.head?_join _
  rcases derives_or_marks (Lexeme.written_apart 0 lexemes) ended built with ⟨_, derivation⟩ | ⟨starts, stops, _, marks⟩
  · obtain ⟨first, _, same, opens⟩ := derivation.begins
    rw [same] at operator
    cases operator
    cases opens
  · rw [marks] at operator
    cases starts with
    | nil => cases stops <;> cases operator
    | cons => cases operator

/-- A group does not begin like the case mark if its inside is compiled by itself. -/
theorem unmarked_group {pattern : Pattern} {nfa : Nfa} (compiled : pattern.compile = .ok nfa)
    (rest : List Char) : ¬ caseMark <+: '(' :: pattern.toList ++ [')'] ++ rest := by
  intro marked
  have begins := head?_ne_of_compiled compiled
  obtain ⟨_, after⟩ := List.cons_prefix_cons.mp marked
  cases text : pattern.toList with
  | nil =>
    rw [text] at after
    cases (List.cons_prefix_cons.mp after).1
  | cons first later =>
    rw [text] at after begins
    exact begins (congrArg some (List.cons_prefix_cons.mp after).1.symm)

theorem tokens_group {pattern whole : Pattern} {nfa : Nfa} (compiled : pattern.compile = .ok nfa) {rest : List Char}
    (text : whole.toList = '(' :: pattern.toList ++ [')'] ++ rest) {inside later : List Lexeme}
    (reads : Lexeme.Reads pattern.toList inside) (after : Lexeme.Reads rest later) :
    whole.tokens = .ok (Lexeme.written 0 (Lexeme.group inside ++ later)) :=
  tokens_of_reads (text ▸ unmarked_group compiled rest) (text ▸ reads.group.append after)

/-- A pattern that is compiled by itself into `nfa`, regards case and matches at least one character by some token. -/
structure Operand (pattern : Pattern) (nfa : Nfa) : Prop where
  compiled : pattern.compile = .ok nfa
  unmarked : ¬ caseMark <+: pattern.toList
  matching : ∃ tokens, pattern.tokens = .ok tokens ∧ ∃ token ∈ tokens, token.isSingle = true

/-- No negation mark of the pattern is left without a token to negate. -/
def Settled (pattern : Pattern) : Prop :=
  ∃ lexemes, (Source.ofText pattern.toList).lexemes = .ok lexemes ∧ Lexeme.Settled lexemes

theorem compile_derived [CaseMap] [Categories] {pattern : Pattern} {tokens : List Token} {expr : Expr}
    (scanned : pattern.tokens = .ok tokens) (derivation : Derives .choice tokens expr) :
    ∃ nfa, pattern.compile = .ok nfa ∧ nfa.Means expr := by
  obtain ⟨ordered, nfa, ended, built, language⟩ := derivation.built
  exact ⟨nfa, (compile_eq scanned ended).trans built, language⟩

theorem Settled.pending {pattern : Pattern} (settled : pattern.Settled) (unmarked : ¬ caseMark <+: pattern.toList)
    {lexemes : List Lexeme} (reads : Lexeme.Reads pattern.toList lexemes) : Lexeme.pending false lexemes = false := by
  obtain ⟨other, read, settled⟩ := settled
  rw [Source.ofText_unmarked unmarked] at read
  cases (reads 0).symm.trans read
  exact settled.pending

/-- Wherever a pattern that is compiled is written, its tokens are built into the same automaton. -/
theorem compiled_anywhere {pattern : Pattern} {nfa : Nfa} (compiled : pattern.compile = .ok nfa)
    (unmarked : ¬ caseMark <+: pattern.toList) : ∃ lexemes, Lexeme.Reads pattern.toList lexemes ∧
      ∀ offset, ∃ ordered, Token.reversePolish (Lexeme.written offset lexemes) = .ok ordered ∧
        Nfa.ofTokens ordered = .ok nfa := by
  obtain ⟨tokens, ordered, scanned, ended, built⟩ := compiled_stages compiled
  obtain ⟨lexemes, reads, rfl⟩ := reads_of_tokens unmarked scanned
  exact ⟨lexemes, reads, Lexeme.built_anywhere ended built⟩

namespace Operand

variable [CaseMap] [Categories] {pattern other : Pattern} {nfa nfa' : Nfa}

theorem derives (operand : Operand pattern nfa) : ∃ lexemes, Lexeme.Reads pattern.toList lexemes ∧
    ∀ offset, ∃ expr, Derives .choice (Lexeme.written offset lexemes) expr ∧ nfa.Means expr := by
  obtain ⟨lexemes, reads, built⟩ := compiled_anywhere operand.compiled operand.unmarked
  refine ⟨lexemes, reads, fun offset => ?_⟩
  obtain ⟨ordered, ended, built⟩ := built offset
  rcases derives_or_marks (Lexeme.written_apart offset lexemes) ended built with ⟨expr, derivation⟩ | ⟨_, _, _, marks⟩
  · obtain ⟨_, _, ended', built', language⟩ := derivation.built
    cases ended.symm.trans ended'
    cases built.symm.trans built'
    exact ⟨expr, derivation, language⟩
  · obtain ⟨tokens, scanned, token, member, single⟩ := operand.matching
    cases scanned.symm.trans (tokens_of_reads operand.unmarked reads)
    have some : (Lexeme.written offset lexemes).any Token.isSingle = true := by
      rw [Lexeme.any_isSingle_written, ← Lexeme.any_isSingle_written 0]
      exact List.any_eq_true.mpr ⟨token, member, single⟩
    rw [marks] at some
    simp [Token.isSingle] at some

theorem grouped (operand : Operand pattern nfa) : ∃ lexemes, Lexeme.Reads pattern.toList lexemes ∧
    ∀ tokens, Lexeme.Grouped lexemes tokens → ∃ expr, Derives .atom tokens expr ∧ nfa.Means expr := by
  obtain ⟨lexemes, reads, derives⟩ := operand.derives
  refine ⟨lexemes, reads, ?_⟩
  rintro _ ⟨begun, start, stop, rfl⟩
  obtain ⟨expr, derivation, language⟩ := derives start
  exact ⟨expr, .group derivation, language⟩

section

variable (left : Operand pattern nfa) (right : Operand other nfa') (settled : pattern.Settled)
include left right settled

theorem concat : ∃ whole, Pattern.compile ("(" ++ pattern ++ ")(" ++ other ++ ")") = .ok whole ∧
    ∀ s, whole.accepts s = true ↔ ∃ u v, s = u ++ v ∧ nfa.accepts u = true ∧ nfa'.accepts v = true := by
  obtain ⟨first, reads, derives⟩ := left.grouped
  obtain ⟨second, reads', derives'⟩ := right.grouped
  obtain ⟨before, after, group, group', same⟩ :=
    Lexeme.written_concat (settled.pending left.unmarked reads) second
  obtain ⟨expr, derivation, language⟩ := derives before group
  obtain ⟨expr', derivation', language'⟩ := derives' after group'
  have text : String.toList ("(" ++ pattern ++ ")(" ++ other ++ ")") =
      '(' :: pattern.toList ++ [')'] ++ ('(' :: other.toList ++ [')']) := by
    simp [String.toList_append]
  have scanned := tokens_group left.compiled text reads reads'.group
  rw [same] at scanned
  obtain ⟨whole, compiled, means⟩ := compile_derived scanned
    (.term (.concat (.factor (.atom derivation)) (.atom derivation')))
  exact ⟨whole, compiled, means.concat language language'⟩

theorem alternate : ∃ whole, Pattern.compile ("(" ++ pattern ++ ")|(" ++ other ++ ")") = .ok whole ∧
    ∀ s, whole.accepts s = true ↔ nfa.accepts s = true ∨ nfa'.accepts s = true := by
  obtain ⟨first, reads, derives⟩ := left.grouped
  obtain ⟨second, reads', derives'⟩ := right.grouped
  obtain ⟨before, after, group, group', same⟩ :=
    Lexeme.written_alternate (settled.pending left.unmarked reads) second
  obtain ⟨expr, derivation, language⟩ := derives before group
  obtain ⟨expr', derivation', language'⟩ := derives' after group'
  have text : String.toList ("(" ++ pattern ++ ")|(" ++ other ++ ")") =
      '(' :: pattern.toList ++ [')'] ++ (['|'] ++ ('(' :: other.toList ++ [')'])) := by
    simp [String.toList_append]
  have bar : Lexeme.Reads ['|'] [.plain '|'] := .plain (by decide) (by decide) (by decide)
  have scanned := tokens_group left.compiled text reads (bar.append reads'.group)
  rw [List.singleton_append, same] at scanned
  obtain ⟨whole, compiled, means⟩ := compile_derived scanned
    (.alternate (.term (.factor (.atom derivation))) (.factor (.atom derivation')))
  exact ⟨whole, compiled, means.alternate language language'⟩

end

theorem repeated (operand : Operand pattern nfa) (quantifier : Quantifier) : ∃ whole,
    Pattern.compile ("(" ++ pattern ++ ")" ++ String.singleton (Operator.quantified quantifier).symbol) = .ok whole ∧
    ∀ s, whole.accepts s = true ↔ ∃ parts : List String, quantifier.Allows parts.length ∧ s = String.join parts ∧
      ∀ part ∈ parts, nfa.accepts part = true := by
  obtain ⟨inside, reads, derives⟩ := operand.grouped
  obtain ⟨tokens, group, same⟩ := Lexeme.written_quantified inside quantifier
  obtain ⟨expr, derivation, language⟩ := derives tokens group
  have text : String.toList ("(" ++ pattern ++ ")" ++ String.singleton (Operator.quantified quantifier).symbol) =
      '(' :: pattern.toList ++ [')'] ++ [(Operator.quantified quantifier).symbol] := by
    simp [String.toList_append]
  have mark : Lexeme.Reads [(Operator.quantified quantifier).symbol]
      [.plain (Operator.quantified quantifier).symbol] := by
    cases quantifier <;> exact .plain (by decide) (by decide) (by decide)
  have scanned := tokens_group operand.compiled text reads mark
  rw [same] at scanned
  obtain ⟨whole, compiled, means⟩ := compile_derived scanned (.term (.factor (.quantified (.atom derivation))))
  exact ⟨whole, compiled, means.quantified language⟩

end Operand

/-- What is in a group is compiled as it is without the group, even if it is empty or leaves a negation mark waiting. -/
theorem compile_group {pattern : Pattern} {nfa : Nfa} (compiled : pattern.compile = .ok nfa)
    (unmarked : ¬ caseMark <+: pattern.toList) : Pattern.compile ("(" ++ pattern ++ ")") = .ok nfa := by
  obtain ⟨inside, reads, built⟩ := compiled_anywhere compiled unmarked
  obtain ⟨begun, start, stop, same⟩ := Lexeme.grouped_only 0 inside
  obtain ⟨ordered, ended, built⟩ := built start
  have text : String.toList ("(" ++ pattern ++ ")") = '(' :: pattern.toList ++ [')'] ++ [] := by
    simp [String.toList_append]
  have scanned := tokens_group compiled text reads fun _ => rfl
  rw [List.append_nil, same] at scanned
  exact (compile_eq scanned (Token.reversePolish_group begun stop ended)).trans built

/-- Patterns in groups compose: what is matched by two in a row, by either of two and by a repeated one depends on their
languages only. A group by itself is compiled into the automaton of its inside. -/
theorem compile_composed [CaseMap] [Categories] :
    (∀ (p q : Pattern) (first second : Nfa), Operand p first → Operand q second → p.Settled →
      (∃ nfa, Pattern.compile ("(" ++ p ++ ")(" ++ q ++ ")") = .ok nfa ∧
        ∀ s, nfa.accepts s = true ↔ ∃ u v, s = u ++ v ∧ first.accepts u = true ∧ second.accepts v = true) ∧
      (∃ nfa, Pattern.compile ("(" ++ p ++ ")|(" ++ q ++ ")") = .ok nfa ∧
        ∀ s, nfa.accepts s = true ↔ first.accepts s = true ∨ second.accepts s = true) ∧
      ∀ quantifier, ∃ nfa,
        Pattern.compile ("(" ++ p ++ ")" ++ String.singleton (Operator.quantified quantifier).symbol) = .ok nfa ∧
        ∀ s, nfa.accepts s = true ↔ ∃ parts : List String, quantifier.Allows parts.length ∧ s = String.join parts ∧
          ∀ part ∈ parts, first.accepts part = true) ∧
    ∀ (p : Pattern) (nfa : Nfa), p.compile = .ok nfa → ¬ caseMark <+: p.toList →
      Pattern.compile ("(" ++ p ++ ")") = .ok nfa := by
  refine ⟨?_, fun p nfa => compile_group⟩
  intro p q first second left right settled
  exact ⟨left.concat right settled, left.alternate right settled, left.repeated⟩

/-- The negation mark at the end of the second group does no harm, and neither does one in a group of its own. -/
theorem compile_composed_negated : (∃ first second nfa, Pattern.compile "a|b" = .ok first ∧
      Pattern.compile "^c^" = .ok second ∧ Pattern.compile "(a|b)(^c^)" = .ok nfa ∧
      ∀ s, nfa.accepts s = true ↔ ∃ u v, s = u ++ v ∧ first.accepts u = true ∧ second.accepts v = true) ∧
    Pattern.compile "(^)" = Pattern.compile "^" := by
  constructor
  · have left : Operand "a|b" _ := ⟨rfl, by decide, _, rfl, .single false (.literal 'a' false), by decide, rfl⟩
    have right : Operand "^c^" _ := ⟨rfl, by decide, _, rfl, .single true (.literal 'c' false), by decide, rfl⟩
    have settled : Settled "a|b" := ⟨_, rfl, by decide⟩
    obtain ⟨nfa, compiled, splits⟩ := (compile_composed.1 _ _ _ _ left right settled).1
    exact ⟨_, _, nfa, rfl, rfl, compiled, splits⟩
  · exact compile_composed.2 "^" _ rfl (by decide)

/-- A negation mark that is left waiting in one group negates the first token of the next. -/
example : Pattern.tokens "(a^)(b)" = .ok [.opening 0, .single false (.literal 'a' false), .closing 3,
    .operator .concat, .opening 4, .single true (.literal 'b' false), .closing 6] := rfl

end Pattern

end PatternNfa
