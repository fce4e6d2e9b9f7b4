import PatternNfa.Proofs.Groups
import PatternNfa.Proofs.Scanning

/-! Reading a pattern. A text has at most one decomposition into lexemes, reading finds it, and the tokens of a pattern
stand one by one for the lexemes that are found. -/

namespace PatternNfa

namespace Lexeme

/-- A bracket ends where the first closing bracket stands, and three characters are no lexemes by themselves. -/
def WellFormed : Lexeme → Prop
  | .caret | .escaped _ => True
  | .bracket members => ']' ∉ members
  | .plain char => char ∉ ['\\', '[', '^']

/-- The text consists of these lexemes. -/
structure Decomposition (text : List Char) (lexemes : List Lexeme) : Prop where
  wellFormed : ∀ lexeme ∈ lexemes, lexeme.WellFormed
  text_eq : lexemes.flatMap Lexeme.text = text

private theorem readBracket_members (offset : Nat) (before members rest : List Char) (inside : ']' ∉ members) :
    readBracket offset before (members ++ ']' :: rest) =
      (.bracket (before.reverse ++ members) :: ·) <$>
        read (offset + (Lexeme.bracket (before.reverse ++ members)).width) rest := by
  induction members generalizing before with
  | nil => rw [List.nil_append, readBracket, List.append_nil]
  | cons char members ih =>
    obtain ⟨other, inside⟩ := not_or.mp (mt List.mem_cons.mpr inside)
    rw [List.cons_append, readBracket, ih (char :: before) inside, List.reverse_cons, List.append_assoc]
    · rfl
    · exact fun same => other same.symm

theorem read_cons {lexeme : Lexeme} (wellFormed : lexeme.WellFormed) (offset : Nat) (rest : List Char) :
    read offset (lexeme.text ++ rest) = (lexeme :: ·) <$> read (offset + lexeme.width) rest := by
  cases lexeme with
  | caret | escaped => simp only [text, List.cons_append, List.nil_append, read]
  | bracket members =>
    rw [text, List.cons_append, List.cons_append, List.append_assoc, List.singleton_append, read]
    exact readBracket_members offset [] members rest wellFormed
  | plain char =>
    simp only [WellFormed, List.mem_cons, List.not_mem_nil, or_false, not_or] at wellFormed
    exact read_plain wellFormed.1 wellFormed.2.1 wellFormed.2.2 offset rest

theorem read_flatMap_text {lexemes : List Lexeme} (wellFormed : ∀ lexeme ∈ lexemes, lexeme.WellFormed)
    (offset : Nat) : read offset (lexemes.flatMap Lexeme.text) = .ok lexemes := by
  induction lexemes generalizing offset with
  | nil => rw [List.flatMap_nil, read]
  | cons lexeme rest ih =>
    have here := wellFormed lexeme List.mem_cons_self
    rw [List.flatMap_cons, read_cons here, ih fun other member => wellFormed other (List.mem_cons_of_mem _ member)]
    rfl

mutual

theorem wellFormed_of_read (offset : Nat) (text : List Char) {lexemes : List Lexeme}
    (done : read offset text = .ok lexemes) : ∀ lexeme ∈ lexemes, lexeme.WellFormed := by
  unfold read at done
  split at done
  next =>
    cases done
    simp
  next => cases done
  next char rest =>
    obtain ⟨later, found, rfl⟩ := exists_of_map done
    exact List.forall_mem_cons.mpr ⟨trivial, wellFormed_of_read _ rest found⟩
  next rest => exact wellFormed_of_readBracket offset [] rest (List.not_mem_nil) done
  next rest =>
    obtain ⟨later, found, rfl⟩ := exists_of_map done
    exact List.forall_mem_cons.mpr ⟨trivial, wellFormed_of_read _ rest found⟩
  next char rest alone escape bracket caret =>
    obtain ⟨later, found, rfl⟩ := exists_of_map done
    refine List.forall_mem_cons.mpr ⟨?_, wellFormed_of_read _ rest found⟩
    have unescaped : char ≠ '\\' := by
      intro same
      cases rest with
      | nil => exact alone same rfl
      | cons next rest => exact escape next rest same rfl
    simpa [WellFormed] using ⟨unescaped, bracket, caret⟩

theorem wellFormed_of_readBracket (offset : Nat) (members text : List Char) {lexemes : List Lexeme}
    (inside : ']' ∉ members) (done : readBracket offset members text = .ok lexemes) :
    ∀ lexeme ∈ lexemes, lexeme.WellFormed := by
  unfold readBracket at done
  split at done
  next => cases done
  next rest =>
    obtain ⟨later, found, rfl⟩ := exists_of_map done
    exact List.forall_mem_cons.mpr ⟨mt List.mem_reverse.mp inside, wellFormed_of_read _ rest found⟩
  next char rest other =>
    refine wellFormed_of_readBracket offset (char :: members) rest ?_ done
    exact not_or.mpr ⟨fun same => other same.symm, inside⟩ ∘ List.mem_cons.mp

end

/-- Reading gives the one decomposition that the text has. -/
theorem read_eq_ok_iff {offset : Nat} {text : List Char} {lexemes : List Lexeme} :
    read offset text = .ok lexemes ↔ Decomposition text lexemes := by
  constructor
  · intro done
    exact ⟨wellFormed_of_read offset text done, flatMap_text_of_read offset text done⟩
  · rintro ⟨wellFormed, rfl⟩
    exact read_flatMap_text wellFormed offset

theorem Decomposition.unique {text : List Char} {first second : List Lexeme} (left : Decomposition text first)
    (right : Decomposition text second) : first = second := by
  have read : read 0 text = .ok first := read_eq_ok_iff.mpr left
  exact Except.ok.inj (read.symm.trans (read_eq_ok_iff.mpr right))

/-- The token that a lexeme at byte `offset` stands for. -/
inductive StandsFor (anyCase negated : Bool) (offset : Nat) : Lexeme → Token → Prop where
  | digit : StandsFor anyCase negated offset (.escaped 'd') (.single negated .digit)
  | letter : StandsFor anyCase negated offset (.escaped 'w') (.single negated .letter)
  | space : StandsFor anyCase negated offset (.escaped 's') (.single negated .space)
  | escaped {char} (other : char ∉ ['d', 'w', 's']) :
      StandsFor anyCase negated offset (.escaped char) (.single negated (.literal char anyCase))
  | bracket (members) : StandsFor anyCase negated offset (.bracket members) (.single negated (.set members anyCase))
  | any : StandsFor anyCase negated offset (.plain '_') (.single negated .any)
  | operator {char op}
      (listed : (char, op) ∈ [('|', Operator.alternate), ('*', .star), ('+', .plus), ('?', .optional)]) :
      StandsFor anyCase negated offset (.plain char) (.operator op)
  | opening : StandsFor anyCase negated offset (.plain '(') (.opening offset)
  | closing : StandsFor anyCase negated offset (.plain ')') (.closing offset)
  | literal {char} (other : char ∉ ['_', '|', '*', '+', '?', '(', ')']) :
      StandsFor anyCase negated offset (.plain char) (.single negated (.literal char anyCase))

end Lexeme

theorem Operator.listed_of_ofChar? {char : Char} {op : Operator} (found : ofChar? char = some op) :
    (char, op) ∈ [('|', alternate), ('*', star), ('+', plus), ('?', optional)] := by
  unfold ofChar? at found
  split at found
  all_goals cases found
  all_goals decide

theorem Operator.unlisted_of_ofChar? {char : Char} (missing : ofChar? char = none) :
    char ∉ ['|', '*', '+', '?'] := by
  intro listed
  simp only [List.mem_cons, List.not_mem_nil, or_false] at listed
  rcases listed with rfl | rfl | rfl | rfl
  all_goals cases missing

namespace Lexeme

theorem standsFor_of_token? {anyCase negated : Bool} {offset : Nat} {lexeme : Lexeme} {token : Token}
    (stands : lexeme.token? anyCase negated offset = some token) : StandsFor anyCase negated offset lexeme token := by
  cases lexeme with
  | caret => cases stands
  | bracket members =>
    cases stands
    exact .bracket members
  | escaped char =>
    cases stands
    unfold CharClass.ofEscaped
    split
    next => exact .digit
    next => exact .letter
    next => exact .space
    next digit letter space => exact .escaped (by simpa using ⟨digit, letter, space⟩)
  | plain char =>
    cases stands
    unfold Token.ofPlain
    split
    next => exact .opening
    next => exact .closing
    next => exact .any
    next opening closing any =>
      split
      next op found => exact .operator (Operator.listed_of_ofChar? found)
      next missing =>
        refine .literal ?_
        have unlisted := Operator.unlisted_of_ofChar? missing
        simp only [List.mem_cons, List.not_mem_nil, or_false, not_or] at unlisted ⊢
        exact ⟨any, unlisted.1, unlisted.2.1, unlisted.2.2.1, unlisted.2.2.2, opening, closing⟩

theorem StandsFor.token?_eq {anyCase negated : Bool} {offset : Nat} {lexeme : Lexeme} {token : Token}
    (stands : StandsFor anyCase negated offset lexeme token) : lexeme.token? anyCase negated offset = some token := by
  cases stands with
  | digit | letter | space | bracket | any | opening | closing => rfl
  | operator listed =>
    simp only [List.mem_cons, Prod.mk.injEq, List.not_mem_nil, or_false] at listed
    rcases listed with ⟨rfl, rfl⟩ | ⟨rfl, rfl⟩ | ⟨rfl, rfl⟩ | ⟨rfl, rfl⟩
    all_goals rfl
  | escaped other =>
    rw [token?, CharClass.ofEscaped]
    all_goals
      rintro rfl
      simp at other
  | literal other =>
    simp only [List.mem_cons, List.not_mem_nil, or_false, not_or] at other
    obtain ⟨any, alternate, star, plus, optional, opening, closing⟩ := other
    rw [token?, Token.ofPlain, Operator.ofChar?] <;> assumption

/-- A negation mark is left over from the lexemes: no token that matches a character stands between it and their end. -/
def Negating (lexemes : List Lexeme) : Prop :=
  ∃ later, .caret :: later <:+ lexemes ∧ ∀ lexeme ∈ later, lexeme.isSingle = false

theorem pending_append (negated : Bool) (first second : List Lexeme) :
    pending negated (first ++ second) = pending (pending negated first) second := by
  fun_induction pending negated first with
  | case1 => rfl
  | case2 negated rest ih => exact ih
  | case3 negated lexeme rest mark ih =>
    rw [List.cons_append, pending]
    · exact ih
    · exact mark

theorem pending_of_none {lexemes : List Lexeme} (none : ∀ lexeme ∈ lexemes, lexeme.isSingle = false) :
    pending true lexemes = true := by
  induction lexemes with
  | nil => rfl
  | cons lexeme rest ih =>
    obtain ⟨here, none⟩ := List.forall_mem_cons.mp none
    have later := ih none
    cases lexeme with
    | caret => exact later
    | escaped | bracket | plain => rwa [pending, here]; simp

theorem pending_iff {lexemes : List Lexeme} : pending false lexemes = true ↔ Negating lexemes := by
  constructor
  · intro waits
    rcases waiting_of_pending waits with ⟨never, _⟩ | left
    · cases never
    · exact left
  · rintro ⟨later, ⟨earlier, rfl⟩, none⟩
    rw [pending_append]
    exact pending_of_none none

/-- Tokens that stand for the lexemes of a text in order, each for one. A negation mark has no token of its own. The
text begins with the case mark if `anyCase` holds, and its lexemes begin at byte `base`. -/
structure Tokenized (anyCase : Bool) (base : Nat) (lexemes : List Lexeme) (tokens : List Token) : Prop where
  length_eq : tokens.length = lexemes.countP (· ≠ .caret)
  standsFor : ∀ before lexeme after, lexemes = before ++ lexeme :: after → lexeme ≠ .caret →
    ∃ negated token, tokens[before.countP (· ≠ .caret)]? = some token ∧ (negated = true ↔ Negating before) ∧
      StandsFor anyCase negated (base + Text.width (before.flatMap Lexeme.text)) lexeme token

end Lexeme

namespace Token

theorem ofLexemes_standsFor {anyCase negated : Bool} {offset : Nat} {lexeme : Lexeme} {token : Token}
    (stands : Lexeme.StandsFor anyCase negated offset lexeme token) (rest : List Lexeme) :
    ofLexemes anyCase offset negated (lexeme :: rest) =
      token :: ofLexemes anyCase (offset + lexeme.width) (negated && !token.isSingle) rest := by
  rw [ofLexemes, stands.token?_eq]

theorem length_ofLexemes (anyCase : Bool) (offset : Nat) (negated : Bool) (lexemes : List Lexeme) :
    (ofLexemes anyCase offset negated lexemes).length = lexemes.countP (· ≠ .caret) := by
  induction lexemes generalizing offset negated with
  | nil => rfl
  | cons lexeme rest ih => cases lexeme <;> simp [ofLexemes, Lexeme.token?, ih]

theorem ofLexemes_tokenized (anyCase : Bool) (base : Nat) (lexemes : List Lexeme) :
    Lexeme.Tokenized anyCase base lexemes (ofLexemes anyCase base false lexemes) := by
  refine ⟨length_ofLexemes anyCase base false lexemes, ?_⟩
  rintro before lexeme after rfl unmarked
  let negated := Lexeme.pending false before
  let offset := base + Text.width (before.flatMap Lexeme.text)
  obtain ⟨token, stands⟩ : ∃ token, lexeme.token? anyCase negated offset = some token := by
    cases lexeme with
    | caret => exact absurd rfl unmarked
    | escaped | bracket | plain => exact ⟨_, rfl⟩
  refine ⟨negated, token, ?_, Lexeme.pending_iff, Lexeme.standsFor_of_token? stands⟩
  rw [ofLexemes_append, List.getElem?_append_right (Nat.le_of_eq (length_ofLexemes ..)), length_ofLexemes, Nat.sub_self,
    ofLexemes, stands, List.getElem?_cons_zero]

theorem concat_not_mem_ofLexemes (anyCase : Bool) (offset : Nat) (negated : Bool) (lexemes : List Lexeme) :
    .operator .concat ∉ ofLexemes anyCase offset negated lexemes := by
  induction lexemes generalizing offset negated with
  | nil => exact List.not_mem_nil
  | cons lexeme rest ih =>
    rw [ofLexemes]
    split
    next => exact ih _ true
    next token stands =>
      intro member
      rcases List.mem_cons.mp member with rfl | member
      · cases Lexeme.standsFor_of_token? stands with
        | operator listed => simp [Operator.star, Operator.plus, Operator.optional] at listed
      · exact ih _ _ member

end Token

/-- The parts of a pattern: the body is what follows one case mark, or the whole pattern if it begins with none. -/
structure Source.Parts (source : Source) (pattern : List Char) : Prop where
  text_eq : pattern = (if source.anyCase then caseMark else []) ++ source.body
  unmarked : source.anyCase = false → ¬ caseMark <+: source.body

theorem Source.ofText_parts (pattern : List Char) : (ofText pattern).Parts pattern := by
  by_cases marked : caseMark <+: pattern
  · obtain ⟨body, rfl⟩ := marked
    rw [ofText_marked]
    exact ⟨rfl, nofun⟩
  · rw [ofText_unmarked marked]
    exact ⟨rfl, fun _ => marked⟩

namespace Pattern

/-- A pattern has tokens just if its body consists of lexemes. It does so in one way only, and besides concatenations
the tokens are those that the lexemes stand for. The same tokens come out if the pattern is read by characters. -/
theorem tokens_decomposed (pattern : Pattern) :
    let source := Source.ofText pattern.toList
    source.Parts pattern.toList ∧ Scanner.scan pattern = pattern.tokens ∧
    ((∃ tokens, pattern.tokens = .ok tokens) ↔ ∃ lexemes, Lexeme.Decomposition source.body lexemes) ∧
    ∀ lexemes, Lexeme.Decomposition source.body lexemes →
      (∀ others, Lexeme.Decomposition source.body others → others = lexemes) ∧
      ∃ tokens, pattern.tokens = .ok tokens ∧
        Lexeme.Tokenized source.anyCase (if source.anyCase then Text.width caseMark else 0) lexemes
          (Token.unjoined tokens) := by
  intro source
  have scanned : pattern.tokens = _ := tokens_eq rfl
  have reads (lexemes : List Lexeme) (decomposition : Lexeme.Decomposition source.body lexemes) :
      pattern.tokens = .ok (Token.join (Token.ofLexemes source.anyCase source.base false lexemes)) := by
    rw [scanned, Lexeme.read_eq_ok_iff.mpr decomposition]
    rfl
  refine ⟨Source.ofText_parts pattern.toList, Scanner.scan_eq pattern, ⟨?_, ?_⟩, ?_⟩
  · intro ⟨tokens, done⟩
    rw [scanned] at done
    obtain ⟨lexemes, read, _⟩ := exists_of_map done
    exact ⟨lexemes, Lexeme.read_eq_ok_iff.mp read⟩
  · intro ⟨lexemes, decomposition⟩
    exact ⟨_, reads lexemes decomposition⟩
  · intro lexemes decomposition
    refine ⟨fun others other => other.unique decomposition, _, reads lexemes decomposition, ?_⟩
    rw [Token.unjoined_join, Token.unjoined_eq (Token.concat_not_mem_ofLexemes _ _ _ _)]
    exact Token.ofLexemes_tokenized source.anyCase source.base lexemes

/-- The negation mark waits past a group mark and a choice. In the bracket a backslash is a member like any other, and
after a backslash a bracket is a literal. -/
theorem tokens_decomposed_waiting : ∃ tokens, Pattern.tokens "(?i)^(|é[\\])\\[" = .ok tokens ∧
    Lexeme.Tokenized true 4 [.caret, .plain '(', .plain '|', .plain 'é', .bracket ['\\'], .plain ')', .escaped '[']
      (Token.unjoined tokens) := by
  have decomposition : Lexeme.Decomposition "^(|é[\\])\\[".toList
      [.caret, .plain '(', .plain '|', .plain 'é', .bracket ['\\'], .plain ')', .escaped '['] :=
    ⟨by simp [Lexeme.WellFormed], by decide⟩
  exact ((tokens_decomposed "(?i)^(|é[\\])\\[").2.2.2 _ decomposition).2

end Pattern

end PatternNfa
