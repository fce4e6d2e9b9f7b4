import PatternNfa.Proofs.Rendering
import PatternNfa.Proofs.Reporting

/-! The printed form of tokens in any order can be told apart from every other, although nothing separates one token
from the next. In reverse Polish order it therefore says which automaton a pattern is compiled into. -/

namespace PatternNfa

namespace CharClass

/-- A literal point is printed with a backslash. -/
theorem lexeme_ne_point (cls : CharClass) : cls.lexeme ≠ .plain '.' := by
  cases cls with
  | literal char anyCase =>
    rw [lexeme]
    split
    next => simp
    next ordinary =>
      rintro ⟨⟩
      exact ordinary (by decide)
  | set | letter | digit | space | any => simp [lexeme]

theorem standsFor_bare (cls : CharClass) (negated : Bool) :
    Lexeme.StandsFor true negated 0 cls.lexeme (Token.single negated cls).bare := by
  cases cls with
  | literal char => exact @standsFor_lexeme (.literal char true) rfl negated 0
  | set members => exact @standsFor_lexeme (.set members true) rfl negated 0
  | letter => exact .letter
  | digit => exact .digit
  | space => exact .space
  | any => exact .any

end CharClass

namespace Token

/-- The tokens that lexemes were printed for. A negation mark concerns the lexeme after it, and a point that is not
escaped is a concatenation. -/
def ofPrinted (negated : Bool) : List Lexeme → List Token
  | [] => []
  | .plain '.' :: rest => .operator .concat :: ofPrinted false rest
  | lexeme :: rest =>
    match lexeme.token? true negated 0 with
    | none => ofPrinted true rest
    | some token => token :: ofPrinted false rest

theorem ofPrinted_standsFor {negated : Bool} {lexeme : Lexeme} {token : Token} (other : lexeme ≠ .plain '.')
    (stands : Lexeme.StandsFor true negated 0 lexeme token) (rest : List Lexeme) :
    ofPrinted negated (lexeme :: rest) = token :: ofPrinted false rest := by
  rw [ofPrinted, stands.token?_eq]
  exact other

/-- What is printed as one token is told apart from what follows. -/
theorem ofPrinted_lexemes (token : Token) (rest : List Lexeme) :
    ofPrinted false (token.lexemes ++ rest) = token.bare :: ofPrinted false rest := by
  cases token with
  | single negated cls =>
    have read (negated : Bool) := ofPrinted_standsFor cls.lexeme_ne_point (cls.standsFor_bare negated) rest
    cases negated with
    | false => exact read false
    | true => exact read true
  | operator op => rcases op with _ | _ | (_ | _ | _) <;> rfl
  | opening | closing => rfl

theorem ofPrinted_flatMap_lexemes (tokens : List Token) :
    ofPrinted false (tokens.flatMap lexemes) = tokens.map bare := by
  induction tokens with
  | nil => rfl
  | cons token rest ih => rw [List.flatMap_cons, ofPrinted_lexemes, ih, List.map_cons]

theorem render_decomposition {tokens : List Token} (printable : ∀ token ∈ tokens, token.Printable) :
    Lexeme.Decomposition (render tokens).toList (tokens.flatMap lexemes) where
  wellFormed := by
    intro lexeme member
    obtain ⟨token, present, member⟩ := List.mem_flatMap.mp member
    exact wellFormed_lexemes (printable token present) lexeme member
  text_eq := (toList_render tokens).symm

theorem render_eq_iff {tokens others : List Token} (printable : ∀ token ∈ tokens, token.Printable)
    (printable' : ∀ token ∈ others, token.Printable) :
    render tokens = render others ↔ tokens.map bare = others.map bare := by
  constructor
  · intro same
    have left := render_decomposition printable
    rw [same] at left
    have lexemes := left.unique (render_decomposition printable')
    rw [← ofPrinted_flatMap_lexemes, lexemes, ofPrinted_flatMap_lexemes]
  · intro same
    rw [← render_map_bare tokens, same, render_map_bare]

/-- The token with its literal or set under one case setting. -/
def underCase (anyCase : Bool) : Token → Token
  | .single negated (.literal char _) => .single negated (.literal char anyCase)
  | .single negated (.set members _) => .single negated (.set members anyCase)
  | token => token

end Token

namespace Pattern

/-- Whether the pattern begins with the case mark. -/
def anyCase (pattern : Pattern) : Bool := (Source.ofText pattern.toList).anyCase

section

variable {pattern : Pattern} {reading : Reading} (done : pattern.read = .ok reading) {token : Token}
  (member : token ∈ reading.ordered)
include done member

/-- A token in reverse Polish order is a concatenation or stands for a lexeme of the pattern, and is no group mark. -/
theorem standsFor_of_ordered : token.isGroupMark = false ∧ (token = .operator .concat ∨
    ∃ (lexeme : Lexeme) (negated : Bool) (offset : Nat), lexeme.WellFormed ∧
      Lexeme.StandsFor pattern.anyCase negated offset lexeme token) := by
  obtain ⟨scanned, ended⟩ := read_stages done
  obtain ⟨present, unmarked⟩ := List.mem_filter.mp ((Token.perm_of_reversePolish ended).mem_iff.mp member)
  refine ⟨by simpa using unmarked, ?_⟩
  rw [tokens_eq rfl] at scanned
  obtain ⟨lexemes, read, joined⟩ := exists_of_map scanned
  by_cases concat : token = .operator .concat
  · exact Or.inl concat
  · have written : token ∈ Token.unjoined reading.tokens := List.mem_filter.mpr ⟨present, decide_eq_true concat⟩
    rw [← joined, Token.unjoined_join, Token.unjoined_eq (Token.concat_not_mem_ofLexemes _ _ _ _)] at written
    obtain ⟨lexeme, inside, negated, offset, stands⟩ := Token.standsFor_of_mem written
    exact Or.inr ⟨lexeme, negated, offset, (Lexeme.read_eq_ok_iff.mp read).wellFormed lexeme inside, stands⟩

theorem printable_of_ordered : token.Printable := by
  obtain ⟨_, rfl | ⟨lexeme, negated, offset, wellFormed, stands⟩⟩ := standsFor_of_ordered done member
  · trivial
  · cases stands with
    | bracket => exact wellFormed
    | digit | letter | space | escaped | any | operator | opening | closing | literal => trivial

theorem underCase_of_ordered : token.bare.underCase pattern.anyCase = token := by
  obtain ⟨unmarked, rfl | ⟨lexeme, negated, offset, _, stands⟩⟩ := standsFor_of_ordered done member
  · rfl
  · cases stands with
    | opening | closing => cases unmarked
    | digit | letter | space | escaped | any | operator | bracket | literal => rfl

end

section

variable {pattern other : Pattern} {reading reading' : Reading}

/-- What printing loses of a pattern in reverse Polish order is its case setting. -/
theorem restored (done : pattern.read = .ok reading) :
    (reading.ordered.map Token.bare).map (Token.underCase pattern.anyCase) = reading.ordered := by
  rw [List.map_map]
  exact (List.map_congr_left fun _ member => underCase_of_ordered done member).trans (List.map_id _)

theorem ordered_eq_of_render (settings : pattern.anyCase = other.anyCase) (done : pattern.read = .ok reading)
    (done' : other.read = .ok reading') (printed : Token.render reading.ordered = Token.render reading'.ordered) :
    reading.ordered = reading'.ordered := by
  have bare := (Token.render_eq_iff (fun _ => printable_of_ordered done) fun _ => printable_of_ordered done').mp printed
  rw [← restored done, bare, settings, restored done']

theorem compile_of_read (done : pattern.read = .ok reading) : pattern.compile = Nfa.ofTokens reading.ordered := by
  rw [compile, done]
  rfl

theorem alike_of_render (settings : pattern.anyCase = other.anyCase) (done : pattern.read = .ok reading)
    (done' : other.read = .ok reading') (printed : Token.render reading.ordered = Token.render reading'.ordered) :
    Reading.ordered <$> pattern.read = Reading.ordered <$> other.read ∧ pattern.compile = other.compile := by
  have same := ordered_eq_of_render settings done done' printed
  constructor
  · rw [done, done']
    exact congrArg Except.ok same
  · rw [compile_of_read done, compile_of_read done', same]

theorem ordered_not_mem_eventsOfTokens {written rendering : String} (ordered : List Token) :
    .ordered written rendering ∉ Nfa.eventsOfTokens ordered := by
  unfold Nfa.eventsOfTokens
  split
  next => exact List.not_mem_nil
  next error =>
    unfold PatternError.events
    split
    next => simp
    next => exact List.not_mem_nil

/-- It is reported how a pattern is printed just if it can be read. -/
theorem ordered_mem_compileEvents_iff {written rendering : String} :
    .ordered written rendering ∈ pattern.compileEvents ↔
    written = pattern ∧ ∃ reading, pattern.read = .ok reading ∧ rendering = Token.render reading.ordered := by
  unfold compileEvents
  cases pattern.read with
  | error =>
    constructor
    · exact nofun
    · exact nofun
  | ok reading =>
    constructor
    · intro reported
      rcases List.mem_append.mp reported with early | late
      · rcases List.mem_cons.mp early with same | failure
        · cases same
          exact ⟨rfl, reading, rfl, rfl⟩
        · exact absurd failure (ordered_not_mem_eventsOfTokens _)
      · split at late
        next => simp at late
        next => cases late
    · intro ⟨same, other, done, printed⟩
      cases done
      rw [same, printed]
      exact List.mem_append_left _ List.mem_cons_self

end

end Pattern

namespace Command

open Pattern

variable [CaseMap] [Categories]

/-- A pattern is printed just if it can be read. -/
theorem report_order_iff {wanted : Option Level} {ignoreCase : Bool} {pattern : Pattern} {printed : String} :
    let report := Invocation.report wanted ⟨ignoreCase, .order pattern⟩
    report.exitCode = 0 ∧ report.output = printed ↔
      ∃ reading, (markCase ignoreCase pattern).read = .ok reading ∧ printed = Token.render reading.ordered ++ "\n" := by
  intro report
  cases read : (markCase ignoreCase pattern).read with
  | error error => simp [report, Invocation.report, Action.perform, read]
  | ok reading =>
    have printing : report.exitCode = 0 ∧ report.output = Token.render reading.ordered ++ "\n" := by
      simp [report, Invocation.report, Action.perform, read, joinLines, String.join]
    constructor
    · rintro ⟨_, same⟩
      exact ⟨reading, rfl, same.symm.trans printing.2⟩
    · rintro ⟨_, done, same⟩
      cases done
      exact ⟨printing.1, printing.2.trans same.symm⟩

/-- Tokens in any order are printed alike just if they are alike but for case settings and the offsets of group marks.
If two patterns with the same case setting are printed alike in reverse Polish order, by a command or in the report of
their compilation, their tokens are the same in that order and so are their automata. A pattern is printed and reported
in this way just if it can be read. -/
theorem printed_alike :
    (∀ tokens others : List Token, (∀ token ∈ tokens, token.Printable) → (∀ token ∈ others, token.Printable) →
      (Token.render tokens = Token.render others ↔ tokens.map Token.bare = others.map Token.bare)) ∧
    (∀ (wanted wanted' : Option Level) (ignoreCase ignoreCase' : Bool) (pattern other : Pattern),
      let first := markCase ignoreCase pattern
      let second := markCase ignoreCase' other
      let report := Invocation.report wanted ⟨ignoreCase, .order pattern⟩
      let report' := Invocation.report wanted' ⟨ignoreCase', .order other⟩
      first.anyCase = second.anyCase → report.exitCode = 0 → report'.exitCode = 0 → report.output = report'.output →
      Reading.ordered <$> first.read = Reading.ordered <$> second.read ∧ first.compile = second.compile) ∧
    (∀ (first second : Pattern) (written written' rendering : String), first.anyCase = second.anyCase →
      .ordered written rendering ∈ first.compileEvents → .ordered written' rendering ∈ second.compileEvents →
      Reading.ordered <$> first.read = Reading.ordered <$> second.read ∧ first.compile = second.compile) ∧
    (∀ (wanted : Option Level) (ignoreCase : Bool) (pattern : Pattern) (printed : String),
      let report := Invocation.report wanted ⟨ignoreCase, .order pattern⟩
      report.exitCode = 0 ∧ report.output = printed ↔
        ∃ reading, (markCase ignoreCase pattern).read = .ok reading ∧ printed = Token.render reading.ordered ++ "\n") ∧
    ∀ pattern : Pattern, Reports (Reporting.compile pattern) pattern.compile pattern.compileEvents ∧
      ∀ written rendering, .ordered written rendering ∈ pattern.compileEvents ↔
        written = pattern ∧ ∃ reading, pattern.read = .ok reading ∧ rendering = Token.render reading.ordered := by
  refine ⟨fun _ _ => Token.render_eq_iff, ?_, ?_, fun _ _ _ _ => report_order_iff, ?_⟩
  · intro wanted wanted' ignoreCase ignoreCase' pattern other first second report report' settings done done' same
    obtain ⟨reading, read, output⟩ := report_order_iff.mp ⟨done, rfl⟩
    obtain ⟨reading', read', output'⟩ := report_order_iff.mp ⟨done', rfl⟩
    have lines : Token.render reading.ordered ++ "\n" = Token.render reading'.ordered ++ "\n" :=
      output.symm.trans (same.trans output')
    exact alike_of_render settings read read' (String.append_left_inj "\n" |>.mp lines)
  · intro first second written written' rendering settings reported reported'
    obtain ⟨_, reading, read, printed⟩ := ordered_mem_compileEvents_iff.mp reported
    obtain ⟨_, reading', read', printed'⟩ := ordered_mem_compileEvents_iff.mp reported'
    exact alike_of_render settings read read' (printed.symm.trans printed')
  · intro pattern
    exact ⟨Reporting.compile_reports pattern, fun _ _ => ordered_mem_compileEvents_iff⟩

omit [CaseMap] [Categories] in
/-- A literal point beside a concatenation, and a case mark beside the flag that puts one. -/
theorem printed_alike_point :
    [Token.single true (.literal '.' false), .opening 3, .operator .concat].map Token.bare =
      [Token.single true (.literal '.' true), .opening 0, .operator .concat].map Token.bare ∧
    Pattern.compile (markCase true "ab") = Pattern.compile (markCase false "(?i)(a)b") ∧
    Pattern.compile "ab" = Pattern.compile "a(b)" := by
  refine ⟨?_, ?_, ?_⟩
  · apply (printed_alike.1 _ _ ?_ ?_).mp rfl
    all_goals simp [Token.Printable, CharClass.Printable]
  · exact (printed_alike.2.1 none none true false "ab" "(?i)(a)b" rfl rfl rfl rfl).2
  · exact (printed_alike.2.2.1 "ab" "a(b)" "ab" "a(b)" "ab." rfl (by decide) (by decide)).2

end Command

end PatternNfa
