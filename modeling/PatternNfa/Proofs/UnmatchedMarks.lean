import PatternNfa.Proofs.Decomposition
import PatternNfa.Proofs.YardPlaces

/-! Group marks that do not balance. The one to blame is the first that closes nothing, or else the last whose group is
never closed. In a pattern the marks are the parentheses that are lexemes by themselves, neither in a bracket nor after
a backslash. -/

namespace PatternNfa

namespace Yard

theorem of_steps_error {tokens : List Token} {yard : Yard} {error : PatternError}
    (failed : tokens.foldlM step yard = .error error) : ∃ before token after middle,
      tokens = before ++ token :: after ∧ before.foldlM step yard = .ok middle ∧ middle.step token = .error error := by
  induction tokens generalizing yard with
  | nil => cases failed
  | cons token rest ih =>
    cases stepped : yard.step token with
    | error other =>
      rw [List.foldlM_cons, stepped] at failed
      cases failed
      exact ⟨[], token, rest, yard, rfl, rfl, stepped⟩
    | ok next =>
      rw [steps_cons stepped] at failed
      obtain ⟨before, culprit, after, middle, rfl, steps, refused⟩ := ih failed
      exact ⟨token :: before, culprit, after, middle, rfl, (steps_cons stepped before).trans steps, refused⟩

/-- A token is refused only if it closes a group while none is open. -/
theorem of_step_error {yard : Yard} {token : Token} {error : PatternError} (failed : yard.step token = .error error) :
    ∃ stop released, token = .closing stop ∧ error = .unmatchedParenthesis stop ∧
      Held.release (fun _ => true) yard.held = (released, []) := by
  cases token with
  | single | operator | opening => cases failed
  | closing stop =>
    rcases Held.release_every yard.held with ⟨released, bottom⟩ | ⟨_, _, _, found⟩
    · rw [step, bottom] at failed
      exact ⟨stop, released, rfl, (Except.error.inj failed).symm, bottom⟩
    · rw [step, found] at failed
      cases failed

theorem of_finish_error {yard : Yard} {error : PatternError} (failed : yard.finish = .error error) :
    ∃ released start below, Held.release (fun _ => true) yard.held = (released, .opening start :: below) ∧
      error = .unmatchedParenthesis start := by
  rcases Held.release_every yard.held with ⟨_, bottom⟩ | ⟨released, start, below, found⟩
  · rw [finish, bottom] at failed
    cases failed
  · rw [finish, found] at failed
    exact ⟨released, start, below, found, (Except.error.inj failed).symm⟩

/-- The groups that are open when all operators above the innermost mark have left the stack. -/
theorem unclosed_of_release {tokens : List Token} {yard : Yard} (steps : tokens.foldlM step empty = .ok yard)
    {released : List Operator} {kept : List Held} (found : Held.release (fun _ => true) yard.held = (released, kept)) :
    ∃ waiting : List (Token × Nat), waiting.map Prod.fst = kept.map Held.token ∧
      Token.Unclosed (waiting.filter (·.1.isOpening)) tokens := by
  obtain ⟨_, _, traces⟩ := traced steps
  obtain ⟨_, waiting, _, last⟩ := traces.release fun _ => true
  rw [found] at last
  exact ⟨waiting, last.waiting_eq, last.unclosed⟩

end Yard

namespace Token

theorem balanced_iff {tokens : List Token} :
    Balanced 0 tokens ↔ Closable tokens ∧ tokens.countP isClosing = tokens.countP isOpening := by
  constructor
  · intro balanced
    exact ⟨balanced.closable, balanced.ended.trans (Nat.zero_add _)⟩
  · intro ⟨closable, ended⟩
    exact ⟨fun before within => by simpa using closable before within, by rw [ended, Nat.zero_add]⟩

/-- The mark that is to blame if tokens have no reverse Polish order: the first that closes a group that is not open,
or, if there is none, the last whose group is never closed. -/
theorem of_reversePolish_error {tokens : List Token} {error : PatternError}
    (failed : reversePolish tokens = .error error) :
    (∃ before stop after, tokens = before ++ .closing stop :: after ∧ error = .unmatchedParenthesis stop ∧
      Balanced 0 before) ∨
    ∃ before start after, tokens = before ++ .opening start :: after ∧ error = .unmatchedParenthesis start ∧
      Closable tokens ∧ Balanced 0 after := by
  cases steps : tokens.foldlM Yard.step Yard.empty with
  | error other =>
    rw [reversePolish, steps] at failed
    cases failed
    obtain ⟨before, _, after, middle, rfl, taken, refused⟩ := Yard.of_steps_error steps
    obtain ⟨stop, _, rfl, same, bottom⟩ := Yard.of_step_error refused
    obtain ⟨waiting, none, unclosed⟩ := Yard.unclosed_of_release taken bottom
    obtain rfl := List.map_eq_nil_iff.mp none
    cases unclosed with
    | none balanced => exact Or.inl ⟨before, stop, after, rfl, same, balanced⟩
  | ok yard =>
    rw [reversePolish, steps] at failed
    obtain ⟨_, start, below, found, same⟩ := Yard.of_finish_error failed
    -- The innermost of the groups that are still open is the one whose mark is on top.
    obtain ⟨waiting, top, unclosed⟩ := Yard.unclosed_of_release steps found
    obtain ⟨⟨mark, place⟩, rest, rfl, rfl, _⟩ := List.map_eq_cons_iff.mp top
    rw [List.filter_cons_of_pos rfl] at unclosed
    have closable := unclosed.closable
    cases unclosed with
    | @some _ before _ after _ balanced => exact Or.inr ⟨before, start, after, rfl, same, closable, balanced⟩

section Unjoined

variable {tokens : List Token}

theorem countP_unjoined (mark : Token → Bool) (other : mark (.operator .concat) = false) (tokens : List Token) :
    (unjoined tokens).countP mark = tokens.countP mark := by
  rw [unjoined, List.countP_filter]
  apply List.countP_congr
  intro token _
  by_cases concat : token = .operator .concat
  · simp [concat, other]
  · simp [concat]

theorem closable_unjoined : Closable (unjoined tokens) ↔ Closable tokens := by
  constructor
  · intro closable before within
    have bound := closable (unjoined before) (within.filter _)
    rwa [countP_unjoined isClosing rfl, countP_unjoined isOpening rfl] at bound
  · intro closable before ⟨after, same⟩
    obtain ⟨first, second, rfl, rfl, _⟩ := List.filter_eq_append_iff.mp same.symm
    have bound := closable first (List.prefix_append first second)
    rwa [← countP_unjoined isClosing rfl, ← countP_unjoined isOpening rfl] at bound

theorem balanced_unjoined : Balanced 0 (unjoined tokens) ↔ Balanced 0 tokens := by
  rw [balanced_iff, balanced_iff, closable_unjoined, countP_unjoined isClosing rfl, countP_unjoined isOpening rfl]

end Unjoined

end Token

namespace Lexeme

/-- No group is closed that was not opened before. Parentheses in brackets and after backslashes do not count. -/
def Closable (lexemes : List Lexeme) : Prop :=
  ∀ before, before <+: lexemes → before.count (.plain ')') ≤ before.count (.plain '(')

/-- Every group that is opened is closed. -/
structure Balanced (lexemes : List Lexeme) : Prop where
  closable : Closable lexemes
  ended : lexemes.count (.plain ')') = lexemes.count (.plain '(')

variable {anyCase negated : Bool} {offset : Nat} {lexeme : Lexeme} {lexemes : List Lexeme}

theorem marks_of_token? {token : Token} (stands : lexeme.token? anyCase negated offset = some token) :
    token.isClosing = (lexeme == .plain ')') ∧ token.isOpening = (lexeme == .plain '(') := by
  cases standsFor_of_token? stands with
  | opening | closing => exact ⟨rfl, rfl⟩
  | digit | letter | space | escaped | bracket | any => simp [Token.isClosing, Token.isOpening]
  | operator listed =>
    simp only [List.mem_cons, Prod.mk.injEq, List.not_mem_nil, or_false] at listed
    rcases listed with ⟨rfl, rfl⟩ | ⟨rfl, rfl⟩ | ⟨rfl, rfl⟩ | ⟨rfl, rfl⟩ <;> exact ⟨rfl, rfl⟩
  | literal other =>
    simp only [List.mem_cons, List.not_mem_nil, or_false, not_or] at other
    simp [Token.isClosing, Token.isOpening, other]

theorem countP_ofLexemes :
    (Token.ofLexemes anyCase offset negated lexemes).countP Token.isClosing = lexemes.count (.plain ')') ∧
      (Token.ofLexemes anyCase offset negated lexemes).countP Token.isOpening = lexemes.count (.plain '(') := by
  induction lexemes generalizing offset negated with
  | nil => exact ⟨rfl, rfl⟩
  | cons lexeme rest ih =>
    cases stands : lexeme.token? anyCase negated offset with
    | none =>
      cases lexeme with
      | caret => simpa [Token.ofLexemes, token?] using ih
      | escaped | bracket | plain => cases stands
    | some token =>
      obtain ⟨closing, opening⟩ := marks_of_token? stands
      simp only [Token.ofLexemes, stands, List.countP_cons, List.count_cons, closing, opening, ih, and_self]

/-- Where the tokens of lexemes are divided at a token, the lexemes are divided at the one it stands for. -/
theorem of_ofLexemes_append {before after : List Token} {token : Token}
    (divided : Token.ofLexemes anyCase offset negated lexemes = before ++ token :: after) :
    ∃ (first : List Lexeme) (lexeme : Lexeme) (second : List Lexeme) (waits : Bool),
      lexemes = first ++ lexeme :: second ∧ Token.ofLexemes anyCase offset negated first = before ∧
      lexeme.token? anyCase waits (offset + Text.width (first.flatMap Lexeme.text)) = some token ∧
      ∃ start waits, Token.ofLexemes anyCase start waits second = after := by
  induction lexemes generalizing offset negated before with
  | nil => simp [Token.ofLexemes] at divided
  | cons lexeme rest ih =>
    rw [Token.ofLexemes] at divided
    cases stands : lexeme.token? anyCase negated offset with
    | none =>
      rw [stands] at divided
      obtain ⟨first, culprit, second, waits, rfl, same, found, later⟩ := ih divided
      rw [add_width] at found
      refine ⟨lexeme :: first, culprit, second, waits, rfl, ?_, found, later⟩
      rw [Token.ofLexemes, stands]
      exact same
    | some head =>
      rw [stands] at divided
      cases before with
      | nil =>
        obtain ⟨rfl, same⟩ := List.cons.inj divided
        exact ⟨[], lexeme, rest, negated, rfl, rfl, stands, _, _, same⟩
      | cons other before =>
        obtain ⟨rfl, tail⟩ := List.cons.inj divided
        obtain ⟨first, culprit, second, waits, rfl, same, found, later⟩ := ih tail
        rw [add_width] at found
        refine ⟨lexeme :: first, culprit, second, waits, rfl, ?_, found, later⟩
        rw [Token.ofLexemes, stands, ← same]

theorem closable_ofLexemes : Token.Closable (Token.ofLexemes anyCase offset negated lexemes) ↔ Closable lexemes := by
  constructor
  · intro closable first ⟨second, same⟩
    subst same
    rw [Token.ofLexemes_append] at closable
    have bound := closable _ (List.prefix_append _ _)
    rwa [countP_ofLexemes.1, countP_ofLexemes.2] at bound
  · intro closable before ⟨after, same⟩
    have divided : ∃ first, first <+: lexemes ∧ Token.ofLexemes anyCase offset negated first = before := by
      cases after with
      | nil => exact ⟨lexemes, List.prefix_rfl, by rw [← same, List.append_nil]⟩
      | cons token after =>
        obtain ⟨first, _, _, _, rfl, found, _⟩ := of_ofLexemes_append same.symm
        exact ⟨first, List.prefix_append _ _, found⟩
    obtain ⟨first, within, rfl⟩ := divided
    rw [countP_ofLexemes.1, countP_ofLexemes.2]
    exact closable first within

theorem balanced_ofLexemes : Token.Balanced 0 (Token.ofLexemes anyCase offset negated lexemes) ↔ Balanced lexemes := by
  rw [Token.balanced_iff, closable_ofLexemes, countP_ofLexemes.1, countP_ofLexemes.2]
  exact ⟨fun ⟨closable, ended⟩ => ⟨closable, ended⟩, fun ⟨closable, ended⟩ => ⟨closable, ended⟩⟩

theorem unjoined_join_ofLexemes : Token.unjoined (Token.join (Token.ofLexemes anyCase offset negated lexemes)) =
    Token.ofLexemes anyCase offset negated lexemes := by
  rw [Token.unjoined_join, Token.unjoined_eq (Token.concat_not_mem_ofLexemes _ _ _ _)]

theorem balanced_join :
    Token.Balanced 0 (Token.join (Token.ofLexemes anyCase offset negated lexemes)) ↔ Balanced lexemes := by
  rw [← Token.balanced_unjoined, unjoined_join_ofLexemes, balanced_ofLexemes]

theorem closable_join :
    Token.Closable (Token.join (Token.ofLexemes anyCase offset negated lexemes)) ↔ Closable lexemes := by
  rw [← Token.closable_unjoined, unjoined_join_ofLexemes, closable_ofLexemes]

theorem eq_of_closing {stop : Nat} (stands : lexeme.token? anyCase negated offset = some (.closing stop)) :
    lexeme = .plain ')' ∧ stop = offset := by
  cases standsFor_of_token? stands with
  | closing => exact ⟨rfl, rfl⟩

theorem eq_of_opening {start : Nat} (stands : lexeme.token? anyCase negated offset = some (.opening start)) :
    lexeme = .plain '(' ∧ start = offset := by
  cases standsFor_of_token? stands with
  | opening => exact ⟨rfl, rfl⟩

/-- Where joined tokens are divided at a mark, the lexemes are divided at the one that it stands for. -/
theorem of_join_append {before after : List Token} {token : Token}
    (divided : Token.join (Token.ofLexemes anyCase offset negated lexemes) = before ++ token :: after)
    (other : token ≠ .operator .concat) :
    ∃ (first : List Lexeme) (lexeme : Lexeme) (second : List Lexeme) (waits : Bool),
      lexemes = first ++ lexeme :: second ∧
      lexeme.token? anyCase waits (offset + Text.width (first.flatMap Lexeme.text)) = some token ∧
      (Token.Balanced 0 before → Balanced first) ∧ (Token.Balanced 0 after → Balanced second) := by
  have separate := congrArg Token.unjoined divided
  rw [unjoined_join_ofLexemes, Token.unjoined, List.filter_append] at separate
  obtain ⟨first, lexeme, second, waits, same, left, stands, _, _, right⟩ :=
    of_ofLexemes_append (separate.trans (congrArg _ (Token.unjoined_cons other after)))
  refine ⟨first, lexeme, second, waits, same, stands, ?_, ?_⟩
  · intro balanced
    rw [← Token.balanced_unjoined, Token.unjoined, ← left] at balanced
    exact balanced_ofLexemes.mp balanced
  · intro balanced
    rw [← Token.balanced_unjoined, ← right] at balanced
    exact balanced_ofLexemes.mp balanced

/-- The parenthesis that is to blame if the tokens of lexemes have no reverse Polish order. -/
theorem of_reversePolish_error {error : PatternError}
    (failed : Token.reversePolish (Token.join (Token.ofLexemes anyCase offset negated lexemes)) = .error error) :
    ∃ (before : List Lexeme) (mark : Char) (after : List Lexeme), lexemes = before ++ .plain mark :: after ∧
      error = .unmatchedParenthesis (offset + Text.width (before.flatMap Lexeme.text)) ∧
      (mark = ')' ∧ Balanced before ∨ mark = '(' ∧ Closable lexemes ∧ Balanced after) := by
  rcases Token.of_reversePolish_error failed with ⟨before, stop, after, divided, rfl, balanced⟩ |
    ⟨before, start, after, divided, rfl, closable, balanced⟩
  · obtain ⟨first, lexeme, second, _, same, stands, left, _⟩ := of_join_append divided nofun
    obtain ⟨rfl, rfl⟩ := eq_of_closing stands
    exact ⟨first, ')', second, same, rfl, Or.inl ⟨rfl, left balanced⟩⟩
  · obtain ⟨first, lexeme, second, _, same, stands, _, right⟩ := of_join_append divided nofun
    obtain ⟨rfl, rfl⟩ := eq_of_opening stands
    exact ⟨first, '(', second, same, rfl, Or.inr ⟨rfl, closable_join.mp closable, right balanced⟩⟩

end Lexeme

end PatternNfa
