import PatternNfa.Nfa.Stepwise
import PatternNfa.Proofs.Building

/-! Whether the construction goes through depends on nothing but the number of fragments that wait. A token that lacks
operands is refused before it takes any, so that none is ever missing where one is taken. -/

namespace PatternNfa

namespace Token

/-- The number of operands after a token, unless those that it needs are not there before it. -/
def deepen (depth : Nat) : Token → Option Nat
  | .single .. => some (depth + 1)
  | .operator (.quantified _) => if 1 ≤ depth then some depth else none
  | .operator _ => if 2 ≤ depth then some (depth - 1) else none
  | .opening _ | .closing _ => none

/-- The error that counting operands shows: that of the first token whose operands are not there, with their number
before it, or else that of a number in the end that is not one. -/
inductive Miscounted (tokens : List Token) : PatternError → Prop where
  | refused {before token after depth} (split : tokens = before ++ token :: after)
      (counts : before.foldlM deepen 0 = some depth) (refuses : token.deepen depth = none) :
      Miscounted tokens (.malformed (Construction.refusal token) depth)
  | leftover {depth} (nonempty : tokens ≠ []) (counts : tokens.foldlM deepen 0 = some depth) (several : depth ≠ 1) :
      Miscounted tokens (.malformed .leftoverFragments depth)

/-- If counting breaks off, there is a first token that it breaks off at. -/
theorem first_refused {tokens : List Token} {depth : Nat} (fails : tokens.foldlM deepen depth = none) :
    ∃ before token after last, tokens = before ++ token :: after ∧ before.foldlM deepen depth = some last ∧
      token.deepen last = none := by
  induction tokens generalizing depth with
  | nil => cases fails
  | cons token rest ih =>
    rw [List.foldlM_cons] at fails
    cases stepped : token.deepen depth with
    | none => exact ⟨[], token, rest, depth, rfl, rfl, stepped⟩
    | some next =>
      rw [stepped] at fails
      obtain ⟨before, culprit, after, last, rfl, counts, refuses⟩ := ih fails
      refine ⟨token :: before, culprit, after, last, rfl, ?_, refuses⟩
      rw [List.foldlM_cons, stepped]
      exact counts

theorem counted_or_miscounted (tokens : List Token) :
    (tokens = [] ∨ tokens.foldlM deepen 0 = some 1) ∨ ∃ error, Miscounted tokens error := by
  cases counts : tokens.foldlM deepen 0 with
  | none =>
    obtain ⟨before, token, after, last, split, counts, refuses⟩ := first_refused counts
    exact Or.inr ⟨_, .refused split counts refuses⟩
  | some depth =>
    by_cases empty : tokens = []
    · exact Or.inl (Or.inl empty)
    · by_cases one : depth = 1
      · exact Or.inl (Or.inr (congrArg some one))
      · exact Or.inr ⟨_, .leftover empty counts one⟩

end Token

namespace Stepwise

variable (name : Nat → StateId)

/-- The outcome of a step as far as the number of fragments goes. -/
theorem step_counts (construction : Construction) (token : Token) :
    (fun made => made.2.fragments.length) <$> (step name token).run construction =
      match token.deepen construction.fragments.length with
      | some depth => .ok depth
      | none => .error (.reported (.malformed (Construction.refusal token) construction.fragments.length)) := by
  obtain ⟨states, fragments⟩ := construction
  cases token with
  | single | opening | closing => rfl
  | operator op =>
    cases op with
    | concat | alternate =>
      rcases fragments with _ | ⟨second, _ | ⟨first, rest⟩⟩
      all_goals rfl
    | quantified quantifier =>
      cases fragments with
      | nil => rfl
      | cons => cases quantifier <;> rfl

section

variable {construction : Construction} {token : Token}

theorem step_deepens {depth : Nat} (deepens : token.deepen construction.fragments.length = some depth) :
    ∃ next, (step name token).run construction = .ok ((), next) ∧ next.fragments.length = depth := by
  have counts := step_counts name construction token
  rw [deepens] at counts
  obtain ⟨⟨_, next⟩, stepped, same⟩ := exists_of_map counts
  exact ⟨next, stepped, same⟩

theorem step_refused (refuses : token.deepen construction.fragments.length = none) :
    (step name token).run construction =
      .error (.reported (.malformed (Construction.refusal token) construction.fragments.length)) := by
  have counts := step_counts name construction token
  rw [refuses] at counts
  cases stepped : (step name token).run construction with
  | error breach => simpa [stepped] using counts
  | ok => simp [stepped] at counts

end

/-- A run keeps as many fragments as counting says. -/
theorem steps_deepen {tokens : List Token} {construction : Construction} {depth : Nat}
    (counts : tokens.foldlM Token.deepen construction.fragments.length = some depth) :
    ∃ reached, (forM tokens (step name)).run construction = .ok ((), reached) ∧ reached.fragments.length = depth := by
  induction tokens generalizing construction with
  | nil =>
    cases counts
    exact ⟨construction, rfl, rfl⟩
  | cons token rest ih =>
    rw [List.foldlM_cons] at counts
    obtain ⟨here, deepens, counts⟩ := Option.bind_eq_some_iff.mp counts
    obtain ⟨next, stepped, rfl⟩ := step_deepens name deepens
    obtain ⟨reached, steps, same⟩ := ih counts
    refine ⟨reached, ?_, same⟩
    rw [List.forM_cons, StateT.run_bind, stepped]
    exact steps

theorem steps_begun {tokens : List Token} {depth : Nat} (counts : tokens.foldlM Token.deepen 0 = some depth) :
    ∃ reached, (forM tokens (step name)).run ⟨#[], []⟩ = .ok ((), reached) ∧ reached.fragments.length = depth :=
  steps_deepen name counts

theorem steps_refused {before after : List Token} {token : Token} {depth : Nat}
    (counts : before.foldlM Token.deepen 0 = some depth) (refuses : token.deepen depth = none) :
    (forM (before ++ token :: after) (step name)).run ⟨#[], []⟩ =
      .error (.reported (.malformed (Construction.refusal token) depth)) := by
  obtain ⟨reached, steps, rfl⟩ := steps_begun name counts
  rw [List.forM_append, StateT.run_bind, steps]
  change (forM (token :: after) (step name)).run reached = _
  rw [List.forM_cons, StateT.run_bind, step_refused name refuses]
  rfl

theorem finish_one {construction : Construction} (one : construction.fragments.length = 1) :
    ∃ nfa, Prod.fst <$> finish.run construction = .ok nfa := by
  obtain ⟨states, fragments⟩ := construction
  obtain ⟨fragment, rfl⟩ := List.length_eq_one_iff.mp one
  exact ⟨_, rfl⟩

theorem finish_several {construction : Construction} (several : construction.fragments.length ≠ 1) :
    Prod.fst <$> finish.run construction =
      .error (.reported (.malformed .leftoverFragments construction.fragments.length)) := by
  obtain ⟨states, fragments⟩ := construction
  rcases fragments with _ | ⟨fragment, _ | ⟨other, rest⟩⟩
  · rfl
  · exact absurd rfl several
  · rfl

variable {tokens : List Token}

theorem ofTokens_counted (counted : tokens = [] ∨ tokens.foldlM Token.deepen 0 = some 1) :
    ∃ nfa, ofTokens name tokens = .ok nfa := by
  by_cases nonempty : tokens = []
  · subst tokens
    exact ⟨_, rfl⟩
  · obtain ⟨reached, steps, one⟩ := steps_begun name (counted.resolve_left nonempty)
    rw [ofTokens_run nonempty, steps]
    exact finish_one one

theorem ofTokens_miscounted {error : PatternError} (miscounted : Token.Miscounted tokens error) :
    ofTokens name tokens = .error (.reported error) := by
  cases miscounted with
  | @refused before token after depth split counts refuses =>
    have nonempty : tokens ≠ [] := by simp [split]
    rw [ofTokens_run nonempty, split, steps_refused name counts refuses]
    rfl
  | leftover nonempty counts several =>
    obtain ⟨reached, steps, rfl⟩ := steps_begun name counts
    rw [ofTokens_run nonempty, steps]
    exact finish_several several

theorem ofTokens_eq_ok_iff :
    (∃ nfa, ofTokens name tokens = .ok nfa) ↔ tokens = [] ∨ tokens.foldlM Token.deepen 0 = some 1 := by
  constructor
  · intro ⟨nfa, built⟩
    apply (Token.counted_or_miscounted tokens).resolve_right
    intro ⟨error, miscounted⟩
    cases built.symm.trans (ofTokens_miscounted name miscounted)
  · exact ofTokens_counted name

theorem ofTokens_eq_error_iff {breach : Breach} :
    ofTokens name tokens = .error breach ↔ ∃ error, breach = .reported error ∧ Token.Miscounted tokens error := by
  constructor
  · intro failed
    rcases Token.counted_or_miscounted tokens with counted | ⟨error, miscounted⟩
    · obtain ⟨nfa, built⟩ := ofTokens_counted name counted
      cases built.symm.trans failed
    · cases failed.symm.trans (ofTokens_miscounted name miscounted)
      exact ⟨error, rfl, miscounted⟩
  · rintro ⟨error, rfl, miscounted⟩
    exact ofTokens_miscounted name miscounted

end Stepwise

namespace Nfa

/-- Tokens are built into an automaton just if counting operands finds nothing wrong with them, and otherwise the error
is the one that counting shows. Taking fragments never fails by itself, whatever names the states go by. -/
theorem ofTokens_by_counting (tokens : List Token) :
    ((∃ nfa, Nfa.ofTokens tokens = .ok nfa) ↔ tokens = [] ∨ tokens.foldlM Token.deepen 0 = some 1) ∧
    (∀ error, Nfa.ofTokens tokens = .error error ↔ Token.Miscounted tokens error) ∧
    ∀ (name : Nat → StateId) (breach : Stepwise.Breach), Stepwise.ofTokens name tokens = .error breach ↔
      ∃ error, breach = .reported error ∧ Nfa.ofTokens tokens = .error error := by
  have same : Stepwise.ofTokens id tokens = (Nfa.ofTokens tokens).mapError .reported :=
    Stepwise.ofTokens_eq fun _ _ _ _ _ _ => rfl
  have errors (error : PatternError) : Nfa.ofTokens tokens = .error error ↔ Token.Miscounted tokens error := by
    have reported : Nfa.ofTokens tokens = .error error ↔ Stepwise.ofTokens id tokens = .error (.reported error) := by
      rw [same]
      cases Nfa.ofTokens tokens <;> simp [Except.mapError]
    rw [reported, Stepwise.ofTokens_eq_error_iff]
    simp
  refine ⟨?_, errors, ?_⟩
  · rw [← Stepwise.ofTokens_eq_ok_iff id, same]
    cases Nfa.ofTokens tokens <;> simp [Except.mapError]
  · intro name breach
    simp only [Stepwise.ofTokens_eq_error_iff, errors]

/-- A group mark is refused with two fragments waiting, although there is an operator to come that would take them. -/
example : Nfa.ofTokens [.single false .any, .single false .any, .closing 7, .operator .concat] =
    .error (.malformed (.groupMark ')') 2) := rfl

end Nfa

end PatternNfa
