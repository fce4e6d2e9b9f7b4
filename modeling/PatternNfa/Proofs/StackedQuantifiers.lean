import PatternNfa.Proofs.AlikeTokens
import PatternNfa.Proofs.BuiltAutomata

/-! Quantifiers that are applied to one operand may change places or be repeated, wherever the operand stands. The
automaton is another one, but it matches the same texts, or the tokens are rejected for the same reason. -/

namespace PatternNfa

theorem Quantifier.none_iff {first second : List Quantifier}
    (same : ∀ quantifier, quantifier ∈ first ↔ quantifier ∈ second) : first = [] ↔ second = [] := by
  rw [List.eq_nil_iff_forall_not_mem, List.eq_nil_iff_forall_not_mem]
  exact forall_congr' fun quantifier => not_congr (same quantifier)

section

variable [CaseMap] [Categories]

/-- Two expressions of one language. -/
def Expr.Agrees (expr other : Expr) : Prop := ∀ text, expr.Denotes text ↔ other.Denotes text

/-- Expressions that agree one by one are read on alike. -/
theorem Expr.readStep_agrees {stack others : List Expr} (agree : List.Forall₂ Agrees stack others) (token : Token) :
    Option.Rel (List.Forall₂ Agrees) (readStep stack token) (readStep others token) := by
  cases token with
  | single => exact .some (.cons (fun _ => Iff.rfl) agree)
  | opening | closing => exact .none
  | operator op =>
    cases agree with
    | nil => cases op <;> exact .none
    | cons last below =>
      cases op with
      | quantified quantifier =>
        refine .some (.cons (fun text => ?_) below)
        exact stack_congr [quantifier] last text
      | concat =>
        cases below with
        | nil => exact .none
        | cons before below => exact .some (.cons (concat_congr before last) below)
      | alternate =>
        cases below with
        | nil => exact .none
        | cons before below => exact .some (.cons (alternate_congr before last) below)

namespace Construction

/-- Constructions whose fragments spell the same languages, one by one. -/
def Agrees (construction other : Construction) : Prop :=
  ∃ exprs exprs', construction.Builds exprs ∧ other.Builds exprs' ∧ List.Forall₂ Expr.Agrees exprs exprs'

variable {construction other : Construction}

theorem step_agrees (agrees : construction.Agrees other) (token : Token) :
    InStep 0 Agrees (construction.step token) (other.step token) := by
  obtain ⟨exprs, exprs', builds, builds', agree⟩ := agrees
  have first := step_follows builds token
  have second := step_follows builds' token
  have read := Expr.readStep_agrees agree token
  rw [← agree.length_eq] at second
  generalize construction.step token = stepped at first ⊢
  generalize other.step token = stepped' at second ⊢
  generalize Expr.readStep exprs token = stack at first read
  generalize Expr.readStep exprs' token = stack' at second read
  cases read with
  | none =>
    cases first with
    | refused why =>
      cases second with
      | refused why' =>
        subst why why'
        exact .failed (.malformed _ _)
  | some agree =>
    cases first with
    | built after =>
      cases second with
      | built after' => exact .done ⟨_, _, after, after', agree⟩

theorem steps_agree (agrees : construction.Agrees other) (tokens : List Token) :
    InStep 0 Agrees (tokens.foldlM step construction) (tokens.foldlM step other) := by
  have tokenwise : List.Forall₂ Eq tokens tokens := List.forall₂_refl tokens
  apply InStep.foldlM _ tokenwise agrees
  rintro first second token _ agrees rfl
  exact step_agrees agrees token

theorem finish_agrees (agrees : construction.Agrees other) :
    InStep 0 (fun nfa nfa' => ∀ input, nfa.accepts input = nfa'.accepts input) construction.finish other.finish := by
  obtain ⟨exprs, exprs', builds, builds', agree⟩ := agrees
  have length := agree.length_eq
  by_cases only : exprs.length = 1
  · obtain ⟨expr, rfl⟩ := List.length_eq_one_iff.mp only
    obtain ⟨expr', rfl⟩ := List.length_eq_one_iff.mp (length.symm.trans only)
    obtain ⟨nfa, finished, wired, language⟩ := Nfa.finish_builds builds
    obtain ⟨nfa', finished', wired', language'⟩ := Nfa.finish_builds builds'
    cases agree with
    | cons same _ =>
      rw [finished, finished']
      refine .done fun input => ?_
      rw [Bool.eq_iff_iff, Nfa.accepts_iff wired, Nfa.accepts_iff wired', language, language']
      exact same _
  · rw [Nfa.finish_leftover builds only, Nfa.finish_leftover builds' (length ▸ only), length]
    exact .failed (.malformed _ _)

/-- A run of quantifiers is applied to the last expression. -/
theorem steps_quantifiers {operand : Expr} {exprs : List Expr} (builds : construction.Builds (operand :: exprs))
    (run : List Quantifier) : ∃ next,
      ((run.map .quantified).map Token.operator).foldlM step construction = .ok next ∧
      next.Builds (operand.stack run :: exprs) := by
  induction run generalizing construction operand with
  | nil => exact ⟨construction, rfl, builds⟩
  | cons quantifier run ih =>
    have follows := step_follows builds (.operator (.quantified quantifier))
    change Agree _ _ (some (.quantified quantifier operand :: exprs)) at follows
    rw [List.map_cons, List.map_cons, List.foldlM_cons]
    generalize construction.step (.operator (.quantified quantifier)) = stepped at follows ⊢
    cases follows with
    | built after => exact ih after

/-- Without an operand the first quantifier is refused. -/
theorem quantifiers_refused (builds : construction.Builds []) {run : List Quantifier} (nonempty : run ≠ []) :
    ((run.map .quantified).map Token.operator).foldlM step construction =
      .error (.malformed .missingOperand 0) := by
  obtain ⟨states, fragments⟩ := construction
  obtain rfl : fragments = [] := List.length_eq_zero_iff.mp builds.length_eq
  obtain ⟨quantifier, run, rfl⟩ := List.exists_cons_of_ne_nil nonempty
  rfl

theorem quantifiers_agree {exprs : List Expr} (builds : construction.Builds exprs) {first second : List Quantifier}
    (same : ∀ quantifier, quantifier ∈ first ↔ quantifier ∈ second) :
    InStep 0 Agrees (((first.map .quantified).map Token.operator).foldlM step construction)
      (((second.map .quantified).map Token.operator).foldlM step construction) := by
  have reflexive (exprs : List Expr) : List.Forall₂ Expr.Agrees exprs exprs :=
    List.forall₂_same.mpr fun _ _ _ => Iff.rfl
  cases exprs with
  | nil =>
    by_cases none : first = []
    · rw [none, (Quantifier.none_iff same).mp none]
      exact .done ⟨[], [], builds, builds, .nil⟩
    · rw [quantifiers_refused builds none, quantifiers_refused builds (mt (Quantifier.none_iff same).mpr none)]
      exact .failed (.malformed _ _)
  | cons operand exprs =>
    obtain ⟨next, steps, after⟩ := steps_quantifiers builds first
    obtain ⟨next', steps', after'⟩ := steps_quantifiers builds second
    rw [steps, steps']
    exact .done ⟨_, _, after, after', .cons (Expr.stack_members same operand) (reflexive exprs)⟩

theorem quantified_steps_agree {exprs : List Expr} (builds : construction.Builds exprs) (before after : List Token)
    {first second : List Quantifier} (same : ∀ quantifier, quantifier ∈ first ↔ quantifier ∈ second) :
    InStep 0 Agrees ((before ++ (first.map .quantified).map Token.operator ++ after).foldlM step construction)
      ((before ++ (second.map .quantified).map Token.operator ++ after).foldlM step construction) := by
  have alone : InStep 0 (fun reached reached' => reached = reached' ∧ ∃ exprs, reached.Builds exprs)
      (before.foldlM step construction) (before.foldlM step construction) :=
    .refl fun _ steps => ⟨rfl, builds.steps steps⟩
  simp only [List.foldlM_append]
  refine (alone.bind ?_).bind fun _ _ agrees => steps_agree agrees after
  rintro reached _ ⟨rfl, exprs, builds⟩
  exact quantifiers_agree builds same

end Construction

/-- It makes no difference in which order, or how often, the quantifiers of a run are applied. Whatever comes before and
after them, either both token sequences are built into automata that match the same texts, or neither is, for the same
reason. -/
theorem Nfa.ofTokens_restacked (before after : List Token) {first second : List Quantifier}
    (same : ∀ quantifier, quantifier ∈ first ↔ quantifier ∈ second) :
    (∃ nfa nfa',
      Nfa.ofTokens (before ++ (first.map .quantified).map .operator ++ after) = .ok nfa ∧
      Nfa.ofTokens (before ++ (second.map .quantified).map .operator ++ after) = .ok nfa' ∧
      ∀ input, nfa.accepts input = nfa'.accepts input) ∨
    ∃ error,
      Nfa.ofTokens (before ++ (first.map .quantified).map .operator ++ after) = .error error ∧
      Nfa.ofTokens (before ++ (second.map .quantified).map .operator ++ after) = .error error := by
  apply InStep.cases_zero
  by_cases none : first = []
  · rw [none, (Quantifier.none_iff same).mp none]
    exact .refl fun _ _ _ => rfl
  · have nonempty {run : List Quantifier} (some : run ≠ []) :
        before ++ (run.map .quantified).map Token.operator ++ after ≠ [] := by simp [some]
    rw [ofTokens_eq (nonempty none), ofTokens_eq (nonempty (mt (Quantifier.none_iff same).mpr none))]
    have empty : Construction.Builds ⟨#[], []⟩ [] := .nil
    exact (Construction.quantified_steps_agree empty before after same).bind fun _ _ => Construction.finish_agrees

end

/-- The automata of `ba?*` and of `ba*??`, which are not of one size. -/
theorem Nfa.ofTokens_restacked_unlike :
    let tokens (run : List Quantifier) : List Token :=
      [.single false (.literal 'b' false), .single false (.literal 'a' false)] ++
        (run.map .quantified).map .operator ++ [.operator .concat]
    ∃ nfa nfa', Nfa.ofTokens (tokens [.optional, .star]) = .ok nfa ∧
      Nfa.ofTokens (tokens [.star, .optional, .optional]) = .ok nfa' ∧ nfa.stateCount ≠ nfa'.stateCount ∧
      ∀ input, nfa.accepts input = nfa'.accepts input := by
  intro tokens
  have same (quantifier : Quantifier) :
      quantifier ∈ [.optional, .star] ↔ quantifier ∈ [Quantifier.star, .optional, .optional] := by
    cases quantifier <;> decide
  rcases ofTokens_restacked [.single false (.literal 'b' false), .single false (.literal 'a' false)]
      [.operator .concat] same with ⟨nfa, nfa', built, built', agree⟩ | ⟨error, failed, _⟩
  · refine ⟨nfa, nfa', built, built', ?_, agree⟩
    cases built
    cases built'
    decide
  · cases failed

end PatternNfa
