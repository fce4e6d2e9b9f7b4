import PatternNfa.Grammar
import PatternNfa.Proofs.Quantifiers
import PatternNfa.Proofs.Yard

/-! Reverse Polish order of derived tokens. It is the postorder of the derived expression but for runs of quantifiers:
one that binds more tightly overtakes those that wait before it. -/

namespace PatternNfa

namespace Quantifier

/-- Whether a quantifier that waits comes before the one that arrives. -/
def precedes (arriving waiting : Quantifier) : Bool :=
  (Operator.quantified arriving).precedence ≤ (Operator.quantified waiting).precedence

/-- The order in which a run of quantifiers is applied, given those that wait, the latest first. -/
def settle : List Quantifier → List Quantifier → List Quantifier
  | waiting, [] => waiting
  | waiting, quantifier :: run =>
    waiting.takeWhile quantifier.precedes ++ settle (quantifier :: waiting.dropWhile quantifier.precedes) run

theorem settle_perm (waiting run : List Quantifier) : (settle waiting run).Perm (waiting ++ run) := by
  induction run generalizing waiting with
  | nil => simp [settle]
  | cons quantifier run ih =>
    let front := waiting.takeWhile quantifier.precedes
    let back := waiting.dropWhile quantifier.precedes
    calc List.Perm (front ++ settle (quantifier :: back) run) (front ++ quantifier :: (back ++ run)) :=
        (ih (quantifier :: back)).append_left front
      List.Perm _ (quantifier :: (front ++ (back ++ run))) := List.perm_middle
      List.Perm _ (quantifier :: (waiting ++ run)) := by rw [← List.append_assoc, List.takeWhile_append_dropWhile]
      List.Perm _ (waiting ++ quantifier :: run) := List.perm_middle.symm

example : settle [] [.optional, .star, .plus] = [.star, .plus, .optional] := rfl

end Quantifier

/-- Derivations that take the quantifiers after an atom as one run, with the expression that is meant and the one in
which the quantifiers of each run are applied in the order in which they leave the stack. -/
inductive Reorders : Rank → List Token → Expr → Expr → Prop where
  | single {negated cls} : Reorders .atom [.single negated cls] (.single negated cls) (.single negated cls)
  | group {start stop tokens expr other} (inside : Reorders .choice tokens expr other) :
      Reorders .atom (.opening start :: tokens ++ [.closing stop]) expr other
  | factor {tokens expr other} (atom : Reorders .atom tokens expr other) (run : List Quantifier) :
      Reorders .factor (tokens ++ (run.map .quantified).map .operator) (expr.stack run)
        (other.stack (Quantifier.settle [] run))
  | term {tokens expr other} (factor : Reorders .factor tokens expr other) : Reorders .term tokens expr other
  | concat {before after first second first' second'} (left : Reorders .term before first first')
      (right : Reorders .factor after second second') :
      Reorders .term (before ++ .operator .concat :: after) (.concat first second) (.concat first' second')
  | choice {tokens expr other} (term : Reorders .term tokens expr other) : Reorders .choice tokens expr other
  | alternate {before after first second first' second'} (left : Reorders .choice before first first')
      (right : Reorders .term after second second') :
      Reorders .choice (before ++ .operator .alternate :: after) (.alternate first second) (.alternate first' second')

theorem Derives.reorders {rank : Rank} {tokens : List Token} {expr : Expr} (derivation : Derives rank tokens expr) :
    ∃ other, Reorders rank tokens expr other := by
  induction derivation with
  | single => exact ⟨_, .single⟩
  | group _ ih =>
    obtain ⟨other, inside⟩ := ih
    exact ⟨other, .group inside⟩
  | atom _ ih =>
    obtain ⟨other, atom⟩ := ih
    have factor := atom.factor []
    rw [List.map_nil, List.map_nil, List.append_nil] at factor
    exact ⟨other, factor⟩
  | @quantified quantifier _ _ _ ih =>
    obtain ⟨other, operand⟩ := ih
    cases operand with
    | factor atom run =>
      have longer := atom.factor (run ++ [quantifier])
      simp only [List.map_append, List.map_cons, List.map_nil, ← List.append_assoc, Expr.stack, List.foldl_append,
        List.foldl_cons, List.foldl_nil] at longer
      exact ⟨_, longer⟩
  | factor _ ih =>
    obtain ⟨other, factor⟩ := ih
    exact ⟨other, .term factor⟩
  | concat _ _ left right =>
    obtain ⟨first, left⟩ := left
    obtain ⟨second, right⟩ := right
    exact ⟨.concat first second, .concat left right⟩
  | term _ ih =>
    obtain ⟨other, term⟩ := ih
    exact ⟨other, .choice term⟩
  | alternate _ _ left right =>
    obtain ⟨first, left⟩ := left
    obtain ⟨second, right⟩ := right
    exact ⟨.alternate first second, .alternate left right⟩

theorem Reorders.denotes_iff [CaseMap] [Categories] {rank : Rank} {tokens : List Token} {expr other : Expr}
    (reorders : Reorders rank tokens expr other) (text : List Char) : expr.Denotes text ↔ other.Denotes text := by
  induction reorders generalizing text with
  | single => rfl
  | group _ ih | term _ ih | choice _ ih => exact ih text
  | factor _ run ih =>
    refine (Expr.stack_congr run ih text).trans (Expr.stack_perm ?_ _ text)
    exact (Quantifier.settle_perm [] run).symm
  | concat _ _ left right => exact Expr.concat_congr left right text
  | alternate _ _ left right => exact Expr.alternate_congr left right text

/-- The least precedence of an operator that a stretch of tokens leaves waiting. Atoms leave none. -/
def Rank.floor : Rank → Nat
  | .choice => 1
  | .term => 2
  | .factor => 3
  | .atom => 6

theorem Operator.precedence_lt_six (op : Operator) : op.precedence < 6 := by
  cases op with
  | concat | alternate => decide
  | quantified quantifier => cases quantifier <;> decide

theorem Quantifier.three_le_precedence (quantifier : Quantifier) : 3 ≤ (Operator.quantified quantifier).precedence := by
  cases quantifier <;> decide

theorem Expr.postorder_stack (operand : Expr) (run : List Quantifier) :
    (operand.stack run).postorder = operand.postorder ++ (run.map .quantified).map .operator := by
  induction run generalizing operand with
  | nil => simp [stack]
  | cons quantifier run ih =>
    refine (ih (.quantified quantifier operand)).trans ?_
    simp [postorder]

/-- The operator on top, if there is one, binds less tightly than `floor`. -/
def Held.Below (floor : Nat) (held : List Held) : Prop :=
  ∀ op, held.head? = some (.operator op) → op.precedence < floor

namespace Yard

/-- Above operators that bind less tightly than `floor`, a stretch of tokens is put out but for operators that bind at
least as tightly, which are left waiting. -/
structure Takes (floor : Nat) (tokens emitted : List Token) (waiting : List Operator) : Prop where
  tight : ∀ op ∈ waiting, floor ≤ op.precedence
  steps : ∀ output held, Held.Below floor held → tokens.foldlM step ⟨output, held⟩ =
    .ok ⟨output ++ emitted.toArray, waiting.map .operator ++ held⟩

theorem step_operator {floor : Nat} {op : Operator} {waiting : List Operator} {held : List Held}
    (tight : ∀ other ∈ waiting, floor ≤ other.precedence) (below : Held.Below floor held)
    (same : op.precedence = floor) (output : Array Token) :
    step ⟨output, waiting.map .operator ++ held⟩ (.operator op) =
      .ok ⟨output ++ (waiting.map Token.operator).toArray, .operator op :: held⟩ := by
  have stops : ∀ other, held.head? = some (.operator other) → decide (op.precedence ≤ other.precedence) = false := by
    intro other top
    have loose := below other top
    exact decide_eq_false (by omega)
  have all : ∀ other ∈ waiting, decide (op.precedence ≤ other.precedence) = true := by
    intro other member
    have bound := tight other member
    exact decide_eq_true (by omega)
  simp only [step, Held.release_all all stops, emit_eq]

theorem step_closing (waiting : List Operator) (held : List Held) (output : Array Token) (start stop : Nat) :
    step ⟨output, waiting.map .operator ++ .opening start :: held⟩ (.closing stop) =
      .ok ⟨output ++ (waiting.map Token.operator).toArray, held⟩ := by
  have released : Held.release (fun _ => true) (waiting.map .operator ++ .opening start :: held) =
      (waiting, .opening start :: held) := Held.release_all (fun _ _ => rfl) fun _ top => nomatch top
  simp only [step, released, emit_eq]

namespace Takes

variable {floor : Nat} {tokens emitted : List Token} {waiting : List Operator}

theorem lower {low : Nat} (takes : Takes floor tokens emitted waiting) (less : low ≤ floor) :
    Takes low tokens emitted waiting where
  tight := fun op member => Nat.le_trans less (takes.tight op member)
  steps := fun output held below => takes.steps output held fun op top => Nat.lt_of_lt_of_le (below op top) less

theorem single (floor : Nat) (negated : Bool) (cls : CharClass) :
    Takes floor [.single negated cls] [.single negated cls] [] where
  tight := by simp
  steps := by
    intro output held _
    simp [step]

theorem group (inside : Takes 1 tokens emitted waiting) (floor start stop : Nat) :
    Takes floor (.opening start :: tokens ++ [.closing stop]) (emitted ++ waiting.map .operator) [] where
  tight := by simp
  steps := by
    intro output held _
    have marked : Held.Below 1 (.opening start :: held) := by
      intro op top
      cases top
    rw [List.cons_append, steps_cons rfl, steps_append (inside.steps output _ marked),
      steps_cons (step_closing waiting held _ start stop)]
    simp
    rfl

theorem between (op : Operator) {before after left right : List Token} {first second : List Operator}
    (operand : Takes op.precedence before left first) (other : Takes (op.precedence + 1) after right second) :
    Takes op.precedence (before ++ .operator op :: after) (left ++ first.map .operator ++ right) (second ++ [op]) where
  tight := by
    intro waiting member
    rcases List.mem_append.mp member with inside | last
    · exact Nat.le_of_succ_le (other.tight waiting inside)
    · exact Nat.le_of_eq (congrArg Operator.precedence (List.mem_singleton.mp last).symm)
  steps := by
    intro output held below
    have above : Held.Below (op.precedence + 1) (.operator op :: held) := by
      intro top same
      cases same
      exact Nat.lt_succ_self _
    rw [steps_append (operand.steps output held below), steps_cons (step_operator operand.tight below rfl _),
      other.steps _ _ above]
    simp

private theorem run_steps (waiting run : List Quantifier) :
    ∃ done rest, done ++ rest = Quantifier.settle waiting run ∧ ∀ output held, Held.Below 3 held →
      ((run.map Operator.quantified).map Token.operator).foldlM step
          ⟨output, (waiting.map Operator.quantified).map Held.operator ++ held⟩ =
        .ok ⟨output ++ ((done.map Operator.quantified).map Token.operator).toArray,
          (rest.map Operator.quantified).map Held.operator ++ held⟩ := by
  induction run generalizing waiting with
  | nil => exact ⟨[], waiting, rfl, fun output held _ => by simp [pure, Except.pure]⟩
  | cons quantifier run ih =>
    obtain ⟨done, rest, whole, steps⟩ := ih (quantifier :: waiting.dropWhile quantifier.precedes)
    refine ⟨waiting.takeWhile quantifier.precedes ++ done, rest, ?_, ?_⟩
    · rw [List.append_assoc, whole, Quantifier.settle]
    intro output held below
    have stops : ∀ op, held.head? = some (.operator op) →
        decide ((Operator.quantified quantifier).precedence ≤ op.precedence) = false := by
      intro op top
      have loose := below op top
      have tight := quantifier.three_le_precedence
      exact decide_eq_false (by omega)
    have first : step ⟨output, (waiting.map Operator.quantified).map Held.operator ++ held⟩
        (.operator (.quantified quantifier)) = .ok
          ⟨output ++ (((waiting.takeWhile quantifier.precedes).map Operator.quantified).map Token.operator).toArray,
            ((quantifier :: waiting.dropWhile quantifier.precedes).map Operator.quantified).map Held.operator ++
              held⟩ := by
      simp only [step, Held.release_map stops, emit_eq, List.takeWhile_map, List.dropWhile_map]
      rfl
    rw [List.map_cons, List.map_cons, steps_cons first, steps _ held below]
    simp

theorem run (atom : Takes 6 tokens emitted []) (run : List Quantifier) :
    ∃ done rest, done ++ rest = Quantifier.settle [] run ∧
      Takes 3 (tokens ++ (run.map .quantified).map .operator) (emitted ++ (done.map .quantified).map .operator)
        (rest.map .quantified) := by
  obtain ⟨done, rest, whole, steps⟩ := run_steps [] run
  refine ⟨done, rest, whole, ?_, ?_⟩
  · intro op member
    obtain ⟨quantifier, _, rfl⟩ := List.mem_map.mp member
    exact quantifier.three_le_precedence
  · intro output held below
    have first := (atom.lower (by decide : 3 ≤ 6)).steps output held below
    rw [steps_append first]
    refine (steps _ held below).trans ?_
    simp

theorem reversePolish (takes : Takes 1 tokens emitted waiting) :
    Token.reversePolish tokens = .ok (emitted ++ waiting.map .operator) := by
  have released : Held.release (fun _ => true) (waiting.map .operator ++ []) = (waiting, []) :=
    Held.release_all (fun _ _ => rfl) fun _ top => nomatch top
  rw [Token.reversePolish, Yard.empty, takes.steps #[] [] fun _ top => nomatch top]
  change finish _ = _
  simp only [finish, released, toList_emit]
  simp

end Takes

end Yard

theorem Reorders.takes {rank : Rank} {tokens : List Token} {expr other : Expr}
    (reorders : Reorders rank tokens expr other) :
    ∃ emitted waiting, Yard.Takes rank.floor tokens emitted waiting ∧
      emitted ++ waiting.map .operator = other.postorder := by
  induction reorders with
  | single => exact ⟨_, [], .single 6 _ _, rfl⟩
  | group _ ih =>
    obtain ⟨emitted, waiting, takes, whole⟩ := ih
    exact ⟨_, [], takes.group 6 _ _, by rw [whole, List.map_nil, List.append_nil]⟩
  | @factor _ _ other _ run ih =>
    obtain ⟨emitted, waiting, takes, whole⟩ := ih
    have none : waiting = [] := by
      cases waiting with
      | nil => rfl
      | cons op _ => exact absurd (takes.tight op List.mem_cons_self) (Nat.not_le_of_lt op.precedence_lt_six)
    subst none
    obtain ⟨done, rest, order, takes⟩ := takes.run run
    refine ⟨_, _, takes, ?_⟩
    rw [Expr.postorder_stack, ← whole, ← order]
    simp
  | term _ ih =>
    obtain ⟨emitted, waiting, takes, whole⟩ := ih
    exact ⟨emitted, waiting, takes.lower (by decide), whole⟩
  | concat _ _ left right =>
    obtain ⟨_, _, before, first⟩ := left
    obtain ⟨_, _, after, second⟩ := right
    refine ⟨_, _, before.between .concat after, ?_⟩
    simp [Expr.postorder, ← first, ← second]
  | choice _ ih =>
    obtain ⟨emitted, waiting, takes, whole⟩ := ih
    exact ⟨emitted, waiting, takes.lower (by decide), whole⟩
  | alternate _ _ left right =>
    obtain ⟨_, _, before, first⟩ := left
    obtain ⟨_, _, after, second⟩ := right
    refine ⟨_, _, before.between .alternate after, ?_⟩
    simp [Expr.postorder, ← first, ← second]

/-- Derived tokens have a reverse Polish order, which reads as an expression of the same language. -/
theorem Derives.reversePolish [CaseMap] [Categories] {tokens : List Token} {expr : Expr}
    (derivation : Derives .choice tokens expr) :
    ∃ other : Expr, Token.reversePolish tokens = .ok other.postorder ∧
      ∀ text, expr.Denotes text ↔ other.Denotes text := by
  obtain ⟨other, reorders⟩ := derivation.reorders
  obtain ⟨emitted, waiting, takes, whole⟩ := reorders.takes
  exact ⟨other, whole ▸ takes.reversePolish, reorders.denotes_iff⟩

end PatternNfa
