import PatternNfa.Proofs.OperatorOrder

/-! Runs of quantifiers after one operand. Reverse Polish order is the postorder of the derived expression but for the
order of such runs, and it is exactly that if no quantifier of a run binds more tightly than the one before it. -/

namespace PatternNfa

/-- The tokens are not two quantifiers of which the second binds more tightly. -/
def Token.Falling (first second : Token) : Prop :=
  ∀ earlier later, first = .operator (.quantified earlier) → second = .operator (.quantified later) →
    (Operator.quantified later).precedence ≤ (Operator.quantified earlier).precedence

namespace Quantifier

variable {run : List Quantifier}

theorem settle_above {waiting : Quantifier}
    (falls : (waiting :: run).IsChain fun earlier later => later.precedes earlier = true) :
    settle [waiting] run = waiting :: run := by
  induction run generalizing waiting with
  | nil => rfl
  | cons quantifier run ih =>
    obtain ⟨here, falls⟩ := List.isChain_cons_cons.mp falls
    rw [settle, List.takeWhile_cons_of_pos here, List.dropWhile_cons_of_pos here, List.takeWhile_nil,
      List.dropWhile_nil, ih falls, List.singleton_append]

theorem settle_falling (falls : run.IsChain fun earlier later => later.precedes earlier = true) :
    settle [] run = run := by
  cases run with
  | nil => rfl
  | cons quantifier run => exact settle_above falls

end Quantifier

theorem Token.precedes_of_falling {run : List Quantifier}
    (falls : ((run.map .quantified).map Token.operator).IsChain Falling) :
    run.IsChain fun earlier later => later.precedes earlier = true := by
  rw [List.isChain_map, List.isChain_map] at falls
  apply falls.imp
  intro earlier later bound
  exact decide_eq_true (bound earlier later rfl rfl)

theorem Reorders.eq_of_falling {rank : Rank} {tokens : List Token} {expr other : Expr}
    (reorders : Reorders rank tokens expr other) (falls : tokens.IsChain Token.Falling) : other = expr := by
  induction reorders with
  | single => rfl
  | group _ ih => exact ih falls.left_of_append.tail
  | factor _ run ih =>
    have settled := Quantifier.settle_falling (Token.precedes_of_falling falls.right_of_append)
    rw [settled, ih falls.left_of_append]
  | term _ ih | choice _ ih => exact ih falls
  | concat _ _ left right => rw [left falls.left_of_append, right falls.right_of_append.tail]
  | alternate _ _ left right => rw [left falls.left_of_append, right falls.right_of_append.tail]

/-- Derived tokens always have a reverse Polish order. It is the postorder of the derived expression, except that the
quantifiers of a run may come in another order. They keep theirs if none binds more tightly than the one before it. -/
theorem Derives.reversePolish_postorder {tokens : List Token} {expr : Expr} (derivation : Derives .choice tokens expr) :
    (∃ other, Token.reversePolish tokens = .ok other.postorder ∧ Reorders .choice tokens expr other) ∧
    (∀ run, (Quantifier.settle [] run).Perm run) ∧
    (tokens.IsChain Token.Falling → Token.reversePolish tokens = .ok expr.postorder) := by
  obtain ⟨other, reorders⟩ := derivation.reorders
  obtain ⟨emitted, waiting, takes, whole⟩ := reorders.takes
  have ordered : Token.reversePolish tokens = .ok other.postorder := whole ▸ takes.reversePolish
  refine ⟨⟨other, ordered, reorders⟩, Quantifier.settle_perm [], ?_⟩
  intro falls
  rw [ordered, reorders.eq_of_falling falls]

/-- In `(a?)*+` the star binds more tightly than the quantifier in the group, but does not overtake it. -/
theorem Derives.reversePolish_postorder_group :
    Token.reversePolish [.opening 0, .single false (.literal 'a' false), .operator .optional, .closing 3,
      .operator .star, .operator .plus] =
        .ok [.single false (.literal 'a' false), .operator .optional, .operator .star, .operator .plus] := by
  have inside : Derives .choice [.single false (.literal 'a' false), .operator .optional]
      (.quantified .optional (.single false (.literal 'a' false))) :=
    .term (.factor (Derives.atom .single).quantified)
  have derivation : Derives .choice [.opening 0, .single false (.literal 'a' false), .operator .optional, .closing 3,
      .operator .star, .operator .plus] (.quantified .plus (.quantified .star (.quantified .optional
        (.single false (.literal 'a' false))))) :=
    .term (.factor (Derives.atom (.group inside)).quantified.quantified)
  apply derivation.reversePolish_postorder.2.2
  simp [Token.Falling, Operator.star, Operator.plus, Operator.optional, Operator.precedence]

end PatternNfa
