import PatternNfa.Proofs.GroupMarks

/-! Groups among tokens: where one begins and ends, and which are still open after some of the tokens. What stands
behind the mark of an open group balances by itself, up to the mark of the next open group within it. -/

namespace PatternNfa.Token

/-- No group is closed that was not opened before. Some may be left open. -/
def Closable (tokens : List Token) : Prop :=
  ∀ before, before <+: tokens → before.countP isClosing ≤ before.countP isOpening

namespace Closable

variable {before after : List Token}

theorem append (left : Closable before) (right : Closable after) : Closable (before ++ after) := by
  intro first within
  rcases List.prefix_or_prefix_of_prefix within (List.prefix_append before after) with shorter | ⟨rest, rfl⟩
  · exact left first shorter
  · have here := left before List.prefix_rfl
    have there := right rest ((List.prefix_append_right_inj before).mp within)
    simp only [List.countP_append]
    omega

theorem of_append (whole : Closable (before ++ after)) : Closable before :=
  fun first within => whole first (within.trans (List.prefix_append before after))

theorem opening (closable : Closable after) (start : Nat) : Closable (.opening start :: after) := by
  intro first within
  rcases List.prefix_cons_iff.mp within with rfl | ⟨rest, rfl, shorter⟩
  · exact Nat.le_refl 0
  · have bound := closable rest shorter
    simp only [List.countP_cons, isOpening, isClosing, if_true, Bool.false_eq_true, if_false]
    omega

end Closable

namespace Balanced

theorem nil : Balanced 0 [] := ⟨fun before within => by simp [List.prefix_nil.mp within], rfl⟩

theorem closable {tokens : List Token} (balanced : Balanced 0 tokens) : Closable tokens := by
  intro before within
  simpa using balanced.opened before within

theorem append {depth : Nat} {first second : List Token} (left : Balanced 0 first) (right : Balanced depth second) :
    Balanced depth (first ++ second) where
  opened := by
    intro before within
    rcases List.prefix_or_prefix_of_prefix within (List.prefix_append first second) with shorter | ⟨rest, rfl⟩
    · have bound := left.opened before shorter
      omega
    · have bound := right.opened rest ((List.prefix_append_right_inj first).mp within)
      have even := left.ended
      simp only [List.countP_append]
      omega
  ended := by
    have here := left.ended
    have there := right.ended
    simp only [List.countP_append]
    omega

theorem of_plain {token : Token} (plain : token.isGroupMark = false) : Balanced 0 [token] := by
  cases token with
  | single | operator => exact nil.cons rfl
  | opening | closing => cases plain

theorem group {inside : List Token} (balanced : Balanced 0 inside) (start stop : Nat) :
    Balanced 0 (.opening start :: inside ++ [.closing stop]) := by
  have ended : Balanced 1 [.closing stop] := nil.cons rfl
  exact (balanced.append ended).cons rfl

/-- The group of a mark inside ends, so that the marks behind it close one group too many. -/
theorem not_closable {before after : List Token} {start : Nat}
    (whole : Balanced 0 (before ++ .opening start :: after)) : ¬ Closable after := by
  intro closable
  have here := whole.opened before (List.prefix_append _ _)
  have there := closable after List.prefix_rfl
  have total := whole.ended
  simp only [List.countP_append, List.countP_cons, isOpening, isClosing, if_true, Bool.false_eq_true, if_false]
    at here there total
  omega

end Balanced

/-- Of two tokens one stands before the other, unless both are the same. -/
theorem split_cases {before other after behind : List Token} {first second : Token}
    (same : before ++ first :: after = other ++ second :: behind) :
    (before = other ∧ first = second ∧ after = behind) ∨
      (∃ inside, other = before ++ first :: inside ∧ after = inside ++ second :: behind) ∨
      ∃ inside, before = other ++ second :: inside ∧ behind = inside ++ first :: after := by
  rcases List.append_eq_append_iff.mp same with ⟨rest, rfl, tail⟩ | ⟨rest, rfl, tail⟩
  · cases rest with
    | nil =>
      obtain ⟨here, later⟩ := List.cons.inj tail
      exact Or.inl ⟨(List.append_nil before).symm, here, later⟩
    | cons _ inside =>
      obtain ⟨rfl, later⟩ := List.cons.inj tail
      exact Or.inr (Or.inl ⟨inside, rfl, later⟩)
  · cases rest with
    | nil =>
      obtain ⟨here, later⟩ := List.cons.inj tail
      exact Or.inl ⟨List.append_nil other, here.symm, later.symm⟩
    | cons _ inside =>
      obtain ⟨rfl, later⟩ := List.cons.inj tail
      exact Or.inr (Or.inr ⟨inside, rfl, later⟩)

/-- There is only one mark behind which tokens balance up to the end. -/
theorem innermost_unique {before other inside within : List Token} {start first : Nat}
    (same : before ++ .opening start :: inside = other ++ .opening first :: within) (here : Balanced 0 inside)
    (there : Balanced 0 within) : before = other := by
  rcases split_cases same with ⟨place, _⟩ | ⟨_, _, rfl⟩ | ⟨_, _, rfl⟩
  · exact place
  · exact absurd there.closable here.not_closable
  · exact absurd here.closable there.not_closable

/-- A group whose marks stand at the places `start` and `stop`, counted from the beginning of the tokens. -/
def Group (tokens : List Token) (start stop : Nat) : Prop :=
  ∃ before first inside last, before ++ .opening first :: inside ++ [.closing last] <+: tokens ∧
    Balanced 0 inside ∧ start = before.length ∧ stop = before.length + inside.length + 1

theorem Group.stop_lt {tokens : List Token} {start stop : Nat} (group : Group tokens start stop) :
    stop < tokens.length := by
  obtain ⟨before, first, inside, last, within, _, _, rfl⟩ := group
  have bound := within.length_le
  simp only [List.length_append, List.length_cons, List.length_nil] at bound
  omega

theorem Group.stop_le {tokens : List Token} {token : Token} {start stop : Nat}
    (group : Group (tokens ++ [token]) start stop) : stop ≤ tokens.length := by
  have bound := group.stop_lt
  rw [List.length_append] at bound
  exact Nat.le_of_lt_succ bound

theorem Group.of_append {tokens rest : List Token} {start stop : Nat} (group : Group (tokens ++ rest) start stop)
    (inside : stop < tokens.length) : Group tokens start stop := by
  obtain ⟨before, first, inner, last, within, balanced, rfl, rfl⟩ := group
  refine ⟨before, first, inner, last, ?_, balanced, rfl, rfl⟩
  apply List.prefix_of_prefix_length_le within (List.prefix_append tokens rest)
  simp only [List.length_append, List.length_cons, List.length_nil]
  omega

/-- A group that ends with the last token. -/
theorem Group.ends {tokens : List Token} {token : Token} {start : Nat}
    (group : Group (tokens ++ [token]) start tokens.length) :
    token.isClosing = true ∧ ∃ before first inside, tokens = before ++ .opening first :: inside ∧
      Balanced 0 inside ∧ start = before.length := by
  obtain ⟨before, first, inside, last, within, balanced, rfl, stop⟩ := group
  have whole : before ++ .opening first :: inside ++ [.closing last] = tokens ++ [token] := by
    apply within.eq_of_length
    simp only [List.length_append, List.length_cons, List.length_nil]
    omega
  obtain ⟨same, mark⟩ := List.append_inj' whole rfl
  cases mark
  exact ⟨rfl, before, first, inside, same.symm, balanced, rfl⟩

/-- The marks of the groups that are open after the tokens, the innermost first, with their places. -/
inductive Unclosed : List (Token × Nat) → List Token → Prop where
  | none {tokens} (balanced : Balanced 0 tokens) : Unclosed [] tokens
  | some {marks before start inside} (outer : Unclosed marks before) (balanced : Balanced 0 inside) :
      Unclosed ((.opening start, before.length) :: marks) (before ++ .opening start :: inside)

namespace Unclosed

variable {marks : List (Token × Nat)} {tokens : List Token}

theorem append (unclosed : Unclosed marks tokens) {rest : List Token} (balanced : Balanced 0 rest) :
    Unclosed marks (tokens ++ rest) := by
  cases unclosed with
  | none before => exact .none (before.append balanced)
  | some outer inside =>
    rw [List.append_assoc, List.cons_append]
    exact .some outer (inside.append balanced)

theorem closing {mark : Token × Nat} (unclosed : Unclosed (mark :: marks) tokens) (stop : Nat) :
    Unclosed marks (tokens ++ [.closing stop]) := by
  cases unclosed with
  | @some _ before start inside outer balanced =>
    have group := outer.append (balanced.group start stop)
    rwa [← List.append_assoc] at group

theorem innermost {mark : Token × Nat} (unclosed : Unclosed (mark :: marks) tokens) {before inside : List Token}
    {start : Nat} (same : tokens = before ++ .opening start :: inside) (balanced : Balanced 0 inside) :
    mark.2 = before.length := by
  cases unclosed with
  | some outer inner => rw [innermost_unique same inner balanced]

theorem closable (unclosed : Unclosed marks tokens) : Closable tokens := by
  induction unclosed with
  | none balanced => exact balanced.closable
  | some _ balanced ih => exact ih.append (balanced.closable.opening _)

end Unclosed

end PatternNfa.Token
