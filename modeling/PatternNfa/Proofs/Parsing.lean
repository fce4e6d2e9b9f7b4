import PatternNfa.Grammar
import PatternNfa.Proofs.GroupMarks

/-! Tokens that can be derived: their group marks balance, and operands begin exactly where they are awaited. -/

namespace PatternNfa

/-- Each token begins an operand if and only if one is awaited there. None is awaited at the end. -/
def Token.InTurn : Bool → List Token → Prop
  | awaited, [] => awaited = false
  | awaited, token :: rest => token.opensOperand = awaited ∧ InTurn (!token.closesOperand) rest

/-- What a factor may follow in a choice: terms that are complete, and then factors of its own term. -/
def Slot (lead : List Token) : Prop :=
  ∃ front back, lead = front ++ back ∧
    (∀ tokens expr, Derives .term tokens expr → ∃ whole, Derives .choice (front ++ tokens) whole) ∧
    ∀ tokens expr, Derives .factor tokens expr → ∃ whole, Derives .term (back ++ tokens) whole

namespace Slot

theorem start : Slot [] :=
  ⟨[], [], rfl, fun _ expr term => ⟨expr, .term term⟩, fun _ expr factor => ⟨expr, .factor factor⟩⟩

variable {lead tokens : List Token} {expr : Expr} (slot : Slot lead) (operand : Derives .factor tokens expr)
include slot operand

theorem choice : ∃ whole, Derives .choice (lead ++ tokens) whole := by
  obtain ⟨front, back, rfl, choice, term⟩ := slot
  obtain ⟨_, term⟩ := term tokens expr operand
  rw [List.append_assoc]
  exact choice _ _ term

theorem concat : Slot (lead ++ tokens ++ [.operator .concat]) := by
  obtain ⟨front, back, rfl, choice, term⟩ := slot
  obtain ⟨_, left⟩ := term tokens expr operand
  refine ⟨front, back ++ tokens ++ [.operator .concat], by simp, choice, ?_⟩
  intro after _ right
  have joined := left.concat right
  exact ⟨_, by simpa using joined⟩

theorem alternate : Slot (lead ++ tokens ++ [.operator .alternate]) := by
  obtain ⟨_, left⟩ := slot.choice operand
  refine ⟨lead ++ tokens ++ [.operator .alternate], [], by simp, ?_, fun _ expr factor => ⟨expr, .factor factor⟩⟩
  intro after _ right
  have either := left.alternate right
  exact ⟨_, by simpa using either⟩

end Slot

/-- Tokens up to the mark of the innermost of `depth` open groups. -/
inductive Opened : Nat → List Token → Prop where
  | outside : Opened 0 []
  | inside {depth before lead} (outer : Opened depth before) (slot : Slot lead) (offset : Nat) :
      Opened (depth + 1) (before ++ lead ++ [.opening offset])

private theorem read_on {depth : Nat} {before lead rest : List Token} (opened : Opened depth before) (slot : Slot lead)
    (balanced : Token.Balanced depth rest) :
    (Token.InTurn true rest → ∃ whole, Derives .choice (before ++ lead ++ rest) whole) ∧
    ∀ tokens expr, Derives .factor tokens expr → Token.InTurn false rest →
      ∃ whole, Derives .choice (before ++ lead ++ tokens ++ rest) whole := by
  -- Both states of the reader are needed at once: an operand takes the first to the second, an operator back.
  induction rest generalizing depth before lead with
  | nil =>
    constructor
    · intro turns
      cases turns
    · intro tokens expr operand _
      have ended := balanced.depth_of_nil
      subst ended
      cases opened
      rw [List.nil_append, List.append_nil]
      exact slot.choice operand
  | cons token rest ih =>
    constructor
    · intro ⟨opens, turns⟩
      cases token with
      | operator | closing => cases opens
      | single negated cls =>
        have operand : Derives .factor [.single negated cls] _ := .atom .single
        have after := (ih opened slot (balanced.tail rfl)).2 _ _ operand turns
        simpa using after
      | opening offset =>
        have after := (ih (opened.inside slot offset) .start (balanced.tail rfl)).1 turns
        simpa using after
    · intro tokens expr operand ⟨opens, turns⟩
      cases token with
      | single | opening => cases opens
      | operator op =>
        cases op with
        | concat =>
          have after := (ih opened (slot.concat operand) (balanced.tail rfl)).1 turns
          simpa using after
        | alternate =>
          have after := (ih opened (slot.alternate operand) (balanced.tail rfl)).1 turns
          simpa using after
        | quantified quantifier =>
          have longer : Derives .factor (tokens ++ [.operator (.quantified quantifier)]) _ := operand.quantified
          have after := (ih opened slot (balanced.tail rfl)).2 _ _ longer turns
          simpa using after
      | closing offset =>
        cases opened with
        | outside => exact absurd balanced.positive (Nat.lt_irrefl 0)
        | inside outer hole start =>
          obtain ⟨_, inside⟩ := slot.choice operand
          have group : Derives .factor (.opening start :: (lead ++ tokens) ++ [.closing offset]) _ :=
            .atom (.group inside)
          have after := (ih outer hole (balanced.tail rfl)).2 _ _ group turns
          simpa using after

theorem Derives.of_turns {tokens : List Token} (balanced : Token.Balanced 0 tokens)
    (turns : Token.InTurn true tokens) : ∃ expr, Derives .choice tokens expr :=
  (read_on .outside .start balanced).1 turns

end PatternNfa
