import Mathlib.Data.List.Chain
import Mathlib.Data.List.Infix
import PatternNfa.Token

/-! Tokens whose group marks balance: no group is closed before it is opened, and none is left open. -/

namespace PatternNfa.Token

def isOpening : Token → Bool
  | .opening _ => true
  | _ => false

def isClosing : Token → Bool
  | .closing _ => true
  | _ => false

/-- Tokens whose group marks balance when they are read with `depth` groups open. -/
structure Balanced (depth : Nat) (tokens : List Token) : Prop where
  opened : ∀ before, before <+: tokens → before.countP isClosing ≤ depth + before.countP isOpening
  ended : tokens.countP isClosing = depth + tokens.countP isOpening

instance (depth : Nat) (tokens : List Token) : Decidable (Balanced depth tokens) :=
  decidable_of_iff ((∀ before ∈ tokens.inits, before.countP isClosing ≤ depth + before.countP isOpening) ∧
      tokens.countP isClosing = depth + tokens.countP isOpening)
    ⟨fun ⟨opened, ended⟩ => ⟨fun before within => opened before ((List.mem_inits _ _).mpr within), ended⟩,
      fun balanced => ⟨fun before member => balanced.opened before ((List.mem_inits _ _).mp member), balanced.ended⟩⟩

namespace Balanced

variable {depth : Nat} {token : Token} {rest : List Token}

theorem depth_of_nil (balanced : Balanced depth []) : depth = 0 := balanced.ended.symm

theorem positive {offset : Nat} (balanced : Balanced depth (.closing offset :: rest)) : 0 < depth := by
  have first := balanced.opened [.closing offset] (List.prefix_append _ rest)
  exact first

theorem tail {next : Nat} (balanced : Balanced depth (token :: rest))
    (moves : next + [token].countP isClosing = depth + [token].countP isOpening) : Balanced next rest where
  opened := by
    intro before within
    have longer := balanced.opened (token :: before) (List.cons_prefix_cons.mpr ⟨rfl, within⟩)
    simp only [List.countP_cons, List.countP_nil] at longer moves
    omega
  ended := by
    have whole := balanced.ended
    simp only [List.countP_cons, List.countP_nil] at whole moves
    omega

theorem cons {next : Nat} (balanced : Balanced next rest)
    (moves : next + [token].countP isClosing = depth + [token].countP isOpening) : Balanced depth (token :: rest) where
  opened := by
    intro before within
    cases before with
    | nil => exact Nat.zero_le _
    | cons first before =>
      obtain ⟨rfl, shorter⟩ := List.cons_prefix_cons.mp within
      have bound := balanced.opened before shorter
      simp only [List.countP_cons, List.countP_nil] at moves ⊢
      omega
  ended := by
    have whole := balanced.ended
    simp only [List.countP_cons, List.countP_nil] at moves ⊢
    omega

theorem length_eq {starts stops : List Nat} (balanced : Balanced 0 (starts.map .opening ++ stops.map .closing)) :
    starts.length = stops.length := by
  have ended := balanced.ended
  simpa [List.countP_map, Function.comp_def, isOpening, isClosing] using ended.symm

end Balanced

/-- No operand begins with the second token if one ends with the first. -/
def Apart (first second : Token) : Prop := first.closesOperand = true → second.opensOperand = false

/-- If there is nothing but group marks, and none opens a group right after one is closed, all groups open first. -/
theorem marks_of_apart {tokens : List Token} (marks : ∀ token ∈ tokens, token.isGroupMark = true)
    (apart : tokens.IsChain Apart) :
    ∃ starts stops : List Nat, tokens = starts.map .opening ++ stops.map .closing := by
  induction tokens with
  | nil => exact ⟨[], [], rfl⟩
  | cons token rest ih =>
    obtain ⟨starts, stops, same⟩ := ih (fun other member => marks other (List.mem_cons_of_mem _ member)) apart.tail
    have mark := marks token List.mem_cons_self
    cases token with
    | single | operator => cases mark
    | opening offset => exact ⟨offset :: starts, stops, by rw [same]; rfl⟩
    | closing offset =>
      cases starts with
      | nil => exact ⟨[], offset :: stops, by rw [same]; rfl⟩
      | cons start starts =>
        have next := apart.rel_head? (y := .opening start) (by rw [same]; rfl) rfl
        cases next

end PatternNfa.Token
