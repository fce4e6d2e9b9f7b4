import PatternNfa.PatternError
import PatternNfa.Token

/-! From the written order of tokens to reverse Polish order, in which every operator follows its operands and no
group marks are left. Operators wait on a stack until the next operator or the end of their group shows that
their last operand is complete. -/

namespace PatternNfa

/-- What waits on the stack: an operator, or the mark of a group that is still open. -/
inductive Held where
  | operator (op : Operator)
  | opening (offset : Nat)
deriving DecidableEq

/-- The operators on top of the stack that yield, and the stack that remains. A group mark stops the search. -/
def Held.release (yields : Operator → Bool) : List Held → List Operator × List Held
  | .operator op :: below =>
    if yields op then
      let (released, kept) := release yields below
      (op :: released, kept)
    else
      ([], .operator op :: below)
  | stack => ([], stack)

/-- Releasing takes operators off the top of the stack and changes nothing else. -/
theorem Held.release_append (yields : Operator → Bool) (stack : List Held) :
    (release yields stack).1.map Held.operator ++ (release yields stack).2 = stack := by
  induction stack with
  | nil => rfl
  | cons held below ih =>
    cases held with
    | opening offset => rfl
    | operator op =>
      simp only [release]
      split
      · simp [ih]
      · rfl

/-- The sequence put out so far and the stack of what waits, its top first. -/
structure Yard where
  output : Array Token
  held : List Held
deriving DecidableEq

namespace Yard

def empty : Yard := ⟨#[], []⟩

def emit (yard : Yard) (released : List Operator) : Array Token :=
  released.foldl (fun output op => output.push (.operator op)) yard.output

theorem toList_emit (yard : Yard) (released : List Operator) :
    (yard.emit released).toList = yard.output.toList ++ released.map Token.operator := by
  simp [emit]

/-- Takes the next token. An operator first releases those that bind at least as tightly, so that operators of
one precedence group to the left. -/
def step (yard : Yard) : Token → Except PatternError Yard
  | .opening offset => .ok { yard with held := .opening offset :: yard.held }
  | .closing offset =>
    match Held.release (fun _ => true) yard.held with
    | (released, .opening _ :: below) => .ok ⟨yard.emit released, below⟩
    | _ => .error (.unmatchedParenthesis offset)
  | .operator op =>
    let (released, kept) := Held.release (fun waiting => op.precedence ≤ waiting.precedence) yard.held
    .ok ⟨yard.emit released, .operator op :: kept⟩
  | .single negated cls => .ok { yard with output := yard.output.push (.single negated cls) }

/-- Releases everything at the end of the tokens, where no group may be open. -/
def finish (yard : Yard) : Except PatternError (List Token) :=
  match Held.release (fun _ => true) yard.held with
  | (_, .opening offset :: _) => .error (.unmatchedParenthesis offset)
  | (released, _) => .ok (yard.emit released).toList

end Yard

/-- The tokens in reverse Polish order, unless the group marks do not balance. -/
def Token.reversePolish (tokens : List Token) : Except PatternError (List Token) := do
  let yard ← tokens.foldlM Yard.step Yard.empty
  yard.finish

end PatternNfa
