import PatternNfa.PatternError
import PatternNfa.Token

/-! Reverse Polish order with a stack that has room for tokens of every kind. They are taken off it one at a time, and
nothing but the steps themselves decides what can wait there. -/

namespace PatternNfa

/-- The sequence put out so far and the tokens that wait, the latest first. -/
structure TokenYard where
  output : Array Token
  held : List Token
deriving DecidableEq

namespace TokenYard

def empty : TokenYard := ⟨#[], []⟩

/-- Puts out operators from the top of the stack up to the first that binds less tightly than the one that arrives. -/
def yieldTo (arriving : Operator) (output : Array Token) : List Token → TokenYard
  | .operator top :: below =>
    if top.precedence < arriving.precedence then ⟨output, .operator top :: below⟩
    else yieldTo arriving (output.push (.operator top)) below
  | held => ⟨output, held⟩

/-- Puts out all that waits above the mark on top of the stack, and takes off the mark. -/
def closeGroup (stop : Nat) (output : Array Token) : List Token → Except PatternError TokenYard
  | [] => .error (.unmatchedParenthesis stop)
  | .opening _ :: below => .ok ⟨output, below⟩
  | token :: below => closeGroup stop (output.push token) below

def push (token : Token) (yard : TokenYard) : TokenYard := { yard with held := token :: yard.held }

def step (yard : TokenYard) : Token → Except PatternError TokenYard
  | .opening offset => .ok (yard.push (.opening offset))
  | .closing offset => closeGroup offset yard.output yard.held
  | .operator op => .ok ((yieldTo op yard.output yard.held).push (.operator op))
  | .single negated cls => .ok { yard with output := yard.output.push (.single negated cls) }

/-- Puts out all that still waits, among which there may be no mark. -/
def drain (output : Array Token) : List Token → Except PatternError (List Token)
  | [] => .ok output.toList
  | .opening offset :: _ => .error (.unmatchedParenthesis offset)
  | token :: below => drain (output.push token) below

def reversePolish (tokens : List Token) : Except PatternError (List Token) := do
  let yard ← tokens.foldlM step empty
  drain yard.output yard.held

end TokenYard

end PatternNfa
