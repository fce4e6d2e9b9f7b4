import PatternNfa.Operator

/-! The tokens of patterns and their printed form. A token matches one character of the input, is an operator, or
marks where a group begins or ends. -/

namespace PatternNfa

/-- What a token demands of the character it matches. Literals and bracketed sets may disregard case. -/
inductive CharClass where
  | literal (char : Char) (anyCase : Bool)
  | set (members : List Char) (anyCase : Bool)
  | letter
  | digit
  | space
  | any
deriving DecidableEq

/-- Group marks carry their byte offset in the pattern, so that an unmatched one can be reported. -/
inductive Token where
  | single (negated : Bool) (cls : CharClass)
  | operator (op : Operator)
  | opening (offset : Nat)
  | closing (offset : Nat)
deriving DecidableEq

/-- Literals of these characters are printed with a backslash. -/
def escapedChars : List Char := ['\\', '[', ']', '(', ')', '|', '*', '+', '?', '_', '^', '.']

/-- The printed form of a class. The members of a set are printed as they are. -/
def CharClass.text : CharClass → List Char
  | .literal char _ => if char ∈ escapedChars then ['\\', char] else [char]
  | .set members _ => '[' :: members ++ [']']
  | .letter => ['\\', 'w']
  | .digit => ['\\', 'd']
  | .space => ['\\', 's']
  | .any => ['_']

namespace Token

def isSingle : Token → Bool
  | .single .. => true
  | _ => false

def isGroupMark : Token → Bool
  | .opening _ | .closing _ => true
  | _ => false

def opensOperand : Token → Bool
  | .single .. | .opening _ => true
  | _ => false

def closesOperand : Token → Bool
  | .single .. | .closing _ => true
  | .operator op => op.isQuantifier
  | .opening _ => false

def text : Token → List Char
  | .single negated cls => if negated then '^' :: cls.text else cls.text
  | .operator op => [op.symbol]
  | .opening _ => ['(']
  | .closing _ => [')']

/-- The printed forms of the tokens one after the other, without separators. -/
def render (tokens : List Token) : String := String.ofList (tokens.flatMap text)

end Token

end PatternNfa
