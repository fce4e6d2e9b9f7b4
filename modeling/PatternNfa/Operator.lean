/-! The operators of patterns: how tightly each binds and how it is written. -/

namespace PatternNfa

/-- How often the operand that a quantifier follows may occur. -/
inductive Quantifier where
  | star
  | plus
  | optional
deriving DecidableEq

inductive Operator where
  | concat
  | alternate
  | quantified (quantifier : Quantifier)
deriving DecidableEq

namespace Operator

def star : Operator := .quantified .star
def plus : Operator := .quantified .plus
def optional : Operator := .quantified .optional

/-- The operator that a character of a pattern stands for. Concatenation has no character: it is understood
between neighbouring operands. -/
def ofChar? : Char → Option Operator
  | '|' => some .alternate
  | '*' => some star
  | '+' => some plus
  | '?' => some optional
  | _ => none

/-- Operators of higher precedence bind tighter. The three quantifiers differ too. -/
def precedence : Operator → Nat
  | .alternate => 1
  | .concat => 2
  | .quantified .optional => 3
  | .quantified .plus => 4
  | .quantified .star => 5

/-- A quantifier stands after its only operand; the other operators stand between two. -/
def isQuantifier : Operator → Bool
  | .quantified _ => true
  | _ => false

/-- The printed form, in which concatenation appears as a point. -/
def symbol : Operator → Char
  | .concat => '.'
  | .alternate => '|'
  | .quantified .star => '*'
  | .quantified .plus => '+'
  | .quantified .optional => '?'

end Operator

end PatternNfa
