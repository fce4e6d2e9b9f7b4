import PatternNfa.Token
import PatternNfa.Unicode.DecimalDigit
import PatternNfa.Unicode.Letter
import PatternNfa.Unicode.LowerCase

/-! The tests that an automaton applies to the characters of its input. -/

namespace PatternNfa

/-- The lower-case form of each character, which may take several characters. -/
class CaseMap where
  lower : Char → List Char

instance : CaseMap := ⟨Unicode.lower⟩

/-- Whether two characters differ in case at most. -/
def CaseMap.agree [CaseMap] (a b : Char) : Bool := a == b || lower a == lower b

/-- Which characters are decimal numbers and which are letters by their general category, in any script. -/
class Categories where
  decimal : Char → Bool
  letter : Char → Bool

instance : Categories := ⟨Unicode.isDecimalNumber, Unicode.isLetter⟩

namespace Categories

variable [Categories]

/-- ASCII characters are not looked up. -/
def isDigit (c : Char) : Bool := if c.toNat < 128 then c.isDigit else decimal c

def isLetter (c : Char) : Bool := if c.toNat < 128 then c.isAlpha else letter c

end Categories

/-- The characters that a predicate is about, before negation. -/
inductive CharSet where
  | members (chars : List Char) (anyCase : Bool)
  | digit
  | letter
  | space
  | any
deriving DecidableEq

/-- Accepts the characters of a set or, if negated, all others. -/
structure Predicate where
  negated : Bool
  chars : CharSet
deriving DecidableEq

def CharSet.contains [CaseMap] [Categories] (chars : CharSet) (c : Char) : Bool :=
  match chars with
  | .members chars true => chars.any fun member => CaseMap.agree member c
  | .members chars false => chars.elem c
  | .digit => Categories.isDigit c
  | .letter => Categories.isLetter c
  | .space => c == ' '
  | .any => true

/-- A literal is a set of one member; the other classes are sets as they stand. -/
def CharClass.chars : CharClass → CharSet
  | .literal char anyCase => .members [char] anyCase
  | .set members anyCase => .members members anyCase
  | .letter => .letter
  | .digit => .digit
  | .space => .space
  | .any => .any

namespace Predicate

def accepts [CaseMap] [Categories] (predicate : Predicate) (c : Char) : Bool :=
  predicate.chars.contains c != predicate.negated

/-- The test of a token that matches a character. Operators and group marks have none. -/
def ofToken? : Token → Option Predicate
  | .single negated cls => some ⟨negated, cls.chars⟩
  | _ => none

end Predicate

end PatternNfa
