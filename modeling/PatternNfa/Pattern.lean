import PatternNfa.Infix
import PatternNfa.Journal
import PatternNfa.Nfa.Thompson
import PatternNfa.Occurrences
import PatternNfa.ReversePolish

/-! From pattern text to automaton, and what is commonly done with it. -/

namespace PatternNfa

/-- A pattern's tokens as written, and the same in reverse Polish order. -/
structure Reading where
  tokens : List Token
  ordered : List Token
deriving DecidableEq

/-- What is reported when an automaton is constructed. -/
def Nfa.eventsOfTokens (ordered : List Token) : List Event :=
  match Nfa.ofTokens ordered with
  | .ok _ => []
  | .error error => error.events

namespace Pattern

def read (pattern : Pattern) : Except PatternError Reading := do
  let tokens ← pattern.tokens
  let ordered ← Token.reversePolish tokens
  return ⟨tokens, ordered⟩

def compile (pattern : Pattern) : Except PatternError Nfa := do
  let reading ← pattern.read
  Nfa.ofTokens reading.ordered

def compileEvents (pattern : Pattern) : List Event :=
  match pattern.read with
  | .error _ => []
  | .ok reading =>
    .ordered pattern (Token.render reading.ordered) :: Nfa.eventsOfTokens reading.ordered ++
      match Nfa.ofTokens reading.ordered with
      | .ok nfa => [.compiled pattern reading.tokens.length nfa.stateCount]
      | .error _ => []

variable [CaseMap] [Categories]

/-- What is reported when a pattern is compiled and then run over several inputs. -/
def runEvents (pattern : Pattern) (inputs : List String) : List Event :=
  pattern.compileEvents ++
    match pattern.compile with
    | .ok nfa => inputs.flatMap fun input => (nfa.outcome input).events input
    | .error _ => []

def accepts (pattern : Pattern) (input : String) : Except PatternError Bool := do
  let nfa ← pattern.compile
  return nfa.accepts input

def occurrences (pattern : Pattern) (text : String) : Except PatternError Nat := do
  let nfa ← pattern.compile
  return nfa.occurrences text

/-- Like `occurrences`, with the beginnings dealt out to workers. -/
def occurrencesShared (pattern : Pattern) (text : String) : Except PatternError Nat := do
  let nfa ← pattern.compile
  return nfa.occurrencesShared text

end Pattern

end PatternNfa
