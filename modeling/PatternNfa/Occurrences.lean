import PatternNfa.Nfa.Run
import PatternNfa.Text.Offset

/-! The occurrences of a pattern in a text, counted over all contiguous substrings. -/

namespace PatternNfa

/-- The pairs of numbers below `count` in which the second is greater than `start`, the first being `start`. -/
def spansFrom (count start : Nat) : List (Nat × Nat) :=
  (List.range' (start + 1) (count - (start + 1))).map fun stop => (start, stop)

/-- The pairs of numbers below `count` that ascend, in lexicographic order. -/
def spans (count : Nat) : List (Nat × Nat) := (List.range count).flatMap (spansFrom count)

/-- The piece of a text between two of its boundaries, which are given by number. -/
def piece? (text : List Char) (boundaries : Array Nat) (span : Nat × Nat) : Option String := do
  let first ← boundaries[span.1]?
  let last ← boundaries[span.2]?
  let piece ← Text.slice? text first last
  return String.ofList piece

/-- The non-empty substrings that begin at the boundary with number `start`, by increasing length. -/
def substringsFrom (text : String) (start : Nat) : List String :=
  let boundaries := (Text.boundaries text.toList).toArray
  (spansFrom boundaries.size start).filterMap (piece? text.toList boundaries)

/-- The empty text, then every non-empty substring by its beginning and by increasing length. -/
def substrings (text : String) : List String :=
  let boundaries := (Text.boundaries text.toList).toArray
  "" :: (spans boundaries.size).filterMap (piece? text.toList boundaries)

namespace Nfa

variable [CaseMap] [Categories]

/-- The number of texts among `inputs` that the automaton matches, tried in one set of buffers. -/
def countAccepted (nfa : Nfa) (inputs : List String) : Nat := (nfa.outcomes inputs).countP Outcome.isAccepted

/-- The number of substrings that the automaton matches as a whole. The empty one counts once. -/
def occurrences (nfa : Nfa) (text : String) : Nat := nfa.countAccepted (substrings text)

/-- The share of one worker, who tries the substrings from the given beginnings in buffers of its own. -/
def share (nfa : Nfa) (text : String) (starts : List Nat) : Nat :=
  nfa.countAccepted (starts.flatMap (substringsFrom text))

/-- The count when the beginnings are dealt out to workers. The empty text is tried apart. -/
def occurrencesBy (nfa : Nfa) (text : String) (schedule : List (List Nat)) : Nat :=
  schedule.foldl (fun total starts => total + nfa.share text starts) (if nfa.accepts "" then 1 else 0)

end Nfa

/-- Deals the numbers below `count` out to workers in turn. -/
def dealOut (workers count : Nat) : List (List Nat) :=
  (List.range workers).map fun worker => (List.range count).filter fun start => start % workers = worker

def Nfa.occurrencesShared [CaseMap] [Categories] (nfa : Nfa) (text : String) : Nat :=
  nfa.occurrencesBy text (dealOut 8 text.length)

end PatternNfa
