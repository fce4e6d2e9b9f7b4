import PatternNfa.SparseSet

/-! The states that are reached without consuming a character. -/

namespace PatternNfa

/-- The states found so far and those among them whose own moves are still to be followed, the next one first. -/
structure Exploration where
  found : SparseSet
  pending : List StateId
deriving DecidableEq

namespace Exploration

/-- Notes a state that has been reached. One found before needs no second visit. -/
def reach (exploration : Exploration) (id : StateId) : Exploration :=
  match exploration.found.insert id with
  | (true, found) => ⟨found, id :: exploration.pending⟩
  | (false, found) => ⟨found, exploration.pending⟩

/-- Follows the moves of pending states, the latest first, as long as there are any and the budget lasts. -/
def drain (nfa : Nfa) : Nat → Exploration → Exploration
  | 0, exploration => exploration
  | budget + 1, exploration =>
    match exploration.pending with
    | [] => exploration
    | id :: pending => drain nfa budget ((nfa.emptyMoves id).foldl reach ⟨exploration.found, pending⟩)

end Exploration

namespace Nfa

/-- Adds a state to those found, with all states that are reached from it by empty moves. A state found before is not
followed again. Every other state becomes pending once at most, so the budget is the number of states, and of those
that are pending already. -/
def enter (nfa : Nfa) (start : StateId) (exploration : Exploration) : Exploration :=
  match exploration.found.insert start with
  | (true, found) =>
    Exploration.drain nfa (nfa.stateCount + exploration.pending.length) ⟨found, start :: exploration.pending⟩
  | (false, found) => ⟨found, exploration.pending⟩

/-- The states reached from a state by empty moves, in the order in which they are found. -/
def closure (nfa : Nfa) (start : StateId) : List StateId :=
  (nfa.enter start ⟨SparseSet.ofCapacity nfa.stateCount, []⟩).found.toList

end Nfa

end PatternNfa
