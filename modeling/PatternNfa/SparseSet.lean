import PatternNfa.Nfa

/-! Sets of states that are emptied in constant time. A state belongs to the set if its slot points to a place among
the members where the state itself stands, so whatever lies beyond the last member need never be wiped. -/

namespace PatternNfa

/-- The first `count` places of `dense` hold the members in the order of their insertion, and `sparse` holds a slot
for every state, which points to a place in `dense`. -/
structure SparseSet where
  count : Nat
  dense : Array StateId
  sparse : Array Nat
deriving DecidableEq

namespace SparseSet

def empty : SparseSet := ⟨0, #[], #[]⟩

/-- The number of states there is room for. -/
def capacity (set : SparseSet) : Nat := set.sparse.size

/-- The members in the order of their insertion. -/
def toList (set : SparseSet) : List StateId := (set.dense.take set.count).toList

def size (set : SparseSet) : Nat := set.count

def isEmpty (set : SparseSet) : Bool := set.count == 0

/-- Empties the set and makes room for exactly `count` states. Old entries are kept as far as there is room. -/
def resize (set : SparseSet) (count : Nat) : SparseSet :=
  ⟨0, (set.dense.take count).rightpad count 0, (set.sparse.take count).rightpad count 0⟩

def ofCapacity (count : Nat) : SparseSet := empty.resize count

def clear (set : SparseSet) : SparseSet := { set with count := 0 }

def contains (set : SparseSet) (id : StateId) : Bool :=
  match set.sparse[id]? with
  | some slot =>
    match set.dense[slot]? with
    | some member => slot < set.count && member == id
    | none => false
  | none => false

/-- Appends a state to the members and tells whether it was new. -/
def insert (set : SparseSet) (id : StateId) : Bool × SparseSet :=
  if set.contains id then (false, set)
  else (true, ⟨set.count + 1, set.dense.set! set.count id, set.sparse.set! id set.count⟩)

theorem toList_clear (set : SparseSet) : set.clear.toList = [] := by simp [toList, clear]

theorem toList_resize (set : SparseSet) (count : Nat) : (set.resize count).toList = [] := by simp [toList, resize]

theorem toList_ofCapacity (count : Nat) : (ofCapacity count).toList = [] := toList_resize empty count

theorem capacity_resize (set : SparseSet) (count : Nat) : (set.resize count).capacity = count := by
  have kept : (set.sparse.take count).size ≤ count := by
    rw [Array.take_eq_extract, Array.size_extract]
    omega
  simp only [capacity, resize, Array.size_rightpad]
  exact Nat.max_eq_left kept

end SparseSet

end PatternNfa
