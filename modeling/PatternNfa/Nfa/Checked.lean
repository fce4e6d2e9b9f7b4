import PatternNfa.Nfa.Run

/-! Runs that watch their own accesses. Such a run breaks off where a state or a place lies outside the array that it is
looked up in, where the two sets differ in capacity or lack room for the automaton, and where the budget of an
exploration ends before its work does. -/

namespace PatternNfa.Checked

def contains (set : SparseSet) (id : StateId) : Option Bool := do
  let slot ← set.sparse[id]?
  if slot < set.count then
    let member ← set.dense[slot]?
    return member == id
  else
    return false

/-- A new member needs a place among the others and a slot of its own. -/
def insert (set : SparseSet) (id : StateId) : Option (Bool × SparseSet) := do
  if ← contains set id then
    return (false, set)
  else
    guard (set.count < set.capacity)
    guard (set.count < set.dense.size)
    guard (id < set.sparse.size)
    return (true, ⟨set.count + 1, set.dense.set! set.count id, set.sparse.set! id set.count⟩)

def members (set : SparseSet) : Option (List StateId) := do
  guard (set.count ≤ set.dense.size)
  return set.toList

/-- The accepting state is not looked up. -/
def emptyMoves (nfa : Nfa) (id : StateId) : Option (List StateId) :=
  if id = nfa.accept then some [] else State.emptyMoves <$> nfa.states[id]?

def reach (exploration : Exploration) (id : StateId) : Option Exploration := do
  let (isNew, found) ← insert exploration.found id
  return ⟨found, if isNew then id :: exploration.pending else exploration.pending⟩

def drain (nfa : Nfa) : Nat → Exploration → Option Exploration
  | _, ⟨found, []⟩ => some ⟨found, []⟩
  | 0, ⟨_, _ :: _⟩ => none
  | budget + 1, ⟨found, id :: pending⟩ => do
    let moves ← emptyMoves nfa id
    let exploration ← moves.foldlM reach ⟨found, pending⟩
    drain nfa budget exploration

def enter (nfa : Nfa) (start : StateId) (exploration : Exploration) : Option Exploration := do
  let (isNew, found) ← insert exploration.found start
  if isNew then drain nfa (nfa.stateCount + exploration.pending.length) ⟨found, start :: exploration.pending⟩
  else return ⟨found, exploration.pending⟩

/-- The sets are equally large and have room for the automaton. -/
def room (nfa : Nfa) (current next : SparseSet) : Option Unit :=
  guard (current.capacity = next.capacity ∧ nfa.stateCount ≤ current.capacity)

def start (buffers : Buffers) (nfa : Nfa) : Option Buffers := do
  let ⟨current, next, pending⟩ := buffers.reset nfa.stateCount
  room nfa current next
  let entered ← enter nfa nfa.initial ⟨current, pending⟩
  return ⟨entered.found, next, entered.pending⟩

variable [CaseMap] [Categories]

def consumes (nfa : Nfa) (id : StateId) (c : Char) : Option (Option StateId) := do
  guard (id < nfa.states.size)
  return nfa.consumes? id c

/-- Adds what one live state leads to by consuming a character to the states that are live afterwards. -/
def advance (nfa : Nfa) (c : Char) (current : SparseSet) (exploration : Exploration) (id : StateId) :
    Option Exploration := do
  room nfa current exploration.found
  match ← consumes nfa id c with
  | some target => enter nfa target exploration
  | none => return exploration

def step (buffers : Buffers) (nfa : Nfa) (c : Char) : Option Buffers := do
  let ⟨current, next, pending⟩ := buffers
  let ids ← members current
  let reached ← ids.foldlM (advance nfa c current) ⟨next, pending⟩
  return ⟨reached.found, current.clear, reached.pending⟩

def consume (nfa : Nfa) (offset : Nat) : List Char → Buffers → Option (Outcome × Buffers)
  | [], buffers => do
    room nfa buffers.current buffers.next
    let accepted ← contains buffers.current nfa.accept
    return (if accepted then .accepted else .rejected, buffers)
  | c :: rest, buffers => do
    let advanced ← step buffers nfa c
    if advanced.current.isEmpty then return (.died offset, advanced)
    else consume nfa (offset + c.utf8Size) rest advanced

def run (nfa : Nfa) (input : String) (buffers : Buffers) : Option (Outcome × Buffers) := do
  let begun ← start buffers nfa
  consume nfa 0 input.toList begun

end PatternNfa.Checked
