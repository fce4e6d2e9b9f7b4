import PatternNfa.Predicate

/-! Automata with empty moves. The states live in one array and refer to each other by position, so the cycles
that repetition needs are plain data. -/

namespace PatternNfa

/-- The position of a state in its automaton. -/
abbrev StateId := Nat

/-- The 32-bit word under which a state is reported. -/
def StateId.word (id : StateId) : UInt32 := id.toUInt32

/-- A state without successors, one that consumes a character, or one that moves on without consuming any. -/
inductive State where
  | exit
  | consume (predicate : Predicate) (next : StateId)
  | jump (next : StateId)
  | fork (first second : StateId)
deriving DecidableEq

namespace State

def predicate? : State → Option Predicate
  | .consume predicate _ => some predicate
  | _ => none

def successors : State → List StateId
  | .exit => []
  | .consume _ next => [next]
  | .jump next => [next]
  | .fork first second => [first, second]

/-- The successors that are reached without consuming a character, in order. -/
def emptyMoves : State → List StateId
  | .consume .. => []
  | state => state.successors

theorem emptyMoves_subset (state : State) : state.emptyMoves ⊆ state.successors := by
  cases state <;> simp [emptyMoves, successors]

end State

/-- An automaton accepts a text if the text leads from the initial state to the accepting one. -/
structure Nfa where
  states : Array State
  initial : StateId
  accept : StateId
deriving DecidableEq

namespace Nfa

def stateCount (nfa : Nfa) : Nat := nfa.states.size

/-- The states reached from a state by one empty move. The accepting state is left only by ending the text. -/
def emptyMoves (nfa : Nfa) (id : StateId) : List StateId :=
  if id = nfa.accept then []
  else match nfa.states[id]? with
    | some state => state.emptyMoves
    | none => []

/-- The state reached from a state by consuming a character, if the state accepts the character. -/
def consumes? [CaseMap] [Categories] (nfa : Nfa) (id : StateId) (c : Char) : Option StateId :=
  match nfa.states[id]? with
  | some (.consume predicate next) => if predicate.accepts c then some next else none
  | _ => none

def describe (nfa : Nfa) : String :=
  s!"Nfa \x7b states: StateArena \x7b states_count: {nfa.stateCount} \x7d, " ++
    s!"initial: StateId({nfa.initial.word.toNat}), accept: StateId({nfa.accept.word.toNat}) \x7d"

end Nfa

end PatternNfa
