import PatternNfa.Nfa.Closure

/-! Running an automaton over a text. All states that the automaton could be in are kept at once and advance
together, character by character, so no part of the text is read twice. -/

namespace PatternNfa

/-- The states before and after the character being consumed, and those that are pending while one is entered. The
same buffers serve any number of runs. -/
structure Buffers where
  current : SparseSet
  next : SparseSet
  pending : List StateId
deriving DecidableEq

/-- How a run ends: the whole text was consumed, or no state was left after the character at a byte offset. -/
inductive Outcome where
  | accepted
  | rejected
  | died (offset : Nat)
deriving DecidableEq

def Outcome.isAccepted : Outcome → Bool
  | .accepted => true
  | _ => false

namespace Buffers

def empty : Buffers := ⟨SparseSet.empty, SparseSet.empty, []⟩

/-- Empties the buffers. The sets grow together if there is no room for `count` states. -/
def reset (buffers : Buffers) (count : Nat) : Buffers :=
  if buffers.current.capacity < count then ⟨buffers.current.resize count, buffers.next.resize count, []⟩
  else ⟨buffers.current.clear, buffers.next.clear, []⟩

/-- The buffers at the start of a run: the closure of the initial state is current. -/
def start (buffers : Buffers) (nfa : Nfa) : Buffers :=
  let ⟨current, next, pending⟩ := buffers.reset nfa.stateCount
  let entered := nfa.enter nfa.initial ⟨current, pending⟩
  ⟨entered.found, next, entered.pending⟩

end Buffers

/-- Adds what one live state leads to by consuming a character. -/
def Nfa.advance [CaseMap] [Categories] (nfa : Nfa) (c : Char) (exploration : Exploration) (id : StateId) :
    Exploration :=
  match nfa.consumes? id c with
  | some target => nfa.enter target exploration
  | none => exploration

/-- Consumes one character. The sets change places and the old one is emptied. -/
def Buffers.step [CaseMap] [Categories] (buffers : Buffers) (nfa : Nfa) (c : Char) : Buffers :=
  let ⟨current, next, pending⟩ := buffers
  let reached := current.toList.foldl (nfa.advance c) ⟨next, pending⟩
  ⟨reached.found, current.clear, reached.pending⟩

namespace Nfa

variable [CaseMap] [Categories]

/-- Consumes the rest of a text, which begins at byte `offset`. -/
def consume (nfa : Nfa) (offset : Nat) : List Char → Buffers → Outcome × Buffers
  | [], buffers => (if buffers.current.contains nfa.accept then .accepted else .rejected, buffers)
  | c :: rest, buffers =>
    let advanced := buffers.step nfa c
    if advanced.current.isEmpty then (.died offset, advanced)
    else consume nfa (offset + c.utf8Size) rest advanced

/-- Runs the automaton over a text from the start, in buffers left over from any earlier run. -/
def run (nfa : Nfa) (input : String) (buffers : Buffers) : Outcome × Buffers :=
  nfa.consume 0 input.toList (buffers.start nfa)

def outcome (nfa : Nfa) (input : String) : Outcome := (nfa.run input Buffers.empty).1

/-- Whether the automaton matches the whole of a text. -/
def accepts (nfa : Nfa) (input : String) : Bool := (nfa.outcome input).isAccepted

/-- Like `accepts`, in buffers of the caller, which are handed back. -/
def acceptsWith (nfa : Nfa) (input : String) (buffers : Buffers) : Bool × Buffers :=
  let (outcome, buffers) := nfa.run input buffers
  (outcome.isAccepted, buffers)

/-- The outcomes of runs over several texts, one after the other in the same buffers. -/
def outcomes (nfa : Nfa) (inputs : List String) : Array Outcome :=
  (inputs.foldl (fun (ended, buffers) input =>
    let (outcome, buffers) := nfa.run input buffers
    (ended.push outcome, buffers)) (#[], Buffers.empty)).1

end Nfa

end PatternNfa
