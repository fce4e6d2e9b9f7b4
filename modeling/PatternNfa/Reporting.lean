import PatternNfa.Command

/-! The work of the program once more, with each event reported where it arises. What has been reported stays reported
if the work fails later on. -/

namespace PatternNfa

/-- Work that may fail, beside the events that have been reported so far, the latest last. -/
abbrev Reporting (α : Type) := ExceptT PatternError (StateM (List Event)) α

/-- Whatever has been reported before, the work comes to this result, and reports these events meanwhile. -/
def Reports {α : Type} (work : Reporting α) (result : Except PatternError α) (events : List Event) : Prop :=
  ∀ journal, work.run.run journal = pure (result, journal ++ events)

namespace Reporting

def report (event : Event) : Reporting Unit := modify (· ++ [event])

/-- Work that reports nothing. -/
def silent {α : Type} (result : Except PatternError α) : Reporting α := ExceptT.mk (pure result)

def refuse (construction : Construction) (mark : Char) : Reporting Construction := do
  report (.strayMark mark)
  throw (.malformed (.groupMark mark) construction.fragments.length)

def step (construction : Construction) : Token → Reporting Construction
  | .single negated cls => return construction.single ⟨negated, cls.chars⟩
  | .operator op => silent (construction.combine op)
  | .opening _ => refuse construction '('
  | .closing _ => refuse construction ')'

def build (tokens : List Token) : Reporting Nfa :=
  match tokens with
  | [] => return ⟨#[.exit], 0, 0⟩
  | tokens => do
    let construction ← tokens.foldlM step ⟨Array.emptyWithCapacity (2 * tokens.length), []⟩
    silent construction.finish

def compile (pattern : Pattern) : Reporting Nfa := do
  let reading ← silent pattern.read
  report (.ordered pattern (Token.render reading.ordered))
  let nfa ← build reading.ordered
  report (.compiled pattern reading.tokens.length nfa.stateCount)
  return nfa

variable [CaseMap] [Categories]

/-- Consumes the rest of `input`, which begins at byte `offset`. -/
def consume (nfa : Nfa) (input : String) (offset : Nat) : List Char → Buffers → Reporting (Bool × Buffers)
  | [], buffers => return (buffers.current.contains nfa.accept, buffers)
  | c :: rest, buffers => do
    let advanced := buffers.step nfa c
    if advanced.current.isEmpty then
      report (.died offset input)
      return (false, advanced)
    else consume nfa input (offset + c.utf8Size) rest advanced

def acceptsWith (nfa : Nfa) (input : String) (buffers : Buffers) : Reporting (Bool × Buffers) :=
  consume nfa input 0 input.toList (buffers.start nfa)

def accepts (nfa : Nfa) (input : String) : Reporting Bool := do
  let (accepted, _) ← acceptsWith nfa input Buffers.empty
  return accepted

/-- The number of inputs that are matched, tried one after the other in the same buffers. -/
def countAccepted (nfa : Nfa) : List String → Buffers → Reporting Nat
  | [], _ => return 0
  | input :: rest, buffers => do
    let (accepted, buffers) ← acceptsWith nfa input buffers
    let count ← countAccepted nfa rest buffers
    return accepted.toNat + count

def occurrences (nfa : Nfa) (text : String) : Reporting Nat := countAccepted nfa (substrings text) Buffers.empty

/-- The count when the beginnings are dealt out to workers, who are told here one after the other. -/
def occurrencesBy (nfa : Nfa) (text : String) (schedule : List (List Nat)) : Reporting Nat := do
  let accepted ← accepts nfa ""
  let counts ← schedule.mapM fun starts => countAccepted nfa (starts.flatMap (substringsFrom text)) Buffers.empty
  return counts.foldl (· + ·) accepted.toNat

open Command

/-- Performs a command. The schedule is for occurrences that workers share. -/
def perform (ignoreCase : Bool) (schedule : List (List Nat)) : Action → Reporting (UInt32 × List String)
  | .accept pattern inputs => do
    let nfa ← compile (markCase ignoreCase pattern)
    let verdicts ← inputs.mapM (accepts nfa)
    return verdictLines verdicts inputs
  | .count pattern text shared => do
    let nfa ← compile (markCase ignoreCase pattern)
    let count ← if shared then occurrencesBy nfa text schedule else occurrences nfa text
    report (.counted nfa.stateCount text.length)
    return (0, [toString count])
  | .order pattern => do
    let reading ← silent (markCase ignoreCase pattern).read
    return (0, [Token.render reading.ordered])

end Reporting

end PatternNfa
