import PatternNfa.Nfa.Run
import PatternNfa.PatternError
import PatternNfa.Text.Quoted

/-! What the library reports about its work, for those who want to follow it. -/

namespace PatternNfa

/-- How much an event matters, the weightiest first. -/
inductive Level where
  | error
  | warn
  | info
  | debug
  | trace
deriving DecidableEq

namespace Level

/-- Greater for levels that tell more. -/
def detail : Level → Nat
  | .error => 1
  | .warn => 2
  | .info => 3
  | .debug => 4
  | .trace => 5

def name : Level → String
  | .error => "ERROR"
  | .warn => "WARN"
  | .info => "INFO"
  | .debug => "DEBUG"
  | .trace => "TRACE"

/-- The level of a name in any case. The empty name asks for everything. -/
def ofName? (name : String) : Option Level :=
  match String.ofList (name.toList.map Char.toLower) with
  | "error" => some .error
  | "warn" => some .warn
  | "info" => some .info
  | "debug" => some .debug
  | "trace" => some .trace
  | "" => some .trace
  | _ => none

/-- The level that a filter asks for, which is a level, a name, or both joined by an equals sign. The parts that events
come from have names that begin with that of the program, so a name takes them all in if the program's begins with it.
Filters for some of the parts are not known. -/
def ofFilter? (filter : String) : Option Level :=
  match filter.splitOn "=" with
  | [""] => none
  | [single] => (ofName? single).or (if "nfa_match".startsWith single then some .trace else none)
  | [name, level] => if "nfa_match".startsWith name then ofName? level else none
  | _ => none

end Level

inductive Event where
  | ordered (pattern rendering : String)
  | compiled (pattern : String) (tokens states : Nat)
  | strayMark (mark : Char)
  | died (offset : Nat) (input : String)
  | counted (states chars : Nat)
deriving DecidableEq

namespace Event

def level : Event → Level
  | .ordered .. | .strayMark _ | .died .. => .trace
  | .compiled .. => .debug
  | .counted .. => .info

def message : Event → String
  | .ordered pattern rendering => s!"postfix of {Text.quote pattern}: {rendering}"
  | .compiled pattern tokens states => s!"compiled {Text.quote pattern}: {tokens} tokens, {states} states"
  | .strayMark mark => s!"group mark {mark} left in postfix sequence"
  | .died offset input => s!"no live states after offset {offset} of {Text.quote input}"
  | .counted states chars => s!"{states} states, {chars} chars scanned"

/-- Whether the event is to be reported to someone who asked for a level, or for none. -/
def isWanted (wanted : Option Level) (event : Event) : Bool :=
  match wanted with
  | some level => event.level.detail ≤ level.detail
  | none => false

end Event

/-- The event of a run that ended before its text. -/
def Outcome.events (input : String) : Outcome → List Event
  | .died offset => [.died offset input]
  | _ => []

/-- The event of a construction that met a group mark. -/
def PatternError.events : PatternError → List Event
  | .malformed (.groupMark mark) _ => [.strayMark mark]
  | _ => []

end PatternNfa
