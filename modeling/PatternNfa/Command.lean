import PatternNfa.Command.Arguments
import PatternNfa.Pattern
import PatternNfa.Text.Legible
import PatternNfa.Text.Line

/-! The commands of the program and what they print. -/

namespace PatternNfa.Command

/-- The exit code, what is printed, and what is printed for the attention of the caller. -/
structure Report where
  exitCode : UInt32
  output : String
  diagnostics : List String
deriving DecidableEq

/-- The pattern with a case mark in front, unless it has one already or case matters. -/
def markCase (ignoreCase : Bool) (pattern : Pattern) : Pattern :=
  if ignoreCase && !caseMark.isPrefixOf pattern.toList then String.ofList caseMark ++ pattern else pattern

def joinLines (lines : List String) : String := String.join (lines.map (· ++ "\n"))

/-- A line for each input. The exit code tells whether all are matched. -/
def verdictLines (verdicts : List Bool) (inputs : List String) : UInt32 × List String :=
  (if verdicts.all id then 0 else 1, List.zipWith (fun verdict input => s!"{verdict}\t{input}") verdicts inputs)

/-- The exit code and the printed lines of a command, unless its pattern is rejected. -/
def Action.perform [CaseMap] [Categories] (ignoreCase : Bool) : Action → Except PatternError (UInt32 × List String)
  | .accept pattern inputs => do
    let nfa ← (markCase ignoreCase pattern).compile
    return verdictLines (inputs.map nfa.accepts) inputs
  | .count pattern text shared => do
    let nfa ← (markCase ignoreCase pattern).compile
    return (0, [toString (if shared then nfa.occurrencesShared text else nfa.occurrences text)])
  | .order pattern => do
    let reading ← (markCase ignoreCase pattern).read
    return (0, [Token.render reading.ordered])

/-- What is reported while a command is performed. Printing in reverse Polish order reports nothing. -/
def Action.events [CaseMap] [Categories] (ignoreCase : Bool) : Action → List Event
  | .accept pattern inputs => (markCase ignoreCase pattern).runEvents inputs
  | .count pattern text _ =>
    let pattern := markCase ignoreCase pattern
    pattern.runEvents (substrings text) ++
      match pattern.compile with
      | .ok nfa => [.counted nfa.stateCount text.length]
      | .error _ => []
  | .order _ => []

/-- An event as it is written: its level and message, of which further lines are indented, on lines of their own. -/
def entry (event : Event) : List Char :=
  Text.legible (event.level.name.toList ++ ' ' :: Text.indent event.message.toList ++ ['\n'])

/-- Performs a command and reports the events of the wanted level. A rejected pattern leaves nothing printed. -/
def Invocation.report [CaseMap] [Categories] (wanted : Option Level) (invocation : Invocation) : Report :=
  let journal :=
    if wanted.isSome then
      ((invocation.action.events invocation.ignoreCase).filter (Event.isWanted wanted)).flatMap entry
    else []
  match invocation.action.perform invocation.ignoreCase with
  | .ok (exitCode, lines) => ⟨exitCode, joinLines lines, (Text.lines journal).map String.ofList⟩
  | .error error => ⟨2, "", (Text.lines (journal ++ (s!"error: {error.message}\n").toList)).map String.ofList⟩

def versionText : String := "nfa-match 0.1.0"

def usageText : String :=
  "usage: nfa-match [-i] (match PATTERN INPUT... | count [--parallel] PATTERN HAYSTACK | " ++
    "postfix PATTERN)"

def Demand.report [CaseMap] [Categories] (wanted : Option Level) : Demand → Report
  | .perform invocation => invocation.report wanted
  | .version => ⟨0, joinLines [versionText], []⟩
  | .help => ⟨0, joinLines [usageText], []⟩
  | .misuse => ⟨2, "", [usageText]⟩

end PatternNfa.Command
