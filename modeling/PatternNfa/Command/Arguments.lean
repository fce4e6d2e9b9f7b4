/-! Reading the arguments of the command line. Flags may stand before the name of the subcommand or among its
values; a double dash ends them. -/

namespace PatternNfa.Command

/-- Try inputs against a pattern, count the occurrences of one in a text, or print one in reverse Polish order. -/
inductive Action where
  | accept (pattern : String) (inputs : List String)
  | count (pattern text : String) (shared : Bool)
  | order (pattern : String)
deriving DecidableEq

structure Invocation where
  ignoreCase : Bool
  action : Action
deriving DecidableEq

/-- What the arguments as a whole ask for. -/
inductive Demand where
  | perform (invocation : Invocation)
  | version
  | help
  | misuse
deriving DecidableEq

inductive Flag where
  | ignoreCase
  | shared
  | version
  | help
deriving DecidableEq

namespace Flag

def ofChar? : Char → Option Flag
  | 'i' => some .ignoreCase
  | 'V' => some .version
  | 'h' => some .help
  | _ => none

def ofName? : String → Option Flag
  | "--ignore-case" => some .ignoreCase
  | "--parallel" => some .shared
  | "--version" => some .version
  | "--help" => some .help
  | _ => none

end Flag

/-- A single argument: a value, the end of the flags, or flags, some of which may be unknown. -/
inductive Argument where
  | value (text : String)
  | terminator
  | flags (flags : List (Option Flag))
deriving DecidableEq

/-- After one dash every character is a flag; after two the whole argument is one. A lone dash is a value. -/
def Argument.ofText (text : String) : Argument :=
  match text.toList with
  | ['-'] => .value text
  | ['-', '-'] => .terminator
  | '-' :: '-' :: _ => .flags [Flag.ofName? text]
  | '-' :: chars => .flags (chars.map Flag.ofChar?)
  | _ => .value text

/-- Raises flags in turn, on top of those raised at the same place before. A flag that is unknown, not permitted
or raised already is a misuse; a request for help or for the version takes effect at once. -/
def raise (permitted raised : List Flag) : List (Option Flag) → Except Demand (List Flag)
  | [] => .ok raised
  | none :: _ => .error .misuse
  | some flag :: rest =>
    if flag ∉ permitted || flag ∈ raised then .error .misuse
    else match flag with
      | .version => .error .version
      | .help => .error .help
      | flag => raise permitted (flag :: raised) rest

inductive Subcommand where
  | accept
  | count
  | order
deriving DecidableEq

namespace Subcommand

def ofName? : String → Option Subcommand
  | "match" => some .accept
  | "count" => some .count
  | "postfix" => some .order
  | _ => none

def permitted : Subcommand → List Flag
  | .count => [.ignoreCase, .shared, .help]
  | _ => [.ignoreCase, .help]

/-- Whether a subcommand that has this many values takes another one. -/
def takesMore (values : Nat) : Subcommand → Bool
  | .accept => true
  | .count => values < 2
  | .order => values < 1

def action? (shared : Bool) : Subcommand → List String → Option Action
  | .accept, pattern :: input :: inputs => some (.accept pattern (input :: inputs))
  | .count, [pattern, text] => some (.count pattern text shared)
  | .order, [pattern] => some (.order pattern)
  | _, _ => none

def conclude (subcommand : Subcommand) (ignoreCase : Bool) (raised : List Flag) (values : List String) : Demand :=
  match subcommand.action? (.shared ∈ raised) values with
  | some action => .perform ⟨ignoreCase || .ignoreCase ∈ raised, action⟩
  | none => .misuse

/-- Reads the arguments after the subcommand, given the flags and values read so far. -/
def read (subcommand : Subcommand) (ignoreCase : Bool) (raised : List Flag) (values : List String) :
    List String → Demand
  | [] => subcommand.conclude ignoreCase raised values
  | text :: rest =>
    match Argument.ofText text with
    | .terminator => subcommand.conclude ignoreCase raised (values ++ rest)
    | .flags flags =>
      match raise subcommand.permitted raised flags with
      | .ok raised => subcommand.read ignoreCase raised values rest
      | .error demand => demand
    | .value value =>
      if subcommand.takesMore values.length then subcommand.read ignoreCase raised (values ++ [value]) rest
      else .misuse

end Subcommand

/-- Help may be asked for about a subcommand too. -/
def helpDemand : List String → Demand
  | [] => .help
  | [name] => if name = "help" || (Subcommand.ofName? name).isSome then .help else .misuse
  | _ => .misuse

/-- Reads the arguments up to the subcommand, given the flags raised so far. -/
def readFrom (raised : List Flag) : List String → Demand
  | [] => .misuse
  | text :: rest =>
    match Argument.ofText text with
    | .terminator => .misuse
    | .flags flags =>
      match raise [.ignoreCase, .version, .help] raised flags with
      | .ok raised => readFrom raised rest
      | .error demand => demand
    | .value name =>
      match Subcommand.ofName? name with
      | some subcommand => subcommand.read (.ignoreCase ∈ raised) [] [] rest
      | none => if name = "help" then helpDemand rest else .misuse

def read (arguments : List String) : Demand := readFrom [] arguments

end PatternNfa.Command
