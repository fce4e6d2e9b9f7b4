/-! Text for a reader without a terminal. Control characters other than white space are left out, and so is all that
steers a terminal: escape sequences, control sequences and control strings, each from ESC to its end. -/

namespace PatternNfa.Text

/-- What a place in a text belongs to. -/
inductive Passage where
  /-- Ordinary text. -/
  | text
  /-- An escape sequence, of which only ESC has been read. -/
  | escape
  /-- An escape sequence whose last character is still to come. -/
  | selection
  /-- A control sequence, introduced by `ESC [`. -/
  | sequence
  /-- A command to the operating system, introduced by `ESC ]`. -/
  | command
  /-- The head of a device control string, introduced by `ESC P`. -/
  | device
  /-- The head of a device control string, among its parameters. -/
  | deviceParameters
  /-- The head of a device control string, behind its parameters. -/
  | deviceIntermediates
  /-- The body of a control string. -/
  | string
deriving DecidableEq

/-- The passage behind a character that is read as part of one. ESC begins a new passage wherever it stands, and CAN and
SUB lead back to the text. The byte 9C ends the body of a string, whatever character it is part of. -/
def Passage.next (passage : Passage) (c : Char) : Passage :=
  if c = '\x1b' then .escape
  else if c = '\x18' || c = '\x1a' then .text
  else
    match passage with
    | .text => .text
    | .escape =>
      if c = '[' then .sequence
      else if c = ']' then .command
      else if c = 'P' then .device
      else if c = 'X' || c = '^' || c = '_' then .string
      else if ' ' ≤ c && c ≤ '/' then .selection
      else if '0' ≤ c && c ≤ '~' then .text
      else .escape
    | .selection => if '0' ≤ c && c ≤ '~' then .text else .selection
    | .sequence => if '@' ≤ c && c ≤ '~' then .text else .sequence
    | .command => if c = '\x07' then .text else .command
    | .device =>
      if ' ' ≤ c && c ≤ '/' then .deviceIntermediates
      else if '0' ≤ c && c ≤ '?' then .deviceParameters
      else if '@' ≤ c && c ≤ '~' then .string
      else .device
    | .deviceParameters =>
      if ' ' ≤ c && c ≤ '/' then .deviceIntermediates
      else if '<' ≤ c && c ≤ '~' then .string
      else .deviceParameters
    | .deviceIntermediates => if '0' ≤ c && c ≤ '~' then .string else .deviceIntermediates
    | .string => if (String.utf8EncodeChar c).contains 0x9c then .text else .string

/-- Whether white space suspends the passage. Strings and commands swallow it. -/
def Passage.yieldsToWhite : Passage → Bool
  | .escape | .selection | .sequence => true
  | _ => false

def isWhite (c : Char) : Bool := c = '\t' || c = '\n' || c = '\x0c' || c = '\r'

/-- Whether ordinary text keeps a character. -/
def isLegible (c : Char) : Bool := isWhite c || (' ' ≤ c && c ≠ '\x7f')

/-- What is legible of a text that begins in a passage. White space suspends an escape or control sequence: from there
on text flows, up to a character that is not legible, with which the sequence continues. A character beyond ASCII in
such text ends the sequence. -/
def legibleFrom (passage : Passage) (suspended : Bool) : List Char → List Char
  | [] => []
  | c :: rest =>
    if passage = .text || suspended then
      if isLegible c then c :: legibleFrom (if c.toNat < 0x80 then passage else .text) suspended rest
      else legibleFrom (passage.next c) false rest
    else if isWhite c && passage.yieldsToWhite then c :: legibleFrom passage true rest
    else legibleFrom (passage.next c) false rest

def legible (text : List Char) : List Char := legibleFrom .text false text

end PatternNfa.Text
