import PatternNfa.Infix

/-! Scanning a pattern character by character. A token is put out with its last character, and whether it has to be
joined to the one before it is decided then. -/

namespace PatternNfa

/-- What scanning has come to: the offset of a backslash whose character is still to come, whether a negation mark
waits, the offset and the members of a bracket that is still open, and the tokens put out. -/
structure Scanner where
  escaping : Option Nat
  negating : Bool
  bracket : Option (Nat × List Char)
  tokens : Array Token
deriving DecidableEq

namespace Scanner

def start : Scanner := ⟨none, false, none, #[]⟩

def push (token : Token) (scanner : Scanner) : Scanner := { scanner with tokens := scanner.tokens.push token }

/-- Adds a token with which an operand begins. It is joined to the operand that may have ended with the last token. -/
def addJoined (tokens : Array Token) (token : Token) : Array Token :=
  if tokens.back?.any Token.closesOperand then (tokens.push (.operator .concat)).push token else tokens.push token

def pushOperand (token : Token) (scanner : Scanner) : Scanner :=
  { scanner with tokens := addJoined scanner.tokens token }

/-- Puts out a token that matches a character. If a negation mark waits, it goes to this token. -/
def pushSingle (cls : CharClass) (scanner : Scanner) : Scanner :=
  { scanner with negating := false }.pushOperand (.single scanner.negating cls)

/-- Reads the character at byte `offset`. -/
def step (anyCase : Bool) (offset : Nat) (scanner : Scanner) (c : Char) : Scanner :=
  match scanner.bracket, scanner.escaping with
  | some (first, members), _ =>
    if c = ']' then { scanner with bracket := none }.pushSingle (.set members anyCase)
    else { scanner with bracket := some (first, members ++ [c]) }
  | none, some _ => { scanner with escaping := none }.pushSingle (.ofEscaped anyCase c)
  | none, none =>
    match c with
    | '\\' => { scanner with escaping := some offset }
    | '^' => { scanner with negating := true }
    | '[' => { scanner with bracket := some (offset, []) }
    | '(' => scanner.pushOperand (.opening offset)
    | ')' => scanner.push (.closing offset)
    | '_' => scanner.pushSingle .any
    | c =>
      match Operator.ofChar? c with
      | some op => scanner.push (.operator op)
      | none => scanner.pushSingle (.literal c anyCase)

/-- Reads a text that begins at byte `offset`. -/
def steps (anyCase : Bool) (offset : Nat) (scanner : Scanner) : List Char → Scanner
  | [] => scanner
  | c :: rest => steps anyCase (offset + c.utf8Size) (scanner.step anyCase offset c) rest

def finish (scanner : Scanner) : Except PatternError (List Token) :=
  match scanner.escaping, scanner.bracket with
  | some offset, _ => .error (.trailingBackslash offset)
  | none, some (first, _) => .error (.unterminatedClass first)
  | none, none => .ok scanner.tokens.toList

/-- What has been put out when the first characters of the body have been read. -/
def afterBody (source : Source) (read : List Char) : Scanner := start.steps source.anyCase source.base read

def scan (pattern : Pattern) : Except PatternError (List Token) :=
  let source := Source.ofText pattern.toList
  (afterBody source source.body).finish

end Scanner

end PatternNfa
