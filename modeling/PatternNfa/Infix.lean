import PatternNfa.Lexeme
import PatternNfa.Token

/-! From pattern text to tokens in the order in which they are written, with concatenation made explicit.
Lexemes are read first; then negation marks are handed to the tokens they concern; last, neighbouring operands
are joined. -/

namespace PatternNfa

abbrev Pattern := String

/-- The mark at the start of a pattern whose literals and bracketed sets disregard case. -/
def caseMark : List Char := ['(', '?', 'i', ')']

/-- The parts of a pattern: whether it began with the case mark, and the text after it. -/
structure Source where
  anyCase : Bool
  body : List Char
deriving DecidableEq

namespace Source

/-- Only one case mark is taken off. -/
def ofText (pattern : List Char) : Source :=
  if caseMark.isPrefixOf pattern then ⟨true, pattern.drop caseMark.length⟩ else ⟨false, pattern⟩

def base (source : Source) : Nat := if source.anyCase then Text.width caseMark else 0

theorem ofText_marked (text : List Char) : ofText (caseMark ++ text) = ⟨true, text⟩ := by
  simp [ofText]

theorem ofText_unmarked {text : List Char} (unmarked : ¬ caseMark <+: text) : ofText text = ⟨false, text⟩ := by
  simp [ofText, unmarked]

end Source

/-- The class that a character stands for after a backslash. -/
def CharClass.ofEscaped (anyCase : Bool) : Char → CharClass
  | 'd' => .digit
  | 'w' => .letter
  | 's' => .space
  | char => .literal char anyCase

/-- The token that a character stands for by itself at byte `offset`. -/
def Token.ofPlain (anyCase negated : Bool) (offset : Nat) : Char → Token
  | '(' => .opening offset
  | ')' => .closing offset
  | '_' => .single negated .any
  | char =>
    match Operator.ofChar? char with
    | some op => .operator op
    | none => .single negated (.literal char anyCase)

/-- The token of the lexeme at byte `offset`. A negation mark is no token of its own. -/
def Lexeme.token? (anyCase negated : Bool) (offset : Nat) : Lexeme → Option Token
  | .caret => none
  | .escaped char => some (.single negated (.ofEscaped anyCase char))
  | .bracket members => some (.single negated (.set members anyCase))
  | .plain char => some (.ofPlain anyCase negated offset char)

namespace Token

/-- The tokens of lexemes that begin at byte `offset`. A negation mark, once seen, waits for the next token that
matches a character, past operators and group marks; further marks add nothing. -/
def ofLexemes (anyCase : Bool) (offset : Nat) (negated : Bool) : List Lexeme → List Token
  | [] => []
  | lexeme :: rest =>
    match lexeme.token? anyCase negated offset with
    | none => ofLexemes anyCase (offset + lexeme.width) true rest
    | some token => token :: ofLexemes anyCase (offset + lexeme.width) (negated && !token.isSingle) rest

/-- Puts a concatenation wherever an operand ends and the next one begins at once. -/
def join : List Token → List Token
  | first :: second :: rest =>
    if first.closesOperand && second.opensOperand then
      first :: .operator .concat :: join (second :: rest)
    else
      first :: join (second :: rest)
  | tokens => tokens

end Token

def Source.lexemes (source : Source) : Except PatternError (List Lexeme) := Lexeme.read source.base source.body

/-- The tokens of a pattern as written. Whether the group marks balance is not looked at here. -/
def Pattern.tokens (pattern : Pattern) : Except PatternError (List Token) := do
  let source := Source.ofText pattern.toList
  let lexemes ← source.lexemes
  return Token.join (Token.ofLexemes source.anyCase source.base false lexemes)

end PatternNfa
