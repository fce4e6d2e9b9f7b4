/-! Lines of a text. A line ends with a line feed, which a carriage return may precede; the last may lack its end. -/

namespace PatternNfa.Text

/-- Puts a character before a text that is given by the pieces between its line feeds. -/
def consPiece (c : Char) : List (List Char) → List (List Char)
  | [] => [[c]]
  | first :: rest => if c = '\n' then [] :: first :: rest else (c :: first) :: rest

/-- The pieces between the line feeds, one more than there are line feeds. -/
def pieces (text : List Char) : List (List Char) := text.foldr consPiece [[]]

/-- A line without the carriage return at its end. -/
def dropReturn (line : List Char) : List Char := if line.getLast? = some '\r' then line.dropLast else line

/-- The lines without their ends. Nothing follows the last line feed of a text that ends with one. -/
def lines (text : List Char) : List (List Char) :=
  let all := pieces text
  all.dropLast.map dropReturn ++ all.getLast?.toList.filter (! ·.isEmpty)

/-- Sets every line but the first back by four blanks. -/
def indent (text : List Char) : List Char :=
  text.flatMap fun c => if c = '\n' then '\n' :: List.replicate 4 ' ' else [c]

end PatternNfa.Text
