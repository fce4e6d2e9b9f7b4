import PatternNfa.Unicode.ExtendingMark
import PatternNfa.Unicode.Unprintable

/-! Text in double quotes on one line. Quotes and backslashes are escaped, and so is every character that would not
show as itself: what has no visible form, and marks that would join the character before them. Everything else
stands for itself. -/

namespace PatternNfa.Text

/-- Lower-case hexadecimal digits without leading zeros. -/
def hex (n : Nat) : List Char := Nat.toDigits 16 n

/-- How a character is written between quotes. -/
def escape : Char → List Char
  | '\\' => ['\\', '\\']
  | '"' => ['\\', '"']
  | '\t' => ['\\', 't']
  | '\r' => ['\\', 'r']
  | '\n' => ['\\', 'n']
  | '\x00' => ['\\', '0']
  | c =>
    if Unicode.isUnprintable c || Unicode.isExtendingMark c then ['\\', 'u', '\x7b'] ++ hex c.toNat ++ ['\x7d']
    else [c]

def quote (text : String) : String := String.ofList ('"' :: text.toList.flatMap escape ++ ['"'])

end PatternNfa.Text
