import PatternNfa.PatternError
import PatternNfa.Text.Offset

/-! The lexemes of patterns: the shortest pieces of a pattern that mean something by themselves. -/

namespace PatternNfa

/-- A negation mark, a character after a backslash, a bracketed set, or any other character by itself. -/
inductive Lexeme where
  | caret
  | escaped (char : Char)
  | bracket (members : List Char)
  | plain (char : Char)
deriving DecidableEq

namespace Lexeme

def text : Lexeme → List Char
  | .caret => ['^']
  | .escaped char => ['\\', char]
  | .bracket members => '[' :: members ++ [']']
  | .plain char => [char]

/-- The number of bytes that the lexeme takes in the pattern. -/
def width (lexeme : Lexeme) : Nat := Text.width lexeme.text

mutual

/-- The lexemes of a text that begins at byte `offset` of the pattern. -/
def read (offset : Nat) : List Char → Except PatternError (List Lexeme)
  | [] => .ok []
  | '\\' :: [] => .error (.trailingBackslash offset)
  | '\\' :: char :: rest => (.escaped char :: ·) <$> read (offset + (Lexeme.escaped char).width) rest
  | '[' :: rest => readBracket offset [] rest
  | '^' :: rest => (.caret :: ·) <$> read (offset + Lexeme.caret.width) rest
  | char :: rest => (.plain char :: ·) <$> read (offset + (Lexeme.plain char).width) rest

/-- Continues inside the bracket opened at byte `offset`, whose members so far are given in reverse. Everything
up to the next closing bracket is a member. -/
def readBracket (offset : Nat) (members : List Char) : List Char → Except PatternError (List Lexeme)
  | [] => .error (.unterminatedClass offset)
  | ']' :: rest =>
    (.bracket members.reverse :: ·) <$> read (offset + (Lexeme.bracket members.reverse).width) rest
  | char :: rest => readBracket offset (char :: members) rest

end

mutual

/-- Nothing of the text is lost or added. -/
theorem flatMap_text_of_read (offset : Nat) (text : List Char) {lexemes : List Lexeme}
    (done : read offset text = .ok lexemes) : lexemes.flatMap Lexeme.text = text := by
  unfold read at done
  split at done
  next => simp_all
  next => cases done
  next char rest =>
    obtain ⟨later, found, rfl⟩ := exists_of_map done
    simp [Lexeme.text, flatMap_text_of_read _ rest found]
  next rest => simpa using flatMap_text_of_readBracket offset [] rest done
  next rest =>
    obtain ⟨later, found, rfl⟩ := exists_of_map done
    simp [Lexeme.text, flatMap_text_of_read _ rest found]
  next char rest _ _ _ _ =>
    obtain ⟨later, found, rfl⟩ := exists_of_map done
    simp [Lexeme.text, flatMap_text_of_read _ rest found]

theorem flatMap_text_of_readBracket (offset : Nat) (members text : List Char) {lexemes : List Lexeme}
    (done : readBracket offset members text = .ok lexemes) :
    lexemes.flatMap Lexeme.text = '[' :: members.reverse ++ text := by
  unfold readBracket at done
  split at done
  next => cases done
  next rest =>
    obtain ⟨later, found, rfl⟩ := exists_of_map done
    simp [Lexeme.text, flatMap_text_of_read _ rest found]
  next char rest _ => simp [flatMap_text_of_readBracket offset (char :: members) rest done]

end

theorem read_plain {char : Char} (escape : char ≠ '\\') (bracket : char ≠ '[') (caret : char ≠ '^') (offset : Nat)
    (rest : List Char) :
    read offset (char :: rest) = (.plain char :: ·) <$> read (offset + (Lexeme.plain char).width) rest := by
  rw [read]
  · exact fun same _ => escape same
  · exact fun _ _ same _ => escape same
  · exact bracket
  · exact caret

private theorem map_cons (lexeme : Lexeme) (before : List Lexeme) (after : Except PatternError (List Lexeme)) :
    (lexeme :: ·) <$> (before ++ ·) <$> after = ((lexeme :: before) ++ ·) <$> after := by
  cases after <;> rfl

theorem add_width (offset : Nat) (lexeme : Lexeme) (text : List Char) :
    offset + lexeme.width + Text.width text = offset + Text.width (lexeme.text ++ text) := by
  rw [Text.width_append, Nat.add_assoc, width]

mutual

/-- A text that can be read by itself is read first, whatever follows. -/
theorem read_append (offset : Nat) (text rest : List Char) {lexemes : List Lexeme}
    (done : read offset text = .ok lexemes) :
    read offset (text ++ rest) = (lexemes ++ ·) <$> read (offset + Text.width text) rest := by
  unfold read at done
  split at done
  next =>
    cases done
    rw [List.nil_append, Text.width, Nat.add_zero]
    cases read offset rest <;> rfl
  next => cases done
  next char after =>
    obtain ⟨later, found, rfl⟩ := exists_of_map done
    simp only [List.cons_append, read, read_append _ after rest found, map_cons, add_width]
    rfl
  next after => exact readBracket_append offset [] after rest done
  next after =>
    obtain ⟨later, found, rfl⟩ := exists_of_map done
    simp only [List.cons_append, read, read_append _ after rest found, map_cons, add_width]
    rfl
  next char after alone escape bracket caret =>
    have unescaped : char ≠ '\\' := by
      intro same
      cases after with
      | nil => exact alone same rfl
      | cons next after => exact escape next after same rfl
    obtain ⟨later, found, rfl⟩ := exists_of_map done
    rw [List.cons_append, read_plain unescaped bracket caret, read_append _ after rest found, map_cons, add_width]
    rfl

theorem readBracket_append (offset : Nat) (members text rest : List Char) {lexemes : List Lexeme}
    (done : readBracket offset members text = .ok lexemes) : readBracket offset members (text ++ rest) =
      (lexemes ++ ·) <$> read (offset + Text.width ('[' :: members.reverse ++ text)) rest := by
  unfold readBracket at done
  split at done
  next => cases done
  next after =>
    obtain ⟨later, found, rfl⟩ := exists_of_map done
    simp only [List.cons_append, readBracket, read_append _ after rest found, map_cons, add_width]
    simp [text]
  next char after inside =>
    rw [List.cons_append, readBracket, readBracket_append offset (char :: members) after rest done]
    · simp
    · exact inside

end

end Lexeme

end PatternNfa
