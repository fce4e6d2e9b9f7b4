/-! Byte offsets in a text: its width in UTF-8, the offsets where its characters begin and end, and the piece
between two of them. -/

namespace PatternNfa.Text

/-- The number of bytes that the characters take in UTF-8. -/
def width : List Char → Nat
  | [] => 0
  | char :: rest => char.utf8Size + width rest

theorem width_append (first second : List Char) : width (first ++ second) = width first + width second := by
  induction first with
  | nil => simp [width]
  | cons char rest ih => simp [width, ih, Nat.add_assoc]

theorem width_eq_utf8ByteSize (text : List Char) : width text = (String.ofList text).utf8ByteSize := by
  induction text with
  | nil => rfl
  | cons char rest ih =>
    rw [width, ih, String.ofList_cons, String.utf8ByteSize_append, String.utf8ByteSize_singleton]

/-- The offset of every character and of the end, where the text itself begins at `offset`. -/
def boundariesFrom (offset : Nat) : List Char → List Nat
  | [] => [offset]
  | char :: rest => offset :: boundariesFrom (offset + char.utf8Size) rest

/-- The offsets at which a text can be cut without splitting a character, in ascending order. -/
def boundaries (text : List Char) : List Nat := boundariesFrom 0 text

theorem length_boundariesFrom (offset : Nat) (text : List Char) :
    (boundariesFrom offset text).length = text.length + 1 := by
  induction text generalizing offset with
  | nil => rfl
  | cons char rest ih => simp [boundariesFrom, ih]

/-- The text from a byte offset on, unless the offset splits a character or lies beyond the end. -/
def dropBytes? : Nat → List Char → Option (List Char)
  | 0, text => some text
  | _, [] => none
  | count, char :: rest => if char.utf8Size ≤ count then dropBytes? (count - char.utf8Size) rest else none

/-- The text up to a byte offset, unless the offset splits a character or lies beyond the end. -/
def takeBytes? : Nat → List Char → Option (List Char)
  | 0, _ => some []
  | _, [] => none
  | count, char :: rest =>
    if char.utf8Size ≤ count then (takeBytes? (count - char.utf8Size) rest).map (char :: ·) else none

/-- The piece between two byte offsets, unless one of them splits a character or lies outside the text. -/
def slice? (text : List Char) (first last : Nat) : Option (List Char) :=
  if first ≤ last then dropBytes? first text >>= takeBytes? (last - first) else none

end PatternNfa.Text
