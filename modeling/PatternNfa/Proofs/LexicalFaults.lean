import PatternNfa.Proofs.Decomposition

/-! What keeps a text from being read: a backslash that nothing follows, or a bracket that is never closed. Everything
before it consists of lexemes. -/

namespace PatternNfa.Lexeme

/-- What is left of a text after as many lexemes as it has: nothing, or the beginning of one more. -/
inductive Remnant : List Char → Prop where
  | none : Remnant []
  | backslash : Remnant ['\\']
  | bracket {members} (unended : ']' ∉ members) : Remnant ('[' :: members)

/-- A text that is more than a remnant begins with a lexeme. -/
theorem begins (text : List Char) : Remnant text ∨
    ∃ (lexeme : Lexeme) (rest : List Char), lexeme.WellFormed ∧ text = lexeme.text ++ rest := by
  cases text with
  | nil => exact Or.inl .none
  | cons char rest =>
    by_cases escape : char = '\\'
    · subst escape
      cases rest with
      | nil => exact Or.inl .backslash
      | cons next rest => exact Or.inr ⟨.escaped next, rest, trivial, rfl⟩
    by_cases bracket : char = '['
    · subst bracket
      by_cases ended : ']' ∈ rest
      · obtain ⟨members, after, rfl, inside⟩ := List.eq_append_cons_of_mem ended
        exact Or.inr ⟨.bracket members, after, inside, by simp [Lexeme.text]⟩
      · exact Or.inl (.bracket ended)
    by_cases caret : char = '^'
    · exact Or.inr ⟨.caret, rest, trivial, by rw [caret]; rfl⟩
    · exact Or.inr ⟨.plain char, rest, by simp [WellFormed, escape, bracket, caret], rfl⟩

theorem text_ne_nil (lexeme : Lexeme) : lexeme.text ≠ [] := by
  cases lexeme <;> simp [Lexeme.text]

/-- Every text consists of lexemes and a remnant. -/
theorem divided (text : List Char) : ∃ (lexemes : List Lexeme) (remnant : List Char),
    (∀ lexeme ∈ lexemes, lexeme.WellFormed) ∧ text = lexemes.flatMap Lexeme.text ++ remnant ∧ Remnant remnant := by
  rcases begins text with remnant | ⟨lexeme, rest, wellFormed, rfl⟩
  · exact ⟨[], text, by simp, rfl, remnant⟩
  · obtain ⟨lexemes, remnant, others, same, left⟩ := divided rest
    refine ⟨lexeme :: lexemes, remnant, List.forall_mem_cons.mpr ⟨wellFormed, others⟩, ?_, left⟩
    rw [List.flatMap_cons, List.append_assoc, ← same]
termination_by text.length
decreasing_by
  have positive := List.length_pos_iff.mpr lexeme.text_ne_nil
  simp_all

theorem readBracket_unended (offset : Nat) (before : List Char) {members : List Char} (unended : ']' ∉ members) :
    readBracket offset before members = .error (.unterminatedClass offset) := by
  induction members generalizing before with
  | nil => rw [readBracket]
  | cons char members ih =>
    obtain ⟨other, unended⟩ := not_or.mp (mt List.mem_cons.mpr unended)
    rw [readBracket, ih (char :: before) unended]
    exact fun same => other same.symm

theorem read_divided {lexemes : List Lexeme} (wellFormed : ∀ lexeme ∈ lexemes, lexeme.WellFormed) (offset : Nat)
    (remnant : List Char) : read offset (lexemes.flatMap Lexeme.text ++ remnant) =
      (lexemes ++ ·) <$> read (offset + Text.width (lexemes.flatMap Lexeme.text)) remnant :=
  read_append offset _ remnant (read_flatMap_text wellFormed offset)

/-- The two ways in which a text cannot be read. The error points at the first character of what is left. -/
theorem read_failed {offset : Nat} {text : List Char} {error : PatternError}
    (failed : read offset text = .error error) :
    ∃ before, (text = before ++ ['\\'] ∧ error = .trailingBackslash (offset + Text.width before)) ∨
      ∃ members, text = before ++ '[' :: members ∧ ']' ∉ members ∧
        error = .unterminatedClass (offset + Text.width before) := by
  obtain ⟨lexemes, remnant, wellFormed, rfl, left⟩ := divided text
  rw [read_divided wellFormed] at failed
  refine ⟨lexemes.flatMap Lexeme.text, ?_⟩
  cases left with
  | none =>
    rw [read] at failed
    cases failed
  | backslash =>
    rw [read] at failed
    cases failed
    exact Or.inl ⟨rfl, rfl⟩
  | bracket unended =>
    rw [read, readBracket_unended _ _ unended] at failed
    cases failed
    exact Or.inr ⟨_, rfl, unended, rfl⟩

end PatternNfa.Lexeme
