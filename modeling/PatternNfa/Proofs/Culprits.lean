import PatternNfa.Proofs.LexicalFaults
import PatternNfa.Proofs.PatternLanguage
import PatternNfa.Proofs.Substrings
import PatternNfa.Proofs.UnmatchedMarks

/-! What the errors of patterns point at: always a character of the pattern as it was given, and the one that is to
blame. Faults of the lexemes come first, then those of the group marks, then those of the operands. -/

namespace PatternNfa

namespace Text

/-- The character that stands at byte `offset` of a text, with what is before it and what comes after it. -/
structure Shows (text : List Char) (offset : Nat) (before : List Char) (char : Char) (after : List Char) : Prop where
  text_eq : text = before ++ char :: after
  offset_eq : offset = width before

namespace Shows

variable {text before after : List Char} {offset : Nat} {char : Char}

theorem behind (shows : Shows text offset before char after) (mark : List Char) :
    Shows (mark ++ text) (width mark + offset) (mark ++ before) char after where
  text_eq := by rw [shows.text_eq, List.append_assoc]
  offset_eq := by rw [shows.offset_eq, width_append]

theorem lt_width (shows : Shows text offset before char after) : offset < width text := by
  have positive := char.utf8Size_pos
  rw [shows.offset_eq, shows.text_eq, width_append, width]
  omega

theorem mem_boundaries (shows : Shows text offset before char after) : offset ∈ boundaries text := by
  have inside : before.length ≤ text.length := by
    rw [shows.text_eq, List.length_append]
    exact Nat.le_add_right _ _
  have found := getElem?_boundariesFrom 0 inside
  rw [shows.text_eq, List.take_left, Nat.zero_add, ← shows.offset_eq, ← shows.text_eq] at found
  exact List.mem_of_getElem? found

end Shows

end Text

/-- The mark that a pattern begins with, if it begins with one. -/
def Source.mark (source : Source) : List Char := if source.anyCase then caseMark else []

theorem Source.base_eq (source : Source) : source.base = Text.width source.mark := by
  unfold base mark
  split <;> rfl

namespace PatternError

def offset? : PatternError → Option Nat
  | .unmatchedParenthesis offset | .unterminatedClass offset | .trailingBackslash offset => some offset
  | .malformed .. => none

def isLexical : PatternError → Bool
  | .unterminatedClass _ | .trailingBackslash _ => true
  | .unmatchedParenthesis _ | .malformed .. => false

/-- What has to be wrong with a pattern that is rejected with an error. -/
def Justified (pattern : List Char) : PatternError → Prop
  | .trailingBackslash offset => ∃ before, Text.Shows pattern offset before '\\' []
  | .unterminatedClass offset => ∃ before after, Text.Shows pattern offset before '[' after ∧ ']' ∉ after
  | .unmatchedParenthesis offset => ∃ (before : List Lexeme) (mark : Char) (after : List Lexeme),
      Lexeme.Decomposition (Source.ofText pattern).body (before ++ .plain mark :: after) ∧
      Text.Shows pattern offset ((Source.ofText pattern).mark ++ before.flatMap Lexeme.text) mark
        (after.flatMap Lexeme.text) ∧
      (mark = ')' ∧ Lexeme.Balanced before ∨
        mark = '(' ∧ Lexeme.Closable (before ++ .plain mark :: after) ∧ Lexeme.Balanced after)
  | .malformed .. => ∃ lexemes, Lexeme.Decomposition (Source.ofText pattern).body lexemes ∧ Lexeme.Balanced lexemes

theorem Justified.shows {pattern : List Char} {error : PatternError} (justified : error.Justified pattern)
    {offset : Nat} (found : error.offset? = some offset) :
    ∃ before char after, Text.Shows pattern offset before char after := by
  cases error with
  | trailingBackslash =>
    cases found
    obtain ⟨before, shows⟩ := justified
    exact ⟨before, _, _, shows⟩
  | unterminatedClass =>
    cases found
    obtain ⟨before, after, shows, _⟩ := justified
    exact ⟨before, _, after, shows⟩
  | unmatchedParenthesis =>
    cases found
    obtain ⟨_, mark, _, _, shows, _⟩ := justified
    exact ⟨_, mark, _, shows⟩
  | malformed => cases found

end PatternError

namespace Pattern

variable {pattern : Pattern}

theorem shows_of_body {offset : Nat} {before after : List Char} {char : Char}
    (shows : Text.Shows (Source.ofText pattern.toList).body offset before char after) :
    Text.Shows pattern.toList ((Source.ofText pattern.toList).base + offset)
      ((Source.ofText pattern.toList).mark ++ before) char after := by
  have within := shows.behind (Source.ofText pattern.toList).mark
  rwa [Source.mark, ← (Source.ofText_parts pattern.toList).text_eq, ← Source.mark, ← Source.base_eq] at within

/-- A pattern whose body does not consist of lexemes is rejected for that. -/
theorem compile_undivided (undivided : ¬ ∃ lexemes, Lexeme.Decomposition (Source.ofText pattern.toList).body lexemes) :
    ∃ error, pattern.compile = .error error ∧ error.isLexical = true ∧ error.Justified pattern.toList := by
  cases read : Lexeme.read (Source.ofText pattern.toList).base (Source.ofText pattern.toList).body with
  | ok lexemes => exact absurd ⟨lexemes, Lexeme.read_eq_ok_iff.mp read⟩ undivided
  | error error =>
    refine ⟨error, ?_, ?_⟩
    · rw [compile_stages, tokens_eq rfl, read]
      rfl
    · obtain ⟨before, ⟨same, rfl⟩ | ⟨members, same, unended, rfl⟩⟩ := Lexeme.read_failed read
      · exact ⟨rfl, _, shows_of_body ⟨same, rfl⟩⟩
      · exact ⟨rfl, _, members, shows_of_body ⟨same, rfl⟩, unended⟩

section

variable {lexemes : List Lexeme} (decomposition : Lexeme.Decomposition (Source.ofText pattern.toList).body lexemes)
include decomposition

theorem tokens_divided : pattern.tokens = .ok (Token.join (Token.ofLexemes (Source.ofText pattern.toList).anyCase
    (Source.ofText pattern.toList).base false lexemes)) := by
  rw [tokens_eq rfl, Lexeme.read_eq_ok_iff.mpr decomposition]
  rfl

/-- A pattern whose group marks do not balance is rejected for one of them. -/
theorem compile_unbalanced (unbalanced : ¬ Lexeme.Balanced lexemes) :
    ∃ offset, pattern.compile = .error (.unmatchedParenthesis offset) ∧
      (PatternError.unmatchedParenthesis offset).Justified pattern.toList := by
  cases ended : Token.reversePolish (Token.join (Token.ofLexemes (Source.ofText pattern.toList).anyCase
      (Source.ofText pattern.toList).base false lexemes)) with
  | ok ordered => exact absurd (Lexeme.balanced_join.mp (Token.balanced_of_reversePolish ended)) unbalanced
  | error error =>
    obtain ⟨before, mark, after, rfl, rfl, culprit⟩ := Lexeme.of_reversePolish_error ended
    refine ⟨_, ?_, before, mark, after, decomposition, shows_of_body ⟨?_, rfl⟩, culprit⟩
    · rw [compile_stages, tokens_divided decomposition]
      exact congrArg (· >>= Nfa.ofTokens) ended
    · rw [← decomposition.text_eq, List.flatMap_append, List.flatMap_cons]
      rfl

/-- Once the lexemes and the group marks of a pattern are in order, only its operands can be amiss. -/
theorem compile_balanced (balanced : Lexeme.Balanced lexemes) {error : PatternError}
    (failed : pattern.compile = .error error) : ∃ fault count, error = .malformed fault count := by
  obtain ⟨ordered, ended, _⟩ := (Lexeme.balanced_join.mpr balanced).reversePolish
  rw [compile_eq (tokens_divided decomposition) ended] at failed
  by_cases nothing : ordered = []
  · subst nothing
    cases failed
  · rcases Nfa.ofTokens_outcome nothing with ⟨nfa, _, built, _⟩ | ⟨fault, count, refused, _⟩
    · cases built.symm.trans failed
    · cases refused.symm.trans failed
      exact ⟨fault, count, rfl⟩

theorem not_lexical_of_divided {error : PatternError} (failed : pattern.compile = .error error) :
    error.isLexical = false := by
  by_cases balanced : Lexeme.Balanced lexemes
  · obtain ⟨_, _, rfl⟩ := compile_balanced decomposition balanced failed
    rfl
  · obtain ⟨_, same, _⟩ := compile_unbalanced decomposition balanced
    cases failed.symm.trans same
    rfl

end

theorem compile_justified {error : PatternError} (failed : pattern.compile = .error error) :
    error.Justified pattern.toList := by
  by_cases divided : ∃ lexemes, Lexeme.Decomposition (Source.ofText pattern.toList).body lexemes
  · obtain ⟨lexemes, decomposition⟩ := divided
    by_cases balanced : Lexeme.Balanced lexemes
    · obtain ⟨_, _, rfl⟩ := compile_balanced decomposition balanced failed
      exact ⟨lexemes, decomposition, balanced⟩
    · obtain ⟨_, same, justified⟩ := compile_unbalanced decomposition balanced
      cases failed.symm.trans same
      exact justified
  · obtain ⟨_, same, _, justified⟩ := compile_undivided divided
    cases failed.symm.trans same
    exact justified

theorem width_toList (pattern : Pattern) : Text.width pattern.toList = pattern.utf8ByteSize := by
  rw [Text.width_eq_utf8ByteSize, String.ofList_toList]

/-- If a pattern is rejected, it is for the first of its faults, in the order of the stages, and the offset is that of
the character to blame. -/
theorem compile_culprit (pattern : Pattern) :
    (∀ error, pattern.compile = .error error → error.Justified pattern.toList ∧
      ∀ offset, error.offset? = some offset →
        offset < pattern.utf8ByteSize ∧ offset ∈ Text.boundaries pattern.toList) ∧
    (∀ offset, pattern.compile = .error (.trailingBackslash offset) → offset + 1 = pattern.utf8ByteSize) ∧
    ((∃ error, pattern.compile = .error error ∧ error.isLexical = true) ↔
      ¬ ∃ lexemes, Lexeme.Decomposition (Source.ofText pattern.toList).body lexemes) ∧
    ∀ lexemes, Lexeme.Decomposition (Source.ofText pattern.toList).body lexemes →
      ((∃ offset, pattern.compile = .error (.unmatchedParenthesis offset)) ↔ ¬ Lexeme.Balanced lexemes) := by
  rw [← width_toList]
  refine ⟨?_, ?_, ⟨?_, ?_⟩, ?_⟩
  · intro error failed
    have justified := compile_justified failed
    refine ⟨justified, ?_⟩
    intro offset found
    obtain ⟨_, _, _, shows⟩ := justified.shows found
    exact ⟨shows.lt_width, shows.mem_boundaries⟩
  · intro offset failed
    obtain ⟨before, same, rfl⟩ := compile_justified failed
    rw [same, Text.width_append]
    rfl
  · intro ⟨error, failed, lexical⟩ ⟨lexemes, decomposition⟩
    cases lexical.symm.trans (not_lexical_of_divided decomposition failed)
  · intro undivided
    obtain ⟨error, failed, lexical, _⟩ := compile_undivided undivided
    exact ⟨error, failed, lexical⟩
  · intro lexemes decomposition
    constructor
    · intro ⟨offset, failed⟩ balanced
      obtain ⟨_, _, same⟩ := compile_balanced decomposition balanced failed
      cases same
    · intro unbalanced
      obtain ⟨offset, failed, _⟩ := compile_unbalanced decomposition unbalanced
      exact ⟨offset, failed⟩

/-- The parentheses in the bracket and after the backslash close no group, so two are left open. The error points at the
second one, not at the mark of the group after it. -/
theorem compile_culprit_nested : Pattern.compile "(?i)é[)]((\\)()" = .error (.unmatchedParenthesis 10) ∧
    (PatternError.unmatchedParenthesis 10).Justified (String.toList "(?i)é[)]((\\)()") ∧
    10 ∈ Text.boundaries (String.toList "(?i)é[)]((\\)()") := by
  have failed : Pattern.compile "(?i)é[)]((\\)()" = .error (.unmatchedParenthesis 10) := rfl
  obtain ⟨justified, inside⟩ := (compile_culprit "(?i)é[)]((\\)()").1 _ failed
  exact ⟨failed, justified, (inside 10 rfl).2⟩

end Pattern

end PatternNfa
