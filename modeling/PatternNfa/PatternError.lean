/-! Why a pattern is rejected, and how that is reported. -/

namespace PatternNfa

/-- Why a token sequence in reverse Polish order denotes no single expression. -/
inductive Fault where
  | missingOperand
  | groupMark (mark : Char)
  | leftoverFragments
deriving DecidableEq

/-- Offsets count the bytes of the pattern before the culprit, a case mark included. A malformed sequence
reports how many fragments had been built when the fault was found. -/
inductive PatternError where
  | unmatchedParenthesis (offset : Nat)
  | unterminatedClass (offset : Nat)
  | trailingBackslash (offset : Nat)
  | malformed (fault : Fault) (fragments : Nat)
deriving DecidableEq

def PatternError.message : PatternError → String
  | .unmatchedParenthesis offset => s!"unmatched parenthesis at offset {offset}"
  | .unterminatedClass offset => s!"unterminated character class starting at offset {offset}"
  | .trailingBackslash offset => s!"trailing backslash at offset {offset}"
  | .malformed _ fragments => s!"malformed pattern: expected one automaton fragment, found {fragments}"

section

variable {α β ε : Type}

/-- Two stages that have given a result have each given one. -/
theorem exists_of_bind {result : Except ε α} {next : α → Except ε β} {value : β}
    (done : result >>= next = .ok value) : ∃ before, result = .ok before ∧ next before = .ok value := by
  cases result with
  | error => cases done
  | ok before => exact ⟨before, rfl, done⟩

theorem exists_of_map {f : α → β} {result : Except ε α} {value : β} (done : f <$> result = .ok value) :
    ∃ before, result = .ok before ∧ f before = value := by
  cases result with
  | error => cases done
  | ok before => exact ⟨before, rfl, Except.ok.inj done⟩

end

end PatternNfa
