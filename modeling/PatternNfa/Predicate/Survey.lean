import PatternNfa.Predicate

/-! Which characters a predicate accepts, as maximal runs of consecutive code points. -/

namespace PatternNfa

/-- The number of accepted characters met so far, and the runs they form, the latest first. -/
structure Survey where
  count : Nat
  runs : List (Nat × Nat)
deriving DecidableEq

namespace Survey

/-- Counts an accepted code point. It extends the latest run if it follows on directly. -/
def add (survey : Survey) (code : Nat) : Survey :=
  match survey.runs with
  | (first, last) :: earlier =>
    if last + 1 = code then ⟨survey.count + 1, (first, code) :: earlier⟩
    else ⟨survey.count + 1, (code, code) :: survey.runs⟩
  | [] => ⟨survey.count + 1, [(code, code)]⟩

end Survey

namespace Predicate

/-- Surrogate code points and those beyond the last character are never accepted. -/
def acceptsCodePoint [CaseMap] [Categories] (predicate : Predicate) (code : Nat) : Bool :=
  if code.isValidChar then predicate.accepts (Char.ofNat code) else false

/-- Surveys `count` code points from `code` on. -/
def surveyFrom [CaseMap] [Categories] (predicate : Predicate) : (count code : Nat) → Survey → Survey
  | 0, _, survey => survey
  | count + 1, code, survey =>
    surveyFrom predicate count (code + 1) (if predicate.acceptsCodePoint code then survey.add code else survey)

/-- The accepted characters among the code points from `first` to `last`, with the runs in ascending order. -/
def survey [CaseMap] [Categories] (predicate : Predicate) (first last : Nat) : Survey :=
  let found := predicate.surveyFrom (min (last + 1) 0x110000 - first) first ⟨0, []⟩
  ⟨found.count, found.runs.reverse⟩

end Predicate

end PatternNfa
