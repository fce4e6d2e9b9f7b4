/-! Tables of code points in ascending order, searched by halving. -/

namespace PatternNfa.Unicode

/-- The number of entries of an ascending table that start at or before `code`, when it is known to lie between
`low` and `high`. The distance at least halves with each unit of the budget. -/
@[specialize] def countStarting {α : Type} (start : α → Nat) (table : Array α) (code : Nat) : Nat → Nat → Nat → Nat
  | 0, low, _ => low
  | budget + 1, low, high =>
    if low < high then
      let middle := (low + high) / 2
      match table[middle]? with
      | some entry =>
        if start entry ≤ code then countStarting start table code budget (middle + 1) high
        else countStarting start table code budget low middle
      | none => low
    else low

/-- The last entry of an ascending table that starts at or before `code`. -/
@[specialize] def lastStarting {α : Type} (start : α → Nat) (table : Array α) (code : Nat) : Option α :=
  match countStarting start table code (table.size.log2 + 1) 0 table.size with
  | 0 => none
  | count + 1 => table[count]?

/-- The code points from `first` to `last`, both included. -/
structure Interval where
  first : Nat
  last : Nat

/-- Whether one of the intervals of an ascending table contains `code`. -/
def Interval.covers (table : Array Interval) (code : Nat) : Bool :=
  match lastStarting Interval.first table code with
  | some interval => code ≤ interval.last
  | none => false

end PatternNfa.Unicode
