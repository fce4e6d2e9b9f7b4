import PatternNfa.Pattern
import Std.Data.HashMap

/-! Compiled patterns kept for reuse. -/

namespace PatternNfa

/-- An automaton as one shared object. Handles with the same serial number are the same object. -/
structure Handle where
  serial : Nat
  nfa : Nfa
deriving DecidableEq

/-- The automaton of each pattern compiled since the last clearing, and the number of objects issued ever. -/
structure Cache where
  entries : Std.HashMap Pattern Handle
  issued : Nat

namespace Cache

def empty : Cache := ⟨∅, 0⟩

def size (cache : Cache) : Nat := cache.entries.size

def isEmpty (cache : Cache) : Bool := cache.entries.isEmpty

/-- Forgets all entries. Serial numbers are never used again. -/
def clear (cache : Cache) : Cache := { cache with entries := ∅ }

def issue (cache : Cache) (nfa : Nfa) : Handle × Cache :=
  (⟨cache.issued, nfa⟩, { cache with issued := cache.issued + 1 })

/-- The object of a pattern, compiled on first use. A pattern that fails leaves the cache as it was. -/
def fetch (cache : Cache) (pattern : Pattern) : Except PatternError Handle × Cache :=
  match cache.entries[pattern]? with
  | some handle => (.ok handle, cache)
  | none =>
    match pattern.compile with
    | .error error => (.error error, cache)
    | .ok nfa =>
      let (handle, cache) := cache.issue nfa
      (.ok handle, { cache with entries := cache.entries.insert pattern handle })

def describe (cache : Cache) : String := s!"PatternCache \x7b entries: {cache.size} \x7d"

end Cache

end PatternNfa
