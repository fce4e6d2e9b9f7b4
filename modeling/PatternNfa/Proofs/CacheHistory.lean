import Mathlib.Data.Finset.Card
import Mathlib.Data.List.Induction
import PatternNfa.Session

/-! What calls find in a cache. A pattern has one object from its first success until the cache is cleared, and that
object holds the automaton that compiling the pattern gives. -/

namespace PatternNfa

namespace Cache

/-- What a cache is asked to do. -/
inductive Call where
  | fetch (pattern : Pattern)
  | clear
  | size
  | isEmpty
deriving DecidableEq

def apply (cache : Cache) : Call → Cache
  | .fetch pattern => (cache.fetch pattern).2
  | .clear => cache.clear
  | .size | .isEmpty => cache

/-- The cache that calls leave, the first of which is made to an empty one. -/
def after (calls : List Call) : Cache := calls.foldl apply empty

/-- A call for the pattern succeeded, and the cache has not been cleared since. -/
def Succeeded (calls : List Call) (pattern : Pattern) : Prop :=
  ∃ before later handle, calls = before ++ .fetch pattern :: later ∧ .clear ∉ later ∧
    ((after before).fetch pattern).1 = .ok handle

/-- The cache keeps this object for the pattern. -/
def Holds (cache : Cache) (pattern : Pattern) (handle : Handle) : Prop := cache.entries[pattern]? = some handle

theorem Holds.eq {cache : Cache} {pattern : Pattern} {first second : Handle} (left : cache.Holds pattern first)
    (right : cache.Holds pattern second) : first = second := Option.some.inj (left.symm.trans right)

/-- The cache with an object issued for a pattern. -/
def keep (cache : Cache) (pattern : Pattern) (nfa : Nfa) : Cache :=
  ⟨cache.entries.insert pattern ⟨cache.issued, nfa⟩, cache.issued + 1⟩

theorem keep_holds {cache : Cache} {pattern other : Pattern} {nfa : Nfa} {handle : Handle} :
    (cache.keep pattern nfa).Holds other handle ↔
      (other = pattern ∧ handle = ⟨cache.issued, nfa⟩) ∨ (other ≠ pattern ∧ cache.Holds other handle) := by
  simp only [Holds, keep, Std.HashMap.getElem?_insert, beq_iff_eq]
  split
  next same => simp [same, eq_comm]
  next different => simp [Ne.symm different]

/-- What a call for a pattern gives, and the cache that it leaves. -/
inductive Fetched (cache : Cache) (pattern : Pattern) : Except PatternError Handle × Cache → Prop where
  | held {handle} (holds : cache.Holds pattern handle) : Fetched cache pattern (.ok handle, cache)
  | failed {error} (absent : ∀ handle, ¬ cache.Holds pattern handle) (failed : pattern.compile = .error error) :
      Fetched cache pattern (.error error, cache)
  | issued {nfa} (absent : ∀ handle, ¬ cache.Holds pattern handle) (compiled : pattern.compile = .ok nfa) :
      Fetched cache pattern (.ok ⟨cache.issued, nfa⟩, cache.keep pattern nfa)

theorem fetch_fetched (cache : Cache) (pattern : Pattern) : Fetched cache pattern (cache.fetch pattern) := by
  unfold fetch
  split
  next handle found => exact .held found
  next absent =>
    have absent : ∀ handle, ¬ cache.Holds pattern handle := by simp [Holds, absent]
    split
    next error failed => exact .failed absent failed
    next nfa compiled => exact .issued absent compiled

/-- What a call makes of a cache. Only a call for a pattern that is not there yet can add to it. -/
inductive Applied (cache : Cache) : Call → Cache → Prop where
  | unchanged {call} (kept : call ≠ .clear) : Applied cache call cache
  | cleared : Applied cache .clear cache.clear
  | grown {pattern nfa} (absent : ∀ handle, ¬ cache.Holds pattern handle) (compiled : pattern.compile = .ok nfa) :
      Applied cache (.fetch pattern) (cache.keep pattern nfa)

theorem apply_applied (cache : Cache) (call : Call) : Applied cache call (cache.apply call) := by
  cases call with
  | fetch pattern =>
    have fetched := cache.fetch_fetched pattern
    rw [apply]
    generalize cache.fetch pattern = result at fetched ⊢
    cases fetched with
    | held | failed => exact .unchanged (by simp)
    | issued absent compiled => exact .grown absent compiled
  | clear => exact .cleared
  | size | isEmpty => exact .unchanged (by simp)

/-- The objects in the cache hold what compiling gives. They have all been issued, each for one pattern. -/
structure Valid (cache : Cache) : Prop where
  compiled : ∀ {pattern handle}, cache.Holds pattern handle → pattern.compile = .ok handle.nfa
  issued : ∀ {pattern handle}, cache.Holds pattern handle → handle.serial < cache.issued
  apart : ∀ {pattern other first second}, cache.Holds pattern first → cache.Holds other second →
    first.serial = second.serial → pattern = other

theorem empty_valid : empty.Valid := by
  constructor <;> simp [empty, Holds]

theorem clear_valid (cache : Cache) : cache.clear.Valid := by
  constructor <;> simp [clear, Holds]

theorem Valid.issue {cache : Cache} (valid : cache.Valid) (nfa : Nfa) : (cache.issue nfa).2.Valid :=
  ⟨valid.compiled, fun holds => Nat.lt_succ_of_lt (valid.issued holds), valid.apart⟩

theorem keep_valid {cache : Cache} (valid : cache.Valid) {pattern : Pattern} {nfa : Nfa}
    (compiled : pattern.compile = .ok nfa) : (cache.keep pattern nfa).Valid where
  compiled := by
    intro other handle holds
    rcases keep_holds.mp holds with ⟨rfl, rfl⟩ | ⟨_, holds⟩
    · exact compiled
    · exact valid.compiled holds
  issued := by
    intro other handle holds
    rcases keep_holds.mp holds with ⟨rfl, rfl⟩ | ⟨_, holds⟩
    · exact Nat.lt_succ_self _
    · exact Nat.lt_succ_of_lt (valid.issued holds)
  apart := by
    intro one other first second holds holds' serial
    rcases keep_holds.mp holds with ⟨rfl, rfl⟩ | ⟨_, left⟩ <;>
      rcases keep_holds.mp holds' with ⟨rfl, rfl⟩ | ⟨_, right⟩
    · rfl
    · exact absurd serial (Nat.ne_of_gt (valid.issued right))
    · exact absurd serial (Nat.ne_of_lt (valid.issued left))
    · exact valid.apart left right serial

/-- The objects in the cache, and those still to be issued, have serial numbers from `bound` on. -/
structure Since (bound : Nat) (cache : Cache) : Prop where
  bound_le : bound ≤ cache.issued
  held : ∀ {pattern handle}, cache.Holds pattern handle → bound ≤ handle.serial

theorem clear_since (cache : Cache) : Since cache.issued cache.clear :=
  ⟨Nat.le_refl _, by simp [clear, Holds]⟩

section

variable {cache next : Cache} {call : Call}

theorem Applied.valid (applied : Applied cache call next) (valid : cache.Valid) : next.Valid := by
  cases applied with
  | unchanged => exact valid
  | cleared => exact clear_valid cache
  | grown _ compiled => exact keep_valid valid compiled

theorem Applied.since (applied : Applied cache call next) {bound : Nat} (since : cache.Since bound) :
    next.Since bound := by
  cases applied with
  | unchanged => exact since
  | cleared => exact ⟨since.bound_le, by simp [clear, Holds]⟩
  | grown =>
    refine ⟨Nat.le_succ_of_le since.bound_le, ?_⟩
    intro other handle holds
    rcases keep_holds.mp holds with ⟨rfl, rfl⟩ | ⟨_, holds⟩
    · exact since.bound_le
    · exact since.held holds

theorem Applied.holds (applied : Applied cache call next) {pattern : Pattern} {handle : Handle}
    (holds : cache.Holds pattern handle) (kept : call ≠ .clear) : next.Holds pattern handle := by
  cases applied with
  | unchanged => exact holds
  | cleared => exact absurd rfl kept
  | grown absent =>
    refine keep_holds.mpr (Or.inr ⟨?_, holds⟩)
    rintro rfl
    exact absent _ holds

end

section

variable {cache : Cache} {pattern : Pattern} {result : Except PatternError Handle × Cache}

theorem Fetched.holds (fetched : Fetched cache pattern result) {handle : Handle} (succeeded : result.1 = .ok handle) :
    result.2.Holds pattern handle := by
  cases fetched with
  | held holds => cases succeeded; exact holds
  | failed => cases succeeded
  | issued => cases succeeded; exact keep_holds.mpr (Or.inl ⟨rfl, rfl⟩)

theorem Fetched.compile_eq (fetched : Fetched cache pattern result) (valid : cache.Valid) :
    result.1.map Handle.nfa = pattern.compile := by
  cases fetched with
  | held holds => exact (valid.compiled holds).symm
  | failed _ failed => exact failed.symm
  | issued _ compiled => exact compiled.symm

theorem Fetched.unchanged (fetched : Fetched cache pattern result) {error : PatternError}
    (failed : result.1 = .error error) : result.2 = cache := by
  cases fetched with
  | held | failed => rfl
  | issued => cases failed

/-- What the cache holds after a call for a pattern, it held before, or the call has just given it. -/
theorem Fetched.held_or_given (fetched : Fetched cache pattern result) {other : Pattern} {handle : Handle}
    (holds : result.2.Holds other handle) :
    cache.Holds other handle ∨ (other = pattern ∧ result.1 = .ok handle) := by
  cases fetched with
  | held | failed => exact Or.inl holds
  | issued =>
    rcases keep_holds.mp holds with ⟨rfl, rfl⟩ | ⟨_, holds⟩
    · exact Or.inr ⟨rfl, rfl⟩
    · exact Or.inl holds

end

section

variable {cache : Cache} (calls : List Call)

theorem foldl_valid (valid : cache.Valid) : (calls.foldl apply cache).Valid := by
  induction calls generalizing cache with
  | nil => exact valid
  | cons call calls ih => exact ih ((cache.apply_applied call).valid valid)

theorem foldl_since {bound : Nat} (since : cache.Since bound) : (calls.foldl apply cache).Since bound := by
  induction calls generalizing cache with
  | nil => exact since
  | cons call calls ih => exact ih ((cache.apply_applied call).since since)

theorem foldl_holds {pattern : Pattern} {handle : Handle} (holds : cache.Holds pattern handle)
    (kept : .clear ∉ calls) : (calls.foldl apply cache).Holds pattern handle := by
  induction calls generalizing cache with
  | nil => exact holds
  | cons call calls ih =>
    simp only [List.mem_cons, not_or] at kept
    exact ih ((cache.apply_applied call).holds holds (Ne.symm kept.1)) kept.2

end

theorem after_valid (calls : List Call) : (after calls).Valid := foldl_valid calls empty_valid

theorem after_concat (calls : List Call) (call : Call) : after (calls ++ [call]) = (after calls).apply call := by
  simp [after]

section

variable {cache : Cache} {pattern other : Pattern} {first second : Handle} {between : List Call}

/-- Two calls that succeed for one pattern give one object if no clearing lies between them. -/
theorem fetch_again (former : (cache.fetch pattern).1 = .ok first)
    (latter : ((between.foldl apply (cache.fetch pattern).2).fetch pattern).1 = .ok second)
    (uncleared : .clear ∉ between) : first = second := by
  have given := foldl_holds between ((cache.fetch_fetched pattern).holds former) uncleared
  have kept := (apply_applied _ (.fetch pattern)).holds given (by simp)
  exact kept.eq ((fetch_fetched _ pattern).holds latter)

/-- Only for one pattern and without a clearing between them do two calls give one object. -/
theorem fetch_apart (valid : cache.Valid) (former : (cache.fetch pattern).1 = .ok first)
    (latter : ((between.foldl apply (cache.fetch pattern).2).fetch other).1 = .ok second)
    (serial : first.serial = second.serial) : pattern = other ∧ .clear ∉ between := by
  have given := (cache.fetch_fetched pattern).holds former
  have given' := (fetch_fetched _ other).holds latter
  have start : (cache.fetch pattern).2.Valid := (cache.apply_applied (.fetch pattern)).valid valid
  generalize (cache.fetch pattern).2 = middle at given given' start
  have uncleared : .clear ∉ between := by
    intro cleared
    obtain ⟨earlier, later, rfl, uncleared⟩ := List.eq_append_cons_of_mem cleared
    -- Up to the first clearing the cache keeps the first object. What is issued after it is new.
    have old := (foldl_valid earlier start).issued (foldl_holds earlier given uncleared)
    have new := foldl_since (later ++ [.fetch other]) (clear_since (earlier.foldl apply middle))
    simp only [List.foldl_append, List.foldl_cons, List.foldl_nil, apply] at given' new
    exact absurd serial (Nat.lt_of_lt_of_le old (new.held given')).ne
  have applied := (between.foldl apply middle).apply_applied (.fetch other)
  have kept := applied.holds (foldl_holds between given uncleared) (by simp)
  exact ⟨(applied.valid (foldl_valid between start)).apart kept given' serial, uncleared⟩

end

theorem Succeeded.concat {calls : List Call} {pattern : Pattern} (succeeded : Succeeded calls pattern) {call : Call}
    (kept : call ≠ .clear) : Succeeded (calls ++ [call]) pattern := by
  obtain ⟨before, later, handle, rfl, uncleared, succeeded⟩ := succeeded
  exact ⟨before, later ++ [call], handle, by simp, by simp [uncleared, Ne.symm kept], succeeded⟩

/-- A pattern is in the cache exactly if a call for it succeeded after the last clearing. -/
theorem after_holds_iff (calls : List Call) (pattern : Pattern) :
    (∃ handle, (after calls).Holds pattern handle) ↔ Succeeded calls pattern := by
  constructor
  · induction calls using List.reverseRecOn with
    | nil => simp [after, Holds, empty]
    | append_singleton calls call ih =>
      rw [after_concat]
      rintro ⟨handle, holds⟩
      cases call with
      | fetch other =>
        rcases (fetch_fetched _ other).held_or_given holds with holds | ⟨rfl, succeeded⟩
        · exact (ih ⟨handle, holds⟩).concat (by simp)
        · exact ⟨calls, [], handle, rfl, by simp, succeeded⟩
      | clear => simp [apply, clear, Holds] at holds
      | size | isEmpty => exact (ih ⟨handle, holds⟩).concat (by simp)
  · rintro ⟨before, later, handle, rfl, uncleared, succeeded⟩
    refine ⟨handle, ?_⟩
    simp only [after, List.foldl_append, List.foldl_cons, apply]
    exact foldl_holds later ((fetch_fetched _ pattern).holds succeeded) uncleared

theorem size_eq_card (cache : Cache) : ∃ patterns : Finset Pattern,
    (∀ pattern, pattern ∈ patterns ↔ ∃ handle, cache.Holds pattern handle) ∧ cache.size = patterns.card := by
  refine ⟨cache.entries.keys.toFinset, ?_, ?_⟩
  · intro pattern
    simp [Holds, ← Option.isSome_iff_exists, Std.HashMap.mem_keys]
  · have distinct : cache.entries.keys.Nodup :=
      Std.HashMap.distinct_keys.imp fun different same => by simp [same] at different
    rw [List.toFinset_card_of_nodup distinct, Std.HashMap.length_keys, size]

theorem isEmpty_iff (cache : Cache) : cache.isEmpty = true ↔ cache.size = 0 := by
  rw [isEmpty, size, Std.HashMap.isEmpty_eq_size_eq_zero, beq_iff_eq]

end Cache

end PatternNfa
