import PatternNfa.Nfa.Run
import PatternNfa.Proofs.Exploration
import PatternNfa.Text.Offset

/-! While a text is consumed, the current set holds the states that some way from the initial state leads to. Ending
early is no loss: a text that leaves no state live has no way at all, however it goes on. -/

namespace PatternNfa

/-- Buffers between two runs. Their sets may hold anything, and may have room for larger automata. Any states may be
pending. -/
structure Buffers.Valid (buffers : Buffers) : Prop where
  current : buffers.current.Valid
  next : buffers.next.Valid
  even : buffers.current.capacity = buffers.next.capacity

namespace Buffers

theorem empty_valid : Buffers.empty.Valid := ⟨SparseSet.empty_valid, SparseSet.empty_valid, rfl⟩

theorem reset_fits {buffers : Buffers} (valid : buffers.Valid) (count : Nat) :
    let fresh := buffers.reset count
    fresh.current.Fits count ∧ fresh.next.Fits count ∧ fresh.current.capacity = fresh.next.capacity ∧
      fresh.current.toList = [] ∧ fresh.next.toList = [] := by
  simp only [reset]
  split
  next small =>
    have resized (set : SparseSet) : (set.resize count).Fits count :=
      ⟨SparseSet.resize_valid set count, Nat.le_of_eq (SparseSet.capacity_resize set count).symm,
        by simp [SparseSet.toList_resize]⟩
    refine ⟨resized _, resized _, ?_, SparseSet.toList_resize _ _, SparseSet.toList_resize _ _⟩
    simp only [SparseSet.capacity_resize]
  next large =>
    have cleared {set : SparseSet} (kept : set.Valid) (room : count ≤ set.capacity) : set.clear.Fits count :=
      ⟨SparseSet.clear_valid kept, room, by simp [SparseSet.toList_clear]⟩
    have even := valid.even
    exact ⟨cleared valid.current (by omega), cleared valid.next (by omega), even, SparseSet.toList_clear _,
      SparseSet.toList_clear _⟩

theorem reset_pending (buffers : Buffers) (count : Nat) : (buffers.reset count).pending = [] := by
  rw [reset]
  split
  next => rfl
  next => rfl

theorem reset_rests {buffers : Buffers} (valid : buffers.Valid) (nfa : Nfa) :
    Exploration.Rests nfa ⟨(buffers.reset nfa.stateCount).current, (buffers.reset nfa.stateCount).pending⟩ := by
  obtain ⟨current, _, _, blank, _⟩ := reset_fits valid nfa.stateCount
  refine ⟨current, ?_, reset_pending buffers nfa.stateCount⟩
  simp [Nfa.Closed, blank]

end Buffers

variable [CaseMap] [Categories]

/-- Buffers in the middle of a run that has consumed `text`. -/
structure Buffers.Tracks (buffers : Buffers) (nfa : Nfa) (text : List Char) : Prop where
  current : buffers.current.Fits nfa.stateCount
  next : buffers.next.Fits nfa.stateCount
  even : buffers.current.capacity = buffers.next.capacity
  idle : buffers.next.toList = []
  settled : buffers.pending = []
  live : ∀ id, id ∈ buffers.current.toList ↔ Path nfa.states nfa.initial text id

theorem Nfa.consumes_iff {nfa : Nfa} {id target : StateId} {c : Char} : nfa.consumes? id c = some target ↔
    ∃ predicate, nfa.states[id]? = some (.consume predicate target) ∧ predicate.accepts c = true := by
  unfold consumes?
  split
  next predicate next found =>
    split
    next accepted =>
      constructor
      · rintro ⟨⟩
        exact ⟨predicate, found, accepted⟩
      · rintro ⟨other, same, _⟩
        cases found.symm.trans same
        rfl
    next rejected =>
      constructor
      · rintro ⟨⟩
      · rintro ⟨other, same, accepted⟩
        cases found.symm.trans same
        exact absurd accepted rejected
  next other =>
    constructor
    · rintro ⟨⟩
    · rintro ⟨predicate, found, _⟩
      exact absurd found (other predicate target)

theorem Path.snoc_iff {nfa : Nfa} {first last : StateId} {text : List Char} {c : Char} :
    Path nfa.states first (text ++ [c]) last ↔ ∃ id target, Path nfa.states first text id ∧
      nfa.consumes? id c = some target ∧ Path nfa.states target [] last := by
  constructor
  · intro way
    obtain ⟨middle, before, after⟩ := Path.append_iff.mp way
    obtain ⟨id, target, predicate, silent, found, accepted, rest⟩ := Path.cons_iff.mp after
    have here := before.trans silent
    rw [List.append_nil] at here
    exact ⟨id, target, here, Nfa.consumes_iff.mpr ⟨predicate, found, accepted⟩, rest⟩
  · rintro ⟨id, target, before, consumed, rest⟩
    obtain ⟨predicate, found, accepted⟩ := Nfa.consumes_iff.mp consumed
    exact before.trans (.consume found accepted rest)

namespace Buffers

variable {nfa : Nfa} (wired : nfa.Wired) {buffers : Buffers}
include wired

theorem start_tracks (valid : buffers.Valid) : (buffers.start nfa).Tracks nfa [] := by
  obtain ⟨_, next, even, blank, idle⟩ := reset_fits valid nfa.stateCount
  have rests := reset_rests valid nfa
  have entered := rests.enter wired wired.initial
  refine ⟨entered.fits, next, (rests.capacity_enter wired wired.initial).trans even, idle, entered.idle, ?_⟩
  intro id
  refine (rests.mem_enter wired wired.initial).trans ?_
  rw [blank]
  simp

theorem advance_all (c : Char) (ids : List StateId) {exploration : Exploration} (rests : exploration.Rests nfa) :
    let after := ids.foldl (nfa.advance c) exploration
    after.Rests nfa ∧ after.found.capacity = exploration.found.capacity ∧
      ∀ last, last ∈ after.found.toList ↔ last ∈ exploration.found.toList ∨
        ∃ id ∈ ids, ∃ target, nfa.consumes? id c = some target ∧ Path nfa.states target [] last := by
  induction ids generalizing exploration with
  | nil => exact ⟨rests, rfl, by simp⟩
  | cons id rest ih =>
    rw [List.foldl_cons, Nfa.advance]
    cases moved : nfa.consumes? id c with
    | none =>
      obtain ⟨after, capacity, members⟩ := ih rests
      refine ⟨after, capacity, fun last => ?_⟩
      simp [members, moved]
    | some target =>
      have inside : target < nfa.stateCount := by
        obtain ⟨predicate, found, _⟩ := Nfa.consumes_iff.mp moved
        exact wired.within found target List.mem_cons_self
      obtain ⟨after, capacity, members⟩ := ih (rests.enter wired inside)
      refine ⟨after, capacity.trans (rests.capacity_enter wired inside), fun last => ?_⟩
      simp only [members, rests.mem_enter wired inside, List.mem_cons, exists_eq_or_imp, moved, Option.some.injEq,
        exists_eq_left', or_assoc]

omit wired in
theorem Tracks.rests {text : List Char} (tracks : buffers.Tracks nfa text) :
    Exploration.Rests nfa ⟨buffers.next, buffers.pending⟩ :=
  ⟨tracks.next, by simp [Nfa.Closed, tracks.idle], tracks.settled⟩

theorem Tracks.step {text : List Char} (tracks : buffers.Tracks nfa text) (c : Char) :
    (buffers.step nfa c).Tracks nfa (text ++ [c]) := by
  obtain ⟨after, capacity, members⟩ := advance_all wired c buffers.current.toList tracks.rests
  have even : (buffers.step nfa c).current.capacity = (buffers.step nfa c).next.capacity :=
    capacity.trans tracks.even.symm
  refine ⟨after.fits, ⟨SparseSet.clear_valid tracks.current.valid, tracks.current.room, ?_⟩, even,
    SparseSet.toList_clear _, after.idle, ?_⟩
  · simp [SparseSet.toList_clear, Buffers.step]
  · intro last
    refine (members last).trans ?_
    simp only [tracks.idle, List.not_mem_nil, false_or, Path.snoc_iff, tracks.live]
    constructor
    · intro ⟨id, before, target, rest⟩
      exact ⟨id, target, before, rest⟩
    · intro ⟨id, target, before, rest⟩
      exact ⟨id, before, target, rest⟩

theorem Tracks.steps {text : List Char} (tracks : buffers.Tracks nfa text) (rest : List Char) :
    (rest.foldl (fun buffers c => buffers.step nfa c) buffers).Tracks nfa (text ++ rest) := by
  induction rest generalizing text buffers with
  | nil => simpa using tracks
  | cons c rest ih => simpa using ih (tracks.step wired c)

omit wired in
theorem Tracks.valid {text : List Char} (tracks : buffers.Tracks nfa text) : buffers.Valid :=
  ⟨tracks.current.valid, tracks.next.valid, tracks.even⟩

/-- The buffers once a text has been consumed from the start, whether or not states were left on the way. -/
def consumed (buffers : Buffers) (nfa : Nfa) (text : List Char) : Buffers :=
  text.foldl (fun buffers c => buffers.step nfa c) (buffers.start nfa)

theorem consumed_tracks (valid : buffers.Valid) (text : List Char) : (buffers.consumed nfa text).Tracks nfa text :=
  Tracks.steps wired (start_tracks wired valid) text

end Buffers

namespace Nfa

/-- Text that leaves states live is consumed step by step, without ending early. -/
theorem consume_append (nfa : Nfa) (offset : Nat) (read rest : List Char) (buffers : Buffers)
    (alive : ∀ before, before <+: read → before ≠ [] →
      (before.foldl (fun buffers c => buffers.step nfa c) buffers).current.isEmpty = false) :
    nfa.consume offset (read ++ rest) buffers =
      nfa.consume (offset + Text.width read) rest (read.foldl (fun buffers c => buffers.step nfa c) buffers) := by
  induction read generalizing offset buffers with
  | nil => simp [Text.width]
  | cons c read ih =>
    have here : (buffers.step nfa c).current.isEmpty = false := alive [c] (List.prefix_append [c] read) (by simp)
    simp only [List.cons_append, consume, here, List.foldl_cons, Text.width, Bool.false_eq_true, if_false]
    rw [ih, Nat.add_assoc]
    intro before within nonempty
    exact alive (c :: before) (List.cons_prefix_cons.mpr ⟨rfl, within⟩) (by simp)

variable {nfa : Nfa} (wired : nfa.Wired)
include wired

/-- Once no state is live, none becomes live again. -/
theorem consume_accepted (offset : Nat) (rest : List Char) {buffers : Buffers} {text : List Char}
    (tracks : buffers.Tracks nfa text) : (nfa.consume offset rest buffers).1.isAccepted =
      (rest.foldl (fun buffers c => buffers.step nfa c) buffers).current.contains nfa.accept := by
  induction rest generalizing offset buffers text with
  | nil =>
    simp only [consume, List.foldl_nil]
    split
    next accepted => rw [accepted, Outcome.isAccepted]
    next rejected => rw [Bool.eq_false_iff.mpr rejected, Outcome.isAccepted]; rintro ⟨⟩
  | cons c rest ih =>
    have stepped := tracks.step wired c
    simp only [consume, List.foldl_cons]
    split
    next dead =>
      have ended := stepped.steps wired rest
      have nobody := (stepped.current.valid.isEmpty_iff).mp dead
      symm
      rw [Outcome.isAccepted, Bool.eq_false_iff, Ne, ended.current.valid.contains_iff, ended.live]
      · intro way
        obtain ⟨middle, before, _⟩ := Path.append_iff.mp way
        have member := (stepped.live middle).mpr before
        rw [nobody] at member
        cases member
      · rintro ⟨⟩
    next => exact ih _ stepped

/-- However a run ends, its buffers are where they would be without ending early after some part of the text. -/
theorem consume_tracks (offset : Nat) (rest : List Char) {buffers : Buffers} {text : List Char}
    (tracks : buffers.Tracks nfa text) :
    ∃ read, read <+: rest ∧ (nfa.consume offset rest buffers).2.Tracks nfa (text ++ read) := by
  induction rest generalizing offset buffers text with
  | nil => exact ⟨[], List.prefix_rfl, by simpa [consume] using tracks⟩
  | cons c rest ih =>
    have stepped := tracks.step wired c
    simp only [consume]
    split
    next dead => exact ⟨[c], List.prefix_append [c] rest, stepped⟩
    next alive =>
      obtain ⟨read, within, after⟩ := ih (offset + c.utf8Size) stepped
      exact ⟨c :: read, List.cons_prefix_cons.mpr ⟨rfl, within⟩, by simpa using after⟩

variable {buffers : Buffers} (valid : buffers.Valid)
include valid

theorem run_valid (input : String) : (nfa.run input buffers).2.Valid := by
  obtain ⟨read, _, tracks⟩ := consume_tracks wired 0 input.toList (Buffers.start_tracks wired valid)
  exact tracks.valid

theorem run_accepted (input : String) :
    (nfa.run input buffers).1.isAccepted = (buffers.consumed nfa input.toList).current.contains nfa.accept :=
  consume_accepted wired 0 input.toList (Buffers.start_tracks wired valid)

theorem run_recognizes (input : String) :
    (nfa.run input buffers).1.isAccepted = true ↔ nfa.Recognizes input.toList := by
  have tracks := Buffers.consumed_tracks wired valid input.toList
  rw [run_accepted wired valid, tracks.current.valid.contains_iff, tracks.live, Recognizes]

omit valid in
theorem accepts_iff (input : String) : nfa.accepts input = true ↔ nfa.Recognizes input.toList :=
  run_recognizes wired Buffers.empty_valid input

end Nfa

end PatternNfa
