import PatternNfa.Nfa.Checked
import PatternNfa.Proofs.BuiltAutomata

/-! Runs that share buffers. Whatever earlier runs have left behind, a run ends as it does in fresh buffers, and it
looks up nothing outside the arrays. -/

namespace PatternNfa

namespace Checked

variable {nfa : Nfa}

theorem reach_eq {exploration : Exploration} (fits : exploration.found.Fits nfa.stateCount) {id : StateId}
    (inside : id < nfa.stateCount) : reach exploration id = some (exploration.reach id) := by
  rw [reach, insert_eq fits.valid (Nat.lt_of_lt_of_le inside fits.room), Exploration.reach]
  cases exploration.found.insert id with
  | mk isNew found => cases isNew <;> rfl

theorem reach_all_eq (ids : List StateId) {exploration : Exploration}
    (fits : exploration.found.Fits nfa.stateCount) (inside : ∀ id ∈ ids, id < nfa.stateCount) :
    ids.foldlM reach exploration = some (ids.foldl Exploration.reach exploration) := by
  induction ids generalizing exploration with
  | nil => rfl
  | cons id rest ih =>
    have here := inside id List.mem_cons_self
    obtain ⟨_, _, _, _, _, fits', _⟩ := Exploration.reach_all [id] exploration fits (by simpa using here)
    rw [List.foldlM_cons, reach_eq fits here]
    exact ih fits' fun other member => inside other (List.mem_cons_of_mem _ member)

theorem emptyMoves_eq {id : StateId} (inside : id < nfa.stateCount) : emptyMoves nfa id = some (nfa.emptyMoves id) := by
  have found : nfa.states[id]? = some nfa.states[id] := Array.getElem?_eq_getElem inside
  rw [emptyMoves, Nfa.emptyMoves, found]
  split <;> rfl

section

variable (wired : nfa.Wired)
include wired

theorem drain_eq (budget : Nat) {exploration : Exploration} (fits : exploration.found.Fits nfa.stateCount)
    (inside : ∀ id ∈ exploration.pending, id < nfa.stateCount)
    (enough : nfa.stateCount - exploration.found.toList.length + exploration.pending.length ≤ budget) :
    drain nfa budget exploration = some (exploration.drain nfa budget) := by
  induction budget generalizing exploration with
  | zero =>
    obtain ⟨found, pending⟩ := exploration
    obtain rfl : pending = [] := List.length_eq_zero_iff.mp (by simp only at enough; omega)
    rfl
  | succ budget ih =>
    obtain ⟨found, pending⟩ := exploration
    cases pending with
    | nil => rfl
    | cons id rest =>
      have moves : ∀ next ∈ nfa.emptyMoves id, next < nfa.stateCount := fun next member => wired.emptyMoves_lt member
      obtain ⟨added, found', pending, new, _, fits', _⟩ :=
        Exploration.reach_all (nfa.emptyMoves id) ⟨found, rest⟩ fits moves
      have reached : (nfa.emptyMoves id).foldlM reach ⟨found, rest⟩ =
          some ((nfa.emptyMoves id).foldl Exploration.reach ⟨found, rest⟩) := reach_all_eq _ fits moves
      rw [drain, emptyMoves_eq (inside id List.mem_cons_self), Exploration.drain]
      simp only [Option.bind_eq_bind, Option.bind_some, reached]
      apply ih fits'
      · intro other member
        rw [pending] at member
        rcases List.mem_append.mp member with member | member
        · exact moves other (new other (List.mem_reverse.mp member))
        · exact inside other (List.mem_cons_of_mem _ member)
      · have bound := fits'.length_le
        rw [found'] at bound
        rw [found', pending]
        simp only [List.length_append, List.length_reverse, List.length_cons] at enough bound ⊢
        omega

theorem enter_eq {exploration : Exploration} (rests : exploration.Rests nfa) {start : StateId}
    (inside : start < nfa.stateCount) : enter nfa start exploration = some (nfa.enter start exploration) := by
  obtain ⟨set, pending⟩ := exploration
  obtain ⟨fits, _, rfl⟩ := rests
  obtain ⟨fits', only, length⟩ := Exploration.reach_start fits inside
  have drained : drain nfa nfa.stateCount (Exploration.reach ⟨set, []⟩ start) = some (nfa.enter start ⟨set, []⟩) := by
    rw [Exploration.enter_eq]
    apply drain_eq wired nfa.stateCount fits'
    · exact fun id member => only id member ▸ inside
    · have bound := fits'.length_le
      omega
  rw [← drained, enter, insert_eq fits.valid (Nat.lt_of_lt_of_le inside fits.room), Exploration.reach]
  cases set.insert start with
  | mk isNew found =>
    cases isNew with
    | false =>
      rw [drain]
      rfl
    | true => rfl

end

theorem room_eq {current next : SparseSet} (fits : current.Fits nfa.stateCount)
    (even : current.capacity = next.capacity) : room nfa current next = some () := by
  simp [room, guard, even, even ▸ fits.room]

variable [CaseMap] [Categories] (wired : nfa.Wired) {buffers : Buffers}
include wired

omit [CaseMap] [Categories] in
theorem start_eq (valid : buffers.Valid) : start buffers nfa = some (buffers.start nfa) := by
  obtain ⟨current, _, even, _, _⟩ := Buffers.reset_fits valid nfa.stateCount
  have entered := enter_eq wired (Buffers.reset_rests valid nfa) wired.initial
  simp only [start, room_eq current even, entered, Option.bind_eq_bind, Option.bind_some]
  rfl

theorem advance_eq (c : Char) {current : SparseSet} (live : current.Fits nfa.stateCount) {exploration : Exploration}
    (even : current.capacity = exploration.found.capacity) (rests : exploration.Rests nfa) {id : StateId}
    (inside : id < nfa.stateCount) : advance nfa c current exploration id = some (nfa.advance c exploration id) := by
  have looked : consumes nfa id c = some (nfa.consumes? id c) := by
    rw [consumes, guard, if_pos (show id < nfa.states.size from inside)]
    rfl
  simp only [advance, room_eq live even, looked, Option.bind_eq_bind, Option.bind_some, Nfa.advance]
  cases moved : nfa.consumes? id c with
  | none => rfl
  | some target =>
    obtain ⟨predicate, found, _⟩ := Nfa.consumes_iff.mp moved
    exact enter_eq wired rests (wired.within found target List.mem_cons_self)

theorem advance_all_eq (c : Char) {current : SparseSet} (live : current.Fits nfa.stateCount) (ids : List StateId)
    (inside : ∀ id ∈ ids, id < nfa.stateCount) {exploration : Exploration}
    (even : current.capacity = exploration.found.capacity) (rests : exploration.Rests nfa) :
    ids.foldlM (advance nfa c current) exploration = some (ids.foldl (nfa.advance c) exploration) := by
  induction ids generalizing exploration with
  | nil => rfl
  | cons id rest ih =>
    obtain ⟨after, capacity, _⟩ := Buffers.advance_all wired c [id] rests
    rw [List.foldlM_cons, advance_eq wired c live even rests (inside id List.mem_cons_self)]
    exact ih (fun other member => inside other (List.mem_cons_of_mem _ member)) (even.trans capacity.symm) after

theorem step_eq {text : List Char} (tracks : buffers.Tracks nfa text) (c : Char) :
    step buffers nfa c = some (buffers.step nfa c) := by
  have advanced := advance_all_eq wired c tracks.current buffers.current.toList tracks.current.within tracks.even
    tracks.rests
  simp only [step, members_eq tracks.current.valid, Option.bind_eq_bind, Option.bind_some, advanced]
  rfl

theorem consume_eq (offset : Nat) (rest : List Char) {text : List Char} (tracks : buffers.Tracks nfa text) :
    consume nfa offset rest buffers = some (nfa.consume offset rest buffers) := by
  induction rest generalizing offset buffers text with
  | nil =>
    have inside := Nat.lt_of_lt_of_le (Array.getElem?_eq_some_iff.mp wired.accept).1 tracks.current.room
    simp only [consume, room_eq tracks.current tracks.even, contains_eq tracks.current.valid inside,
      Option.bind_eq_bind, Option.bind_some]
    rfl
  | cons c rest ih =>
    simp only [consume, step_eq wired tracks c, Option.bind_eq_bind, Option.bind_some, Nfa.consume]
    split
    next => rfl
    next => exact ih _ (tracks.step wired c)

theorem run_eq (valid : buffers.Valid) (input : String) : run nfa input buffers = some (nfa.run input buffers) := by
  simp only [run, start_eq wired valid, Option.bind_eq_bind, Option.bind_some]
  exact consume_eq wired 0 input.toList (Buffers.start_tracks wired valid)

end Checked

section

variable [CaseMap] [Categories]

/-- Which states are live decides how a run goes on, not where the sets hold them. -/
theorem Nfa.consume_outcome {nfa : Nfa} (wired : nfa.Wired) (offset : Nat) (rest : List Char) {text : List Char}
    {buffers others : Buffers} (tracks : buffers.Tracks nfa text) (same : others.Tracks nfa text) :
    (nfa.consume offset rest buffers).1 = (nfa.consume offset rest others).1 := by
  induction rest generalizing offset text buffers others with
  | nil =>
    have accepting : buffers.current.contains nfa.accept = others.current.contains nfa.accept := by
      rw [Bool.eq_iff_iff, tracks.current.valid.contains_iff, same.current.valid.contains_iff, tracks.live, same.live]
    simp only [consume, accepting]
  | cons c rest ih =>
    have stepped := tracks.step wired c
    have alike := same.step wired c
    have members : ∀ id, id ∈ (buffers.step nfa c).current.toList ↔ id ∈ (others.step nfa c).current.toList :=
      fun id => (stepped.live id).trans (alike.live id).symm
    have dead : (buffers.step nfa c).current.isEmpty = (others.step nfa c).current.isEmpty := by
      rw [Bool.eq_iff_iff, stepped.current.valid.isEmpty_iff, alike.current.valid.isEmpty_iff,
        List.eq_nil_iff_forall_not_mem, List.eq_nil_iff_forall_not_mem]
      exact forall_congr' fun id => not_congr (members id)
    simp only [consume, dead]
    split
    next => rfl
    next => exact ih _ stepped alike

theorem Nfa.run_outcome {nfa : Nfa} (wired : nfa.Wired) {buffers : Buffers} (valid : buffers.Valid) (input : String) :
    (nfa.run input buffers).1 = nfa.outcome input :=
  Nfa.consume_outcome wired 0 input.toList (Buffers.start_tracks wired valid)
    (Buffers.start_tracks wired Buffers.empty_valid)

/-- The buffers that calls leave which are made one after the other, the first in fresh buffers. -/
def Buffers.after (calls : List (Nfa × String)) : Buffers :=
  calls.foldl (fun buffers call => (call.1.acceptsWith call.2 buffers).2) Buffers.empty

theorem Buffers.after_valid {calls : List (Nfa × String)}
    (built : ∀ call ∈ calls, ∃ tokens, Nfa.ofTokens tokens = .ok call.1) : (Buffers.after calls).Valid := by
  have kept : ∀ buffers : Buffers, buffers.Valid →
      (calls.foldl (fun buffers call => (call.1.acceptsWith call.2 buffers).2) buffers).Valid := by
    induction calls with
    | nil => exact fun _ valid => valid
    | cons call rest ih =>
      intro buffers valid
      obtain ⟨tokens, made⟩ := built call List.mem_cons_self
      exact ih (fun other member => built other (List.mem_cons_of_mem _ member)) _
        (Nfa.run_valid (Nfa.ofTokens_wired made) valid call.2)
  exact kept _ Buffers.empty_valid

/-- Earlier calls, on any automata and ended in any way, make no difference to the next one: it answers as in fresh
buffers, never breaks off, and has two sets of one capacity with room for its automaton throughout. Whenever a character
has been consumed, nothing is pending. -/
theorem Nfa.run_after {calls : List (Nfa × String)}
    (earlier : ∀ call ∈ calls, ∃ tokens, Nfa.ofTokens tokens = .ok call.1) {nfa : Nfa} {tokens : List Token}
    (built : Nfa.ofTokens tokens = .ok nfa) (input : String) :
    (nfa.acceptsWith input (Buffers.after calls)).1 = nfa.accepts input ∧
    (nfa.run input (Buffers.after calls)).1 = nfa.outcome input ∧
    Checked.run nfa input (Buffers.after calls) = some (nfa.run input (Buffers.after calls)) ∧
    ∀ read, read <+: input.toList →
      let buffers := (Buffers.after calls).consumed nfa read
      buffers.current.capacity = buffers.next.capacity ∧ nfa.stateCount ≤ buffers.current.capacity ∧
        buffers.pending = [] := by
  have wired := ofTokens_wired built
  have valid := Buffers.after_valid earlier
  have same := run_outcome wired valid input
  refine ⟨congrArg Outcome.isAccepted same, same, Checked.run_eq wired valid input, ?_⟩
  intro read _
  have tracks := Buffers.consumed_tracks wired valid read
  exact ⟨tracks.even, tracks.current.room, tracks.settled⟩

end

/-- The automaton of `b` over `b`, in buffers that it has left early once and that have grown for `a*` since. -/
theorem Nfa.run_after_larger : ∃ one star,
    Nfa.ofTokens [.single false (.literal 'b' false)] = .ok one ∧
    Nfa.ofTokens [.single false (.literal 'a' false), .operator .star] = .ok star ∧
    (one.acceptsWith "b" (Buffers.after [(one, "ab"), (star, "aab")])).1 = one.accepts "b" ∧
    Checked.run one "b" (Buffers.after [(one, "ab"), (star, "aab")]) =
      some (one.run "b" (Buffers.after [(one, "ab"), (star, "aab")])) := by
  have one : Nfa.ofTokens [.single false (.literal 'b' false)] =
      .ok ⟨#[.exit, .consume ⟨false, .members ['b'] false⟩ 0], 1, 0⟩ := rfl
  have star : Nfa.ofTokens [.single false (.literal 'a' false), .operator .star] =
      .ok ⟨#[.fork 1 2, .consume ⟨false, .members ['a'] false⟩ 0, .exit, .fork 1 2], 3, 2⟩ := rfl
  refine ⟨_, _, one, star, ?_⟩
  refine And.imp_right (fun rest => rest.2.1) (Nfa.run_after ?_ one "b")
  simpa using And.intro ⟨_, one⟩ ⟨_, star⟩

end PatternNfa
