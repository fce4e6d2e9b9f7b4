import PatternNfa.Nfa.Closure
import PatternNfa.Nfa.Path
import PatternNfa.Proofs.SparseMembers

/-! Entering a state adds exactly what empty moves reach from it. The pending states are the only ones whose moves may
be missing, and every state is pending once at most, so the budget of an exploration is never used up. -/

namespace PatternNfa

/-- Every edge ends at a state of the automaton, and nothing leads on from the accepting state. -/
structure Nfa.Wired (nfa : Nfa) : Prop where
  initial : nfa.initial < nfa.stateCount
  accept : nfa.states[nfa.accept]? = some .exit
  within : ∀ {id : StateId} {state : State}, nfa.states[id]? = some state →
    ∀ next ∈ state.successors, next < nfa.stateCount

namespace Nfa.Wired

variable {nfa : Nfa} (wired : nfa.Wired)
include wired

/-- That the accepting state is not followed makes no difference: it has no moves. -/
theorem mem_emptyMoves {id next : StateId} :
    next ∈ nfa.emptyMoves id ↔ ∃ state, nfa.states[id]? = some state ∧ next ∈ state.emptyMoves := by
  unfold emptyMoves
  split
  next accepting =>
    subst id
    rw [wired.accept]
    simp [State.emptyMoves, State.successors]
  next =>
    split
    next state found => simp [found]
    next missing => simp [missing]

theorem emptyMoves_lt {id next : StateId} (moves : next ∈ nfa.emptyMoves id) : next < nfa.stateCount := by
  obtain ⟨state, found, member⟩ := wired.mem_emptyMoves.mp moves
  exact wired.within found next (state.emptyMoves_subset member)

end Nfa.Wired

/-- No empty move leads out of the states. -/
def Nfa.Closed (nfa : Nfa) (ids : List StateId) : Prop := ∀ id ∈ ids, ∀ next ∈ nfa.emptyMoves id, next ∈ ids

/-- A set in use for an automaton of `count` states. It may have room for more. -/
structure SparseSet.Fits (set : SparseSet) (count : Nat) : Prop where
  valid : set.Valid
  room : count ≤ set.capacity
  within : ∀ id ∈ set.toList, id < count

theorem SparseSet.Valid.fits {set : SparseSet} (valid : set.Valid) : set.Fits set.capacity :=
  ⟨valid, Nat.le_refl _, fun _ => valid.mem_lt⟩

namespace SparseSet.Fits

variable {set : SparseSet} {count : Nat} (fits : set.Fits count)
include fits

theorem length_le : set.toList.length ≤ count := StateId.length_le fits.valid.nodup fits.within

theorem insert_toList {id : StateId} (inside : id < count) (absent : id ∉ set.toList) :
    (set.insert id).2.toList = set.toList ++ [id] :=
  fits.valid.insert_toList (Nat.lt_of_lt_of_le inside fits.room) absent

theorem insert {id : StateId} (inside : id < count) : (set.insert id).2.Fits count := by
  refine ⟨fits.valid.insert_valid (Nat.lt_of_lt_of_le inside fits.room), ?_, ?_⟩
  · rw [capacity_insert]
    exact fits.room
  · intro other member
    by_cases present : id ∈ set.toList
    · rw [fits.valid.insert_present present] at member
      exact fits.within other member
    · rw [fits.insert_toList inside present] at member
      rcases List.mem_append.mp member with member | member
      · exact fits.within other member
      · rw [List.mem_singleton.mp member]
        exact inside

end SparseSet.Fits

section

variable [CaseMap] [Categories] {nfa : Nfa} (wired : nfa.Wired)
include wired

theorem Nfa.mem_of_path {ids : List StateId} (closed : nfa.Closed ids)
    {first last : StateId} {text : List Char} (way : Path nfa.states first text last) (silent : text = [])
    (member : first ∈ ids) : last ∈ ids := by
  induction way with
  | stay => exact member
  | move found moves _ ih => exact ih silent (closed _ member _ (wired.mem_emptyMoves.mpr ⟨_, found, moves⟩))
  | consume => cases silent

theorem Nfa.Wired.silent_lt {first last : StateId} (inside : first < nfa.stateCount)
    (way : Path nfa.states first [] last) : last < nfa.stateCount := by
  have closed : nfa.Closed (List.range nfa.stateCount) :=
    fun _ _ _ moves => List.mem_range.mpr (wired.emptyMoves_lt moves)
  exact List.mem_range.mp (mem_of_path wired closed way rfl (List.mem_range.mpr inside))

end

namespace Exploration

/-- A state found before is passed over. Another one is added and waits. -/
theorem reach_cases {count : Nat} (exploration : Exploration) (fits : exploration.found.Fits count) {id : StateId}
    (inside : id < count) :
    (id ∈ exploration.found.toList ∧ exploration.reach id = exploration) ∨
    ∃ found, exploration.reach id = ⟨found, id :: exploration.pending⟩ ∧
      found.toList = exploration.found.toList ++ [id] ∧ found.Fits count ∧
      found.capacity = exploration.found.capacity := by
  by_cases present : id ∈ exploration.found.toList
  · refine Or.inl ⟨present, ?_⟩
    simp only [reach, fits.valid.insert_present present]
  · refine Or.inr ⟨(exploration.found.insert id).2, ?_, fits.insert_toList inside present, fits.insert inside,
      SparseSet.capacity_insert _ _⟩
    simp only [reach, fits.valid.insert_absent present]

theorem reach_start {set : SparseSet} {count : Nat} (fits : set.Fits count) {start : StateId} (inside : start < count) :
    let after := reach ⟨set, []⟩ start
    after.found.Fits count ∧ (∀ id ∈ after.pending, id = start) ∧
      after.found.toList.length = set.toList.length + after.pending.length := by
  rcases reach_cases ⟨set, []⟩ fits inside with ⟨_, unchanged⟩ | ⟨found, changed, entered, fits', _⟩
  · simp only [unchanged]
    exact ⟨fits, by simp, rfl⟩
  · simp only [changed, entered]
    exact ⟨fits', by simp, List.length_append⟩

theorem reach_all {count : Nat} (ids : List StateId) (exploration : Exploration)
    (fits : exploration.found.Fits count) (inside : ∀ id ∈ ids, id < count) :
    let after := ids.foldl reach exploration
    ∃ added, after.found.toList = exploration.found.toList ++ added ∧
      after.pending = added.reverse ++ exploration.pending ∧
      (∀ id ∈ added, id ∈ ids) ∧ (∀ id ∈ ids, id ∈ after.found.toList) ∧
      after.found.Fits count ∧ after.found.capacity = exploration.found.capacity := by
  induction ids generalizing exploration with
  | nil => exact ⟨[], by simp, by simp, by simp, by simp, fits, rfl⟩
  | cons id rest ih =>
    have here := inside id List.mem_cons_self
    have later : ∀ other ∈ rest, other < count := fun other member => inside other (List.mem_cons_of_mem _ member)
    simp only [List.foldl_cons]
    rcases reach_cases exploration fits here with ⟨present, unchanged⟩ | ⟨next, changed, entered, fits', room⟩
    · rw [unchanged]
      obtain ⟨added, found, pending, new, all, kept⟩ := ih exploration fits later
      refine ⟨added, found, pending, fun other member => List.mem_cons_of_mem _ (new other member), ?_, kept⟩
      refine List.forall_mem_cons.mpr ⟨?_, all⟩
      rw [found]
      exact List.mem_append_left _ present
    · rw [changed]
      obtain ⟨added, found, pending, new, all, after, capacity⟩ := ih ⟨next, id :: exploration.pending⟩ fits' later
      simp only [entered, List.append_assoc, List.singleton_append] at found
      refine ⟨id :: added, found, by simp [pending], ?_, ?_, after, capacity.trans room⟩
      · refine List.forall_mem_cons.mpr ⟨List.mem_cons_self, ?_⟩
        exact fun other member => List.mem_cons_of_mem _ (new other member)
      · exact List.forall_mem_cons.mpr ⟨by simp [found], all⟩

/-- The loop of an exploration without a budget, with the number of states that are taken from the pending ones. -/
inductive Empties (nfa : Nfa) : Nat → Exploration → Exploration → Prop where
  | done (found : SparseSet) : Empties nfa 0 ⟨found, []⟩ ⟨found, []⟩
  | pop {pops found id rest last} (later : Empties nfa pops ((nfa.emptyMoves id).foldl reach ⟨found, rest⟩) last) :
      Empties nfa (pops + 1) ⟨found, id :: rest⟩ last

theorem drain_done (nfa : Nfa) (budget : Nat) (found : SparseSet) : drain nfa budget ⟨found, []⟩ = ⟨found, []⟩ := by
  cases budget with
  | zero => rfl
  | succ => rfl

/-- With nothing pending before, only the state that is entered may begin to wait. -/
theorem enter_eq (nfa : Nfa) (start : StateId) (set : SparseSet) :
    nfa.enter start ⟨set, []⟩ = (reach ⟨set, []⟩ start).drain nfa nfa.stateCount := by
  rw [Nfa.enter, reach]
  split
  next => rfl
  next => exact (drain_done ..).symm

variable [CaseMap] [Categories]

/-- Where an exploration from `start` stands that began with the members of `set`. -/
structure Explores (nfa : Nfa) (set : SparseSet) (start : StateId) (exploration : Exploration) : Prop where
  fits : exploration.found.Fits set.capacity
  capacity : exploration.found.capacity = set.capacity
  grown : ∃ added, exploration.found.toList = set.toList ++ added ∧ ∀ id ∈ added, Path nfa.states start [] id
  entered : start ∈ set.toList ∨ set.toList ++ [start] <+: exploration.found.toList
  reached : ∀ id ∈ exploration.pending, Path nfa.states start [] id
  settled : ∀ id ∈ exploration.found.toList,
    id ∈ exploration.pending ∨ ∀ next ∈ nfa.emptyMoves id, next ∈ exploration.found.toList

section

variable {nfa : Nfa} (wired : nfa.Wired) {set : SparseSet} (room : nfa.stateCount ≤ set.capacity) {start : StateId}

include room in
theorem Explores.initial (valid : set.Valid) (closed : nfa.Closed set.toList) (inside : start < nfa.stateCount) :
    Explores nfa set start (reach ⟨set, []⟩ start) := by
  rcases reach_cases ⟨set, []⟩ valid.fits (Nat.lt_of_lt_of_le inside room) with
    ⟨present, unchanged⟩ | ⟨found, changed, entered, fits, capacity⟩
  · rw [unchanged]
    exact ⟨valid.fits, rfl, ⟨[], by simp, by simp⟩, Or.inl present, by simp, fun id member => Or.inr (closed id member)⟩
  · rw [changed]
    have here : Path nfa.states start [] start := .stay start
    refine ⟨fits, capacity, ⟨[start], entered, by simpa using here⟩, Or.inr ?_, by simpa using here, ?_⟩
    · exact ⟨[], (List.append_nil _).trans entered.symm⟩
    · intro id member
      rw [entered] at member ⊢
      rcases List.mem_append.mp member with old | new
      · exact Or.inr fun next moves => List.mem_append_left _ (closed id old next moves)
      · exact Or.inl new

include wired in
theorem Explores.length_le (inside : start < nfa.stateCount) {exploration : Exploration}
    (explores : Explores nfa set start exploration) :
    exploration.found.toList.length ≤ set.toList.length + nfa.stateCount := by
  obtain ⟨added, grown, reached⟩ := explores.grown
  have distinct := explores.fits.valid.nodup
  rw [grown] at distinct
  have bounded := StateId.length_le (List.nodup_append.mp distinct).2.1 fun id member =>
    wired.silent_lt inside (reached id member)
  rw [grown, List.length_append]
  exact Nat.add_le_add_left bounded _

include wired room

theorem Explores.follow {found : SparseSet} {id : StateId} {rest : List StateId}
    (explores : Explores nfa set start ⟨found, id :: rest⟩) :
    Explores nfa set start ((nfa.emptyMoves id).foldl reach ⟨found, rest⟩) := by
  obtain ⟨added, found', pending, new, all, fits, capacity⟩ := reach_all (nfa.emptyMoves id) ⟨found, rest⟩ explores.fits
    fun next moves => Nat.lt_of_lt_of_le (wired.emptyMoves_lt moves) room
  obtain ⟨before, grown, reached⟩ := explores.grown
  have way : ∀ next ∈ added, Path nfa.states start [] next := by
    intro next member
    obtain ⟨state, here, moves⟩ := wired.mem_emptyMoves.mp (new next member)
    exact (explores.reached id List.mem_cons_self).trans (.move here moves (.stay next))
  refine ⟨fits, capacity.trans explores.capacity, ⟨before ++ added, ?_, ?_⟩, ?_, ?_, ?_⟩
  · rw [found', grown, List.append_assoc]
  · exact List.forall_mem_append.mpr ⟨reached, way⟩
  · rw [found']
    exact explores.entered.imp_right fun entered => entered.trans (List.prefix_append _ _)
  · rw [pending]
    refine List.forall_mem_append.mpr ⟨fun next member => way next (List.mem_reverse.mp member), ?_⟩
    exact fun other member => explores.reached other (List.mem_cons_of_mem _ member)
  · intro other member
    rw [found'] at member
    rcases List.mem_append.mp member with member | member
    · rcases explores.settled other member with waiting | done
      · rcases List.mem_cons.mp waiting with rfl | waiting
        · exact Or.inr all
        · exact Or.inl (by rw [pending]; exact List.mem_append_right _ waiting)
      · refine Or.inr fun next moves => ?_
        rw [found']
        exact List.mem_append_left _ (done next moves)
    · exact Or.inl (by rw [pending]; exact List.mem_append_left _ (List.mem_reverse.mpr member))

/-- As many states are found as begin to wait. -/
theorem Explores.follow_length {found : SparseSet} {id : StateId} {rest : List StateId}
    (explores : Explores nfa set start ⟨found, id :: rest⟩) :
    ((nfa.emptyMoves id).foldl reach ⟨found, rest⟩).found.toList.length + rest.length =
      found.toList.length + ((nfa.emptyMoves id).foldl reach ⟨found, rest⟩).pending.length := by
  obtain ⟨added, found', pending, _⟩ := reach_all (nfa.emptyMoves id) ⟨found, rest⟩ explores.fits
    fun next moves => Nat.lt_of_lt_of_le (wired.emptyMoves_lt moves) room
  simp only [found', pending, List.length_append, List.length_reverse]
  omega

/-- Each state that is found, and each that waited already, is popped once. -/
theorem Explores.empties {pops : Nat} {exploration last : Exploration}
    (explores : Explores nfa set start exploration) (empties : Empties nfa pops exploration last) :
    Explores nfa set start last ∧ last.pending = [] ∧
      pops + exploration.found.toList.length = last.found.toList.length + exploration.pending.length := by
  induction empties with
  | done found => exact ⟨explores, rfl, Nat.zero_add _⟩
  | pop later ih =>
    obtain ⟨after, finished, popped⟩ := ih (explores.follow wired room)
    have length := explores.follow_length wired room
    refine ⟨after, finished, ?_⟩
    simp only [List.length_cons]
    omega

/-- The states not yet found, and those that wait, become fewer with every state that is followed. -/
theorem Explores.drain (inside : start < nfa.stateCount) (budget : Nat) {exploration : Exploration}
    (explores : Explores nfa set start exploration)
    (enough : set.toList.length + nfa.stateCount + exploration.pending.length ≤
      budget + exploration.found.toList.length) :
    ∃ pops, Empties nfa pops exploration (exploration.drain nfa budget) := by
  induction budget generalizing exploration with
  | zero =>
    have bound := explores.length_le wired inside
    obtain ⟨found, pending⟩ := exploration
    obtain rfl : pending = [] := List.length_eq_zero_iff.mp (by simp only at enough bound; omega)
    exact ⟨0, .done found⟩
  | succ budget ih =>
    obtain ⟨found, pending⟩ := exploration
    cases pending with
    | nil => exact ⟨0, .done found⟩
    | cons id rest =>
      have length := explores.follow_length wired room
      have fewer := ih (explores.follow wired room) (by simp only [List.length_cons] at enough; omega)
      obtain ⟨pops, empties⟩ := fewer
      exact ⟨pops + 1, .pop empties⟩

end

end Exploration

namespace Nfa

variable [CaseMap] [Categories] {nfa : Nfa} (wired : nfa.Wired) {set : SparseSet} {start : StateId}
  (inside : start < nfa.stateCount) (closed : nfa.Closed set.toList)
include wired inside closed

section

variable (valid : set.Valid) (room : nfa.stateCount ≤ set.capacity)
include valid room

theorem enter_empties : ∃ pops,
    Exploration.Empties nfa pops (Exploration.reach ⟨set, []⟩ start) (nfa.enter start ⟨set, []⟩) ∧
    (nfa.enter start ⟨set, []⟩).found.toList.length = set.toList.length + pops := by
  have begun := Exploration.Explores.initial room valid closed inside
  obtain ⟨_, _, length⟩ := Exploration.reach_start valid.fits (Nat.lt_of_lt_of_le inside room)
  obtain ⟨pops, empties⟩ := begun.drain wired room inside nfa.stateCount (by omega)
  have popped := (begun.empties wired room empties).2.2
  rw [Exploration.enter_eq]
  exact ⟨pops, empties, by omega⟩

theorem enter_explores :
    (nfa.enter start ⟨set, []⟩).Explores nfa set start ∧ (nfa.enter start ⟨set, []⟩).pending = [] := by
  obtain ⟨pops, empties, _⟩ := enter_empties wired inside closed valid room
  have begun := Exploration.Explores.initial room valid closed inside
  obtain ⟨explores, finished, _⟩ := begun.empties wired room empties
  exact ⟨explores, finished⟩

theorem enter_valid : (nfa.enter start ⟨set, []⟩).found.Valid :=
  (enter_explores wired inside closed valid room).1.fits.valid

theorem capacity_enter : (nfa.enter start ⟨set, []⟩).found.capacity = set.capacity :=
  (enter_explores wired inside closed valid room).1.capacity

theorem enter_closed : nfa.Closed (nfa.enter start ⟨set, []⟩).found.toList := by
  obtain ⟨explores, finished⟩ := enter_explores wired inside closed valid room
  intro id member
  rcases explores.settled id member with waiting | done
  · rw [finished] at waiting
    cases waiting
  · exact done

theorem enter_prefix : start ∈ set.toList ∨ set.toList ++ [start] <+: (nfa.enter start ⟨set, []⟩).found.toList :=
  (enter_explores wired inside closed valid room).1.entered

/-- The states that were not in the set before are added behind its members. -/
theorem enter_toList : ∃ added, (nfa.enter start ⟨set, []⟩).found.toList = set.toList ++ added ∧
    ∀ id, id ∈ added ↔ id ∉ set.toList ∧ Path nfa.states start [] id := by
  obtain ⟨added, grown, reached⟩ := (enter_explores wired inside closed valid room).1.grown
  have closed' := enter_closed wired inside closed valid room
  have distinct := (enter_valid wired inside closed valid room).nodup
  have member : start ∈ (nfa.enter start ⟨set, []⟩).found.toList := by
    rcases enter_prefix wired inside closed valid room with old | new
    · exact grown ▸ List.mem_append_left _ old
    · exact new.subset (by simp)
  change (nfa.enter start ⟨set, []⟩).found.toList = set.toList ++ added at grown
  refine ⟨added, grown, fun id => ⟨fun new => ⟨fun old => ?_, reached id new⟩, ?_⟩⟩
  · rw [grown] at distinct
    exact (List.nodup_append.mp distinct).2.2 id old id new rfl
  · rintro ⟨absent, way⟩
    have entered := mem_of_path wired closed' way rfl member
    rw [grown] at entered
    exact (List.mem_append.mp entered).resolve_left absent

theorem mem_enter {id : StateId} :
    id ∈ (nfa.enter start ⟨set, []⟩).found.toList ↔ id ∈ set.toList ∨ Path nfa.states start [] id := by
  obtain ⟨added, grown, members⟩ := enter_toList wired inside closed valid room
  rw [grown, List.mem_append, members]
  by_cases old : id ∈ set.toList <;> simp [old]

end

end Nfa

/-- Between two explorations nothing is pending, and no empty move leads out of the states found. -/
structure Exploration.Rests (nfa : Nfa) (exploration : Exploration) : Prop where
  fits : exploration.found.Fits nfa.stateCount
  closed : nfa.Closed exploration.found.toList
  idle : exploration.pending = []

namespace Exploration.Rests

variable [CaseMap] [Categories] {nfa : Nfa} (wired : nfa.Wired) {start : StateId} (inside : start < nfa.stateCount)
  {exploration : Exploration} (rests : exploration.Rests nfa)
include wired inside rests

theorem enter : (nfa.enter start exploration).Rests nfa := by
  obtain ⟨set, pending⟩ := exploration
  obtain ⟨⟨valid, room, within⟩, closed, rfl⟩ := rests
  have same := Nfa.capacity_enter wired inside closed valid room
  refine ⟨⟨Nfa.enter_valid wired inside closed valid room, ?_, ?_⟩, Nfa.enter_closed wired inside closed valid room,
    (Nfa.enter_explores wired inside closed valid room).2⟩
  · rw [same]
    exact room
  · intro id member
    rcases (Nfa.mem_enter wired inside closed valid room).mp member with old | way
    · exact within id old
    · exact wired.silent_lt inside way

theorem capacity_enter : (nfa.enter start exploration).found.capacity = exploration.found.capacity := by
  obtain ⟨set, pending⟩ := exploration
  obtain ⟨fits, closed, rfl⟩ := rests
  exact Nfa.capacity_enter wired inside closed fits.valid fits.room

theorem mem_enter {id : StateId} : id ∈ (nfa.enter start exploration).found.toList ↔
    id ∈ exploration.found.toList ∨ Path nfa.states start [] id := by
  obtain ⟨set, pending⟩ := exploration
  obtain ⟨fits, closed, rfl⟩ := rests
  exact Nfa.mem_enter wired inside closed fits.valid fits.room

end Exploration.Rests

end PatternNfa
