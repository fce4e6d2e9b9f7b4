import PatternNfa.Proofs.SparseMembers

/-! Sparse sets in use. Whatever has been done with a set, and whatever its arrays held before, it answers like a list
that new states are put at the end of. Nothing done with states below its capacity reaches outside the arrays. -/

namespace PatternNfa

/-- What can be done with a set. `ofCapacity` puts a new set in the place of the old one. -/
inductive SparseSet.Operation where
  | ofCapacity (count : Nat)
  | resize (count : Nat)
  | insert (id : StateId)
  | clear
  | contains (id : StateId)
  | size
  | isEmpty
  | toList
deriving DecidableEq

inductive SparseSet.Answer where
  | done
  | truth (holds : Bool)
  | number (count : Nat)
  | members (ids : List StateId)
deriving DecidableEq

namespace SparseSet

def perform (set : SparseSet) : Operation → Answer × SparseSet
  | .ofCapacity count => (.done, .ofCapacity count)
  | .resize count => (.done, set.resize count)
  | .insert id =>
    let (isNew, set) := set.insert id
    (.truth isNew, set)
  | .clear => (.done, set.clear)
  | .contains id => (.truth (set.contains id), set)
  | .size => (.number set.size, set)
  | .isEmpty => (.truth set.isEmpty, set)
  | .toList => (.members set.toList, set)

/-- States in the order in which they were entered, with the number of states that there is room for. -/
structure Roster where
  room : Nat
  ids : List StateId
deriving DecidableEq

/-- What the operations are meant to do. -/
def Roster.perform (roster : Roster) : Operation → Answer × Roster
  | .ofCapacity count | .resize count => (.done, ⟨count, []⟩)
  | .insert id =>
    if id ∈ roster.ids then (.truth false, roster)
    else (.truth true, { roster with ids := roster.ids ++ [id] })
  | .clear => (.done, { roster with ids := [] })
  | .contains id => (.truth (decide (id ∈ roster.ids)), roster)
  | .size => (.number roster.ids.length, roster)
  | .isEmpty => (.truth roster.ids.isEmpty, roster)
  | .toList => (.members roster.ids, roster)

/-- The answers to operations that are performed one after the other, and what is left behind. -/
def answers {σ : Type} (perform : σ → Operation → Answer × σ) (start : σ) : List Operation → List Answer × σ
  | [] => ([], start)
  | operation :: rest =>
    let (answer, next) := perform start operation
    let (later, last) := answers perform next rest
    (answer :: later, last)

namespace Operation

/-- A state that is inserted or asked for is one that there is room for. -/
def Within (room : Nat) : Operation → Prop
  | .insert id | .contains id => id < room
  | _ => True

def roomAfter (room : Nat) : Operation → Nat
  | .ofCapacity count | .resize count => count
  | _ => room

end Operation

/-- Every state is one that there is room for at its time. -/
def Admitted (room : Nat) : List Operation → Prop
  | [] => True
  | operation :: rest => operation.Within room ∧ Admitted (operation.roomAfter room) rest

end SparseSet

/-- Performs an operation, unless it reaches outside the arrays. -/
def Checked.perform (set : SparseSet) : SparseSet.Operation → Option (SparseSet.Answer × SparseSet)
  | .insert id => do
    let (isNew, set) ← insert set id
    return (.truth isNew, set)
  | .contains id => do
    let present ← contains set id
    return (.truth present, set)
  | .toList => do
    let ids ← members set
    return (.members ids, set)
  | operation => some (set.perform operation)

namespace SparseSet

theorem Roster.room_perform (roster : Roster) (operation : Operation) :
    (roster.perform operation).2.room = operation.roomAfter roster.room := by
  cases operation with
  | insert id =>
    rw [perform]
    split <;> rfl
  | ofCapacity | resize | clear | contains | size | isEmpty | toList => rfl

/-- The set holds the states of the roster and has room for as many. -/
structure Follows (set : SparseSet) (roster : Roster) : Prop where
  valid : set.Valid
  ids : set.toList = roster.ids
  room : set.capacity = roster.room

theorem follows_emptied (dense : Array StateId) (sparse : Array Nat) (paired : dense.size = sparse.size) :
    Follows ⟨0, dense, sparse⟩ ⟨sparse.size, []⟩ := ⟨⟨paired, by simp⟩, by simp [toList], rfl⟩

namespace Follows

variable {set : SparseSet} {roster : Roster} (follows : set.Follows roster)
include follows

variable {operation : Operation} (within : operation.Within roster.room)
include within

/-- One operation gives the same answer and leaves the set and the roster in agreement. -/
theorem perform : (set.perform operation).1 = (roster.perform operation).1 ∧
    (set.perform operation).2.Follows (roster.perform operation).2 := by
  obtain ⟨valid, ids, room⟩ := follows
  cases operation with
  | ofCapacity count => exact ⟨rfl, resize_valid empty count, toList_ofCapacity count, capacity_resize empty count⟩
  | resize count => exact ⟨rfl, resize_valid set count, toList_resize set count, capacity_resize set count⟩
  | clear => exact ⟨rfl, clear_valid valid, toList_clear set, room⟩
  | insert id =>
    by_cases present : id ∈ set.toList
    · have unchanged : set.perform (.insert id) = (.truth false, set) := by
        rw [SparseSet.perform, valid.insert_present present]
      have listed : roster.perform (.insert id) = (.truth false, roster) := if_pos (ids ▸ present)
      rw [unchanged, listed]
      exact ⟨rfl, valid, ids, room⟩
    · have inside : id < set.capacity := room ▸ within
      have changed : set.perform (.insert id) = (.truth true, (set.insert id).2) := by
        rw [SparseSet.perform, valid.insert_absent present]
      have listed : roster.perform (.insert id) = (.truth true, ⟨roster.room, roster.ids ++ [id]⟩) :=
        if_neg (ids ▸ present)
      rw [changed, listed]
      refine ⟨rfl, valid.insert_valid inside, ?_, (capacity_insert set id).trans room⟩
      rw [valid.insert_toList inside present, ids]
  | contains id =>
    have answer : set.contains id = decide (id ∈ roster.ids) := by
      rw [Bool.eq_iff_iff, valid.contains_iff, ids, decide_eq_true_iff]
    exact ⟨congrArg Answer.truth answer, valid, ids, room⟩
  | size =>
    have answer : set.size = roster.ids.length := ids ▸ valid.length_toList.symm
    exact ⟨congrArg Answer.number answer, valid, ids, room⟩
  | isEmpty =>
    have answer : set.isEmpty = roster.ids.isEmpty := by
      rw [Bool.eq_iff_iff, valid.isEmpty_iff, ids, List.isEmpty_iff]
    exact ⟨congrArg Answer.truth answer, valid, ids, room⟩
  | toList => exact ⟨congrArg Answer.members ids, valid, ids, room⟩

theorem checked : Checked.perform set operation = some (set.perform operation) := by
  obtain ⟨valid, _, room⟩ := follows
  cases operation with
  | insert id =>
    rw [Checked.perform, Checked.insert_eq valid (room ▸ within)]
    rfl
  | contains id =>
    rw [Checked.perform, Checked.contains_eq valid (room ▸ within)]
    rfl
  | toList =>
    rw [Checked.perform, Checked.members_eq valid]
    rfl
  | ofCapacity | resize | clear | size | isEmpty => rfl

omit within

/-- The set and the roster stay in agreement, and so do their answers. -/
theorem answers {before rest : List Operation} (admitted : Admitted roster.room (before ++ rest)) :
    let (given, last) := SparseSet.answers SparseSet.perform set before
    let (meant, listed) := SparseSet.answers Roster.perform roster before
    given = meant ∧ last.Follows listed ∧ Admitted listed.room rest := by
  induction before generalizing set roster with
  | nil => exact ⟨rfl, follows, admitted⟩
  | cons operation before ih =>
    obtain ⟨within, admitted⟩ := admitted
    obtain ⟨answer, next⟩ := follows.perform within
    rw [← Roster.room_perform] at admitted
    obtain ⟨later, last, admitted⟩ := ih next admitted
    exact ⟨List.cons_eq_cons.mpr ⟨answer, later⟩, last, admitted⟩

end Follows

/-- A set whose arrays hold anything at all, in any order of operations on states that there is room for, answers like a
list without duplicates. No operation reaches outside the arrays, and an absent state always finds a place. -/
theorem operations_answered (dense : Array StateId) (sparse : Array Nat) (paired : dense.size = sparse.size)
    {operations : List Operation} (admitted : Admitted sparse.size operations) :
    (answers perform ⟨0, dense, sparse⟩ operations).1 = (answers Roster.perform ⟨sparse.size, []⟩ operations).1 ∧
    ∀ before rest, operations = before ++ rest →
      let set := (answers perform ⟨0, dense, sparse⟩ before).2
      let roster := (answers Roster.perform ⟨sparse.size, []⟩ before).2
      roster.ids.Nodup ∧ set.toList = roster.ids ∧ set.capacity = roster.room ∧
      ∀ operation after, rest = operation :: after →
        Checked.perform set operation = some (set.perform operation) ∧
        ∀ id, operation = .insert id → id ∉ roster.ids → set.count < set.capacity := by
  have begun := follows_emptied dense sparse paired
  constructor
  · rw [← List.append_nil operations] at admitted
    exact (begun.answers admitted).1
  · rintro before rest rfl set roster
    obtain ⟨_, follows, admitted⟩ := begun.answers admitted
    refine ⟨follows.ids ▸ follows.valid.nodup, follows.ids, follows.room, ?_⟩
    rintro operation after rfl
    refine ⟨follows.checked admitted.1, ?_⟩
    rintro id rfl absent
    exact follows.valid.count_lt (follows.room ▸ admitted.1) (follows.ids ▸ absent)

/-- At first the slots of the states 0 and 2 point at places that hold these states, and the slot of 1 lies outside. -/
theorem operations_answered_stale :
    (answers perform ⟨0, #[2, 0, 7], #[1, 9, 0]⟩
      [.contains 2, .insert 1, .contains 2, .insert 0, .insert 1, .toList, .clear, .contains 1, .insert 2, .size,
        .resize 2, .isEmpty, .insert 1, .insert 0, .toList]).1 =
    [.truth false, .truth true, .truth false, .truth true, .truth false, .members [1, 0], .done, .truth false,
      .truth true, .number 1, .done, .truth true, .truth true, .truth true, .members [1, 0]] :=
  (operations_answered #[2, 0, 7] #[1, 9, 0] rfl
    (by simp [Admitted, Operation.Within, Operation.roomAfter])).1.trans rfl

end SparseSet

end PatternNfa
