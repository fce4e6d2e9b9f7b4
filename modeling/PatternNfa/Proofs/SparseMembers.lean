import PatternNfa.Nfa.Checked
import Mathlib.Data.List.Nodup
import Mathlib.Data.List.Perm.Subperm

/-! A sparse set behaves like a list without duplicates, whatever its entries beyond the last member hold. Slots of
members point back at them; nothing is asked of the other entries, so the buffers of an earlier run are as good as
fresh ones. What is done with states that there is room for stays inside the arrays. -/

namespace PatternNfa

/-- There are no more than `count` states among the first `count`. -/
theorem StateId.length_le {ids : List StateId} {count : Nat} (distinct : ids.Nodup) (below : ∀ id ∈ ids, id < count) :
    ids.length ≤ count := by
  have bounded := distinct.length_le_of_subset fun id member => List.mem_range.mpr (below id member)
  simpa only [List.length_range] using bounded

namespace SparseSet

structure Valid (set : SparseSet) : Prop where
  paired : set.dense.size = set.sparse.size
  linked : ∀ place < set.count, ∃ id, set.dense[place]? = some id ∧ set.sparse[id]? = some place

theorem toList_eq (set : SparseSet) : set.toList = set.dense.toList.take set.count := by
  simp [toList, Array.take_eq_extract]

theorem mem_toList {set : SparseSet} {id : StateId} :
    id ∈ set.toList ↔ ∃ place < set.count, set.dense[place]? = some id := by
  simp only [toList_eq, List.mem_iff_getElem?, List.getElem?_take, Array.getElem?_toList]
  constructor
  · rintro ⟨place, found⟩
    split at found
    next inside => exact ⟨place, inside, found⟩
    next => cases found
  · rintro ⟨place, inside, found⟩
    exact ⟨place, by rw [if_pos inside, found]⟩

theorem empty_valid : empty.Valid := ⟨rfl, by simp [empty]⟩

theorem clear_valid {set : SparseSet} (valid : set.Valid) : set.clear.Valid := ⟨valid.paired, by simp [clear]⟩

theorem resize_valid (set : SparseSet) (count : Nat) : (set.resize count).Valid := by
  constructor
  · have dense : (set.dense.take count).size ≤ count := by rw [Array.take_eq_extract, Array.size_extract]; omega
    have sparse : (set.sparse.take count).size ≤ count := by rw [Array.take_eq_extract, Array.size_extract]; omega
    simp only [resize, Array.size_rightpad]
    omega
  · simp [resize]

namespace Valid

variable {set : SparseSet} (valid : set.Valid)
include valid

theorem count_le : set.count ≤ set.capacity := by
  apply Nat.le_of_not_lt
  intro beyond
  obtain ⟨id, found, _⟩ := valid.linked (set.count - 1) (by omega)
  have inside := (Array.getElem?_eq_some_iff.mp found).1
  have := valid.paired
  simp only [capacity] at beyond
  omega

theorem length_toList : set.toList.length = set.count := by
  have bound := valid.count_le
  have paired := valid.paired
  simp only [capacity] at bound
  simp only [toList_eq, List.length_take, Array.length_toList]
  omega

theorem mem_lt {id : StateId} (member : id ∈ set.toList) : id < set.capacity := by
  obtain ⟨place, inside, found⟩ := mem_toList.mp member
  obtain ⟨other, same, slot⟩ := valid.linked place inside
  obtain rfl : id = other := Option.some.inj (found.symm.trans same)
  exact (Array.getElem?_eq_some_iff.mp slot).1

/-- Two places that hold one state are both where its slot points. -/
theorem nodup : set.toList.Nodup := by
  rw [List.nodup_iff_getElem?_ne_getElem?]
  intro first second before inside same
  rw [valid.length_toList] at inside
  simp only [toList_eq, List.getElem?_take, Array.getElem?_toList] at same
  rw [if_pos (by omega), if_pos inside] at same
  obtain ⟨id, found, slot⟩ := valid.linked first (by omega)
  obtain ⟨other, alsoFound, otherSlot⟩ := valid.linked second inside
  obtain rfl : id = other := Option.some.inj (found.symm.trans (same.trans alsoFound))
  have := Option.some.inj (slot.symm.trans otherSlot)
  omega

theorem contains_iff {id : StateId} : set.contains id = true ↔ id ∈ set.toList := by
  constructor
  · intro contained
    unfold contains at contained
    split at contained
    next slot _ =>
      split at contained
      next member found =>
        simp only [Bool.and_eq_true, decide_eq_true_eq, beq_iff_eq] at contained
        exact mem_toList.mpr ⟨slot, contained.1, by rw [found, contained.2]⟩
      next => cases contained
    next => cases contained
  · intro member
    obtain ⟨place, inside, found⟩ := mem_toList.mp member
    obtain ⟨other, same, slot⟩ := valid.linked place inside
    obtain rfl : id = other := Option.some.inj (found.symm.trans same)
    simp [contains, slot, found, inside]

theorem isEmpty_iff : set.isEmpty = true ↔ set.toList = [] := by
  rw [← List.length_eq_zero_iff, valid.length_toList, isEmpty, beq_iff_eq]

/-- The members are distinct states below the capacity, so an absent state leaves room for one more. -/
theorem count_lt {id : StateId} (inside : id < set.capacity) (absent : id ∉ set.toList) :
    set.count < set.capacity := by
  have distinct : (id :: set.toList).Nodup := List.nodup_cons.mpr ⟨absent, valid.nodup⟩
  have bounded := StateId.length_le distinct (List.forall_mem_cons.mpr ⟨inside, fun _ => valid.mem_lt⟩)
  rw [List.length_cons, valid.length_toList] at bounded
  exact bounded

theorem insert_present {id : StateId} (present : id ∈ set.toList) : set.insert id = (false, set) := by
  rw [insert, if_pos (valid.contains_iff.mpr present)]

theorem insert_absent {id : StateId} (absent : id ∉ set.toList) :
    set.insert id = (true, ⟨set.count + 1, set.dense.set! set.count id, set.sparse.set! id set.count⟩) := by
  rw [insert, if_neg (fun contained => absent (valid.contains_iff.mp contained))]

theorem insert_toList {id : StateId} (inside : id < set.capacity) (absent : id ∉ set.toList) :
    (set.insert id).2.toList = set.toList ++ [id] := by
  have room := valid.count_lt inside absent
  have paired := valid.paired
  simp only [capacity] at room
  rw [valid.insert_absent absent]
  simp only [toList_eq, Array.set!_eq_setIfInBounds, Array.toList_setIfInBounds]
  rw [List.take_add_one, List.getElem?_set_self (by simpa [paired] using room), List.take_set_of_le (Nat.le_refl _)]
  rfl

/-- A stale slot of another state may come to point at the new member, which is no harm: it is not where that
state stands. -/
theorem insert_valid {id : StateId} (inside : id < set.capacity) : (set.insert id).2.Valid := by
  by_cases present : id ∈ set.toList
  · rw [valid.insert_present present]
    exact valid
  · have room := valid.count_lt inside present
    have paired := valid.paired
    simp only [capacity] at room inside
    rw [valid.insert_absent present]
    refine ⟨by simpa using paired, ?_⟩
    intro place within
    simp only [Array.set!_eq_setIfInBounds, Array.getElem?_setIfInBounds]
    by_cases last : set.count = place
    · subst place
      exact ⟨id, by simp [paired, room], by simp [inside]⟩
    · obtain ⟨other, found, slot⟩ := valid.linked place (by simp only at within; omega)
      refine ⟨other, by simpa [last] using found, ?_⟩
      have different : id ≠ other := by
        rintro rfl
        exact present (mem_toList.mpr ⟨place, by simp only at within; omega, found⟩)
      simpa [different] using slot

end Valid

theorem capacity_insert (set : SparseSet) (id : StateId) : (set.insert id).2.capacity = set.capacity := by
  unfold insert
  split <;> simp [capacity]

end SparseSet

namespace Checked

variable {set : SparseSet} (valid : set.Valid)
include valid

theorem contains_eq {id : StateId} (inside : id < set.capacity) : contains set id = some (set.contains id) := by
  have slotted : set.sparse[id]? = some set.sparse[id] := Array.getElem?_eq_getElem inside
  rw [contains, SparseSet.contains, slotted]
  simp only [Option.bind_eq_bind, Option.bind_some]
  split
  next live =>
    obtain ⟨member, found, _⟩ := valid.linked _ live
    simp [found, live]
  next stale => cases set.dense[set.sparse[id]]? <;> simp [stale]

theorem insert_eq {id : StateId} (inside : id < set.capacity) : insert set id = some (set.insert id) := by
  rw [insert, contains_eq valid inside]
  by_cases present : id ∈ set.toList
  · rw [valid.insert_present present, valid.contains_iff.mpr present]
    rfl
  · have free := valid.count_lt inside present
    have place : set.count < set.dense.size := valid.paired ▸ free
    have missing : set.contains id = false :=
      Bool.eq_false_iff.mpr fun contained => present (valid.contains_iff.mp contained)
    rw [valid.insert_absent present, missing]
    simp only [SparseSet.capacity] at free inside
    simp [guard, SparseSet.capacity, free, place, inside]

theorem members_eq : members set = some set.toList := by
  have bound : set.count ≤ set.dense.size := valid.paired ▸ valid.count_le
  simp [members, guard, bound]

end Checked

end PatternNfa
