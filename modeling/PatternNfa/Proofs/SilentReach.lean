import PatternNfa.Proofs.BuiltAutomata

/-! What an exploration adds to a set of states, and how soon it comes to an end. States of the set are not followed
again, which keeps it from running in circles. Nothing is missed by that as long as the set is closed. -/

namespace PatternNfa.Nfa

section

variable [CaseMap] [Categories]

section

variable {nfa : Nfa} (wired : nfa.Wired) {set : SparseSet} {start : StateId} (inside : start < nfa.stateCount)
include wired inside

/-- Just the states that are added take their turn, each once. -/
theorem enter_appends (closed : nfa.Closed set.toList) (valid : set.Valid) (room : nfa.stateCount ≤ set.capacity) :
    ∃ added, (nfa.enter start ⟨set, []⟩).found.toList = set.toList ++ added ∧ added.Nodup ∧
      (∀ id, id ∈ added ↔ id ∉ set.toList ∧ Path nfa.states start [] id) ∧ added.length ≤ nfa.stateCount ∧
      Exploration.Empties nfa added.length (Exploration.reach ⟨set, []⟩ start) (nfa.enter start ⟨set, []⟩) := by
  obtain ⟨added, grown, members⟩ := enter_toList wired inside closed valid room
  obtain ⟨pops, empties, popped⟩ := enter_empties wired inside closed valid room
  have distinct := (enter_valid wired inside closed valid room).nodup
  rw [grown] at distinct popped
  obtain rfl : pops = added.length := by
    rw [List.length_append] at popped
    exact (Nat.add_left_cancel popped).symm
  have few := (enter_explores wired inside closed valid room).1.length_le wired inside
  change (nfa.enter start ⟨set, []⟩).found.toList.length ≤ _ at few
  rw [grown, List.length_append] at few
  exact ⟨added, grown, (List.nodup_append.mp distinct).2.1, members, Nat.le_of_add_le_add_left few, empties⟩

theorem closure_lists : (nfa.closure start).Nodup ∧ (nfa.closure start).head? = some start ∧
    ∀ id, id ∈ nfa.closure start ↔ Path nfa.states start [] id := by
  have blank := SparseSet.toList_ofCapacity nfa.stateCount
  have valid : (SparseSet.ofCapacity nfa.stateCount).Valid := SparseSet.resize_valid _ _
  have room : nfa.stateCount ≤ (SparseSet.ofCapacity nfa.stateCount).capacity :=
    Nat.le_of_eq (SparseSet.capacity_resize _ _).symm
  have closed : nfa.Closed (SparseSet.ofCapacity nfa.stateCount).toList := by simp [Closed, blank]
  refine ⟨(enter_valid wired inside closed valid room).nodup, ?_, fun id => ?_⟩
  · have first := enter_prefix wired inside closed valid room
    rw [blank] at first
    obtain ⟨more, listed⟩ := first.resolve_left List.not_mem_nil
    rw [closure, ← listed]
    rfl
  · rw [closure, mem_enter wired inside closed valid room, blank]
    simp

end

/-- A state is entered into a closed set by appending the states that empty moves lead to from there and that the set
lacks, each of them once. The set is closed again. One turn is taken for each of these states, after which none waits.
In particular, the closure of a state lists what empty moves lead to, the state itself first. -/
theorem enter_exactly {tokens : List Token} {nfa : Nfa} (built : Nfa.ofTokens tokens = .ok nfa) {start : StateId}
    (inside : start < nfa.stateCount) :
    (∀ set : SparseSet, set.Valid → nfa.stateCount ≤ set.capacity → nfa.Closed set.toList →
      (∃ added, (nfa.enter start ⟨set, []⟩).found.toList = set.toList ++ added ∧ added.Nodup ∧
        (∀ id, id ∈ added ↔ id ∉ set.toList ∧ Path nfa.states start [] id) ∧ added.length ≤ nfa.stateCount ∧
        Exploration.Empties nfa added.length (Exploration.reach ⟨set, []⟩ start) (nfa.enter start ⟨set, []⟩)) ∧
      (nfa.enter start ⟨set, []⟩).pending = [] ∧
      (∀ id, id ∈ (nfa.enter start ⟨set, []⟩).found.toList ↔ id ∈ set.toList ∨ Path nfa.states start [] id) ∧
      (nfa.enter start ⟨set, []⟩).found.Valid ∧ (nfa.enter start ⟨set, []⟩).found.capacity = set.capacity ∧
      nfa.Closed (nfa.enter start ⟨set, []⟩).found.toList) ∧
    (nfa.closure start).Nodup ∧ (nfa.closure start).head? = some start ∧
      ∀ id, id ∈ nfa.closure start ↔ Path nfa.states start [] id := by
  have wired := ofTokens_wired built
  refine ⟨fun set valid room closed => ⟨?_, ?_, ?_, ?_, ?_, ?_⟩, closure_lists wired inside⟩
  · exact enter_appends wired inside closed valid room
  · exact (enter_explores wired inside closed valid room).2
  · exact fun id => mem_enter wired inside closed valid room
  · exact enter_valid wired inside closed valid room
  · exact capacity_enter wired inside closed valid room
  · exact enter_closed wired inside closed valid room

end

/-- In the automaton of `(a*)*` two states lead to each other silently. Its accepting state is in the set already. -/
theorem enter_exactly_loop : ∃ nfa,
    Nfa.ofTokens [.single false (.literal 'a' false), .operator .star, .operator .star] = .ok nfa ∧
    ∃ set : SparseSet, nfa.stateCount < set.capacity ∧ nfa.Closed set.toList ∧ set.toList = [nfa.accept] ∧
      (nfa.enter nfa.initial ⟨set, []⟩).found.toList = [4, 5, 3, 1, 2] ∧
      ∀ id, id ∈ (nfa.enter nfa.initial ⟨set, []⟩).found.toList ↔
        id = nfa.accept ∨ Path nfa.states nfa.initial [] id := by
  let nfa : Nfa :=
    ⟨#[.fork 1 2, .consume ⟨false, .members ['a'] false⟩ 0, .fork 3 4, .fork 1 2, .exit, .fork 3 4], 5, 4⟩
  have built : Nfa.ofTokens [.single false (.literal 'a' false), .operator .star, .operator .star] = .ok nfa := rfl
  have valid : ((SparseSet.ofCapacity 8).insert 4).2.Valid :=
    (SparseSet.resize_valid SparseSet.empty 8).insert_valid (by decide)
  have listed : ((SparseSet.ofCapacity 8).insert 4).2.toList = [4] := by decide
  have closed : nfa.Closed ((SparseSet.ofCapacity 8).insert 4).2.toList := by
    rw [listed]
    unfold Closed
    decide
  have inside : nfa.initial < nfa.stateCount := by decide
  obtain ⟨_, _, members, _⟩ := (enter_exactly built inside).1 _ valid (by decide) closed
  refine ⟨nfa, built, _, by decide, closed, listed, by decide, fun id => ?_⟩
  simpa only [listed, List.mem_singleton] using members id

end PatternNfa.Nfa
