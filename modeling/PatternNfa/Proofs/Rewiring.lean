import PatternNfa.Nfa.Path

/-! What every operator of the construction does to the states: it gives moves to exit states of its operands, adds
states behind the last one, and leaves all others as they are. A way through the rewired states is a way through the
old ones as far as the next exit, and then goes on from there. -/

namespace PatternNfa

/-- The states from `low` on, of which no edge leads away, are rewired at their exits. The `hubs` are the rewired and
the new states with what they become. They consume nothing. -/
structure Rewired (before after : Array State) (low : Nat) (exits : List StateId) (hubs : List (StateId × State)) :
    Prop where
  exit : ∀ id ∈ exits, low ≤ id ∧ before[id]? = some .exit ∧ ∃ state, (id, state) ∈ hubs
  closed : ∀ {id state}, low ≤ id → before[id]? = some state →
    ∀ next ∈ state.successors, low ≤ next ∧ next < before.size
  placed : ∀ hub ∈ hubs, hub.1 ∈ exits ∨ before.size ≤ hub.1
  found : ∀ hub ∈ hubs, after[hub.1]? = some hub.2
  others : ∀ {id}, (∀ hub ∈ hubs, id ≠ hub.1) → after[id]? = before[id]?
  silent : ∀ hub ∈ hubs, hub.2.successors = hub.2.emptyMoves
  within : ∀ hub ∈ hubs, ∀ next ∈ hub.2.emptyMoves, low ≤ next ∧ next < after.size

namespace Rewired

variable {before after : Array State} {low : Nat} {exits : List StateId} {hubs : List (StateId × State)}
  (rewired : Rewired before after low exits hubs)
include rewired

theorem kept {id : StateId} (old : id < before.size) (other : id ∉ exits) : after[id]? = before[id]? := by
  apply rewired.others
  intro hub member same
  subst id
  cases rewired.placed hub member with
  | inl exit => exact other exit
  | inr new => exact Nat.not_lt_of_le new old

theorem listed {id : StateId} {state : State} (hub : id ∈ exits ∨ before.size ≤ id)
    (found : after[id]? = some state) : (id, state) ∈ hubs := by
  by_cases known : ∃ hub ∈ hubs, id = hub.1
  · obtain ⟨⟨other, kind⟩, member, same⟩ := known
    subst same
    have := Option.some.inj ((rewired.found _ member).symm.trans found)
    subst this
    exact member
  · have unknown : ∀ hub ∈ hubs, id ≠ hub.1 := fun hub member same => known ⟨hub, member, same⟩
    cases hub with
    | inl exit =>
      obtain ⟨_, _, kind, member⟩ := rewired.exit id exit
      exact absurd rfl (unknown _ member)
    | inr new =>
      rw [rewired.others unknown, Array.getElem?_eq_none new] at found
      cases found

theorem grown : before.size ≤ after.size := by
  apply Nat.le_of_not_lt
  intro shrunk
  have gone : after[after.size]? = none := Array.getElem?_eq_none (Nat.le_refl _)
  have unknown : ∀ hub ∈ hubs, after.size ≠ hub.1 := by
    intro hub member same
    rw [same, rewired.found hub member] at gone
    cases gone
  rw [rewired.others unknown, Array.getElem?_eq_none_iff] at gone
  omega

theorem kept_of_successor {id next : StateId} {state : State} (found : before[id]? = some state)
    (edge : next ∈ state.successors) : after[id]? = some state := by
  have other : id ∉ exits := by
    intro member
    have := Option.some.inj (found.symm.trans (rewired.exit id member).2.1)
    subst state
    cases edge
  exact (rewired.kept (Array.getElem?_eq_some_iff.mp found).1 other).trans found

theorem closed_after {id : StateId} {state : State} (inside : low ≤ id) (found : after[id]? = some state) :
    ∀ next ∈ state.successors, low ≤ next ∧ next < after.size := by
  intro next edge
  by_cases hub : id ∈ exits ∨ before.size ≤ id
  · have member := rewired.listed hub found
    have moves : next ∈ state.emptyMoves := rewired.silent _ member ▸ edge
    exact rewired.within _ member next moves
  · obtain ⟨other, old⟩ := not_or.mp hub
    have same := rewired.kept (Nat.lt_of_not_le old) other
    obtain ⟨above, below⟩ := rewired.closed inside (same.symm.trans found) next edge
    exact ⟨above, Nat.lt_of_lt_of_le below rewired.grown⟩

variable [CaseMap] [Categories]

theorem lift {first last : StateId} {text : List Char} (way : Path before first text last) :
    Path after first text last := by
  induction way with
  | stay => exact .stay _
  | @move _ _ _ state _ found moves _ ih =>
    have edge := state.emptyMoves_subset moves
    exact .move (rewired.kept_of_successor found edge) moves ih
  | consume found accepted _ ih =>
    exact .consume (rewired.kept_of_successor found List.mem_cons_self) accepted ih

end Rewired

variable [CaseMap] [Categories]

/-- Whether a text leads on from a state to the end, if `onward` says so for the exits and the new states: from an old
state it has to lead to an exit first. -/
def LeadsOn (before : Array State) (exits : List StateId) (onward : StateId → List Char → Prop) (id : StateId)
    (text : List Char) : Prop :=
  if id < before.size then
    ∃ exit ∈ exits, ∃ left right, left ++ right = text ∧ Path before id left exit ∧ onward exit right
  else onward id text

namespace LeadsOn

variable {before : Array State} {exits : List StateId} {onward : StateId → List Char → Prop} {id : StateId}
  {text : List Char}

theorem old_iff (old : id < before.size) : LeadsOn before exits onward id text ↔
    ∃ exit ∈ exits, ∃ left right, left ++ right = text ∧ Path before id left exit ∧ onward exit right := by
  rw [LeadsOn, if_pos old]

theorem new_iff (new : before.size ≤ id) : LeadsOn before exits onward id text ↔ onward id text := by
  rw [LeadsOn, if_neg (Nat.not_lt_of_le new)]

theorem of_exit (exit : id ∈ exits) (next : onward id text) : LeadsOn before exits onward id text := by
  unfold LeadsOn
  split
  · exact ⟨id, exit, [], text, rfl, .stay id, next⟩
  · exact next

theorem at_exit (exit : before[id]? = some .exit) (leads : LeadsOn before exits onward id text) : onward id text := by
  obtain ⟨other, _, left, right, rfl, way, next⟩ := (old_iff (Array.getElem?_eq_some_iff.mp exit).1).mp leads
  obtain ⟨rfl, rfl⟩ := Path.of_exit exit way
  exact next

end LeadsOn

/-- Ways through rewired states. It is enough to look at each hub once, however often the way comes back to it. -/
theorem Rewired.leadsOn {before after : Array State} {low : Nat} {exits : List StateId}
    {hubs : List (StateId × State)} (rewired : Rewired before after low exits hubs)
    (onward : StateId → List Char → Prop) {first target : StateId} {text : List Char}
    (way : Path after first text target) (inside : low ≤ first)
    (ends : LeadsOn before exits onward target [])
    (hubward : ∀ hub ∈ hubs, ∀ next ∈ hub.2.emptyMoves, ∀ text,
      LeadsOn before exits onward next text → onward hub.1 text) :
    LeadsOn before exits onward first text := by
  induction way with
  | stay => exact ends
  | @move id next _ state text found moves _ ih =>
    have edge := state.emptyMoves_subset moves
    have later := ih (rewired.closed_after inside found next edge).1 ends
    by_cases hub : id ∈ exits ∨ before.size ≤ id
    · have here := hubward _ (rewired.listed hub found) next moves text later
      rcases hub with exit | new
      · exact .of_exit exit here
      · exact (LeadsOn.new_iff new).mpr here
    · obtain ⟨other, old⟩ := not_or.mp hub
      have inside' := Nat.lt_of_not_le old
      have found' := (rewired.kept inside' other).symm.trans found
      have nextOld := (rewired.closed inside found' next edge).2
      obtain ⟨exit, member, left, right, rfl, before, after⟩ := (LeadsOn.old_iff nextOld).mp later
      exact (LeadsOn.old_iff inside').mpr ⟨exit, member, left, right, rfl, .move found' moves before, after⟩
  | @consume id next _ predicate c text found accepted _ ih =>
    have edge : next ∈ (State.consume predicate next).successors := List.mem_cons_self
    have later := ih (rewired.closed_after inside found next edge).1 ends
    by_cases hub : id ∈ exits ∨ before.size ≤ id
    · -- A hub would have to move on silently.
      have silent : [next] = [] := rewired.silent _ (rewired.listed hub found)
      cases silent
    · obtain ⟨other, old⟩ := not_or.mp hub
      have inside' := Nat.lt_of_not_le old
      have found' := (rewired.kept inside' other).symm.trans found
      have nextOld := (rewired.closed inside found' next edge).2
      obtain ⟨exit, member, left, right, rfl, before, after⟩ := (LeadsOn.old_iff nextOld).mp later
      exact (LeadsOn.old_iff inside').mpr
        ⟨exit, member, c :: left, right, rfl, .consume found' accepted before, after⟩

end PatternNfa
