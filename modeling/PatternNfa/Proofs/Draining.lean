import Mathlib.Logic.Relation
import PatternNfa.Proofs.Building

/-! The construction leaves no dead end: from every state edges lead on to the exit of a fragment, and from every state
of a finished automaton to the accepting one. -/

namespace PatternNfa

/-- Whether an edge leads from one state to another, consuming a character or not. -/
def Edge (states : Array State) (id next : StateId) : Prop :=
  ∃ state, states[id]? = some state ∧ next ∈ state.successors

/-- Whether edges lead from one state to another. -/
def Leads (states : Array State) : StateId → StateId → Prop := Relation.ReflTransGen (Edge states)

theorem Leads.mono {before after : Array State} (kept : ∀ {id next}, Edge before id next → Edge after id next)
    {id last : StateId} (leads : Leads before id last) : Leads after id last :=
  Relation.ReflTransGen.mono (fun _ _ => kept) _ _ leads

@[simp]
theorem Leads.refl (states : Array State) (id : StateId) : Leads states id id := Relation.ReflTransGen.refl

theorem Leads.trans {states : Array State} {id middle last : StateId} (before : Leads states id middle)
    (after : Leads states middle last) : Leads states id last :=
  Relation.ReflTransGen.trans before after

/-- Every fragment leads from its beginning to its exit, and every state leads to the exit of some fragment. -/
structure Drained (states : Array State) (fragments : List Fragment) : Prop where
  through : ∀ fragment ∈ fragments, Leads states fragment.initial fragment.accept
  drains : ∀ {id}, id < states.size → ∃ fragment ∈ fragments, Leads states id fragment.accept

theorem Drained.alone : Drained #[.exit] [⟨0, 0⟩] := by
  refine ⟨by simp, ?_⟩
  intro id below
  obtain rfl : id = 0 := Nat.lt_one_iff.mp below
  simp

namespace Rewired

variable {before after : Array State} {low : Nat} {exits : List StateId} {hubs : List (StateId × State)}
  (rewired : Rewired before after low exits hubs)
include rewired

theorem edge {id next : StateId} (edge : Edge before id next) : Edge after id next := by
  obtain ⟨state, found, moves⟩ := edge
  exact ⟨state, rewired.kept_of_successor found moves, moves⟩

theorem leads {id last : StateId} (leads : Leads before id last) : Leads after id last := leads.mono rewired.edge

theorem hub_leads (id : StateId) (state : State) (hub : (id, state) ∈ hubs) {next : StateId}
    (moves : next ∈ state.successors) : Leads after id next :=
  .single ⟨state, rewired.found _ hub, moves⟩

theorem jump_leads (id next : StateId) (hub : (id, .jump next) ∈ hubs) : Leads after id next :=
  rewired.hub_leads id _ hub List.mem_cons_self

theorem fork_leads (id one other : StateId) (hub : (id, .fork one other) ∈ hubs) :
    Leads after id one ∧ Leads after id other :=
  ⟨rewired.hub_leads id _ hub List.mem_cons_self,
    rewired.hub_leads id _ hub (List.mem_cons_of_mem _ List.mem_cons_self)⟩

/-- If all hubs lead to the exit of the fragment made of the popped ones, so does all that led to their exits. -/
theorem drained (popped : List Fragment) {rest : List Fragment} {whole : Fragment}
    (drained : Drained before (popped ++ rest)) (ends : ∀ fragment ∈ popped, fragment.accept ∈ exits)
    (onward : ∀ hub ∈ hubs, hub.1 = whole.accept ∨ ∃ next ∈ hub.2.successors, Leads after next whole.accept)
    (begins : whole.initial ∈ hubs.map Prod.fst ++ popped.map Fragment.initial) :
    Drained after (whole :: rest) := by
  have leave {hub : StateId × State} (member : hub ∈ hubs) : Leads after hub.1 whole.accept := by
    rcases onward hub member with same | ⟨next, moves, leads⟩
    · exact same ▸ .refl _ _
    · exact (rewired.hub_leads _ _ member moves).trans leads
  have carried {id : StateId} {fragment : Fragment} (member : fragment ∈ popped)
      (leads : Leads before id fragment.accept) : Leads after id whole.accept := by
    -- The exit of a popped fragment has become a hub.
    obtain ⟨_, _, state, hub⟩ := rewired.exit _ (ends fragment member)
    exact (rewired.leads leads).trans (leave hub)
  constructor
  · refine List.forall_mem_cons.mpr ⟨?_, ?_⟩
    · rcases List.mem_append.mp begins with hub | operand
      · obtain ⟨hub, member, same⟩ := List.mem_map.mp hub
        exact same ▸ leave member
      · obtain ⟨fragment, member, same⟩ := List.mem_map.mp operand
        exact same ▸ carried member (drained.through fragment (List.mem_append_left _ member))
    · intro fragment member
      exact rewired.leads (drained.through fragment (List.mem_append_right _ member))
  · intro id below
    by_cases old : id < before.size
    · obtain ⟨fragment, member, leads⟩ := drained.drains old
      rcases List.mem_append.mp member with used | other
      · exact ⟨whole, List.mem_cons_self, carried used leads⟩
      · exact ⟨fragment, List.mem_cons_of_mem _ other, rewired.leads leads⟩
    · have found := Array.getElem?_eq_getElem below
      exact ⟨whole, List.mem_cons_self, leave (rewired.listed (Or.inr (Nat.le_of_not_lt old)) found)⟩

end Rewired

namespace Construction

variable {states : Array State} {low middle : Nat} {first second inner : Fragment} {rest : List Fragment}

theorem quantify_drained (block : inner.Block states low states.size) (drained : Drained states (inner :: rest))
    (quantifier : Quantifier) :
    Drained (quantify states inner quantifier).1 ((quantify states inner quantifier).2 :: rest) := by
  cases quantifier with
  | star => apply (star_rewired block).drained [inner] drained <;> simp [quantify, State.successors]
  | plus =>
    have rewired := plus_rewired block
    have leave := (rewired.fork_leads (states.size + 1) inner.initial states.size (by simp)).2
    apply rewired.drained [inner] drained
    · simp
    · simpa [quantify, State.successors] using Or.inr leave
    · simp [quantify]
  | optional => apply (optional_rewired block).drained [inner] drained <;> simp [quantify, State.successors]

section

variable (left : first.Block states low middle) (right : second.Block states middle states.size)
  (drained : Drained states (second :: first :: rest))
include left right drained

theorem concat_drained :
    Drained (concat states first second).1 ((concat states first second).2 :: rest) := by
  have rewired := concat_rewired left right
  have through := rewired.leads (drained.through second List.mem_cons_self)
  apply rewired.drained [second, first] drained
  · simp
  · simpa [concat, State.successors] using Or.inr through
  · simp [concat]

theorem alternate_drained :
    Drained (alternate states first second).1 ((alternate states first second).2 :: rest) := by
  have rewired := alternate_rewired left right
  have through := rewired.leads (drained.through first (by simp))
  have leave := rewired.jump_leads first.accept states.size (by simp)
  apply rewired.drained [second, first] drained
  · simp
  · simpa [alternate, State.successors] using Or.inl (through.trans leave)
  · simp [alternate]

end

section

variable {construction : Construction} (predicate : Predicate)

theorem single_leads {id last : StateId} (leads : Leads construction.states id last) :
    Leads (construction.single predicate).states id last := by
  apply leads.mono
  intro id next ⟨state, found, moves⟩
  have inside := (Array.getElem?_eq_some_iff.mp found).1
  refine ⟨state, ?_, moves⟩
  simp only [single, Array.getElem?_push, Array.size_push]
  grind

theorem single_through : Leads (construction.single predicate).states (construction.states.size + 1)
    construction.states.size := by
  refine .single ⟨.consume predicate construction.states.size, ?_, List.mem_cons_self⟩
  simp only [single, Array.getElem?_push, Array.size_push, if_true]

theorem of_lt_single {id : Nat} (below : id < (construction.single predicate).states.size) :
    id < construction.states.size ∨ id = construction.states.size ∨ id = construction.states.size + 1 := by
  simp only [single, Array.size_push] at below
  omega

theorem single_drained (drained : Drained construction.states construction.fragments) :
    Drained (construction.single predicate).states (construction.single predicate).fragments := by
  constructor
  · refine List.forall_mem_cons.mpr ⟨single_through predicate, ?_⟩
    intro fragment member
    exact single_leads predicate (drained.through fragment member)
  · intro id below
    rcases of_lt_single predicate below with old | rfl | rfl
    · obtain ⟨fragment, member, leads⟩ := drained.drains old
      exact ⟨fragment, List.mem_cons_of_mem _ member, single_leads predicate leads⟩
    · exact ⟨_, List.mem_cons_self, .refl _ _⟩
    · exact ⟨_, List.mem_cons_self, single_through predicate⟩

end

theorem step_drained {construction next : Construction} {token : Token}
    (advances : Advances construction token next) (drained : Drained construction.states construction.fragments) :
    Drained next.states next.fragments := by
  cases advances with
  | single => exact single_drained _ drained
  | quantified block quantifier => exact quantify_drained block drained quantifier
  | concat left right => exact concat_drained left right drained
  | alternate left right => exact alternate_drained left right drained

end Construction

/-- From every state of an automaton edges lead to the accepting one. -/
theorem Nfa.leads_accept [CaseMap] [Categories] {tokens : List Token} {nfa : Nfa}
    (built : Nfa.ofTokens tokens = .ok nfa) {id : StateId} (inside : id < nfa.stateCount) :
    Leads nfa.states id nfa.accept := by
  have drained := holds_of_ofTokens (fun construction => Drained construction.states construction.fragments)
    Construction.step_drained ⟨by simp, by simp⟩ .alone built
  obtain ⟨last, member, leads⟩ := drained.drains inside
  rw [List.mem_singleton.mp member] at leads
  exact leads

end PatternNfa
