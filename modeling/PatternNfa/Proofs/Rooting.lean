import PatternNfa.Proofs.Draining

/-! The construction allocates no state in vain: edges lead to every state from the initial state of a fragment, and in
a finished automaton from its own. -/

namespace PatternNfa

/-- Every state is led to from the initial state of some fragment. -/
def Rooted (states : Array State) (fragments : List Fragment) : Prop :=
  ∀ id < states.size, ∃ fragment ∈ fragments, Leads states fragment.initial id

/-- If the fragment made of the popped ones leads to where they began and to the new states, it leads to all that they
led to. -/
theorem Rewired.rooted {before after : Array State} {low : Nat} {exits : List StateId} {hubs : List (StateId × State)}
    (rewired : Rewired before after low exits hubs) (popped : List Fragment) {rest : List Fragment} {whole : Fragment}
    (rooted : Rooted before (popped ++ rest))
    (begins : ∀ fragment ∈ popped, Leads after whole.initial fragment.initial)
    (enters : ∀ hub ∈ hubs, before.size ≤ hub.1 → Leads after whole.initial hub.1) : Rooted after (whole :: rest) := by
  intro id below
  by_cases old : id < before.size
  · obtain ⟨fragment, member, leads⟩ := rooted id old
    rcases List.mem_append.mp member with used | other
    · exact ⟨whole, List.mem_cons_self, (begins fragment used).trans (rewired.leads leads)⟩
    · exact ⟨fragment, List.mem_cons_of_mem _ other, rewired.leads leads⟩
  · have new := Nat.le_of_not_lt old
    have hub := rewired.listed (Or.inr new) (Array.getElem?_eq_getElem below)
    exact ⟨whole, List.mem_cons_self, enters _ hub new⟩

namespace Construction

variable {states : Array State} {low middle : Nat} {first second inner : Fragment} {rest : List Fragment}

theorem quantify_rooted (block : inner.Block states low states.size) (drained : Drained states (inner :: rest))
    (rooted : Rooted states (inner :: rest)) (quantifier : Quantifier) :
    Rooted (quantify states inner quantifier).1 ((quantify states inner quantifier).2 :: rest) := by
  have old := Nat.not_le_of_lt block.accept.2
  cases quantifier with
  | star =>
    have rewired := star_rewired block
    obtain ⟨again, leave⟩ := rewired.fork_leads (states.size + 1) inner.initial states.size (by simp)
    apply rewired.rooted [inner] rooted
    · simpa [quantify] using again
    · simpa [quantify, old] using leave
  | plus =>
    have rewired := plus_rewired block
    have through := rewired.leads (drained.through inner List.mem_cons_self)
    have gate := through.trans (rewired.jump_leads inner.accept (states.size + 1) (by simp))
    obtain ⟨_, leave⟩ := rewired.fork_leads (states.size + 1) inner.initial states.size (by simp)
    apply rewired.rooted [inner] rooted
    · simp [quantify]
    · simpa [quantify, old] using And.intro (gate.trans leave) gate
  | optional =>
    have rewired := optional_rewired block
    obtain ⟨once, _⟩ := rewired.fork_leads states.size inner.initial inner.accept (by simp)
    apply rewired.rooted [inner] rooted
    · simpa [quantify] using once
    · simp [quantify, old]

section

variable (left : first.Block states low middle) (right : second.Block states middle states.size)
  (drained : Drained states (second :: first :: rest)) (rooted : Rooted states (second :: first :: rest))
include left right drained rooted

theorem concat_rooted : Rooted (concat states first second).1 ((concat states first second).2 :: rest) := by
  have rewired := concat_rewired left right
  have through := rewired.leads (drained.through first (by simp))
  have bridge := rewired.jump_leads first.accept second.initial (by simp)
  have old := Nat.not_le_of_lt (Nat.lt_of_lt_of_le left.accept.2 left.within)
  apply rewired.rooted [second, first] rooted
  · simpa [concat] using through.trans bridge
  · simp [old, Nat.not_le_of_lt right.accept.2]

theorem alternate_rooted : Rooted (alternate states first second).1 ((alternate states first second).2 :: rest) := by
  have rewired := alternate_rewired left right
  have through := rewired.leads (drained.through first (by simp))
  have leave := rewired.jump_leads first.accept states.size (by simp)
  obtain ⟨toFirst, toSecond⟩ := rewired.fork_leads (states.size + 1) first.initial second.initial (by simp)
  have old := Nat.not_le_of_lt (Nat.lt_of_lt_of_le left.accept.2 left.within)
  apply rewired.rooted [second, first] rooted
  · simpa [alternate] using And.intro toSecond toFirst
  · simpa [alternate, old, Nat.not_le_of_lt right.accept.2] using toFirst.trans (through.trans leave)

end

theorem single_rooted {construction : Construction} (rooted : Rooted construction.states construction.fragments)
    (predicate : Predicate) :
    Rooted (construction.single predicate).states (construction.single predicate).fragments := by
  intro id below
  rcases of_lt_single predicate below with old | rfl | rfl
  · obtain ⟨fragment, member, leads⟩ := rooted id old
    exact ⟨fragment, List.mem_cons_of_mem _ member, single_leads predicate leads⟩
  · exact ⟨_, List.mem_cons_self, single_through predicate⟩
  · exact ⟨_, List.mem_cons_self, .refl _ _⟩

/-- No state is out of reach, neither from the beginning nor to the end of a fragment. -/
structure Connected (construction : Construction) : Prop where
  drained : Drained construction.states construction.fragments
  rooted : Rooted construction.states construction.fragments

theorem step_connected {construction next : Construction} {token : Token}
    (advances : Advances construction token next) (connected : construction.Connected) : next.Connected := by
  obtain ⟨drained, rooted⟩ := connected
  refine ⟨step_drained advances drained, ?_⟩
  cases advances with
  | single => exact single_rooted rooted _
  | quantified block quantifier => exact quantify_rooted block drained rooted quantifier
  | concat left right => exact concat_rooted left right drained rooted
  | alternate left right => exact alternate_rooted left right drained rooted

end Construction

theorem Nfa.connected {tokens : List Token} {nfa : Nfa} (built : Nfa.ofTokens tokens = .ok nfa) :
    Construction.Connected ⟨nfa.states, [⟨nfa.initial, nfa.accept⟩]⟩ := by
  apply holds_of_ofTokens Construction.Connected Construction.step_connected _ _ built
  · exact ⟨⟨by simp, by simp⟩, by simp [Rooted]⟩
  · refine ⟨.alone, ?_⟩
    intro id below
    obtain rfl : id = 0 := Nat.lt_one_iff.mp below
    simp

/-- Every state of an automaton lies between its initial and its accepting one: edges lead there from the former and on
to the latter. -/
theorem Nfa.no_idle_state {tokens : List Token} {nfa : Nfa} (built : Nfa.ofTokens tokens = .ok nfa) :
    ∀ id < nfa.stateCount, Leads nfa.states nfa.initial id ∧ Leads nfa.states id nfa.accept := by
  intro id inside
  refine ⟨?_, leads_accept built inside⟩
  obtain ⟨first, member, leads⟩ := (connected built).rooted id inside
  rw [List.mem_singleton.mp member] at leads
  exact leads

/-- The automaton of `((a|b)*c?)+`, in which each operator adds states. -/
theorem Nfa.no_idle_state_nested : ∃ nfa,
    Nfa.ofTokens [.single false (.literal 'a' false), .single false (.literal 'b' false), .operator .alternate,
      .operator .star, .single false (.literal 'c' false), .operator .optional, .operator .concat,
      .operator .plus] = .ok nfa ∧
    ∀ id < nfa.stateCount, Leads nfa.states nfa.initial id ∧ Leads nfa.states id nfa.accept := by
  generalize built : Nfa.ofTokens _ = result
  cases result with
  | ok nfa => exact ⟨nfa, rfl, no_idle_state built⟩
  | error => cases built

end PatternNfa
