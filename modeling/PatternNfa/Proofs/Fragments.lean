import PatternNfa.Nfa.Thompson
import PatternNfa.Proofs.Rewiring

/-! Fragments lie side by side in the states, each in a block of its own that no edge leaves. The blocks of an
operator's operands are the last ones, so what the operator makes of them is a block again. -/

namespace PatternNfa

/-- The states of a fragment are those from `low` on and below `high`. -/
structure Fragment.Block (fragment : Fragment) (states : Array State) (low high : Nat) : Prop where
  within : high ≤ states.size
  initial : low ≤ fragment.initial ∧ fragment.initial < high
  accept : low ≤ fragment.accept ∧ fragment.accept < high
  apart : fragment.initial ≠ fragment.accept
  exit : ∀ {id}, low ≤ id → id < high → (states[id]? = some .exit ↔ id = fragment.accept)
  closed : ∀ {id state}, low ≤ id → id < high → states[id]? = some state →
    ∀ next ∈ state.successors, low ≤ next ∧ next < high

namespace Fragment.Block

variable {fragment : Fragment} {states : Array State} {low high : Nat} (block : fragment.Block states low high)
include block

theorem exit_accept : states[fragment.accept]? = some .exit := (block.exit block.accept.1 block.accept.2).mpr rfl

theorem low_lt : low < high := Nat.lt_of_le_of_lt block.initial.1 block.initial.2

theorem congr {after : Array State} (grown : states.size ≤ after.size)
    (same : ∀ id, low ≤ id → id < high → after[id]? = states[id]?) : fragment.Block after low high := by
  refine ⟨Nat.le_trans block.within grown, block.initial, block.accept, block.apart, ?_, ?_⟩
  · intro id above below
    rw [same id above below]
    exact block.exit above below
  · intro id state above below found
    rw [same id above below] at found
    exact block.closed above below found

theorem path_within [CaseMap] [Categories] {first last : StateId} {text : List Char} (way : Path states first text last)
    (above : low ≤ first) (below : first < high) : low ≤ last ∧ last < high := by
  induction way with
  | stay => exact ⟨above, below⟩
  | @move _ _ _ state _ found moves _ ih =>
    obtain ⟨above', below'⟩ := block.closed above below found _ (state.emptyMoves_subset moves)
    exact ih above' below'
  | consume found _ _ ih =>
    obtain ⟨above', below'⟩ := block.closed above below found _ List.mem_cons_self
    exact ih above' below'

theorem path_congr [CaseMap] [Categories] {after : Array State}
    (same : ∀ id, low ≤ id → id < high → after[id]? = states[id]?) {first last : StateId} {text : List Char}
    (way : Path states first text last) (above : low ≤ first) (below : first < high) : Path after first text last := by
  induction way with
  | stay => exact .stay _
  | @move id _ _ state _ found moves _ ih =>
    obtain ⟨above', below'⟩ := block.closed above below found _ (state.emptyMoves_subset moves)
    exact .move ((same id above below).trans found) moves (ih above' below')
  | @consume id _ _ _ _ _ found accepted _ ih =>
    obtain ⟨above', below'⟩ := block.closed above below found _ List.mem_cons_self
    exact .consume ((same id above below).trans found) accepted (ih above' below')

end Fragment.Block

/-- The fragment of rewired states is a block if its accepting state is the only one left without moves. -/
theorem Rewired.block {before after : Array State} {low : Nat} {exits : List StateId} {hubs : List (StateId × State)}
    (rewired : Rewired before after low exits hubs) {fragment : Fragment}
    (sole : ∀ {id}, low ≤ id → before[id]? = some .exit → id ∈ exits)
    (initial : low ≤ fragment.initial ∧ fragment.initial < after.size) (above : low ≤ fragment.accept)
    (apart : fragment.initial ≠ fragment.accept)
    (open' : ∀ hub ∈ hubs, hub.2 = .exit ↔ hub.1 = fragment.accept)
    (accept : (fragment.accept, .exit) ∈ hubs) : fragment.Block after low after.size := by
  have found : after[fragment.accept]? = some .exit := rewired.found _ accept
  refine ⟨Nat.le_refl _, initial, ⟨above, (Array.getElem?_eq_some_iff.mp found).1⟩, apart, ?_, ?_⟩
  · intro id inside below
    constructor
    · intro exit
      by_cases hub : id ∈ exits ∨ before.size ≤ id
      · exact (open' _ (rewired.listed hub exit)).mp rfl
      · obtain ⟨other, old⟩ := not_or.mp hub
        rw [rewired.kept (Nat.lt_of_not_le old) other] at exit
        exact absurd (sole inside exit) other
    · intro same
      rw [same]
      exact found
  · intro id state inside _ here
    exact rewired.closed_after inside here

namespace Construction

variable {states : Array State} {low middle : Nat} {first second inner : Fragment}

section

variable (block : inner.Block states low states.size)
include block

private theorem closed_one {id : StateId} {state : State} (above : low ≤ id) (found : states[id]? = some state) :
    ∀ next ∈ state.successors, low ≤ next ∧ next < states.size :=
  block.closed above (Array.getElem?_eq_some_iff.mp found).1 found

private theorem sole_one {id : StateId} (above : low ≤ id) (exit : states[id]? = some .exit) : id ∈ [inner.accept] := by
  rw [(block.exit above (Array.getElem?_eq_some_iff.mp exit).1).mp exit]
  exact List.mem_cons_self

/-- Whatever the operand's exit becomes, a new exit and a fork to the operand or past it are added. -/
private theorem looped_rewired (state : State) (silent : state.successors = state.emptyMoves)
    (within : ∀ next ∈ state.emptyMoves, low ≤ next ∧ next < states.size + 2) :
    Rewired states (((states.push .exit).push (.fork inner.initial states.size)).set! inner.accept state) low
      [inner.accept]
      [(inner.accept, state), (states.size, .exit), (states.size + 1, .fork inner.initial states.size)] := by
  have initial := block.initial
  have accept := block.accept
  constructor
  · simpa using ⟨accept.1, block.exit_accept⟩
  · exact closed_one block
  · simp
  · simp only [Array.set!_eq_setIfInBounds, Array.getElem?_setIfInBounds, Array.getElem?_push, Array.size_push]
    grind
  · intro id other
    simp only [List.mem_cons, List.not_mem_nil, or_false, forall_eq_or_imp, forall_eq] at other
    simp only [Array.set!_eq_setIfInBounds, Array.getElem?_setIfInBounds, Array.getElem?_push, Array.size_push]
    grind
  · simp [State.successors, State.emptyMoves] at silent ⊢
    exact silent
  · simp only [Array.set!_eq_setIfInBounds, Array.size_setIfInBounds, Array.size_push]
    intro hub member next moves
    simp only [List.mem_cons, List.not_mem_nil, or_false] at member
    rcases member with rfl | rfl | rfl
    · exact within next moves
    · cases moves
    · simp only [State.emptyMoves, State.successors] at moves
      grind

theorem star_rewired : Rewired states (quantify states inner .star).1 low [inner.accept]
    [(inner.accept, .fork inner.initial states.size), (states.size, .exit),
      (states.size + 1, .fork inner.initial states.size)] := by
  have initial := block.initial
  apply looped_rewired block _ rfl
  simp only [State.emptyMoves, State.successors]
  grind

theorem plus_rewired : Rewired states (quantify states inner .plus).1 low [inner.accept]
    [(inner.accept, .jump (states.size + 1)), (states.size, .exit),
      (states.size + 1, .fork inner.initial states.size)] := by
  have initial := block.initial
  apply looped_rewired block _ rfl
  simp only [State.emptyMoves, State.successors]
  grind

/-- The operand's exit stays as it is, and is the exit of the whole. -/
theorem optional_rewired : Rewired states (quantify states inner .optional).1 low [inner.accept]
    [(inner.accept, .exit), (states.size, .fork inner.initial inner.accept)] := by
  have initial := block.initial
  have accept := block.accept
  have exit := block.exit_accept
  constructor
  · simpa using ⟨accept.1, exit⟩
  · exact closed_one block
  · simp
  · simp only [quantify, Array.getElem?_push]
    grind
  · intro id other
    simp only [List.mem_cons, List.not_mem_nil, or_false, forall_eq_or_imp, forall_eq] at other
    simp only [quantify, Array.getElem?_push]
    grind
  · simp [State.successors, State.emptyMoves]
  · simp only [quantify, State.emptyMoves, State.successors]
    grind

theorem quantify_rewired (quantifier : Quantifier) :
    ∃ hubs, Rewired states (quantify states inner quantifier).1 low [inner.accept] hubs := by
  cases quantifier with
  | star => exact ⟨_, star_rewired block⟩
  | plus => exact ⟨_, plus_rewired block⟩
  | optional => exact ⟨_, optional_rewired block⟩

theorem quantify_block (quantifier : Quantifier) :
    (quantify states inner quantifier).2.Block (quantify states inner quantifier).1 low
      (quantify states inner quantifier).1.size := by
  have initial := block.initial
  have accept := block.accept
  have apart := block.apart
  cases quantifier with
  | star =>
    apply (star_rewired block).block (sole_one block)
    all_goals simp only [quantify]; grind
  | plus =>
    apply (plus_rewired block).block (sole_one block)
    all_goals simp only [quantify]; grind
  | optional =>
    apply (optional_rewired block).block (sole_one block)
    all_goals simp only [quantify]; grind

end

section

variable (left : first.Block states low middle) (right : second.Block states middle states.size)
include left right

private theorem sole_two {id : StateId} (above : low ≤ id) (exit : states[id]? = some .exit) :
    id ∈ [first.accept, second.accept] := by
  by_cases before : id < middle
  · rw [(left.exit above before).mp exit]
    exact List.mem_cons_self
  · rw [(right.exit (Nat.le_of_not_lt before) (Array.getElem?_eq_some_iff.mp exit).1).mp exit]
    exact List.mem_cons_of_mem _ List.mem_cons_self

private theorem closed_two {id : StateId} {state : State} (above : low ≤ id) (found : states[id]? = some state) :
    ∀ next ∈ state.successors, low ≤ next ∧ next < states.size := by
  intro next edge
  by_cases before : id < middle
  · obtain ⟨above', below'⟩ := left.closed above before found next edge
    exact ⟨above', Nat.lt_of_lt_of_le below' left.within⟩
  · have inside : id < states.size := (Array.getElem?_eq_some_iff.mp found).1
    obtain ⟨above', below'⟩ := right.closed (Nat.le_of_not_lt before) inside found next edge
    exact ⟨Nat.le_trans (Nat.le_of_lt left.low_lt) above', below'⟩

theorem concat_rewired : Rewired states (concat states first second).1 low [first.accept, second.accept]
    [(first.accept, .jump second.initial), (second.accept, .exit)] := by
  have firstAccept := left.accept
  have secondInitial := right.initial
  have secondAccept := right.accept
  have exits := And.intro left.exit_accept right.exit_accept
  constructor
  · simp only [List.mem_cons, List.not_mem_nil, or_false, forall_eq_or_imp, forall_eq]
    grind
  · exact closed_two left right
  · simp
  · simp only [concat, Array.set!_eq_setIfInBounds, Array.getElem?_setIfInBounds]
    grind
  · intro id other
    simp only [List.mem_cons, List.not_mem_nil, or_false, forall_eq_or_imp, forall_eq] at other
    simp only [concat, Array.set!_eq_setIfInBounds, Array.getElem?_setIfInBounds]
    grind
  · simp [State.successors, State.emptyMoves]
  · simp only [concat, State.emptyMoves, State.successors]
    grind

theorem alternate_rewired : Rewired states (alternate states first second).1 low [first.accept, second.accept]
    [(first.accept, .jump states.size), (second.accept, .jump states.size), (states.size, .exit),
      (states.size + 1, .fork first.initial second.initial)] := by
  have firstInitial := left.initial
  have firstAccept := left.accept
  have secondInitial := right.initial
  have secondAccept := right.accept
  have exits := And.intro left.exit_accept right.exit_accept
  constructor
  · simp only [List.mem_cons, List.not_mem_nil, or_false, forall_eq_or_imp, forall_eq]
    grind
  · exact closed_two left right
  · simp
  · simp only [alternate, Array.set!_eq_setIfInBounds, Array.getElem?_setIfInBounds, Array.getElem?_push,
      Array.size_push, Array.size_setIfInBounds]
    grind
  · intro id other
    simp only [List.mem_cons, List.not_mem_nil, or_false, forall_eq_or_imp, forall_eq] at other
    simp only [alternate, Array.set!_eq_setIfInBounds, Array.getElem?_setIfInBounds, Array.getElem?_push,
      Array.size_push, Array.size_setIfInBounds]
    grind
  · simp [State.successors, State.emptyMoves]
  · simp only [alternate, State.emptyMoves, State.successors]
    grind

theorem concat_block : (concat states first second).2.Block (concat states first second).1 low
    (concat states first second).1.size := by
  have firstInitial := left.initial
  have firstAccept := left.accept
  have secondAccept := right.accept
  apply (concat_rewired left right).block (sole_two left right)
  all_goals simp only [concat]; grind

theorem alternate_block : (alternate states first second).2.Block (alternate states first second).1 low
    (alternate states first second).1.size := by
  have firstAccept := left.accept
  have secondAccept := right.accept
  apply (alternate_rewired left right).block (sole_two left right)
  all_goals simp only [alternate]; grind

end

theorem single_block (construction : Construction) (predicate : Predicate) :
    Fragment.Block ⟨construction.states.size + 1, construction.states.size⟩ (construction.single predicate).states
      construction.states.size (construction.single predicate).states.size := by
  constructor
  · exact Nat.le_refl _
  · simp [single]
  · simp only [single, Array.size_push]
    exact ⟨Nat.le_refl _, Nat.lt_add_of_pos_right (Nat.succ_pos 1)⟩
  · simp
  · intro id above below
    simp only [single, Array.getElem?_push, Array.size_push] at below ⊢
    grind
  · intro id state above below found
    simp only [single, Array.getElem?_push, Array.size_push] at below found ⊢
    grind [State.successors]

end Construction

end PatternNfa
