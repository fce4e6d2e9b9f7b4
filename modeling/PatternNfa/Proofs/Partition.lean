import Mathlib.Data.List.Forall2
import PatternNfa.Nfa.Assembly
import PatternNfa.Proofs.BuiltAutomata

/-! Whose states are whose. While an automaton is under construction every state belongs to one fragment, edges stay
within fragments, and each fragment has one open state. The construction wires nothing else, so filling in the edges of
stored records one by one never meets a record that is not open. -/

namespace PatternNfa

namespace Node

/-- Left by its one edge, with a character. -/
def Consumes (node : Node) : Prop := node.predicate.isSome ∧ node.first.isSome ∧ node.second = none

/-- Left by an edge without a character. -/
def Moves (node : Node) : Prop := node.predicate = none ∧ node.first.isSome

end Node

/-- The states `part` belong to a fragment: no edge leads away from them, and the accepting one is the only one that is
not yet wired. -/
structure Fragment.Owns (fragment : Fragment) (nodes : Array Node) (part : List StateId) : Prop where
  initial : fragment.initial ∈ part
  accept : fragment.accept ∈ part
  apart : fragment.initial ≠ fragment.accept
  bare : nodes[fragment.accept]? = some {}
  wired : ∀ id ∈ part, id ≠ fragment.accept → ∃ node, nodes[id]? = some node ∧ (node.Consumes ∨ node.Moves)
  closed : ∀ id ∈ part, ∀ node, nodes[id]? = some node → ∀ next ∈ node.edges, next ∈ part

theorem Fragment.Block.owns {fragment : Fragment} {states : Array State} {low high : Nat}
    (block : fragment.Block states low high) :
    fragment.Owns (states.map State.node) (List.range' low (high - low)) := by
  have within (id : StateId) : id ∈ List.range' low (high - low) ↔ low ≤ id ∧ id < high := by
    rw [List.mem_range'_1, Nat.add_sub_of_le (Nat.le_of_lt block.low_lt)]
  constructor
  · exact (within _).mpr block.initial
  · exact (within _).mpr block.accept
  · exact block.apart
  · rw [Array.getElem?_map, block.exit_accept]
    rfl
  · intro id member other
    obtain ⟨above, below⟩ := (within id).mp member
    have inside := Nat.lt_of_lt_of_le below block.within
    obtain ⟨state, found⟩ : ∃ state, states[id]? = some state := ⟨states[id], Array.getElem?_eq_getElem inside⟩
    refine ⟨state.node, by rw [Array.getElem?_map, found]; rfl, ?_⟩
    cases state with
    | exit => exact absurd ((block.exit above below).mp found) other
    | consume predicate next => exact Or.inl ⟨rfl, rfl, rfl⟩
    | jump | fork => exact Or.inr ⟨rfl, rfl⟩
  · intro id member node found next edge
    obtain ⟨above, below⟩ := (within id).mp member
    rw [Array.getElem?_map] at found
    obtain ⟨state, here, rfl⟩ := Option.map_eq_some_iff.mp found
    rw [State.edges_node] at edge
    exact (within next).mpr (block.closed above below here next edge)

/-- How many fragments a token takes from the stack. -/
def Token.operands : Token → Nat
  | .operator op => if op.isQuantifier then 1 else 2
  | _ => 0

namespace Construction

/-- Every state belongs to one of the fragments, and to no other. -/
def Partitioned (construction : Construction) : Prop :=
  ∃ parts : List (List StateId), parts.flatten.Perm (List.range construction.states.size) ∧
    List.Forall₂ (fun fragment part => fragment.Owns construction.assembly.nodes part) construction.fragments parts

/-- A step has taken `count` fragments from the stack and put one there. Among the states that were there, only the
accepting ones of the fragments it took may be different. -/
structure Replaces (construction : Construction) (count : Nat) (next : Construction) : Prop where
  operands : count ≤ construction.fragments.length
  whole : ∃ fragment, next.fragments = fragment :: construction.fragments.drop count
  spared : ∀ id < construction.states.size, (∀ fragment ∈ construction.fragments.take count, id ≠ fragment.accept) →
    next.states[id]? = construction.states[id]?

theorem Replaces.of_rewired {before after : Array State} {low : Nat} {exits : List StateId}
    {hubs : List (StateId × State)} (rewired : Rewired before after low exits hubs) (popped : List Fragment)
    {rest : List Fragment} {whole : Fragment}
    (ends : ∀ id ∈ exits, ∃ fragment ∈ popped, fragment.accept = id) :
    Replaces ⟨before, popped ++ rest⟩ popped.length ⟨after, whole :: rest⟩ := by
  refine ⟨by simp, ⟨whole, by simp⟩, ?_⟩
  intro id inside other
  rw [List.take_left] at other
  apply rewired.kept inside
  intro exit
  obtain ⟨fragment, member, same⟩ := ends id exit
  exact other fragment member same.symm

theorem Advances.replaces {construction next : Construction} {token : Token}
    (advances : Advances construction token next) : construction.Replaces token.operands next := by
  cases advances with
  | single negated cls =>
    refine ⟨Nat.zero_le _, ⟨_, rfl⟩, ?_⟩
    intro id inside _
    simp only [Construction.single, Array.getElem?_push, Array.size_push] at inside ⊢
    grind
  | @quantified states _ inner rest block quantifier =>
    obtain ⟨hubs, rewired⟩ := quantify_rewired block quantifier
    exact .of_rewired rewired [inner] (by simp)
  | @concat states _ _ first second rest left right =>
    exact .of_rewired (concat_rewired left right) [second, first] (by simp)
  | @alternate states _ _ first second rest left right =>
    exact .of_rewired (alternate_rewired left right) [second, first] (by simp)

end Construction

theorem Stacked.parts [CaseMap] [Categories] {states : Array State} {high : Nat} {fragments : List Fragment}
    {exprs : List Expr} (stacked : Stacked states high fragments exprs) :
    ∃ parts : List (List StateId), parts.flatten.Perm (List.range high) ∧
      List.Forall₂ (fun fragment part => fragment.Owns (states.map State.node) part) fragments parts := by
  induction stacked with
  | nil => exact ⟨[], .refl _, .nil⟩
  | @cons low high fragment expr fragments exprs below block spells ih =>
    obtain ⟨parts, whole, owned⟩ := ih
    refine ⟨List.range' low (high - low) :: parts, ?_, .cons block.owns owned⟩
    have joined := List.range'_append_1 (s := 0) (m := low) (n := high - low)
    rw [Nat.zero_add, Nat.add_sub_of_le (Nat.le_of_lt block.low_lt)] at joined
    rw [List.range_eq_range'] at whole
    rw [List.flatten_cons, List.range_eq_range', ← joined]
    exact List.perm_append_comm.trans (whole.append_right _)

namespace Assembly

/-- What an operator makes of states, as it is stored. -/
def stored (made : Array State × Fragment) : Array Node × Fragment := (made.1.map State.node, made.2)

section

variable {states : Array State} {first second inner : Fragment}

private theorem rewire_exit {id : StateId} (exit : states[id]? = some .exit) (change : Node → Option Node)
    (state : State) (changed : change {} = some state.node) :
    rewire (states.map State.node) id change = some ((states.set! id state).map State.node) := by
  have found : (states.map State.node)[id]? = some {} := by
    rw [Array.getElem?_map, exit]
    rfl
  simp only [rewire, found, changed, Option.bind_eq_bind, Option.bind_some]
  simp

theorem connect_exit {id : StateId} (exit : states[id]? = some .exit) (next : StateId) :
    rewire (states.map State.node) id (fun node => node.connect next) =
      some ((states.set! id (.jump next)).map State.node) := rewire_exit exit _ _ rfl

theorem fork_exit {id : StateId} (exit : states[id]? = some .exit) (one other : StateId) :
    rewire (states.map State.node) id (fun node => node.fork one other) =
      some ((states.set! id (.fork one other)).map State.node) := rewire_exit exit _ _ rfl

theorem allocate_eq (states : Array State) (one other : StateId) :
    allocate (states.map State.node) one other = ((states.push .exit).push (.fork one other)).map State.node := by
  simp [allocate, State.node]

theorem exit_allocated {id : StateId} (exit : states[id]? = some .exit) (added : State) :
    ((states.push .exit).push added)[id]? = some .exit := by
  have inside := (Array.getElem?_eq_some_iff.mp exit).1
  simp only [Array.getElem?_push, Array.size_push]
  grind

theorem concat_eq (exit : states[first.accept]? = some .exit) :
    concat (states.map State.node) first second = some (stored (Construction.concat states first second)) := by
  simp only [concat, connect_exit exit, Option.bind_eq_bind, Option.bind_some]
  rfl

theorem alternate_eq (exit : states[first.accept]? = some .exit) (exit' : states[second.accept]? = some .exit)
    (apart : first.accept ≠ second.accept) :
    alternate (states.map State.node) first second = some (stored (Construction.alternate states first second)) := by
  have here := exit_allocated exit (.fork first.initial second.initial)
  have there : (((states.push .exit).push (.fork first.initial second.initial)).set! first.accept
      (.jump states.size))[second.accept]? = some .exit := by
    rw [Array.set!_eq_setIfInBounds, Array.getElem?_setIfInBounds_ne apart]
    exact exit_allocated exit' _
  simp only [alternate, Array.size_map, allocate_eq, connect_exit here, connect_exit there, Option.bind_eq_bind,
    Option.bind_some]
  rfl

theorem quantify_eq (exit : states[inner.accept]? = some .exit) (quantifier : Quantifier) :
    quantify (states.map State.node) inner quantifier =
      some (stored (Construction.quantify states inner quantifier)) := by
  have here := exit_allocated exit (.fork inner.initial states.size)
  cases quantifier with
  | star =>
    simp only [quantify, Array.size_map, allocate_eq, fork_exit here, Option.bind_eq_bind, Option.bind_some]
    rfl
  | plus =>
    simp only [quantify, Array.size_map, allocate_eq, connect_exit here, Option.bind_eq_bind, Option.bind_some]
    rfl
  | optional => simp [quantify, stored, Construction.quantify, State.node]

theorem single_eq (construction : Construction) (predicate : Predicate) :
    construction.assembly.single predicate = (construction.single predicate).assembly := by
  simp [single, Construction.assembly, Construction.single, State.node]

end

variable [CaseMap] [Categories] {construction : Construction} {exprs : List Expr} (builds : construction.Builds exprs)
include builds

theorem combine_eq (op : Operator) :
    construction.assembly.combine op = ExceptT.mk (some (Construction.assembly <$> construction.combine op)) := by
  obtain ⟨states, fragments⟩ := construction
  change Stacked states states.size fragments exprs at builds
  cases op with
  | quantified quantifier =>
    match fragments with
    | [] => rfl
    | inner :: rest =>
      obtain ⟨low, block⟩ := builds.top
      simp only [combine, Construction.assembly, quantify_eq block.exit_accept]
      rfl
  | concat =>
    match fragments with
    | [] | [_] => rfl
    | second :: first :: rest =>
      obtain ⟨low, middle, left, right⟩ := builds.top_two
      simp only [combine, Construction.assembly, concat_eq left.exit_accept]
      rfl
  | alternate =>
    match fragments with
    | [] | [_] => rfl
    | second :: first :: rest =>
      obtain ⟨low, middle, left, right⟩ := builds.top_two
      have apart := Nat.ne_of_lt (Nat.lt_of_lt_of_le left.accept.2 right.accept.1)
      simp only [combine, Construction.assembly, alternate_eq left.exit_accept right.exit_accept apart]
      rfl

theorem step_eq (token : Token) :
    construction.assembly.step token = ExceptT.mk (some (Construction.assembly <$> construction.step token)) := by
  cases token with
  | single negated cls =>
    exact congrArg (fun next => ExceptT.mk (some (.ok next))) (single_eq construction ⟨negated, cls.chars⟩)
  | operator op => exact combine_eq builds op
  | opening | closing => rfl

theorem steps_eq (tokens : List Token) : tokens.foldlM step construction.assembly =
    ExceptT.mk (some (Construction.assembly <$> tokens.foldlM Construction.step construction)) := by
  induction tokens generalizing construction exprs with
  | nil => rfl
  | cons token rest ih =>
    rw [List.foldlM_cons, List.foldlM_cons, step_eq builds]
    cases stepped : construction.step token with
    | error => rfl
    | ok next =>
      obtain ⟨_, after⟩ := builds.step stepped
      exact ih after

omit builds in
theorem ofTokens_eq (tokens : List Token) :
    ofTokens tokens = some (Construction.assembly <$> tokens.foldlM Construction.step ⟨#[], []⟩) := by
  have begun : Construction.Builds ⟨#[], []⟩ [] := .nil
  have nothing : Construction.assembly ⟨#[], []⟩ = ⟨#[], []⟩ := by simp [Construction.assembly]
  rw [ofTokens, ← nothing, steps_eq begun tokens]
  rfl

end Assembly

/-- The accepting state of an automaton is the only one that no edge leaves. -/
theorem Nfa.unwired_iff {tokens : List Token} {nfa : Nfa} (built : Nfa.ofTokens tokens = .ok nfa) {id : StateId} :
    (∃ state, nfa.states[id]? = some state ∧ state.successors = []) ↔ id = nfa.accept := by
  have exit : nfa.states[id]? = some .exit ↔ id = nfa.accept := by
    by_cases nonempty : tokens = []
    · subst tokens
      cases built
      constructor
      · intro found
        exact Nat.lt_one_iff.mp (Array.getElem?_eq_some_iff.mp found).1
      · rintro rfl
        rfl
    · have begun : Construction.Builds ⟨#[], []⟩ [] := .nil
      obtain ⟨exprs, builds⟩ := begun.steps (steps_of_ofTokens built nonempty)
      have block := builds.only
      constructor
      · intro found
        exact (block.exit (Nat.zero_le id) (Array.getElem?_eq_some_iff.mp found).1).mp found
      · rintro rfl
        exact block.exit_accept
  rw [← exit]
  constructor
  · rintro ⟨state, found, ends⟩
    cases state with
    | exit => exact found
    | consume | jump | fork => cases ends
  · intro found
    exact ⟨.exit, found, rfl⟩

/-- Tokens in any order keep the states apart for as long as they are not refused. The fragments that wait share out all
states among them, and a token changes none but the accepting ones of the fragments it takes. Whether or not some token
is refused, no record is wired that is not open, and in an automaton every edge ends at one of its states. -/
theorem Construction.steps_partitioned (tokens : List Token) :
    Assembly.ofTokens tokens = some (Construction.assembly <$> tokens.foldlM step ⟨#[], []⟩) ∧
    (∀ read rest construction, tokens = read ++ rest → read.foldlM step ⟨#[], []⟩ = .ok construction →
      construction.Partitioned ∧
      ∀ token next, construction.step token = .ok next → construction.Replaces token.operands next) ∧
    ∀ nfa, Nfa.ofTokens tokens = .ok nfa →
      (∀ (id : StateId) (state : State), nfa.states[id]? = some state →
        ∀ next ∈ state.successors, next < nfa.stateCount) ∧
      ∀ id : StateId, (∃ state, nfa.states[id]? = some state ∧ state.successors = []) ↔ id = nfa.accept := by
  have begun : Construction.Builds ⟨#[], []⟩ [] := .nil
  refine ⟨Assembly.ofTokens_eq tokens, ?_, ?_⟩
  · intro read rest construction _ steps
    obtain ⟨exprs, builds⟩ := begun.steps steps
    exact ⟨builds.parts, fun token next stepped => (builds.advances stepped).replaces⟩
  · intro nfa built
    have wired := Nfa.ofTokens_wired built
    exact ⟨fun _ _ found => wired.within found, fun _ => Nfa.unwired_iff built⟩

/-- In `ab|+` the last token but one turns two accepting states into something else. Then a `.` lacks an operand. -/
theorem Construction.steps_partitioned_refused :
    let read : List Token := [.single false (.literal 'a' false), .single false (.literal 'b' false),
      .operator .alternate, .operator .plus]
    (∃ construction, read.foldlM step ⟨#[], []⟩ = .ok construction ∧ construction.Partitioned) ∧
    Assembly.ofTokens (read ++ [.operator .concat]) = some (.error (.malformed .missingOperand 1)) := by
  intro read
  obtain ⟨assembled, partitioned, _⟩ := steps_partitioned (read ++ [.operator .concat])
  exact ⟨⟨_, rfl, (partitioned read _ _ rfl rfl).1⟩, assembled.trans rfl⟩

end PatternNfa
