import PatternNfa.Nfa

/-! The ways through an automaton, and the texts they spell. -/

namespace PatternNfa

variable [CaseMap] [Categories]

/-- A way from one state to another that spells a text: empty moves are free, and a consuming state spells one
character that it accepts. -/
inductive Path (states : Array State) : StateId → List Char → StateId → Prop where
  | stay (id) : Path states id [] id
  | move {id next target state text} (found : states[id]? = some state) (moves : next ∈ state.emptyMoves)
      (rest : Path states next text target) : Path states id text target
  | consume {id next target predicate c text} (found : states[id]? = some (.consume predicate next))
      (accepted : predicate.accepts c = true) (rest : Path states next text target) :
      Path states id (c :: text) target

theorem Path.trans {states : Array State} {first middle last : StateId} {before after : List Char}
    (left : Path states first before middle) (right : Path states middle after last) :
    Path states first (before ++ after) last := by
  induction left with
  | stay => exact right
  | move found moves _ ih => exact .move found moves (ih right)
  | consume found accepted _ ih => exact .consume found accepted (ih right)

section

variable {states : Array State} {id next other target : StateId} {text : List Char}

theorem Path.jump (found : states[id]? = some (.jump next)) (rest : Path states next text target) :
    Path states id text target := .move found List.mem_cons_self rest

theorem Path.forkFirst (found : states[id]? = some (.fork next other)) (rest : Path states next text target) :
    Path states id text target := .move found List.mem_cons_self rest

theorem Path.forkSecond (found : states[id]? = some (.fork other next)) (rest : Path states next text target) :
    Path states id text target := .move found (List.mem_cons_of_mem _ List.mem_cons_self) rest

end

theorem Path.of_exit {states : Array State} {id last : StateId} {text : List Char}
    (exit : states[id]? = some .exit) (way : Path states id text last) : text = [] ∧ last = id := by
  cases way with
  | stay => exact ⟨rfl, rfl⟩
  | move found moves _ =>
    cases exit.symm.trans found
    cases moves
  | consume found _ _ => cases exit.symm.trans found

theorem Path.of_consume {states : Array State} {id next last : StateId} {predicate : Predicate} {text : List Char}
    (found : states[id]? = some (.consume predicate next)) (way : Path states id text last) (apart : id ≠ last) :
    ∃ c rest, text = c :: rest ∧ predicate.accepts c = true ∧ Path states next rest last := by
  cases way with
  | stay => exact absurd rfl apart
  | move other moves _ =>
    cases found.symm.trans other
    cases moves
  | consume other accepted rest =>
    cases found.symm.trans other
    exact ⟨_, _, rfl, accepted, rest⟩

/-- The first character is consumed by a state that is reached without consuming any. -/
theorem Path.cons_iff {states : Array State} {first last : StateId} {c : Char} {rest : List Char} :
    Path states first (c :: rest) last ↔ ∃ id next predicate, Path states first [] id ∧
      states[id]? = some (.consume predicate next) ∧ predicate.accepts c = true ∧ Path states next rest last := by
  constructor
  · intro way
    generalize spelled : c :: rest = text at way
    induction way with
    | stay => cases spelled
    | move found moves _ ih =>
      obtain ⟨id, next, predicate, before, rest⟩ := ih spelled
      exact ⟨id, next, predicate, .move found moves before, rest⟩
    | consume found accepted after =>
      cases spelled
      exact ⟨_, _, _, .stay _, found, accepted, after⟩
  · rintro ⟨id, next, predicate, before, found, accepted, after⟩
    exact before.trans (.consume found accepted after)

theorem Path.append_iff {states : Array State} {first last : StateId} {before after : List Char} :
    Path states first (before ++ after) last ↔
      ∃ middle, Path states first before middle ∧ Path states middle after last := by
  induction before generalizing first with
  | nil => exact ⟨fun way => ⟨first, .stay first, way⟩, fun ⟨_, left, right⟩ => left.trans right⟩
  | cons c before ih =>
    constructor
    · intro way
      obtain ⟨id, next, predicate, silent, found, accepted, rest⟩ := Path.cons_iff.mp way
      obtain ⟨middle, left, right⟩ := ih.mp rest
      exact ⟨middle, silent.trans (.consume found accepted left), right⟩
    · rintro ⟨_, left, right⟩
      exact left.trans right

/-- The texts spelled on the way from the initial state to the accepting one. -/
def Nfa.Recognizes (nfa : Nfa) (text : List Char) : Prop := Path nfa.states nfa.initial text nfa.accept

end PatternNfa
