import PatternNfa.Nfa.Path
import PatternNfa.Nfa.Thompson
import PatternNfa.Proofs.AlikeTokens

/-! Automata that are alike: they have the same states with the same edges, and their predicates are related. Alike
tokens are built into alike automata, and the ways through one are ways through the other. -/

namespace PatternNfa

inductive State.Alike (related : Predicate → Predicate → Prop) : State → State → Prop where
  | exit : Alike related .exit .exit
  | consume {predicate predicate'} (asks : related predicate predicate') (next : StateId) :
      Alike related (.consume predicate next) (.consume predicate' next)
  | jump (next : StateId) : Alike related (.jump next) (.jump next)
  | fork (first second : StateId) : Alike related (.fork first second) (.fork first second)

namespace State.Alike

variable {related : Predicate → Predicate → Prop} {state state' : State} (alike : Alike related state state')
include alike

theorem flip : Alike (fun other asked => related asked other) state' state := by
  cases alike with
  | exit => exact .exit
  | consume asks next =>
    refine .consume ?_ next
    exact asks
  | jump next => exact .jump next
  | fork first second => exact .fork first second

theorem diagonal : Alike (fun asked other => asked = other ∧ ∃ origin, related origin asked) state' state' := by
  cases alike with
  | exit => exact .exit
  | consume asks next => exact .consume ⟨rfl, _, asks⟩ next
  | jump next => exact .jump next
  | fork first second => exact .fork first second

theorem emptyMoves : state.emptyMoves = state'.emptyMoves := by
  cases alike <;> rfl

end State.Alike

/-- As many states on one side as on the other, which are alike one by one. -/
structure State.AllAlike (related : Predicate → Predicate → Prop) (first second : Array State) : Prop where
  size : first.size = second.size
  each : ∀ id : StateId, Option.Rel (Alike related) first[id]? second[id]?

structure Nfa.Alike (related : Predicate → Predicate → Prop) (first second : Nfa) : Prop where
  initial : first.initial = second.initial
  accept : first.accept = second.accept
  states : State.AllAlike related first.states second.states

namespace State.AllAlike

theorem empty (related : Predicate → Predicate → Prop) : AllAlike related #[] #[] := ⟨rfl, fun _ => .none⟩

variable {related : Predicate → Predicate → Prop} {first second : Array State} (alike : AllAlike related first second)
include alike

theorem push {state state' : State} (last : Alike related state state') :
    AllAlike related (first.push state) (second.push state') := by
  refine ⟨by simp [alike.size], ?_⟩
  intro id
  rw [Array.getElem?_push, Array.getElem?_push, alike.size]
  split
  next => exact .some last
  next => exact alike.each id

theorem set {state state' : State} (id : StateId) (new : Alike related state state') :
    AllAlike related (first.set! id state) (second.set! id state') := by
  refine ⟨by simp [alike.size], ?_⟩
  intro other
  simp only [Array.set!_eq_setIfInBounds, Array.getElem?_setIfInBounds, alike.size]
  split
  next =>
    split
    next => exact .some new
    next => exact .none
  next => exact alike.each other

theorem flip : AllAlike (fun other asked => related asked other) second first := by
  refine ⟨alike.size.symm, ?_⟩
  intro id
  have here := alike.each id
  generalize first[id]? = one at here ⊢
  generalize second[id]? = other at here ⊢
  cases here with
  | none => exact .none
  | some same => exact .some same.flip

/-- Either side is alike to itself. -/
theorem diagonal : AllAlike (fun asked other => asked = other ∧ ∃ origin, related origin asked) second second := by
  refine ⟨rfl, ?_⟩
  intro id
  have here := alike.each id
  generalize first[id]? = one at here
  generalize second[id]? = other at here ⊢
  cases here with
  | none => exact .none
  | some same => exact .some same.diagonal

theorem right {id : StateId} {state : State} (found : first[id]? = some state) :
    ∃ state', second[id]? = some state' ∧ Alike related state state' := by
  have here := alike.each id
  rw [found] at here
  generalize second[id]? = there at here
  cases here with
  | some same => exact ⟨_, rfl, same⟩

end State.AllAlike

namespace Nfa.Alike

variable {related : Predicate → Predicate → Prop} {first second : Nfa} (alike : Nfa.Alike related first second)
include alike

theorem flip : Nfa.Alike (fun other asked => related asked other) second first :=
  ⟨alike.initial.symm, alike.accept.symm, alike.states.flip⟩

theorem diagonal : Nfa.Alike (fun asked other => asked = other ∧ ∃ origin, related origin asked) second second :=
  ⟨rfl, rfl, alike.states.diagonal⟩

end Nfa.Alike

theorem Nfa.Alike.eq {first second : Nfa} (alike : Nfa.Alike Eq first second) : first = second := by
  obtain ⟨states, initial, accept⟩ := first
  obtain ⟨states', initial', accept'⟩ := second
  obtain ⟨rfl, rfl, alike⟩ := alike
  congr
  apply Array.ext_getElem?
  intro id
  have here := alike.each id
  generalize states[id]? = one at here
  generalize states'[id]? = other at here
  cases here with
  | none => rfl
  | some same =>
    cases same with
    | consume asks => rw [asks]
    | exit | jump | fork => rfl

structure Construction.Alike (related : Predicate → Predicate → Prop) (first second : Construction) : Prop where
  states : State.AllAlike related first.states second.states
  fragments : first.fragments = second.fragments

namespace Construction

variable {related : Predicate → Predicate → Prop}

section

variable {states states' : Array State} (alike : State.AllAlike related states states')
include alike

theorem concat_alike (first second : Fragment) : (concat states first second).2 = (concat states' first second).2 ∧
    State.AllAlike related (concat states first second).1 (concat states' first second).1 :=
  ⟨rfl, alike.set first.accept (.jump second.initial)⟩

theorem alternate_alike (first second : Fragment) :
    (alternate states first second).2 = (alternate states' first second).2 ∧
    State.AllAlike related (alternate states first second).1 (alternate states' first second).1 := by
  simp only [alternate, alike.size]
  exact ⟨trivial, (((alike.push .exit).push (.fork _ _)).set _ (.jump _)).set _ (.jump _)⟩

theorem quantify_alike (inner : Fragment) (quantifier : Quantifier) :
    (quantify states inner quantifier).2 = (quantify states' inner quantifier).2 ∧
    State.AllAlike related (quantify states inner quantifier).1 (quantify states' inner quantifier).1 := by
  cases quantifier with
  | star =>
    simp only [quantify, alike.size]
    exact ⟨trivial, ((alike.push .exit).push (.fork _ _)).set _ (.fork _ _)⟩
  | plus =>
    simp only [quantify, alike.size]
    exact ⟨trivial, ((alike.push .exit).push (.fork _ _)).set _ (.jump _)⟩
  | optional =>
    simp only [quantify, alike.size]
    exact ⟨trivial, alike.push (.fork _ _)⟩

end

variable {distance : Nat} {construction construction' : Construction}

theorem combine_alike (alike : Alike related construction construction') (op : Operator) :
    InStep distance (Alike related) (construction.combine op) (construction'.combine op) := by
  obtain ⟨states, fragments⟩ := construction
  obtain ⟨states', fragments'⟩ := construction'
  obtain ⟨same, rfl⟩ := alike
  have missing (count : Nat) : InStep distance (Alike related) (.error (.malformed .missingOperand count))
      (.error (.malformed .missingOperand count)) := .failed (.malformed .missingOperand count)
  cases op with
  | quantified quantifier =>
    cases fragments with
    | nil => exact missing 0
    | cons inner rest =>
      obtain ⟨fragment, wired⟩ := quantify_alike same inner quantifier
      exact .done ⟨wired, congrArg (· :: rest) fragment⟩
  | concat =>
    match fragments with
    | [] | [_] => exact missing _
    | second :: first :: rest =>
      obtain ⟨fragment, wired⟩ := concat_alike same first second
      exact .done ⟨wired, congrArg (· :: rest) fragment⟩
  | alternate =>
    match fragments with
    | [] | [_] => exact missing _
    | second :: first :: rest =>
      obtain ⟨fragment, wired⟩ := alternate_alike same first second
      exact .done ⟨wired, congrArg (· :: rest) fragment⟩

theorem step_alike {token token' : Token} (alike : Alike related construction construction')
    (same : Token.Alike distance related token token') :
    InStep distance (Alike related) (construction.step token) (construction'.step token') := by
  cases same with
  | operator op => exact combine_alike alike op
  | single asks =>
    simp only [step, single, alike.states.size, alike.fragments]
    exact .done ⟨(alike.states.push .exit).push (.consume asks _), rfl⟩
  | opening | closing =>
    simp only [step, alike.fragments]
    exact .failed (.malformed _ _)

theorem finish_alike (alike : Alike related construction construction') :
    InStep distance (Nfa.Alike related) construction.finish construction'.finish := by
  simp only [finish, alike.fragments]
  split
  next => exact .done ⟨rfl, rfl, alike.states⟩
  next => exact .failed (.malformed _ _)

end Construction

namespace Nfa

theorem ofTokens_alike {distance : Nat} {related : Predicate → Predicate → Prop} {tokens tokens' : List Token}
    (alike : List.Forall₂ (Token.Alike distance related) tokens tokens') :
    InStep distance (Alike related) (ofTokens tokens) (ofTokens tokens') := by
  cases alike with
  | nil => exact .done ⟨rfl, rfl, (State.AllAlike.empty related).push .exit⟩
  | @cons token token' rest rest' here later =>
    have steps : InStep distance (Construction.Alike related) ((token :: rest).foldlM Construction.step ⟨#[], []⟩)
        ((token' :: rest').foldlM Construction.step ⟨#[], []⟩) := by
      refine InStep.foldlM ?_ (.cons here later) ⟨.empty related, rfl⟩
      exact fun _ _ _ _ => Construction.step_alike
    exact steps.bind fun _ _ => Construction.finish_alike

end Nfa

section

variable [CaseMap] [Categories] {related : Predicate → Predicate → Prop} {first second : Array State}
  (alike : State.AllAlike related first second) {close : Char → Char → Prop} {id last : StateId} {text : List Char}
include alike

/-- A way spells each text that is close to its own on the other side, if predicates keep close characters. -/
theorem Path.of_alike (keeps : ∀ asked other c c', related asked other → close c c' →
      asked.accepts c = true → other.accepts c' = true) {text' : List Char} (near : List.Forall₂ close text text')
    (way : Path first id text last) : Path second id text' last := by
  induction way generalizing text' with
  | stay =>
    cases near
    exact .stay _
  | move found moves _ ih =>
    obtain ⟨state', found', same⟩ := alike.right found
    exact .move found' (same.emptyMoves ▸ moves) (ih near)
  | consume found accepted _ ih =>
    obtain ⟨state', found', same⟩ := alike.right found
    cases near with
    | cons here later =>
      cases same with
      | consume asks => exact .consume found' (keeps _ _ _ _ asks here accepted) (ih later)

/-- A way spells some text close to its own on the other side, if predicates have close characters. -/
theorem Path.exists_of_alike (finds : ∀ asked other c, related asked other → asked.accepts c = true →
      ∃ c', close c c' ∧ other.accepts c' = true) (way : Path first id text last) :
    ∃ text', List.Forall₂ close text text' ∧ Path second id text' last := by
  induction way with
  | stay => exact ⟨[], .nil, .stay _⟩
  | move found moves _ ih =>
    obtain ⟨state', found', same⟩ := alike.right found
    obtain ⟨text', near, way⟩ := ih
    exact ⟨text', near, .move found' (same.emptyMoves ▸ moves) way⟩
  | consume found accepted _ ih =>
    obtain ⟨state', found', same⟩ := alike.right found
    obtain ⟨text', near, way⟩ := ih
    cases same with
    | consume asks =>
      obtain ⟨c', here, accepted'⟩ := finds _ _ _ asks accepted
      exact ⟨c' :: text', .cons here near, .consume found' accepted' way⟩

end

namespace Nfa.Alike

variable [CaseMap] [Categories] {related : Predicate → Predicate → Prop} {first second : Nfa}
  (alike : Nfa.Alike related first second) {close : Char → Char → Prop} {text : List Char}
include alike

theorem recognizes (keeps : ∀ asked other c c', related asked other → close c c' →
      asked.accepts c = true → other.accepts c' = true) {text' : List Char} (near : List.Forall₂ close text text')
    (recognized : first.Recognizes text) : second.Recognizes text' := by
  rw [Recognizes, ← alike.initial, ← alike.accept]
  exact Path.of_alike alike.states keeps near recognized

theorem exists_recognizes (finds : ∀ asked other c, related asked other → asked.accepts c = true →
      ∃ c', close c c' ∧ other.accepts c' = true) (recognized : first.Recognizes text) :
    ∃ text', List.Forall₂ close text text' ∧ second.Recognizes text' := by
  rw [Recognizes, alike.initial, alike.accept] at recognized
  exact Path.exists_of_alike alike.states finds recognized

end Nfa.Alike

end PatternNfa
