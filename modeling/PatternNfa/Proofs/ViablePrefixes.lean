import Mathlib.Data.List.Induction
import PatternNfa.Proofs.Draining
import PatternNfa.Proofs.Reporting

/-! Where a run ends early. If every test of the automaton accepts some character, a state is live just as long as the
text can still be completed to one that is matched, so the run ends at the character that makes this impossible. -/

namespace PatternNfa

/-- Either all prefixes are good, or there is a shortest that is not. The empty one does not count. -/
theorem shortest_prefix {α : Type} (good : List α → Prop) (text : List α) :
    (∀ before, before <+: text → before ≠ [] → good before) ∨
    ∃ read c rest, text = read ++ c :: rest ∧ ¬ good (read ++ [c]) ∧
      ∀ before, before <+: read → before ≠ [] → good before := by
  induction text using List.reverseRecOn with
  | nil => exact Or.inl fun before within nonempty => absurd (List.prefix_nil.mp within) nonempty
  | append_singleton text c ih =>
    rcases ih with all | ⟨read, first, rest, rfl, bad, shorter⟩
    · by_cases last : good (text ++ [c])
      · refine Or.inl fun before within nonempty => ?_
        rcases List.prefix_concat_iff.mp within with rfl | inside
        · exact last
        · exact all before inside nonempty
      · exact Or.inr ⟨text, c, [], rfl, last, all⟩
    · exact Or.inr ⟨read, first, rest ++ [c], by simp, bad, shorter⟩

namespace Nfa

section

variable [CaseMap] [Categories]

/-- Whether some text that the automaton matches begins like this. -/
def Viable (nfa : Nfa) (text : List Char) : Prop :=
  ∃ matched : String, nfa.accepts matched = true ∧ text <+: matched.toList

/-- Every test of the automaton accepts some character. -/
def Satisfiable (nfa : Nfa) : Prop :=
  ∀ state ∈ nfa.states, ∀ predicate, state.predicate? = some predicate → ∃ c, predicate.accepts c = true

theorem path_of_leads {nfa : Nfa} (satisfiable : nfa.Satisfiable) {id last : StateId}
    (leads : Leads nfa.states id last) : ∃ text, Path nfa.states id text last := by
  induction leads using Relation.ReflTransGen.head_induction_on with
  | refl => exact ⟨[], .stay last⟩
  | head edge _ ih =>
    obtain ⟨state, found, moves⟩ := edge
    obtain ⟨text, rest⟩ := ih
    cases state with
    | exit => cases moves
    | consume predicate next =>
      obtain ⟨c, accepted⟩ := satisfiable _ (Array.mem_of_getElem? found) predicate rfl
      obtain rfl := List.mem_singleton.mp moves
      exact ⟨c :: text, .consume found accepted rest⟩
    | jump | fork => exact ⟨text, .move found moves rest⟩

section Built

variable {tokens : List Token} {nfa : Nfa} (built : Nfa.ofTokens tokens = .ok nfa) {buffers : Buffers}
  (valid : buffers.Valid)
include built valid

/-- States are live after a text just if it can be completed: from each of them a way leads to the end. -/
theorem live_iff_viable (satisfiable : nfa.Satisfiable) (text : List Char) :
    (buffers.consumed nfa text).current.isEmpty = false ↔ nfa.Viable text := by
  have wired := ofTokens_wired built
  have tracks := Buffers.consumed_tracks wired valid text
  rw [← Bool.not_eq_true, tracks.current.valid.isEmpty_iff]
  constructor
  · intro some
    obtain ⟨id, live⟩ := List.exists_mem_of_ne_nil _ some
    obtain ⟨more, onward⟩ := path_of_leads satisfiable (leads_accept built (tracks.current.within id live))
    refine ⟨String.ofList (text ++ more), ?_, ?_⟩
    · rw [accepts_iff wired, String.toList_ofList]
      exact ((tracks.live id).mp live).trans onward
    · rw [String.toList_ofList]
      exact List.prefix_append text more
  · intro ⟨matched, accepted, more, split⟩ none
    have way := (accepts_iff wired matched).mp accepted
    rw [← split] at way
    obtain ⟨middle, before, _⟩ := Path.append_iff.mp way
    have live := (tracks.live middle).mpr before
    rw [none] at live
    cases live

end Built

section Run

variable {nfa : Nfa} {buffers : Buffers} {input : String}

/-- A run that always has states left reports nothing. -/
theorem events_of_alive (alive : ∀ before, before <+: input.toList → before ≠ [] →
    (buffers.consumed nfa before).current.isEmpty = false) : (nfa.run input buffers).1.events input = [] := by
  have follows := nfa.consume_append 0 input.toList [] (buffers.start nfa) alive
  rw [List.append_nil] at follows
  rw [run, follows, consume]
  split <;> rfl

/-- The first character after which no state is left ends the run. -/
theorem run_dies {read rest : List Char} {c : Char} (split : input.toList = read ++ c :: rest)
    (alive : ∀ before, before <+: read → before ≠ [] → (buffers.consumed nfa before).current.isEmpty = false)
    (dead : (buffers.consumed nfa (read ++ [c])).current.isEmpty = true) :
    (nfa.run input buffers).1 = .died (Text.width read) := by
  have follows := nfa.consume_append 0 read (c :: rest) (buffers.start nfa) alive
  rw [Buffers.consumed, List.foldl_append] at dead
  rw [run, split, follows, consume, Nat.zero_add]
  exact congrArg Prod.fst (if_pos dead)

end Run

/-- A run reports that it has ended early just if some part of its text cannot be completed to one that is matched. It
reports so once, at the last character of the shortest such part, and the text is not matched. The run makes this report
as it goes. -/
theorem run_reports {tokens : List Token} {nfa : Nfa} (built : Nfa.ofTokens tokens = .ok nfa)
    (satisfiable : nfa.Satisfiable) {buffers : Buffers} (used : buffers.Used) (input : String) :
    ((nfa.run input buffers).1.events input ≠ [] ↔
      ∃ before, before <+: input.toList ∧ before ≠ [] ∧ ¬ nfa.Viable before) ∧
    ((nfa.run input buffers).1.events input ≠ [] → ∃ read c rest, input.toList = read ++ c :: rest ∧
      ¬ nfa.Viable (read ++ [c]) ∧ (∀ before, before <+: read → before ≠ [] → nfa.Viable before) ∧
      (nfa.run input buffers).1.events input = [.died (Text.width read) input] ∧
      (nfa.acceptsWith input buffers).1 = false) ∧
    Reports (Reporting.acceptsWith nfa input buffers) (.ok (nfa.acceptsWith input buffers))
      ((nfa.run input buffers).1.events input) := by
  have made := Reporting.acceptsWith_reports nfa input buffers
  have live (text : List Char) := live_iff_viable built used.valid satisfiable text
  rcases shortest_prefix nfa.Viable input.toList with all | ⟨read, c, rest, split, dead, shorter⟩
  · have silent : (nfa.run input buffers).1.events input = [] :=
      events_of_alive fun before within nonempty => (live before).mpr (all before within nonempty)
    refine ⟨⟨fun report => absurd silent report, ?_⟩, fun report => absurd silent report, made⟩
    intro ⟨before, within, nonempty, doomed⟩
    exact absurd (all before within nonempty) doomed
  · have ended : (nfa.run input buffers).1 = .died (Text.width read) := by
      apply run_dies split
      · exact fun before within nonempty => (live before).mpr (shorter before within nonempty)
      · rw [← Bool.not_eq_false, live]
        exact dead
    have reported : (nfa.run input buffers).1.events input = [.died (Text.width read) input] := by rw [ended]; rfl
    have rejected : (nfa.acceptsWith input buffers).1 = false := by
      change (nfa.run input buffers).1.isAccepted = false
      rw [ended]
      rfl
    have within : read ++ [c] <+: input.toList := ⟨rest, by rw [split, List.append_assoc]; rfl⟩
    refine ⟨⟨fun _ => ⟨read ++ [c], within, by simp, dead⟩, ?_⟩, ?_, made⟩
    · intro _
      rw [reported]
      exact List.cons_ne_nil _ _
    · intro _
      exact ⟨read, c, rest, split, dead, shorter, reported, rejected⟩

end

/-- Over `éxz` the automaton of `^ab` consumes two characters. The second one, at byte 2, is the one that it reports. -/
theorem run_reports_second : ∃ nfa,
    Nfa.ofTokens [.single true (.literal 'a' false), .single false (.literal 'b' false), .operator .concat] = .ok nfa ∧
    nfa.Satisfiable ∧ (nfa.run "éxz" Buffers.empty).1.events "éxz" = [.died 2 "éxz"] ∧
    ∃ before, before <+: "éxz".toList ∧ before ≠ [] ∧ ¬ nfa.Viable before := by
  have built : Nfa.ofTokens [.single true (.literal 'a' false), .single false (.literal 'b' false), .operator .concat] =
      .ok ⟨#[.jump 3, .consume ⟨true, .members ['a'] false⟩ 0, .exit, .consume ⟨false, .members ['b'] false⟩ 2],
        1, 2⟩ := rfl
  refine ⟨_, built, ?satisfiable, rfl, ((run_reports built ?satisfiable .fresh "éxz").1).mp nofun⟩
  intro state member predicate asks
  simp only [List.mem_toArray, List.mem_cons, List.not_mem_nil, or_false] at member
  rcases member with rfl | rfl | rfl | rfl
  all_goals cases asks
  all_goals exact ⟨'b', rfl⟩

end Nfa

end PatternNfa
