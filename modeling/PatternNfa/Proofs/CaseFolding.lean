import PatternNfa.Proofs.BuiltAutomata
import PatternNfa.Proofs.CaseMark

/-! Matching that disregards case. It cannot tell characters apart that differ in case at most, and it matches what some
other spelling would match otherwise. -/

namespace PatternNfa

section

variable [CaseMap]

namespace CaseMap

theorem agree_iff {a b : Char} : agree a b = true ↔ lower a = lower b := by
  simp only [agree, Bool.or_eq_true, beq_iff_eq, or_iff_right_iff_imp]
  exact congrArg lower

theorem agree_symm {a b : Char} (near : agree a b = true) : agree b a = true :=
  agree_iff.mpr (agree_iff.mp near).symm

theorem agree_right {c c' : Char} (near : agree c c' = true) (a : Char) : agree a c = agree a c' := by
  rw [Bool.eq_iff_iff, agree_iff, agree_iff, agree_iff.mp near]

/-- Texts of one length whose characters agree position by position. -/
def Respelled (first second : String) : Prop :=
  List.Forall₂ (fun a b => agree a b = true) first.toList second.toList

theorem Respelled.symm {first second : String} (near : Respelled first second) : Respelled second first := by
  have flipped := List.Forall₂.flip near
  exact flipped.imp fun _ _ => agree_symm

end CaseMap

variable [Categories]

/-- Predicates of literals, sets and arbitrary characters: they are about no class that Unicode gives. -/
def CharSet.IsSpelled (chars : CharSet) : Prop := chars ≠ .letter ∧ chars ≠ .digit ∧ chars ≠ .space

theorem Predicate.Recased.keeps {asked other : Predicate} (recased : Recased false true asked other)
    (spelled : asked.chars.IsSpelled) {c c' : Char} (near : CaseMap.agree c c' = true) :
    other.accepts c = other.accepts c' := by
  cases recased with
  | members negated chars =>
    simp only [accepts, CharSet.contains, CaseMap.agree_right near]
  | any => rfl
  | letter => exact absurd rfl spelled.1
  | digit => exact absurd rfl spelled.2.1
  | space => exact absurd rfl spelled.2.2

theorem Predicate.Recased.accepts_iff {asked other : Predicate} (recased : Recased false true asked other)
    (spelled : asked.chars.IsSpelled) (positive : asked.negated = true → asked.chars = .any) (c : Char) :
    other.accepts c = true ↔ ∃ c', CaseMap.agree c' c = true ∧ asked.accepts c' = true := by
  cases recased with
  | members negated chars =>
    have plain : negated = false := by
      cases negated with
      | false => rfl
      | true => cases positive rfl
    subst plain
    simp [accepts, CharSet.contains, and_comm]
  | any negated =>
    refine ⟨fun accepted => ⟨c, CaseMap.agree_iff.mpr rfl, accepted⟩, ?_⟩
    rintro ⟨_, _, accepted⟩
    exact accepted
  | letter => exact absurd rfl spelled.1
  | digit => exact absurd rfl spelled.2.1
  | space => exact absurd rfl spelled.2.2

section

variable {tokens : List Token} {asked : Predicate} (asks : asked.AskedBy tokens)
include asks

omit [CaseMap] [Categories] in
theorem Predicate.AskedBy.isSpelled
    (spelled : ∀ negated cls, .single negated cls ∈ tokens → cls ≠ .letter ∧ cls ≠ .digit ∧ cls ≠ .space) :
    asked.chars.IsSpelled := by
  obtain ⟨negated, cls, member, rfl⟩ := asks
  obtain ⟨letter, digit, space⟩ := spelled negated cls member
  cases cls with
  | literal | set | any => exact ⟨nofun, nofun, nofun⟩
  | letter => exact absurd rfl letter
  | digit => exact absurd rfl digit
  | space => exact absurd rfl space

omit [CaseMap] [Categories] in
theorem Predicate.AskedBy.positive (positive : ∀ cls, .single true cls ∈ tokens → cls = .any)
    (negated : asked.negated = true) : asked.chars = .any := by
  obtain ⟨_, cls, member, rfl⟩ := asks
  change _ = true at negated
  subst negated
  rw [positive cls member]
  rfl

end

namespace Pattern

variable {pattern : Pattern} {tokens : List Token} {plain : Nfa} (unmarked : ¬ caseMark <+: pattern.toList)
  (scanned : pattern.tokens = .ok tokens) (compiled : pattern.compile = .ok plain)
include unmarked scanned compiled

omit [CaseMap] [Categories] in
theorem compile_alike_asked : ∃ marked, Pattern.compile ("(?i)" ++ pattern) = .ok marked ∧
    Nfa.Alike (fun asked other => Predicate.Recased false true asked other ∧ asked.AskedBy tokens) plain marked := by
  obtain ⟨tokens', scanned', same⟩ := (tokens_alike unmarked).of_ok scanned
  have stages := (Token.reversePolish_alike (Token.alike_asked same)).bind fun _ _ => Nfa.ofTokens_alike
  rw [compile_stages, scanned] at compiled
  obtain ⟨marked, built, alike⟩ := stages.of_ok compiled
  refine ⟨marked, ?_, alike⟩
  rw [compile_stages, scanned']
  exact built

/-- If a pattern names its characters or takes any, its automaton with the case mark cannot tell texts apart that differ
in case at most. If it excludes none by name, it matches with the mark what it matches without in some spelling. -/
theorem marked_respelled
    (spelled : ∀ negated cls, .single negated cls ∈ tokens → cls ≠ .letter ∧ cls ≠ .digit ∧ cls ≠ .space) :
    ∃ marked, Pattern.compile ("(?i)" ++ pattern) = .ok marked ∧
      (∀ s t, CaseMap.Respelled s t → (marked.accepts s = true ↔ marked.accepts t = true)) ∧
      ((∀ cls, .single true cls ∈ tokens → cls = .any) →
        ∀ t, marked.accepts t = true ↔ ∃ s, CaseMap.Respelled s t ∧ plain.accepts s = true) := by
  have plainWired := compile_wired compiled
  obtain ⟨marked, marks, alike⟩ := compile_alike_asked unmarked scanned compiled
  have wired := compile_wired marks
  have follows {s t : String} (near : CaseMap.Respelled s t) (accepted : marked.accepts s = true) :
      marked.accepts t = true := by
    rw [Nfa.accepts_iff wired] at accepted ⊢
    refine alike.diagonal.recognizes ?_ near accepted
    rintro asked _ c c' ⟨rfl, origin, recased, asks⟩ near accepted
    rwa [← recased.keeps (asks.isSpelled spelled) near]
  refine ⟨marked, marks, fun s t near => ⟨follows near, follows near.symm⟩, ?_⟩
  intro positive t
  rw [Nfa.accepts_iff wired]
  constructor
  · intro recognized
    have finds : ∀ asked other c, (Predicate.Recased false true other asked ∧ other.AskedBy tokens) →
        asked.accepts c = true → ∃ c', CaseMap.agree c' c = true ∧ other.accepts c' = true := by
      intro asked other c ⟨recased, asks⟩
      exact (recased.accepts_iff (asks.isSpelled spelled) (asks.positive positive) c).mp
    obtain ⟨text, near, recognized⟩ := alike.flip.exists_recognizes finds recognized
    refine ⟨String.ofList text, ?_, ?_⟩
    · rw [CaseMap.Respelled, String.toList_ofList]
      exact near.flip
    · rw [Nfa.accepts_iff plainWired, String.toList_ofList]
      exact recognized
  · rintro ⟨s, near, accepted⟩
    rw [Nfa.accepts_iff plainWired] at accepted
    refine alike.recognizes ?_ near accepted
    intro asked other c c' ⟨recased, asks⟩ near accepted
    exact (recased.accepts_iff (asks.isSpelled spelled) (asks.positive positive) c').mpr ⟨c, near, accepted⟩

end Pattern

end

/-- The Kelvin sign is a letter `k` in another case. -/
theorem Pattern.marked_respelled_kelvin : ∃ plain marked, Pattern.compile "[kx]_" = .ok plain ∧
    Pattern.compile "(?i)[kx]_" = .ok marked ∧ plain.accepts "\u212a!" = false ∧ marked.accepts "\u212a!" = true := by
  have scanned : Pattern.tokens "[kx]_" =
      .ok [.single false (.set ['k', 'x'] false), .operator .concat, .single false .any] := rfl
  have compiled : Pattern.compile "[kx]_" = .ok ⟨#[.jump 3, .consume ⟨false, .members ['k', 'x'] false⟩ 0,
      .exit, .consume ⟨false, .any⟩ 2], 1, 2⟩ := rfl
  obtain ⟨marked, marks, _, respelled⟩ := Pattern.marked_respelled (by decide) scanned compiled (by simp)
  refine ⟨_, marked, compiled, marks, rfl, ?_⟩
  have near : CaseMap.Respelled "k!" "\u212a!" := .cons (by decide +kernel) (.cons rfl .nil)
  exact (respelled (by simp) _).mpr ⟨"k!", near, rfl⟩

end PatternNfa
