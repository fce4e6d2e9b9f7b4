import Mathlib.Algebra.BigOperators.Group.Finset.Basic
import Mathlib.Algebra.GroupWithZero.Nat
import PatternNfa.Proofs.SharedBuffers
import PatternNfa.Proofs.Substrings

/-! Counting occurrences. The count is the number of stretches of the text that match, and it comes out the same however
the beginnings are dealt out to workers and in whatever order their counts are added up. -/

namespace PatternNfa

namespace Nfa

variable [CaseMap] [Categories]

theorem outcomes_eq {nfa : Nfa} (wired : nfa.Wired) (inputs : List String) :
    (nfa.outcomes inputs).toList = inputs.map nfa.outcome := by
  have follows : ∀ (ended : Array Outcome) (buffers : Buffers), buffers.Valid →
      (inputs.foldl (fun run input => (run.1.push (nfa.run input run.2).1, (nfa.run input run.2).2))
        (ended, buffers)).1.toList = ended.toList ++ inputs.map nfa.outcome := by
    induction inputs with
    | nil => simp
    | cons input rest ih =>
      intro ended buffers valid
      rw [List.foldl_cons, ih _ _ (run_valid wired valid input)]
      simp [run_outcome wired valid]
  exact (follows #[] Buffers.empty Buffers.empty_valid).trans (List.nil_append _)

theorem countAccepted_eq {nfa : Nfa} (wired : nfa.Wired) (inputs : List String) :
    nfa.countAccepted inputs = inputs.countP nfa.accepts := by
  rw [countAccepted, ← Array.countP_toList, outcomes_eq wired, List.countP_map]
  rfl

/-- The number of inputs that the automaton matches, tried in buffers that are handed back. -/
def countIn (nfa : Nfa) : List String → Buffers → Nat × Buffers
  | [], buffers => (0, buffers)
  | input :: rest, buffers =>
    let (accepted, buffers) := nfa.acceptsWith input buffers
    let (count, buffers) := nfa.countIn rest buffers
    (accepted.toNat + count, buffers)

/-- The counts of one worker, one for each beginning, in buffers that pass from one beginning to the next. -/
def partialCounts (nfa : Nfa) (text : String) (buffers : Buffers) : List Nat → List Nat
  | [] => []
  | start :: rest =>
    let (count, buffers) := nfa.countIn (substringsFrom text start) buffers
    count :: nfa.partialCounts text buffers rest

/-- The stretches of a text that the automaton matches. -/
def matchingSpans (nfa : Nfa) (text : String) : Finset (Nat × Nat) :=
  (Finset.range (text.length + 1) ×ˢ Finset.range (text.length + 1)).filter fun span =>
    span.1 < span.2 ∧ nfa.accepts (Text.between text span) = true

/-- The number of matching substrings with one beginning. -/
def startingAt (nfa : Nfa) (text : String) (start : Nat) : Nat := (substringsFrom text start).countP nfa.accepts

variable {nfa : Nfa}

/-- One input more that a run in used buffers accepts is one more that the automaton matches. -/
theorem toNat_add_countP (wired : nfa.Wired) {buffers : Buffers} (valid : buffers.Valid) (input : String)
    (rest : List String) :
    (nfa.acceptsWith input buffers).1.toNat + rest.countP nfa.accepts = (input :: rest).countP nfa.accepts := by
  have accepted : (nfa.acceptsWith input buffers).1 = nfa.accepts input :=
    congrArg Outcome.isAccepted (run_outcome wired valid input)
  rw [accepted, List.countP_cons, Nat.add_comm]
  cases nfa.accepts input <;> rfl

theorem countIn_eq (wired : nfa.Wired) (inputs : List String) {buffers : Buffers} (valid : buffers.Valid) :
    (nfa.countIn inputs buffers).1 = inputs.countP nfa.accepts ∧ (nfa.countIn inputs buffers).2.Valid := by
  induction inputs generalizing buffers with
  | nil => exact ⟨rfl, valid⟩
  | cons input rest ih =>
    have left : (nfa.acceptsWith input buffers).2.Valid := run_valid wired valid input
    obtain ⟨counted, kept⟩ := ih left
    refine ⟨?_, kept⟩
    rw [← toNat_add_countP wired valid, ← counted]
    rfl

theorem partialCounts_eq (wired : nfa.Wired) (text : String) (starts : List Nat) {buffers : Buffers}
    (valid : buffers.Valid) : nfa.partialCounts text buffers starts = starts.map (nfa.startingAt text) := by
  induction starts generalizing buffers with
  | nil => rfl
  | cons start rest ih =>
    obtain ⟨counted, kept⟩ := countIn_eq wired (substringsFrom text start) valid
    rw [partialCounts, List.map_cons, startingAt, ← counted, ← ih kept]

theorem share_eq (wired : nfa.Wired) (text : String) (starts : List Nat) :
    nfa.share text starts = (starts.map (nfa.startingAt text)).sum := by
  rw [share, countAccepted_eq wired, List.countP_flatMap]
  rfl

theorem occurrencesBy_eq (wired : nfa.Wired) (text : String) (schedule : List (List Nat)) :
    nfa.occurrencesBy text schedule =
      (if nfa.accepts "" then 1 else 0) + (schedule.flatten.map (nfa.startingAt text)).sum := by
  rw [occurrencesBy]
  generalize (if nfa.accepts "" then 1 else 0) = counted
  induction schedule generalizing counted with
  | nil => rfl
  | cons starts rest ih =>
    rw [List.foldl_cons, ih, share_eq wired, List.flatten_cons, List.map_append, List.sum_append, Nat.add_assoc]

theorem occurrences_eq (wired : nfa.Wired) (text : String) : nfa.occurrences text =
    (if nfa.accepts "" then 1 else 0) + ((spans (text.length + 1)).map (Text.between text)).countP nfa.accepts := by
  rw [occurrences, countAccepted_eq wired, substrings_eq, List.countP_cons, Nat.add_comm, String.length_toList]

theorem card_matchingSpans (nfa : Nfa) (text : String) :
    (nfa.matchingSpans text).card = ((spans (text.length + 1)).map (Text.between text)).countP nfa.accepts := by
  have same : nfa.matchingSpans text =
      ((spans (text.length + 1)).filter fun span => nfa.accepts (Text.between text span)).toFinset := by
    ext span
    simp only [matchingSpans, Finset.mem_filter, Finset.mem_product, Finset.mem_range, List.mem_toFinset,
      List.mem_filter, mem_spans]
    constructor
    · rintro ⟨⟨_, inside⟩, ordered, accepted⟩
      exact ⟨⟨ordered, inside⟩, accepted⟩
    · rintro ⟨⟨ordered, inside⟩, accepted⟩
      exact ⟨⟨Nat.lt_trans ordered inside, inside⟩, ordered, accepted⟩
  rw [same, List.toFinset_card_of_nodup ((nodup_spans _).filter _), ← List.countP_eq_length_filter, List.countP_map]
  rfl

/-- Each stretch is tried by whoever has its beginning. -/
theorem sum_startingAt (nfa : Nfa) (text : String) :
    ((List.range text.length).map (nfa.startingAt text)).sum = (nfa.matchingSpans text).card := by
  rw [card_matchingSpans, ← String.length_toList, ← flatMap_substringsFrom, List.countP_flatMap]
  rfl

end Nfa

/-- Every beginning is dealt out to one worker and to no other. -/
theorem dealOut_perm {workers : Nat} (some : 0 < workers) (count : Nat) :
    (dealOut workers count).flatten.Perm (List.range count) := by
  have single : (dealOut workers count).flatten.Nodup := by
    rw [dealOut, ← List.flatMap_def]
    refine List.nodup_flatMap.mpr ⟨fun worker _ => List.nodup_range.filter _, ?_⟩
    refine List.nodup_range.imp fun apart => ?_
    intro start left right
    simp only [List.mem_filter, decide_eq_true_eq] at left right
    exact apart (left.2.symm.trans right.2)
  refine (List.perm_ext_iff_of_nodup single List.nodup_range).mpr fun start => ?_
  simp only [dealOut, List.mem_flatten, List.mem_map, List.mem_range, exists_exists_and_eq_and, List.mem_filter,
    decide_eq_true_eq]
  constructor
  · rintro ⟨_, _, inside, _⟩
    exact inside
  · intro inside
    exact ⟨start % workers, Nat.mod_lt _ some, inside, rfl⟩

section

variable [CaseMap] [Categories]

/-- Workers find as many occurrences as one who tries all substrings in turn, if each beginning is dealt out once. -/
theorem Nfa.occurrencesBy_eq_occurrences {nfa : Nfa} (wired : nfa.Wired) {text : String} {schedule : List (List Nat)}
    (whole : schedule.flatten.Perm (List.range text.length)) :
    nfa.occurrencesBy text schedule = nfa.occurrences text := by
  have shared := (whole.map (nfa.startingAt text)).sum_nat.trans (nfa.sum_startingAt text)
  rw [occurrencesBy_eq wired, shared, occurrences_eq wired, card_matchingSpans]

theorem Nfa.occurrencesShared_eq_occurrences {nfa : Nfa} (wired : nfa.Wired) (text : String) :
    nfa.occurrencesShared text = nfa.occurrences text :=
  occurrencesBy_eq_occurrences wired (dealOut_perm (by decide) text.length)

/-- The count is the number of matching stretches, with the empty text counted once. However the beginnings are dealt
out to workers, in whatever order each of them takes its own, and in whatever order the counts of all are added up, the
sum is the same. -/
theorem Nfa.occurrences_counted {tokens : List Token} {nfa : Nfa} (built : Nfa.ofTokens tokens = .ok nfa)
    (text : String) :
    nfa.occurrences text = (if nfa.accepts "" then 1 else 0) + (nfa.matchingSpans text).card ∧
    (∀ schedule : List (List Nat), schedule.flatten.Perm (List.range text.length) →
      nfa.occurrencesBy text schedule = nfa.occurrences text ∧
      ∀ counts : List Nat, counts.Perm (schedule.flatMap (nfa.partialCounts text Buffers.empty)) →
        (if nfa.accepts "" then 1 else 0) + counts.sum = nfa.occurrences text) ∧
    nfa.occurrencesShared text = nfa.occurrences text := by
  have wired := ofTokens_wired built
  have total : nfa.occurrences text = (if nfa.accepts "" then 1 else 0) + (nfa.matchingSpans text).card := by
    rw [occurrences_eq wired, card_matchingSpans]
  have shared (schedule : List (List Nat)) (whole : schedule.flatten.Perm (List.range text.length)) :
      (schedule.flatten.map (nfa.startingAt text)).sum = (nfa.matchingSpans text).card :=
    (whole.map (nfa.startingAt text)).sum_nat.trans (nfa.sum_startingAt text)
  refine ⟨total, ?_, ?_⟩
  · intro schedule whole
    constructor
    · rw [occurrencesBy_eq wired, shared schedule whole, total]
    · intro counts added
      have each : schedule.flatMap (nfa.partialCounts text Buffers.empty) =
          schedule.flatten.map (nfa.startingAt text) := by
        rw [List.map_flatten, List.flatMap_def]
        refine congrArg List.flatten (List.map_congr_left fun starts _ => ?_)
        exact partialCounts_eq wired text starts Buffers.empty_valid
      rw [added.sum_nat, each, shared schedule whole, total]
  · rw [occurrencesShared, occurrencesBy_eq wired, shared _ (dealOut_perm (by decide) _), total]

end

/-- The automaton of `a*` over `éaa`, whose three beginnings are taken by two workers in another order. -/
theorem Nfa.occurrences_counted_backwards : ∃ nfa,
    Nfa.ofTokens [.single false (.literal 'a' false), .operator .star] = .ok nfa ∧
    [[2, 0], [1]].flatten.Perm (List.range "éaa".length) ∧
    nfa.occurrencesBy "éaa" [[2, 0], [1]] = nfa.occurrences "éaa" ∧ nfa.occurrences "éaa" = 4 := by
  have built : Nfa.ofTokens [.single false (.literal 'a' false), .operator .star] =
      .ok ⟨#[.fork 1 2, .consume ⟨false, .members ['a'] false⟩ 0, .exit, .fork 1 2], 3, 2⟩ := rfl
  have whole : [[2, 0], [1]].flatten.Perm (List.range "éaa".length) := by decide
  exact ⟨_, built, whole, ((occurrences_counted built "éaa").2.1 _ whole).1, by decide +kernel⟩

end PatternNfa
