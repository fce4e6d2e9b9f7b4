import Mathlib.Data.List.Induction
import PatternNfa.Infix
import PatternNfa.Proofs.GroupMarks

/-! Where concatenations stand among the tokens of a pattern: between an operand and the next one that begins at once,
and nowhere else. -/

namespace PatternNfa.Token

/-- The tokens without the concatenations. -/
def unjoined (tokens : List Token) : List Token := tokens.filter (· ≠ .operator .concat)

/-- A concatenation has an operand that ends to its left and one that begins to its right. -/
def Seamed (first second : Token) : Prop :=
  (second = .operator .concat → first.closesOperand = true) ∧ (first = .operator .concat → second.opensOperand = true)

/-- The tokens `separate` with one concatenation put wherever the end of an operand meets the beginning of the next. -/
structure Joined (separate joined : List Token) : Prop where
  unjoined_eq : unjoined joined = separate
  apart : joined.IsChain Apart
  seamed : joined.IsChain Seamed
  begins : joined.head? ≠ some (.operator .concat)
  ends : joined.getLast? ≠ some (.operator .concat)

theorem unjoined_cons {token : Token} (other : token ≠ .operator .concat) (rest : List Token) :
    unjoined (token :: rest) = token :: unjoined rest := by
  simp [unjoined, other]

theorem unjoined_cons_concat (rest : List Token) : unjoined (.operator .concat :: rest) = unjoined rest := by
  simp [unjoined]

theorem unjoined_eq {tokens : List Token} (separate : .operator .concat ∉ tokens) : unjoined tokens = tokens := by
  apply List.filter_eq_self.mpr
  intro token member
  simp only [decide_eq_true_eq]
  rintro rfl
  exact separate member

theorem head?_join (tokens : List Token) : (join tokens).head? = tokens.head? := by
  unfold join
  split
  next =>
    split
    next => rfl
    next => rfl
  next => rfl

theorem getLast?_join (tokens : List Token) : (join tokens).getLast? = tokens.getLast? := by
  fun_induction join tokens with
  | case1 first second rest both ih => simp [List.getLast?_cons, ih]
  | case2 first second rest either ih => simp [List.getLast?_cons, ih]
  | case3 => rfl

/-- A token that is added at the end is joined to the last one. -/
theorem join_concat (separate : List Token) (token : Token) : join (separate ++ [token]) = join separate ++
    if separate.getLast?.any closesOperand && token.opensOperand then [.operator .concat, token] else [token] := by
  induction separate with
  | nil => rfl
  | cons first rest ih =>
    cases rest with
    | nil =>
      by_cases seam : (first.closesOperand && token.opensOperand) = true
      · simp [join, seam]
      · simp [join, seam]
    | cons second rest =>
      simp only [List.cons_append] at ih
      simp only [List.cons_append, join, ih, List.getLast?_cons_cons]
      split
      next => rfl
      next => rfl

private theorem short_cases {tokens : List Token}
    (short : ∀ (first second : Token) (rest : List Token), tokens = first :: second :: rest → False) :
    tokens = [] ∨ ∃ only, tokens = [only] := by
  cases tokens with
  | nil => exact Or.inl rfl
  | cons first rest =>
    cases rest with
    | nil => exact Or.inr ⟨first, rfl⟩
    | cons second rest => exact absurd rfl (short first second rest)

theorem join_apart (tokens : List Token) : (join tokens).IsChain Apart := by
  fun_induction join tokens with
  | case1 first second rest both ih =>
    refine .cons_cons (fun _ => rfl) (List.isChain_cons.mpr ⟨?_, ih⟩)
    intro _ _ closes
    cases closes
  | case2 first second rest either ih =>
    refine List.isChain_cons.mpr ⟨?_, ih⟩
    intro next head closes
    rw [head?_join] at head
    cases head
    simpa [closes] using either
  | case3 tokens short =>
    rcases short_cases short with rfl | ⟨only, rfl⟩
    · exact .nil
    · exact .singleton only

theorem unjoined_join (tokens : List Token) : unjoined (join tokens) = unjoined tokens := by
  fun_induction join tokens with
  | case1 first second rest both ih => simp_all [unjoined, List.filter_cons]
  | case2 first second rest either ih => simp_all [unjoined, List.filter_cons]
  | case3 => rfl

theorem join_seamed {tokens : List Token} (separate : .operator .concat ∉ tokens) : (join tokens).IsChain Seamed := by
  fun_induction join tokens with
  | case1 first second rest both ih =>
    obtain ⟨here, separate⟩ := not_or.mp (mt List.mem_cons.mpr separate)
    obtain ⟨closes, opens⟩ := Bool.and_eq_true_iff.mp both
    refine .cons_cons ⟨fun _ => closes, fun same => absurd same.symm here⟩ (List.isChain_cons.mpr ⟨?_, ih separate⟩)
    intro next head
    rw [head?_join] at head
    cases head
    exact ⟨fun same => absurd (same ▸ List.mem_cons_self) separate, fun _ => opens⟩
  | case2 first second rest either ih =>
    obtain ⟨here, separate⟩ := not_or.mp (mt List.mem_cons.mpr separate)
    refine List.isChain_cons.mpr ⟨?_, ih separate⟩
    intro next head
    rw [head?_join] at head
    cases head
    exact ⟨fun same => absurd (same ▸ List.mem_cons_self) separate, fun same => absurd same.symm here⟩
  | case3 tokens short =>
    rcases short_cases short with rfl | ⟨only, rfl⟩
    · exact .nil
    · exact .singleton only

theorem join_joined {tokens : List Token} (separate : .operator .concat ∉ tokens) : Joined tokens (join tokens) where
  unjoined_eq := by rw [unjoined_join, unjoined_eq separate]
  apart := join_apart tokens
  seamed := join_seamed separate
  begins := by
    rw [head?_join]
    exact fun first => separate (List.mem_of_mem_head? first)
  ends := by
    rw [getLast?_join]
    exact fun last => separate (List.mem_of_getLast? last)

/-- The places of the concatenations leave no choice. -/
theorem Joined.eq_join {separate joined : List Token} (whole : Joined separate joined) : joined = join separate := by
  obtain ⟨rfl, apart, seamed, begins, ends⟩ := whole
  induction joined using List.twoStepInduction with
  | nil => rfl
  | singleton only =>
    have single : only ≠ .operator .concat := by simpa using begins
    rw [unjoined_cons single]
    rfl
  | cons_cons first second rest shorter tail =>
    have here : first ≠ .operator .concat := by simpa using begins
    by_cases seam : second = .operator .concat
    · subst seam
      cases rest with
      | nil => simp at ends
      | cons next rest =>
        have closes := (List.isChain_cons_cons.mp seamed).1.1 rfl
        have opens := (List.isChain_cons_cons.mp seamed.tail).1.2 rfl
        have other : next ≠ .operator .concat := by rintro rfl; cases opens
        have after := shorter apart.tail.tail seamed.tail.tail (by simpa using other) (by simpa using ends)
        rw [unjoined_cons here, unjoined_cons_concat, unjoined_cons other, join, if_pos (by simp [closes, opens]),
          ← unjoined_cons other, ← after]
    · have distant : first.closesOperand = true → second.opensOperand = false := (List.isChain_cons_cons.mp apart).1
      have after := tail second apart.tail seamed.tail (by simpa using seam) (by simpa using ends)
      rw [unjoined_cons here, unjoined_cons seam, join, if_neg (by simpa using distant), ← unjoined_cons seam, ← after]

theorem joined_iff {separate joined : List Token} (single : .operator .concat ∉ separate) :
    Joined separate joined ↔ joined = join separate := by
  constructor
  · exact Joined.eq_join
  · rintro rfl
    exact join_joined single

/-- Joining looks only at where operands begin and end. -/
theorem join_map {f : Token → Token} (opens : ∀ token, (f token).opensOperand = token.opensOperand)
    (closes : ∀ token, (f token).closesOperand = token.closesOperand)
    (concat : f (.operator .concat) = .operator .concat) (tokens : List Token) :
    join (tokens.map f) = (join tokens).map f := by
  fun_induction join tokens with
  | case1 first second rest both ih => simp_all [join]
  | case2 first second rest either ih => simp_all [join]
  | case3 tokens short =>
    rcases short_cases short with rfl | ⟨only, rfl⟩
    · rfl
    · rfl

end PatternNfa.Token
