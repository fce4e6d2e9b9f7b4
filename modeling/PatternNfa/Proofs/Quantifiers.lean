import Mathlib.Data.List.Dedup
import PatternNfa.Expr

/-! The languages of expressions depend on those of their operands only, and not on the order in which quantifiers
are applied to an operand. -/

namespace PatternNfa

/-- How many occurrences of its operand in a row a quantifier allows. -/
def Quantifier.Allows : Quantifier → Nat → Prop
  | .star, _ => True
  | .plus, count => 0 < count
  | .optional, count => count ≤ 1

namespace Expr

variable [CaseMap] [Categories] {inner : Expr} {text : List Char}

/-- A repetition is built up front to back, one occurrence of the operand at a time. -/
theorem Denotes.star_induction {motive : List Char → Prop} (denotes : Denotes (.quantified .star inner) text)
    (none : motive []) (more : ∀ left right, Denotes inner left → Denotes (.quantified .star inner) right →
      motive right → motive (left ++ right)) : motive text := by
  generalize same : Expr.quantified .star inner = repeated at denotes
  induction denotes with
  | starNone => exact none
  | starMore once again _ ih =>
    cases same
    exact more _ _ once again (ih rfl)
  | single | concat | left | right | plus | optionalNone | optionalOnce => cases same

theorem Denotes.star_append {other : List Char} (before : Denotes (.quantified .star inner) text)
    (after : Denotes (.quantified .star inner) other) : Denotes (.quantified .star inner) (text ++ other) := by
  apply before.star_induction
  · exact after
  · intro left right once _ ih
    rw [List.append_assoc]
    exact .starMore once ih

theorem Denotes.once (quantifier : Quantifier) (denotes : Denotes inner text) :
    Denotes (.quantified quantifier inner) text := by
  cases quantifier with
  | star =>
    rw [← List.append_nil text]
    exact .starMore denotes .starNone
  | plus =>
    rw [← List.append_nil text]
    exact .plus denotes .starNone
  | optional => exact .optionalOnce denotes

theorem Denotes.star_of_quantified {quantifier : Quantifier} (denotes : Denotes (.quantified quantifier inner) text) :
    Denotes (.quantified .star inner) text := by
  cases denotes with
  | starNone | optionalNone => exact .starNone
  | starMore once again | plus once again => exact .starMore once again
  | optionalOnce once => exact once.once .star

theorem star_quantified (quantifier : Quantifier) :
    Denotes (.quantified .star (.quantified quantifier inner)) text ↔ Denotes (.quantified .star inner) text := by
  constructor
  · intro denotes
    apply denotes.star_induction
    · exact .starNone
    · intro left right once _ ih
      exact once.star_of_quantified.star_append ih
  · intro denotes
    apply denotes.star_induction
    · exact .starNone
    · intro left right once _ ih
      exact .starMore (once.once quantifier) ih

theorem quantified_star (quantifier : Quantifier) :
    Denotes (.quantified quantifier (.quantified .star inner)) text ↔ Denotes (.quantified .star inner) text := by
  constructor
  · intro denotes
    exact (star_quantified .star).mp denotes.star_of_quantified
  · intro denotes
    exact denotes.once quantifier

theorem plus_optional :
    Denotes (.quantified .plus (.quantified .optional inner)) text ↔ Denotes (.quantified .star inner) text := by
  constructor
  · intro denotes
    exact (star_quantified .optional).mp denotes.star_of_quantified
  · intro denotes
    cases denotes with
    | starNone => exact .plus .optionalNone .starNone
    | starMore once again => exact .plus (.optionalOnce once) ((star_quantified .optional).mpr again)

theorem optional_plus :
    Denotes (.quantified .optional (.quantified .plus inner)) text ↔ Denotes (.quantified .star inner) text := by
  constructor
  · intro denotes
    exact (star_quantified .plus).mp denotes.star_of_quantified
  · intro denotes
    cases denotes with
    | starNone => exact .optionalNone
    | starMore once again => exact .optionalOnce (.plus once again)

theorem quantified_comm (first second : Quantifier) :
    Denotes (.quantified first (.quantified second inner)) text ↔
      Denotes (.quantified second (.quantified first inner)) text := by
  cases first with
  | star => rw [star_quantified, quantified_star]
  | plus =>
    cases second with
    | star => rw [star_quantified, quantified_star]
    | plus => rfl
    | optional => rw [plus_optional, optional_plus]
  | optional =>
    cases second with
    | star => rw [star_quantified, quantified_star]
    | plus => rw [plus_optional, optional_plus]
    | optional => rfl

theorem quantified_twice (quantifier : Quantifier) :
    Denotes (.quantified quantifier (.quantified quantifier inner)) text ↔
      Denotes (.quantified quantifier inner) text := by
  cases quantifier with
  | star => exact star_quantified .star
  | plus =>
    constructor
    · intro denotes
      cases denotes with
      | plus once again =>
        cases once with
        | plus first more =>
          rw [List.append_assoc]
          exact .plus first (more.star_append ((star_quantified .plus).mp again))
    · exact Denotes.once .plus
  | optional =>
    constructor
    · intro denotes
      cases denotes with
      | optionalNone => exact .optionalNone
      | optionalOnce once => exact once
    · exact Denotes.once .optional

theorem Denotes.quantified_mono {other : Expr} {quantifier : Quantifier}
    (implies : ∀ text, Denotes inner text → Denotes other text)
    (denotes : Denotes (.quantified quantifier inner) text) : Denotes (.quantified quantifier other) text := by
  have star : ∀ text, Denotes (.quantified .star inner) text → Denotes (.quantified .star other) text := by
    intro text denotes
    apply denotes.star_induction
    · exact .starNone
    · intro left right once _ ih
      exact .starMore (implies left once) ih
  cases denotes with
  | starNone => exact .starNone
  | starMore once again => exact .starMore (implies _ once) (star _ again)
  | plus once again => exact .plus (implies _ once) (star _ again)
  | optionalNone => exact .optionalNone
  | optionalOnce once => exact .optionalOnce (implies _ once)

theorem concat_congr {first second first' second' : Expr} (left : ∀ text, Denotes first text ↔ Denotes first' text)
    (right : ∀ text, Denotes second text ↔ Denotes second' text) (text : List Char) :
    Denotes (.concat first second) text ↔ Denotes (.concat first' second') text := by
  constructor
  · intro denotes
    cases denotes with
    | concat before after => exact .concat ((left _).mp before) ((right _).mp after)
  · intro denotes
    cases denotes with
    | concat before after => exact .concat ((left _).mpr before) ((right _).mpr after)

theorem alternate_congr {first second first' second' : Expr}
    (left : ∀ text, Denotes first text ↔ Denotes first' text)
    (right : ∀ text, Denotes second text ↔ Denotes second' text) (text : List Char) :
    Denotes (.alternate first second) text ↔ Denotes (.alternate first' second') text := by
  constructor
  · intro denotes
    cases denotes with
    | left chosen => exact .left ((left _).mp chosen)
    | right chosen => exact .right ((right _).mp chosen)
  · intro denotes
    cases denotes with
    | left chosen => exact .left ((left _).mpr chosen)
    | right chosen => exact .right ((right _).mpr chosen)

theorem denotes_concat_iff {first second : Expr} : Denotes (.concat first second) text ↔
    ∃ left right, text = left ++ right ∧ Denotes first left ∧ Denotes second right := by
  constructor
  · intro denotes
    cases denotes with
    | concat before after => exact ⟨_, _, rfl, before, after⟩
  · rintro ⟨left, right, rfl, before, after⟩
    exact .concat before after

theorem denotes_alternate_iff {first second : Expr} :
    Denotes (.alternate first second) text ↔ Denotes first text ∨ Denotes second text := by
  constructor
  · intro denotes
    cases denotes with
    | left chosen => exact Or.inl chosen
    | right chosen => exact Or.inr chosen
  · intro either
    cases either with
    | inl chosen => exact .left chosen
    | inr chosen => exact .right chosen

theorem denotes_star_iff : Denotes (.quantified .star inner) text ↔
    ∃ parts : List (List Char), text = parts.flatten ∧ ∀ part ∈ parts, Denotes inner part := by
  constructor
  · intro denotes
    apply denotes.star_induction
    · exact ⟨[], rfl, by simp⟩
    · rintro left _ once _ ⟨parts, rfl, each⟩
      exact ⟨left :: parts, rfl, List.forall_mem_cons.mpr ⟨once, each⟩⟩
  · rintro ⟨parts, rfl, each⟩
    induction parts with
    | nil => exact .starNone
    | cons part parts ih =>
      obtain ⟨once, each⟩ := List.forall_mem_cons.mp each
      exact .starMore once (ih each)

/-- A quantified operand matches as many parts in a row as the quantifier allows. -/
theorem denotes_quantified_iff {quantifier : Quantifier} : Denotes (.quantified quantifier inner) text ↔
    ∃ parts : List (List Char), quantifier.Allows parts.length ∧ text = parts.flatten ∧
      ∀ part ∈ parts, Denotes inner part := by
  cases quantifier with
  | star => simp [denotes_star_iff, Quantifier.Allows]
  | plus =>
    constructor
    · intro denotes
      cases denotes with
      | plus once again =>
        obtain ⟨parts, rfl, each⟩ := denotes_star_iff.mp again
        exact ⟨_ :: parts, Nat.succ_pos _, rfl, List.forall_mem_cons.mpr ⟨once, each⟩⟩
    · rintro ⟨parts, some, rfl, each⟩
      obtain ⟨part, parts, rfl⟩ := List.exists_cons_of_length_pos some
      obtain ⟨once, each⟩ := List.forall_mem_cons.mp each
      exact .plus once (denotes_star_iff.mpr ⟨parts, rfl, each⟩)
  | optional =>
    constructor
    · intro denotes
      cases denotes with
      | optionalNone => exact ⟨[], Nat.zero_le 1, rfl, by simp⟩
      | optionalOnce once => exact ⟨[text], Nat.le_refl 1, by simp, by simpa using once⟩
    · rintro ⟨parts, few, rfl, each⟩
      match parts, few with
      | [], _ => exact .optionalNone
      | [part], _ =>
        rw [List.flatten_singleton]
        exact .optionalOnce (each part List.mem_cons_self)

/-- An operand with a run of quantifiers applied to it, the first one innermost. -/
def stack (operand : Expr) (run : List Quantifier) : Expr :=
  run.foldl (fun inner quantifier => .quantified quantifier inner) operand

theorem stack_congr {operand other : Expr} (run : List Quantifier)
    (same : ∀ text, Denotes operand text ↔ Denotes other text) (text : List Char) :
    Denotes (operand.stack run) text ↔ Denotes (other.stack run) text := by
  induction run generalizing operand other with
  | nil => exact same text
  | cons quantifier run ih =>
    apply ih
    intro text
    constructor
    · exact Denotes.quantified_mono fun text => (same text).mp
    · exact Denotes.quantified_mono fun text => (same text).mpr

theorem stack_perm {first second : List Quantifier} (reordered : first.Perm second) (operand : Expr)
    (text : List Char) : Denotes (operand.stack first) text ↔ Denotes (operand.stack second) text := by
  induction reordered generalizing operand with
  | nil => rfl
  | cons quantifier _ ih => exact ih (.quantified quantifier operand)
  | swap quantifier other run => exact stack_congr run (fun text => quantified_comm quantifier other) text
  | trans _ _ before after => exact (before operand).trans (after operand)

/-- A quantifier makes no difference to an operand to which it will be applied again. -/
theorem stack_absorbed {quantifier : Quantifier} {run : List Quantifier} (again : quantifier ∈ run) (operand : Expr)
    (text : List Char) :
    Denotes ((quantified quantifier operand).stack run) text ↔ Denotes (operand.stack run) text := by
  have first := List.perm_cons_erase again
  calc Denotes ((quantified quantifier operand).stack run) text
    _ ↔ Denotes ((quantified quantifier operand).stack (quantifier :: run.erase quantifier)) text :=
      stack_perm first _ text
    _ ↔ Denotes ((quantified quantifier operand).stack (run.erase quantifier)) text :=
      stack_congr _ (fun _ => quantified_twice quantifier) text
    _ ↔ Denotes (operand.stack run) text := (stack_perm first operand text).symm

theorem stack_dedup (run : List Quantifier) (operand : Expr) (text : List Char) :
    Denotes (operand.stack run.dedup) text ↔ Denotes (operand.stack run) text := by
  induction run generalizing operand with
  | nil => rfl
  | cons quantifier run ih =>
    by_cases again : quantifier ∈ run
    · rw [List.dedup_cons_of_mem again]
      exact (ih operand).trans (stack_absorbed again operand text).symm
    · rw [List.dedup_cons_of_notMem again]
      exact ih (.quantified quantifier operand)

/-- It matters which quantifiers are applied to an operand, but not in which order or how often. -/
theorem stack_members {first second : List Quantifier} (same : ∀ quantifier, quantifier ∈ first ↔ quantifier ∈ second)
    (operand : Expr) (text : List Char) : Denotes (operand.stack first) text ↔ Denotes (operand.stack second) text := by
  have reordered : first.dedup.Perm second.dedup := by
    rw [List.perm_ext_iff_of_nodup first.nodup_dedup second.nodup_dedup]
    simpa only [List.mem_dedup] using same
  rw [← stack_dedup first, stack_perm reordered, stack_dedup second]

end Expr

end PatternNfa
