import PatternNfa.Proofs.BuiltAutomata
import PatternNfa.Proofs.Joining
import PatternNfa.Proofs.Parsing

/-! The number of operands that tokens leave. Counting is enough to see whether each operator has its operands, since
neighbouring operands are always joined. -/

namespace PatternNfa

namespace Token

def isBinary : Token → Bool
  | .operator op => !op.isQuantifier
  | _ => false

private theorem single_add_awaits (token : Token) :
    (if token.isSingle then 1 else 0) + (!token.closesOperand).toNat =
      (if token.isBinary then 1 else 0) + token.opensOperand.toNat := by
  cases token with
  | single | opening | closing => rfl
  | operator op => cases op <;> rfl

/-- There is at most one operand more than the operators between them need, and none if the first token begins no
operand. No operand is missing if that many are there. -/
theorem turns_of_apart {tokens : List Token} (apart : tokens.IsChain Apart) :
    let awaited := tokens.head?.any opensOperand
    tokens.countP isSingle ≤ tokens.countP isBinary + awaited.toNat ∧
      (tokens.countP isSingle = tokens.countP isBinary + awaited.toNat → InTurn awaited tokens) := by
  induction tokens with
  | nil => exact ⟨Nat.le_refl 0, fun _ => rfl⟩
  | cons token rest ih =>
    obtain ⟨bound, turns⟩ := ih apart.tail
    have quiet : (rest.head?.any opensOperand).toNat ≤ (!token.closesOperand).toNat := by
      cases closes : token.closesOperand with
      | false => exact Bool.toNat_le _
      | true =>
        cases rest with
        | nil => exact Nat.le_refl 0
        | cons next rest => exact Nat.le_of_eq (congrArg Bool.toNat (apart.rel closes))
    generalize rest.head?.any opensOperand = awaited at bound turns quiet
    have even := token.single_add_awaits
    simp only [List.head?_cons, Option.any_some, List.countP_cons]
    refine ⟨by omega, ?_⟩
    intro same
    have follows : awaited.toNat = (!token.closesOperand).toNat := by omega
    have next : awaited = !token.closesOperand := by
      revert follows
      cases awaited <;> cases token.closesOperand <;> decide
    exact ⟨rfl, next ▸ turns (by omega)⟩

end Token

namespace Expr

theorem readStep_length {stack next : List Expr} {token : Token} (read : readStep stack token = some next) :
    0 < next.length ∧ next.length + [token].countP Token.isBinary = stack.length + [token].countP Token.isSingle := by
  unfold readStep at read
  split at read
  all_goals cases read
  all_goals exact ⟨Nat.succ_pos _, rfl⟩

theorem readSteps_length {tokens : List Token} {stack result : List Expr}
    (read : tokens.foldlM readStep stack = some result) :
    result.length + tokens.countP Token.isBinary = stack.length + tokens.countP Token.isSingle ∧
      (tokens ≠ [] → 0 < result.length) := by
  induction tokens generalizing stack with
  | nil =>
    cases read
    exact ⟨rfl, fun nonempty => absurd rfl nonempty⟩
  | cons token rest ih =>
    rw [List.foldlM_cons] at read
    cases stepped : readStep stack token with
    | none =>
      rw [stepped] at read
      cases read
    | some next =>
      rw [stepped] at read
      obtain ⟨positive, here⟩ := readStep_length stepped
      obtain ⟨later, more⟩ := ih read
      simp only [List.countP_cons, List.countP_nil] at here ⊢
      refine ⟨by omega, fun _ => ?_⟩
      cases rest with
      | nil =>
        cases read
        exact positive
      | cons => exact more (List.cons_ne_nil _ _)

theorem readSteps_of_ofPostorder? {tokens : List Token} {expr : Expr} (read : ofPostorder? tokens = some expr) :
    tokens.foldlM readStep [] = some [expr] := by
  rw [ofPostorder?] at read
  generalize tokens.foldlM readStep [] = result at read ⊢
  cases result with
  | none => cases read
  | some stack =>
    cases stack with
    | nil => cases read
    | cons first rest =>
      cases rest with
      | nil =>
        cases read
        rfl
      | cons => cases read

theorem length_of_refused {stack : List Expr} {token : Token} (refuses : readStep stack token = none)
    (mark : token.isGroupMark = false) : stack.length ≤ 1 := by
  cases token with
  | single => cases refuses
  | opening | closing => cases mark
  | operator op =>
    cases stack with
    | nil => exact Nat.zero_le 1
    | cons second below =>
      cases below with
      | nil => exact Nat.le_refl 1
      | cons first rest => cases op <;> cases refuses

/-- Tokens without group marks that leave at most one expression are unreadable only because an operand is missing. -/
theorem Unreadable.missing {tokens : List Token} {fault : Fault} {count : Nat}
    (unreadable : Unreadable tokens fault count) (nonempty : tokens ≠ [])
    (marks : ∀ token ∈ tokens, token.isGroupMark = false)
    (bound : tokens.countP Token.isSingle ≤ tokens.countP Token.isBinary + 1) :
    fault = .missingOperand ∧ count ≤ 1 := by
  cases unreadable with
  | @refused before token after stack split reads refuses =>
    have mark := marks token (by simp [split])
    refine ⟨?_, length_of_refused refuses mark⟩
    cases token with
    | single | operator => rfl
    | opening | closing => cases mark
  | leftover reads several =>
    obtain ⟨count, positive⟩ := readSteps_length reads
    have some := positive nonempty
    simp only [List.length_nil] at count
    exact absurd (by omega) several

end Expr

end PatternNfa
