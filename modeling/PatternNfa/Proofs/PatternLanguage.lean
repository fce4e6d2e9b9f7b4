import PatternNfa.Pattern
import PatternNfa.Proofs.OperandCount
import PatternNfa.Proofs.OperatorOrder

/-! What patterns match, from their text to their answers. -/

namespace PatternNfa.Pattern

variable {pattern : Pattern} {tokens : List Token}

theorem compile_eq {ordered : List Token} (scanned : pattern.tokens = .ok tokens)
    (ended : Token.reversePolish tokens = .ok ordered) : pattern.compile = Nfa.ofTokens ordered := by
  rw [compile, read, scanned]
  change (Token.reversePolish tokens >>= fun ordered => pure (Reading.mk tokens ordered)) >>= _ = _
  rw [ended]
  rfl

theorem compile_stages (pattern : Pattern) :
    pattern.compile = pattern.tokens >>= Token.reversePolish >>= Nfa.ofTokens := by
  rw [compile, read]
  cases pattern.tokens with
  | error => rfl
  | ok tokens =>
    change (Token.reversePolish tokens >>= fun ordered => pure (Reading.mk tokens ordered)) >>= _ =
      Token.reversePolish tokens >>= Nfa.ofTokens
    cases Token.reversePolish tokens <;> rfl

theorem read_stages {reading : Reading} (done : pattern.read = .ok reading) :
    pattern.tokens = .ok reading.tokens ∧ Token.reversePolish reading.tokens = .ok reading.ordered := by
  obtain ⟨tokens, scanned, done⟩ := exists_of_bind done
  obtain ⟨ordered, ended, done⟩ := exists_of_bind done
  cases done
  exact ⟨scanned, ended⟩

theorem compiled_stages {nfa : Nfa} (compiled : pattern.compile = .ok nfa) : ∃ tokens ordered,
    pattern.tokens = .ok tokens ∧ Token.reversePolish tokens = .ok ordered ∧ Nfa.ofTokens ordered = .ok nfa := by
  obtain ⟨reading, done, built⟩ := exists_of_bind compiled
  obtain ⟨scanned, ended⟩ := read_stages done
  exact ⟨reading.tokens, reading.ordered, scanned, ended, built⟩

theorem compile_wired [CaseMap] [Categories] {nfa : Nfa} (compiled : pattern.compile = .ok nfa) : nfa.Wired := by
  obtain ⟨_, _, _, _, built⟩ := compiled_stages compiled
  exact Nfa.ofTokens_wired built

theorem tokens_apart (scanned : pattern.tokens = .ok tokens) : tokens.IsChain Token.Apart := by
  obtain ⟨lexemes, _, done⟩ := exists_of_bind scanned
  cases done
  exact Token.join_apart _

section

variable {ordered : List Token} (whole : ordered.Perm (tokens.filter fun token => !token.isGroupMark))
include whole

private theorem countP_ordered {counted : Token → Bool}
    (unmarked : ∀ token, counted token = true → token.isGroupMark = false) :
    ordered.countP counted = tokens.countP counted := by
  rw [whole.countP_eq, List.countP_filter]
  apply List.countP_congr
  intro token _
  cases present : counted token with
  | false => simp
  | true => simp [unmarked token present]

private theorem singles_ordered : ordered.countP Token.isSingle = tokens.countP Token.isSingle := by
  apply countP_ordered whole
  intro token single
  cases token with
  | single => rfl
  | operator | opening | closing => cases single

private theorem binaries_ordered : ordered.countP Token.isBinary = tokens.countP Token.isBinary := by
  apply countP_ordered whole
  intro token binary
  cases token with
  | operator => rfl
  | single | opening | closing => cases binary

variable (apart : tokens.IsChain Token.Apart)
include apart

private theorem singles_le_binaries : ordered.countP Token.isSingle ≤ ordered.countP Token.isBinary + 1 := by
  rw [singles_ordered whole, binaries_ordered whole]
  have bound := (Token.turns_of_apart apart).1
  have one := Bool.toNat_le (tokens.head?.any Token.opensOperand)
  omega

variable (balanced : Token.Balanced 0 tokens)
include balanced

private theorem ordered_eq_nil_iff : ordered = [] ↔ ∃ starts stops : List Nat, starts.length = stops.length ∧
    tokens = starts.map .opening ++ stops.map .closing := by
  constructor
  · intro none
    have nothing : tokens.filter (fun token => !token.isGroupMark) = [] := (none ▸ whole).nil_eq.symm
    have marks : ∀ token ∈ tokens, token.isGroupMark = true := by
      intro token member
      simpa using List.filter_eq_nil_iff.mp nothing token member
    obtain ⟨starts, stops, same⟩ := Token.marks_of_apart marks apart
    exact ⟨starts, stops, (same ▸ balanced).length_eq, same⟩
  · intro ⟨starts, stops, _, same⟩
    have nothing : tokens.filter (fun token => !token.isGroupMark) = [] := by
      simp [same, Token.isGroupMark]
    exact (nothing ▸ whole).eq_nil

private theorem derives_of_read {expr : Expr} (read : Expr.ofPostorder? ordered = some expr) :
    ∃ expr, Derives .choice tokens expr := by
  have count := (Expr.readSteps_length (Expr.readSteps_of_ofPostorder? read)).1
  rw [singles_ordered whole, binaries_ordered whole, List.length_singleton, List.length_nil] at count
  obtain ⟨bound, turns⟩ := Token.turns_of_apart apart
  cases awaited : tokens.head?.any Token.opensOperand with
  | true =>
    rw [awaited, Bool.toNat_true] at turns
    apply Derives.of_turns balanced
    apply turns
    omega
  | false =>
    rw [awaited, Bool.toNat_false] at bound
    omega

end

/-- Tokens with balanced group marks are compiled just if they can be derived or are nothing but groups within groups.
All others lack an operand, and at most one was complete when that was noticed. -/
theorem compile_outcome (scanned : pattern.tokens = .ok tokens) (balanced : Token.Balanced 0 tokens) :
    ((∃ nfa, pattern.compile = .ok nfa) ↔ (∃ expr, Derives .choice tokens expr) ∨
      ∃ starts stops : List Nat, starts.length = stops.length ∧
        tokens = starts.map .opening ++ stops.map .closing) ∧
    ((¬ ∃ nfa, pattern.compile = .ok nfa) →
      ∃ count, count ≤ 1 ∧ pattern.compile = .error (.malformed .missingOperand count)) := by
  obtain ⟨ordered, ended, whole⟩ := balanced.reversePolish
  have apart := tokens_apart scanned
  rw [compile_eq scanned ended, ← ordered_eq_nil_iff whole apart balanced]
  by_cases nothing : ordered = []
  · subst nothing
    have built : ∃ nfa, Nfa.ofTokens [] = .ok nfa := ⟨_, rfl⟩
    exact ⟨iff_of_true built (Or.inr rfl), fun failed => absurd built failed⟩
  · rcases Nfa.ofTokens_outcome nothing with ⟨nfa, expr, built, read, _⟩ | ⟨fault, count, failed, unread, unreadable⟩
    · have derivation := derives_of_read whole apart balanced read
      exact ⟨iff_of_true ⟨nfa, built⟩ (Or.inl derivation), fun failed => absurd ⟨nfa, built⟩ failed⟩
    · have marks : ∀ token ∈ ordered, token.isGroupMark = false := by
        intro token member
        simpa using (List.mem_filter.mp (whole.mem_iff.mp member)).2
      obtain ⟨missing, few⟩ := unreadable.missing nothing marks (singles_le_binaries whole apart)
      have refused : ¬ ∃ nfa, Nfa.ofTokens ordered = .ok nfa := by
        intro ⟨nfa, built⟩
        cases built.symm.trans failed
      refine ⟨iff_of_false refused ?_, fun _ => ⟨count, few, missing ▸ failed⟩⟩
      intro either
      rcases either with ⟨expr, derivation⟩ | none
      · obtain ⟨other, same, _⟩ := derivation.reversePolish
        cases ended.symm.trans same
        cases unread.symm.trans other.ofPostorder?_postorder
      · exact nothing none

/-- Tokens that are compiled can be derived, or there is nothing to derive. -/
theorem derives_or_marks {ordered : List Token} {nfa : Nfa} (apart : tokens.IsChain Token.Apart)
    (ended : Token.reversePolish tokens = .ok ordered) (built : Nfa.ofTokens ordered = .ok nfa) :
    (∃ expr, Derives .choice tokens expr) ∨
      ∃ starts stops : List Nat, starts.length = stops.length ∧ tokens = starts.map .opening ++ stops.map .closing := by
  have whole := Token.perm_of_reversePolish ended
  have balanced := Token.balanced_of_reversePolish ended
  by_cases nothing : ordered = []
  · exact Or.inr ((ordered_eq_nil_iff whole apart balanced).mp nothing)
  · obtain ⟨expr, read⟩ := Nfa.expr_of_ofTokens built nothing
    exact Or.inl (derives_of_read whole apart balanced read)

/-- In `(|b)` the choice has nothing to its left, and what follows the group's mark does not make up for it. -/
theorem compile_outcome_halfChoice : ∃ tokens, Pattern.tokens "(|b)" = .ok tokens ∧ Token.Balanced 0 tokens ∧
    ∃ count, count ≤ 1 ∧ Pattern.compile "(|b)" = .error (.malformed .missingOperand count) := by
  have scanned : Pattern.tokens "(|b)" = .ok [.opening 0, .operator .alternate,
      .single false (.literal 'b' false), .closing 3] := rfl
  have balanced : Token.Balanced 0
      [.opening 0, .operator .alternate, .single false (.literal 'b' false), .closing 3] := by decide
  refine ⟨_, scanned, balanced, (compile_outcome scanned balanced).2 ?_⟩
  intro ⟨nfa, compiled⟩
  cases compiled

section

variable [CaseMap] [Categories]

theorem accepts_eq {nfa : Nfa} (compiled : pattern.compile = .ok nfa) (input : String) :
    pattern.accepts input = .ok (nfa.accepts input) := by
  rw [accepts, compiled]
  rfl

/-- A pattern whose tokens can be derived matches the language of the derived expression. One whose tokens leave
nothing in reverse Polish order matches the empty text only. -/
theorem accepts_language (scanned : pattern.tokens = .ok tokens) :
    (∀ expr, Derives .choice tokens expr → ∀ input : String,
      ∃ answer, pattern.accepts input = .ok answer ∧ (answer = true ↔ expr.Denotes input.toList)) ∧
    (Token.reversePolish tokens = .ok [] → ∀ input : String, pattern.accepts input = .ok (decide (input = ""))) := by
  constructor
  · intro expr derivation input
    obtain ⟨other, ended, same⟩ := derivation.reversePolish
    obtain ⟨nfa, built, wired, language⟩ := Nfa.ofTokens_of_expr other.ofPostorder?_postorder
    refine ⟨nfa.accepts input, accepts_eq ((compile_eq scanned ended).trans built) input, ?_⟩
    rw [Nfa.accepts_iff wired, language, same]
  · intro ended input
    have same : Nfa.accepts ⟨#[.exit], 0, 0⟩ input = decide (input = "") :=
      Bool.eq_iff_iff.mpr ((Nfa.empty_accepts input).trans decide_eq_true_iff.symm)
    rw [accepts_eq (compile_eq scanned ended) input, same]

end

/-- In `a?*` the quantifiers change places, and `()` leaves nothing. -/
theorem accepts_language_stacked :
    (∃ tokens expr, Pattern.tokens "a?*" = .ok tokens ∧ Derives .choice tokens expr ∧ ∀ input : String,
      ∃ answer, Pattern.accepts "a?*" input = .ok answer ∧ (answer = true ↔ expr.Denotes input.toList)) ∧
    ∀ input : String, Pattern.accepts "()" input = .ok (decide (input = "")) := by
  have atom : Derives .factor [.single false (.literal 'a' false)] (.single false (.literal 'a' false)) := .atom .single
  have once : Derives .factor [_, .operator (.quantified .optional)] _ := atom.quantified
  have more : Derives .factor [_, _, .operator (.quantified .star)] _ := once.quantified
  have derivation := Derives.term (.factor more)
  exact ⟨⟨_, _, rfl, derivation, (accepts_language rfl).1 _ derivation⟩, (accepts_language rfl).2 rfl⟩

end PatternNfa.Pattern
