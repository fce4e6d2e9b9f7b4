import PatternNfa.Proofs.AlikeAutomata
import PatternNfa.Proofs.PatternLanguage

/-! What the case mark changes: the flags of sets and the offsets of errors, and nothing else. -/

namespace PatternNfa

namespace Pattern

variable {pattern : Pattern} (unmarked : ¬ caseMark <+: pattern.toList)
include unmarked

theorem tokens_alike : InStep 4 (List.Forall₂ (Token.Alike 4 (Predicate.Recased false true))) pattern.tokens
    (Pattern.tokens ("(?i)" ++ pattern)) := by
  have text : String.toList ("(?i)" ++ pattern) = caseMark ++ pattern.toList := String.toList_append
  rw [tokens_eq (Source.ofText_unmarked unmarked), tokens_eq ((congrArg _ text).trans (Source.ofText_marked _))]
  apply (Lexeme.read_moved 4 0 pattern.toList).map
  rintro lexemes _ rfl
  exact Token.join_alike (Token.ofLexemes_alike false true 4 0 false lexemes)

theorem compile_alike : InStep 4 (Nfa.Alike (Predicate.Recased false true)) pattern.compile
    (Pattern.compile ("(?i)" ++ pattern)) := by
  rw [compile_stages, compile_stages]
  exact ((tokens_alike unmarked).bind fun _ _ => Token.reversePolish_alike).bind fun _ _ => Nfa.ofTokens_alike

/-- With the mark, a pattern is compiled into the same states with the same edges, and only the sets that regard case
without it disregard case. If it is rejected, it is rejected for the same reason, four bytes further on. -/
theorem compile_marked : (∃ plain marked, pattern.compile = .ok plain ∧
      Pattern.compile ("(?i)" ++ pattern) = .ok marked ∧ plain.stateCount = marked.stateCount ∧
      plain.initial = marked.initial ∧ plain.accept = marked.accept ∧
      ∀ id : StateId, Option.Rel (State.Alike (Predicate.Recased false true)) plain.states[id]? marked.states[id]?) ∨
    ∃ error, pattern.compile = .error error ∧ Pattern.compile ("(?i)" ++ pattern) = .error (error.moved 4) := by
  have alike := compile_alike unmarked
  generalize pattern.compile = first at alike ⊢
  generalize Pattern.compile ("(?i)" ++ pattern) = second at alike ⊢
  cases alike with
  | done same => exact Or.inl ⟨_, _, rfl, rfl, same.states.size, same.initial, same.accept, same.states.each⟩
  | failed error => exact Or.inr ⟨error, rfl, rfl⟩

omit unmarked in
/-- A group left open behind three other lexemes, and a negated set beside a class that knows no case. -/
theorem compile_marked_either : (Pattern.compile "a(^[b]*" = .error (.unmatchedParenthesis 1) ∧
      Pattern.compile "(?i)a(^[b]*" = .error (.unmatchedParenthesis 5)) ∧
    ∃ plain marked, Pattern.compile "^[b]\\d" = .ok plain ∧ Pattern.compile "(?i)^[b]\\d" = .ok marked ∧
      plain.stateCount = marked.stateCount := by
  constructor
  · have rejected : Pattern.compile "a(^[b]*" = .error (.unmatchedParenthesis 1) := rfl
    refine ⟨rejected, ?_⟩
    have unmarked : ¬ caseMark <+: String.toList "a(^[b]*" := by decide
    rcases compile_marked unmarked with ⟨plain, _, compiled, _⟩ | ⟨error, failed, marked⟩
    · cases rejected.symm.trans compiled
    · cases rejected.symm.trans failed
      exact marked
  · have unmarked : ¬ caseMark <+: String.toList "^[b]\\d" := by decide
    rcases compile_marked unmarked with ⟨plain, marked, compiled, compiled', size, _⟩ | ⟨error, failed, _⟩
    · exact ⟨plain, marked, compiled, compiled', size⟩
    · cases failed

end Pattern

end PatternNfa
