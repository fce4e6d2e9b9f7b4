import PatternNfa.Proofs.Building
import PatternNfa.Proofs.LiveStates

/-! Automata as they come out of the construction: what their runs keep track of, and what they accept. -/

namespace PatternNfa

/-- Why tokens in reverse Polish order denote no expression, and how many expressions are complete by then: a token
lacks operands or is a group mark, or there is not exactly one expression in the end. -/
inductive Expr.Unreadable (tokens : List Token) : Fault → Nat → Prop where
  | refused {before token after stack} (split : tokens = before ++ token :: after)
      (reads : before.foldlM readStep [] = some stack) (refuses : readStep stack token = none) :
      Unreadable tokens (Construction.refusal token) stack.length
  | leftover {stack} (reads : tokens.foldlM readStep [] = some stack) (several : stack.length ≠ 1) :
      Unreadable tokens .leftoverFragments stack.length

namespace Nfa

private theorem empty_wired : Wired ⟨#[.exit], 0, 0⟩ := by
  refine ⟨by decide, rfl, ?_⟩
  intro id state found next edge
  obtain ⟨inside, same⟩ := Array.getElem?_eq_some_iff.mp found
  have : id = 0 := by simpa using inside
  subst id
  subst state
  cases edge

section

variable [CaseMap] [Categories] {tokens : List Token} {nfa : Nfa}

private theorem empty_recognizes (text : List Char) : Recognizes ⟨#[.exit], 0, 0⟩ text ↔ text = [] := by
  constructor
  · intro way
    exact (Path.of_exit rfl way).1
  · intro none
    subst text
    exact .stay 0

theorem empty_accepts (input : String) : accepts ⟨#[.exit], 0, 0⟩ input = true ↔ input = "" := by
  rw [accepts_iff empty_wired, empty_recognizes, String.toList_eq_nil_iff]

theorem finish_builds {construction : Construction} {expr : Expr} (builds : construction.Builds [expr]) :
    ∃ nfa, construction.finish = .ok nfa ∧ nfa.Wired ∧ ∀ text, nfa.Recognizes text ↔ expr.Denotes text := by
  obtain ⟨states, fragments⟩ := construction
  change Stacked states states.size fragments [expr] at builds
  generalize size : states.size = high at builds
  cases builds with
  | cons below block spells =>
    cases below
    subst size
    refine ⟨_, rfl, ⟨block.initial.2, block.exit_accept, ?_⟩, spells⟩
    intro id state found next edge
    have inside := (Array.getElem?_eq_some_iff.mp found).1
    exact (block.closed (Nat.zero_le id) inside found next edge).2

theorem finish_leftover {construction : Construction} {exprs : List Expr}
    (builds : construction.Builds exprs) (several : exprs.length ≠ 1) :
    construction.finish = .error (.malformed .leftoverFragments exprs.length) := by
  have same := builds.length_eq
  rw [← same] at several ⊢
  unfold Construction.finish
  split
  next only => simp [only] at several
  next => rfl

/-- Tokens are built into an automaton if they denote an expression, and the automaton is one for its language. -/
theorem ofTokens_outcome (nonempty : tokens ≠ []) :
    (∃ nfa expr, Nfa.ofTokens tokens = .ok nfa ∧ Expr.ofPostorder? tokens = some expr ∧ nfa.Wired ∧
      ∀ text, nfa.Recognizes text ↔ expr.Denotes text) ∨
    ∃ fault count, Nfa.ofTokens tokens = .error (.malformed fault count) ∧ Expr.ofPostorder? tokens = none ∧
      Expr.Unreadable tokens fault count := by
  have begun : Construction.Builds ⟨#[], []⟩ [] := .nil
  have follows := Construction.steps_follow tokens begun
  rw [ofTokens_eq nonempty, Expr.ofPostorder?]
  generalize tokens.foldlM Construction.step ⟨#[], []⟩ = built at follows
  generalize reads : tokens.foldlM Expr.readStep [] = read at follows
  cases follows with
  | refused why =>
    obtain ⟨before, token, after, stack, split, reads, refuses, rfl⟩ := why
    exact Or.inr ⟨_, _, rfl, rfl, .refused split reads refuses⟩
  | @built construction exprs builds =>
    by_cases several : exprs.length = 1
    · obtain ⟨expr, rfl⟩ := List.length_eq_one_iff.mp several
      obtain ⟨nfa, finished, wired, language⟩ := finish_builds builds
      exact Or.inl ⟨nfa, expr, finished, rfl, wired, language⟩
    · refine Or.inr ⟨_, _, finish_leftover builds several, ?_, .leftover reads several⟩
      cases exprs with
      | nil => rfl
      | cons expr others =>
        cases others with
        | nil => exact absurd rfl several
        | cons => rfl

theorem ofTokens_of_expr {expr : Expr} (read : Expr.ofPostorder? tokens = some expr) :
    ∃ nfa, Nfa.ofTokens tokens = .ok nfa ∧ nfa.Wired ∧ ∀ text, nfa.Recognizes text ↔ expr.Denotes text := by
  have nonempty : tokens ≠ [] := by
    intro none
    subst tokens
    cases read
  rcases ofTokens_outcome nonempty with ⟨nfa, other, built, same, wired, language⟩ | ⟨_, _, _, unread, _⟩
  · cases read.symm.trans same
    exact ⟨nfa, built, wired, language⟩
  · cases read.symm.trans unread

theorem expr_of_ofTokens (built : Nfa.ofTokens tokens = .ok nfa) (nonempty : tokens ≠ []) :
    ∃ expr, Expr.ofPostorder? tokens = some expr := by
  rcases ofTokens_outcome nonempty with ⟨_, expr, _, read, _⟩ | ⟨_, _, failed, _⟩
  · exact ⟨expr, read⟩
  · cases built.symm.trans failed

theorem ofTokens_wired (built : Nfa.ofTokens tokens = .ok nfa) : nfa.Wired := by
  by_cases nonempty : tokens = []
  · subst tokens
    cases built
    exact empty_wired
  · obtain ⟨expr, read⟩ := expr_of_ofTokens built nonempty
    obtain ⟨other, same, wired, _⟩ := ofTokens_of_expr read
    cases built.symm.trans same
    exact wired

/-- Nothing but the empty text is accepted without tokens. With tokens, it is the language of their expression. -/
theorem accepts_iff_denotes (built : Nfa.ofTokens tokens = .ok nfa) :
    (tokens ≠ [] → ∃ expr, Expr.ofPostorder? tokens = some expr ∧
      ∀ input : String, nfa.accepts input = true ↔ expr.Denotes input.toList) ∧
    (tokens = [] → ∀ input : String, nfa.accepts input = true ↔ input = "") := by
  constructor
  · intro nonempty
    obtain ⟨expr, read⟩ := expr_of_ofTokens built nonempty
    obtain ⟨other, same, wired, language⟩ := ofTokens_of_expr read
    cases built.symm.trans same
    exact ⟨expr, read, fun input => (accepts_iff wired input).trans (language input.toList)⟩
  · intro none input
    subst tokens
    cases built
    exact empty_accepts input

end

/-- The automaton of `(a?|b)+`, in which each operator has turned an exit into something else. -/
theorem accepts_iff_denotes_repeated_choice : ∃ nfa,
    Nfa.ofTokens [.single false (.literal 'a' false), .operator .optional, .single false (.literal 'b' false),
      .operator .alternate, .operator .plus] = .ok nfa ∧
    ∃ expr, Expr.ofPostorder? [.single false (.literal 'a' false), .operator .optional,
      .single false (.literal 'b' false), .operator .alternate, .operator .plus] = some expr ∧
      ∀ input : String, nfa.accepts input = true ↔ expr.Denotes input.toList :=
  ⟨_, rfl, (accepts_iff_denotes rfl).1 (by decide)⟩

end Nfa

/-- Buffers as the runs of automata leave them, one run after the other. -/
inductive Buffers.Used [CaseMap] [Categories] : Buffers → Prop where
  | fresh : Used Buffers.empty
  | again {buffers tokens nfa} (used : Used buffers) (built : Nfa.ofTokens tokens = .ok nfa) (input : String) :
      Used (nfa.run input buffers).2

theorem Buffers.Used.valid [CaseMap] [Categories] {buffers : Buffers} (used : buffers.Used) : buffers.Valid := by
  induction used with
  | fresh => exact Buffers.empty_valid
  | again _ built input valid => exact Nfa.run_valid (Nfa.ofTokens_wired built) valid input

/-- A run holds after each part of the text just the states that some way leads to, each once, for as long as it has
not ended. Its answer is the one that the states at the end of the text give, whether or not it got there. -/
theorem Nfa.run_follows_paths [CaseMap] [Categories] {tokens : List Token} {nfa : Nfa}
    (built : Nfa.ofTokens tokens = .ok nfa) {buffers : Buffers} (used : buffers.Used) (input : String) :
    (∀ read rest, input.toList = read ++ rest →
      (buffers.consumed nfa read).current.toList.Nodup ∧
      (∀ id, id ∈ (buffers.consumed nfa read).current.toList ↔ Path nfa.states nfa.initial read id) ∧
      ((∀ before, before <+: read → before ≠ [] → (buffers.consumed nfa before).current.isEmpty = false) →
        nfa.run input buffers = nfa.consume (Text.width read) rest (buffers.consumed nfa read))) ∧
    ((nfa.acceptsWith input buffers).1 = true ↔ Path nfa.states nfa.initial input.toList nfa.accept) ∧
    (nfa.acceptsWith input buffers).1 = (buffers.consumed nfa input.toList).current.contains nfa.accept := by
  have wired := ofTokens_wired built
  refine ⟨?_, run_recognizes wired used.valid input, run_accepted wired used.valid input⟩
  intro read rest split
  have tracks := Buffers.consumed_tracks wired used.valid read
  refine ⟨tracks.current.valid.nodup, tracks.live, ?_⟩
  intro alive
  have follows := nfa.consume_append 0 read rest (buffers.start nfa) alive
  rw [Nat.zero_add] at follows
  rw [run, split, follows]
  rfl

/-- The automaton of `a*` over `aa`, in buffers that a run over `b` has left. -/
theorem Nfa.run_follows_paths_twice : ∃ nfa,
    Nfa.ofTokens [.single false (.literal 'a' false), .operator .star] = .ok nfa ∧
    (nfa.run "b" Buffers.empty).2.Used ∧
    ((nfa.acceptsWith "aa" (nfa.run "b" Buffers.empty).2).1 = true ↔
      Path nfa.states nfa.initial "aa".toList nfa.accept) := by
  have built : Nfa.ofTokens [.single false (.literal 'a' false), .operator .star] =
      .ok ⟨#[.fork 1 2, .consume ⟨false, .members ['a'] false⟩ 0, .exit, .fork 1 2], 3, 2⟩ := rfl
  have used := Buffers.Used.again .fresh built "b"
  exact ⟨_, built, used, (run_follows_paths built used "aa").2.1⟩

end PatternNfa
