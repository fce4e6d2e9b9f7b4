import PatternNfa.Proofs.FragmentLanguages

/-! The construction goes through the tokens in step with the reading of expressions: the fragments that wait spell
the expressions complete so far, and both fail at the same token. -/

namespace PatternNfa

variable [CaseMap] [Categories]

/-- The fragments, the latest first, with the expressions that they spell. Their blocks follow each other without
gaps and end below `high`. -/
inductive Stacked (states : Array State) : (high : Nat) → List Fragment → List Expr → Prop where
  | nil : Stacked states 0 [] []
  | cons {low high fragment expr fragments exprs} (below : Stacked states low fragments exprs)
      (block : fragment.Block states low high) (spells : fragment.Spells states expr) :
      Stacked states high (fragment :: fragments) (expr :: exprs)

theorem Stacked.length_eq {states : Array State} {high : Nat} {fragments : List Fragment} {exprs : List Expr}
    (stacked : Stacked states high fragments exprs) : fragments.length = exprs.length := by
  induction stacked with
  | nil => rfl
  | cons _ _ _ ih => simp [ih]

theorem Stacked.congr {states after : Array State} {high : Nat} {fragments : List Fragment} {exprs : List Expr}
    (stacked : Stacked states high fragments exprs) (grown : states.size ≤ after.size)
    (same : ∀ id, id < high → after[id]? = states[id]?) : Stacked after high fragments exprs := by
  induction stacked with
  | nil => exact .nil
  | @cons low high _ _ _ _ _ block spells ih =>
    have lower := block.low_lt
    exact .cons (ih fun id below => same id (Nat.lt_trans below lower))
      (block.congr grown fun id _ below => same id below)
      (spells.congr block grown fun id _ below => same id below)

theorem Stacked.rewired {before after : Array State} {low : Nat} {exits : List StateId} {hubs : List (StateId × State)}
    {fragments : List Fragment} {exprs : List Expr} (stacked : Stacked before low fragments exprs)
    (rewired : Rewired before after low exits hubs) (inside : low ≤ before.size) :
    Stacked after low fragments exprs := by
  apply stacked.congr rewired.grown
  intro id below
  apply rewired.kept (Nat.lt_of_lt_of_le below inside)
  intro exit
  exact Nat.not_lt_of_le (rewired.exit id exit).1 below

theorem Stacked.top {states : Array State} {high : Nat} {inner : Fragment} {fragments : List Fragment}
    {exprs : List Expr} (stacked : Stacked states high (inner :: fragments) exprs) :
    ∃ low, inner.Block states low high := by
  cases stacked with
  | cons _ block _ => exact ⟨_, block⟩

theorem Stacked.only {states : Array State} {high : Nat} {fragment : Fragment} {exprs : List Expr}
    (stacked : Stacked states high [fragment] exprs) : fragment.Block states 0 high := by
  cases stacked with
  | cons below block _ =>
    cases below
    exact block

theorem Stacked.top_two {states : Array State} {high : Nat} {first second : Fragment} {fragments : List Fragment}
    {exprs : List Expr} (stacked : Stacked states high (second :: first :: fragments) exprs) :
    ∃ low middle, first.Block states low middle ∧ second.Block states middle high := by
  cases stacked with
  | cons below right _ =>
    obtain ⟨low, left⟩ := below.top
    exact ⟨low, _, left, right⟩

namespace Construction

def Builds (construction : Construction) (exprs : List Expr) : Prop :=
  Stacked construction.states construction.states.size construction.fragments exprs

/-- Why a token is refused if its operands are not there. -/
def refusal : Token → Fault
  | .opening _ => .groupMark '('
  | .closing _ => .groupMark ')'
  | _ => .missingOperand

/-- Construction and reading either both go on or both refuse, with an error of the kind given. -/
inductive Agree (refused : PatternError → Prop) : Except PatternError Construction → Option (List Expr) → Prop where
  | built {construction exprs} (builds : construction.Builds exprs) : Agree refused (.ok construction) (some exprs)
  | refused {error} (why : refused error) : Agree refused (.error error) none

theorem step_follows {construction : Construction} {exprs : List Expr} (builds : construction.Builds exprs)
    (token : Token) : Agree (fun error => error = .malformed (refusal token) exprs.length)
      (construction.step token) (Expr.readStep exprs token) := by
  obtain ⟨states, fragments⟩ := construction
  change Stacked states states.size fragments exprs at builds
  cases token with
  | single negated cls =>
    have grown : Stacked (single ⟨states, fragments⟩ ⟨negated, cls.chars⟩).states states.size fragments exprs := by
      apply builds.congr
      · simp only [single, Array.size_push]
        exact Nat.le_add_right _ 2
      · intro id below
        simp only [single, Array.getElem?_push, Array.size_push]
        grind
    exact .built (grown.cons (single_block _ _) (single_spells _ negated cls))
  | opening | closing =>
    exact .refused (by rw [builds.length_eq]; rfl)
  | operator op =>
    generalize size : states.size = high at builds
    cases builds with
    | nil => cases op <;> exact .refused rfl
    | @cons middle _ second right fragments exprs below rightBlock spellsSecond =>
      subst size
      cases op with
      | quantified quantifier =>
        obtain ⟨hubs, rewired⟩ := quantify_rewired rightBlock quantifier
        have rest := below.rewired rewired (Nat.le_of_lt rightBlock.low_lt)
        exact .built (rest.cons (quantify_block rightBlock quantifier)
          (quantify_spells spellsSecond rightBlock quantifier))
      | concat =>
        cases below with
        | nil => exact .refused rfl
        | @cons low _ first left _ _ below leftBlock spellsFirst =>
          have inside := Nat.le_trans (Nat.le_of_lt leftBlock.low_lt) leftBlock.within
          have rest := below.rewired (concat_rewired leftBlock rightBlock) inside
          exact .built (rest.cons (concat_block leftBlock rightBlock)
            (concat_spells spellsFirst spellsSecond leftBlock rightBlock))
      | alternate =>
        cases below with
        | nil => exact .refused rfl
        | @cons low _ first left _ _ below leftBlock spellsFirst =>
          have inside := Nat.le_trans (Nat.le_of_lt leftBlock.low_lt) leftBlock.within
          have rest := below.rewired (alternate_rewired leftBlock rightBlock) inside
          exact .built (rest.cons (alternate_block leftBlock rightBlock)
            (alternate_spells spellsFirst spellsSecond leftBlock rightBlock))

/-- What a step does that is not refused. The operands of an operator are the last blocks of the states. -/
inductive Advances : Construction → Token → Construction → Prop where
  | single {states fragments} (negated : Bool) (cls : CharClass) :
      Advances ⟨states, fragments⟩ (.single negated cls) (single ⟨states, fragments⟩ ⟨negated, cls.chars⟩)
  | quantified {states low inner rest} (block : inner.Block states low states.size) (quantifier : Quantifier) :
      Advances ⟨states, inner :: rest⟩ (.operator (.quantified quantifier))
        ⟨(quantify states inner quantifier).1, (quantify states inner quantifier).2 :: rest⟩
  | concat {states low middle first second rest} (left : first.Block states low middle)
      (right : second.Block states middle states.size) :
      Advances ⟨states, second :: first :: rest⟩ (.operator .concat)
        ⟨(concat states first second).1, (concat states first second).2 :: rest⟩
  | alternate {states low middle first second rest} (left : first.Block states low middle)
      (right : second.Block states middle states.size) :
      Advances ⟨states, second :: first :: rest⟩ (.operator .alternate)
        ⟨(alternate states first second).1, (alternate states first second).2 :: rest⟩

section

variable {construction next : Construction} {exprs : List Expr} (builds : construction.Builds exprs) {token : Token}
  (stepped : construction.step token = .ok next)
include builds stepped

theorem Builds.advances : Advances construction token next := by
  obtain ⟨states, fragments⟩ := construction
  change Stacked states states.size fragments exprs at builds
  cases token with
  | single negated cls =>
    cases stepped
    exact .single negated cls
  | opening | closing => cases stepped
  | operator op =>
    cases op with
    | quantified quantifier =>
      match fragments with
      | [] => cases stepped
      | inner :: rest =>
        cases stepped
        obtain ⟨low, block⟩ := builds.top
        exact .quantified block quantifier
    | concat =>
      match fragments with
      | [] | [_] => cases stepped
      | second :: first :: rest =>
        cases stepped
        obtain ⟨low, middle, left, right⟩ := builds.top_two
        exact .concat left right
    | alternate =>
      match fragments with
      | [] | [_] => cases stepped
      | second :: first :: rest =>
        cases stepped
        obtain ⟨low, middle, left, right⟩ := builds.top_two
        exact .alternate left right

theorem Builds.step : ∃ exprs, next.Builds exprs := by
  have follows := step_follows builds token
  rw [stepped] at follows
  generalize Expr.readStep exprs token = read at follows
  cases follows with
  | built after => exact ⟨_, after⟩

end

/-- What every step keeps, a whole run keeps. -/
theorem steps_keep (holds : Construction → Prop)
    (kept : ∀ {construction token next}, Advances construction token next → holds construction → holds next)
    {tokens : List Token} {construction last : Construction} {exprs : List Expr} (builds : construction.Builds exprs)
    (begun : holds construction) (steps : tokens.foldlM step construction = .ok last) :
    (∃ exprs, last.Builds exprs) ∧ holds last := by
  induction tokens generalizing construction exprs with
  | nil =>
    cases steps
    exact ⟨⟨exprs, builds⟩, begun⟩
  | cons token rest ih =>
    rw [List.foldlM_cons] at steps
    obtain ⟨next, stepped, steps⟩ := exists_of_bind steps
    obtain ⟨_, after⟩ := builds.step stepped
    exact ih after (kept (builds.advances stepped) begun) steps

theorem Builds.steps {construction last : Construction} {exprs : List Expr} (builds : construction.Builds exprs)
    {tokens : List Token} (run : tokens.foldlM Construction.step construction = .ok last) :
    ∃ exprs, last.Builds exprs :=
  (steps_keep (fun _ => True) (fun _ kept => kept) builds trivial run).1

/-- The first token that one of them refuses is the first that the other refuses. -/
theorem steps_follow (tokens : List Token) {construction : Construction} {exprs : List Expr}
    (builds : construction.Builds exprs) :
    Agree (fun error => ∃ before token after stack, tokens = before ++ token :: after ∧
        before.foldlM Expr.readStep exprs = some stack ∧ Expr.readStep stack token = none ∧
        error = .malformed (refusal token) stack.length)
      (tokens.foldlM step construction) (tokens.foldlM Expr.readStep exprs) := by
  induction tokens generalizing construction exprs with
  | nil => exact .built builds
  | cons token rest ih =>
    have here := step_follows builds token
    rw [List.foldlM_cons, List.foldlM_cons]
    generalize construction.step token = stepped at here
    generalize read : Expr.readStep exprs token = stack at here
    cases here with
    | refused why => exact .refused ⟨[], token, rest, exprs, rfl, rfl, read, why⟩
    | @built next stack builds =>
      have later := ih builds
      change Agree _ (rest.foldlM step next) (rest.foldlM Expr.readStep stack)
      generalize rest.foldlM step next = built at later ⊢
      generalize rest.foldlM Expr.readStep stack = result at later ⊢
      cases later with
      | built builds => exact .built builds
      | refused why =>
        obtain ⟨before, culprit, after, last, rfl, reads, refuses, why⟩ := why
        refine .refused ⟨token :: before, culprit, after, last, rfl, ?_, refuses, why⟩
        rw [List.foldlM_cons, read]
        exact reads

end Construction

omit [CaseMap] [Categories] in
theorem Nfa.ofTokens_eq {tokens : List Token} (nonempty : tokens ≠ []) :
    Nfa.ofTokens tokens = tokens.foldlM Construction.step ⟨#[], []⟩ >>= Construction.finish := by
  cases tokens with
  | nil => contradiction
  | cons => rfl

omit [CaseMap] [Categories] in
/-- An automaton is the fragment that is left in the end, with the states that have been allocated by then. -/
theorem Nfa.steps_of_ofTokens {tokens : List Token} {nfa : Nfa} (built : Nfa.ofTokens tokens = .ok nfa)
    (nonempty : tokens ≠ []) :
    tokens.foldlM Construction.step ⟨#[], []⟩ = .ok ⟨nfa.states, [⟨nfa.initial, nfa.accept⟩]⟩ := by
  rw [ofTokens_eq nonempty] at built
  obtain ⟨⟨states, fragments⟩, steps, finished⟩ := exists_of_bind built
  unfold Construction.finish at finished
  split at finished
  next fragment only =>
    simp only at only
    subst only
    cases finished
    exact steps
  next => cases finished

/-- What every step keeps, automata have. The one without tokens comes about without a step. -/
theorem Nfa.holds_of_ofTokens (holds : Construction → Prop)
    (kept : ∀ {construction token next}, Construction.Advances construction token next →
      holds construction → holds next)
    (begun : holds ⟨#[], []⟩) (alone : holds ⟨#[.exit], [⟨0, 0⟩]⟩) {tokens : List Token} {nfa : Nfa}
    (built : Nfa.ofTokens tokens = .ok nfa) : holds ⟨nfa.states, [⟨nfa.initial, nfa.accept⟩]⟩ := by
  by_cases nonempty : tokens = []
  · subst tokens
    cases built
    exact alone
  · have empty : Construction.Builds ⟨#[], []⟩ [] := .nil
    exact (Construction.steps_keep holds kept empty begun (steps_of_ofTokens built nonempty)).2

end PatternNfa
