import PatternNfa.Nfa.Thompson

/-! Thompson's construction one allocation and one pop at a time. A state goes by a name made from its position, and
taking a fragment fails by itself where none is left. With names that are the positions, and with operands counted
before they are taken, this is the construction in steps of whole tokens. -/

namespace PatternNfa

namespace Stepwise

/-- How a construction ends early: with an error that it reports, or for want of a fragment where one was taken to be
there. -/
inductive Breach where
  | reported (error : PatternError)
  | exhausted
deriving DecidableEq

abbrev Stage (α : Type) := StateT Construction (Except Breach) α

def depth : Stage Nat := return (← get).fragments.length

def pop : Stage Fragment := do
  let ⟨states, fragments⟩ ← get
  match fragments with
  | [] => throw .exhausted
  | fragment :: rest =>
    set (Construction.mk states rest)
    return fragment

def push (fragment : Fragment) : Stage Unit := modify fun ⟨states, fragments⟩ => ⟨states, fragment :: fragments⟩

def overwrite (id : StateId) (state : State) : Stage Unit :=
  modify fun ⟨states, fragments⟩ => ⟨states.set! id state, fragments⟩

/-- Operands are counted before the first of them is taken. -/
def require (op : Operator) : Stage Unit := do
  let depth ← depth
  if depth < (if op.isQuantifier then 1 else 2) then throw (.reported (.malformed .missingOperand depth))

section

variable (name : Nat → StateId)

def alloc (state : State) : Stage StateId := do
  let ⟨states, fragments⟩ ← get
  set (Construction.mk (states.push state) fragments)
  return name states.size

def single (predicate : Predicate) : Stage Unit := do
  let accept ← alloc name .exit
  let initial ← alloc name (.consume predicate accept)
  push ⟨initial, accept⟩

def combine : Operator → Stage Fragment
  | .concat => do
    let second ← pop
    let first ← pop
    overwrite first.accept (.jump second.initial)
    return ⟨first.initial, second.accept⟩
  | .alternate => do
    let second ← pop
    let first ← pop
    let accept ← alloc name .exit
    let initial ← alloc name (.fork first.initial second.initial)
    overwrite first.accept (.jump accept)
    overwrite second.accept (.jump accept)
    return ⟨initial, accept⟩
  | .quantified .star => do
    let inner ← pop
    let accept ← alloc name .exit
    let initial ← alloc name (.fork inner.initial accept)
    overwrite inner.accept (.fork inner.initial accept)
    return ⟨initial, accept⟩
  | .quantified .plus => do
    let inner ← pop
    let accept ← alloc name .exit
    let gate ← alloc name (.fork inner.initial accept)
    overwrite inner.accept (.jump gate)
    return ⟨inner.initial, accept⟩
  | .quantified .optional => do
    let inner ← pop
    let initial ← alloc name (.fork inner.initial inner.accept)
    return ⟨initial, inner.accept⟩

def step : Token → Stage Unit
  | .single negated cls => single name ⟨negated, cls.chars⟩
  | .operator op => do
    require op
    push (← combine name op)
  | .opening _ => do throw (.reported (.malformed (.groupMark '(') (← depth)))
  | .closing _ => do throw (.reported (.malformed (.groupMark ')') (← depth)))

def finish : Stage Nfa := do
  let depth ← depth
  if depth ≠ 1 then throw (.reported (.malformed .leftoverFragments depth))
  let fragment ← pop
  return ⟨(← get).states, fragment.initial, fragment.accept⟩

def ofTokens (tokens : List Token) : Except Breach Nfa :=
  match tokens with
  | [] => .ok ⟨#[.exit], name 0, name 0⟩
  | tokens => Prod.fst <$> (do forM tokens (step name); finish).run ⟨#[], []⟩

end

section

variable (states : Array State) (fragment : Fragment) (fragments : List Fragment)

@[simp] theorem run_pop : pop.run ⟨states, fragment :: fragments⟩ = pure (fragment, ⟨states, fragments⟩) := rfl

@[simp] theorem run_push : (push fragment).run ⟨states, fragments⟩ = pure ((), ⟨states, fragment :: fragments⟩) := rfl

@[simp] theorem run_overwrite (id : StateId) (state : State) :
    (overwrite id state).run ⟨states, fragments⟩ = pure ((), ⟨states.set! id state, fragments⟩) := rfl

@[simp] theorem run_alloc (name : Nat → StateId) (state : State) :
    (alloc name state).run ⟨states, fragments⟩ = pure (name states.size, ⟨states.push state, fragments⟩) := rfl

theorem run_require (op : Operator) (enough : (if op.isQuantifier then 1 else 2) ≤ fragments.length) :
    (require op).run ⟨states, fragments⟩ = pure ((), ⟨states, fragments⟩) := by
  simp only [require, depth]
  simp [Nat.not_lt.mpr enough]

end

section

/-- The name of a position in 32 bits. -/
def shortName (position : Nat) : StateId := (StateId.word position).toNat

/-- The states that a next token can add would go by their positions. -/
def Faithful (name : Nat → StateId) (construction : Construction) : Prop :=
  ∀ ahead, ahead < 2 → name (construction.states.size + ahead) = construction.states.size + ahead

variable {name : Nat → StateId}

theorem step_eq {construction : Construction} (faithful : Faithful name construction) (token : Token) :
    (step name token).run construction = ((), ·) <$> (construction.step token).mapError .reported := by
  obtain ⟨states, fragments⟩ := construction
  have first : name states.size = states.size := faithful 0 (by decide)
  have second : name (states.size + 1) = states.size + 1 := faithful 1 (by decide)
  cases token with
  | single negated cls =>
    simp [step, single, Construction.step, Construction.single, first, second]
    rfl
  | opening | closing => rfl
  | operator op =>
    cases op with
    | concat =>
      rcases fragments with _ | ⟨after, _ | ⟨before, rest⟩⟩
      all_goals rfl
    | alternate =>
      rcases fragments with _ | ⟨after, _ | ⟨before, rest⟩⟩
      · rfl
      · rfl
      · have enough := run_require states (after :: before :: rest) .alternate (Nat.le_add_left 2 rest.length)
        simp [step, enough, combine, Construction.step, Construction.combine, Construction.alternate, first, second]
        rfl
    | quantified quantifier =>
      cases fragments with
      | nil => cases quantifier <;> rfl
      | cons inner rest =>
        have enough := run_require states (inner :: rest) (.quantified quantifier) (Nat.le_add_left 1 rest.length)
        cases quantifier <;>
          simp [step, enough, combine, Construction.step, Construction.combine, Construction.quantify, first,
            second] <;>
          rfl

theorem steps_eq {tokens : List Token} {construction : Construction}
    (faithful : ∀ before reached, before <+: tokens → before.foldlM Construction.step construction = .ok reached →
      Faithful name reached) :
    (forM tokens (step name)).run construction =
      ((), ·) <$> (tokens.foldlM Construction.step construction).mapError .reported := by
  induction tokens generalizing construction with
  | nil => rfl
  | cons token rest ih =>
    have here := faithful [] construction List.nil_prefix rfl
    rw [List.forM_cons, StateT.run_bind, step_eq here, List.foldlM_cons]
    cases stepped : construction.step token with
    | error => rfl
    | ok next =>
      apply ih
      intro before reached within reaches
      apply faithful (token :: before) reached (List.cons_prefix_cons.mpr ⟨rfl, within⟩)
      rw [List.foldlM_cons, stepped]
      exact reaches

theorem ofTokens_run {tokens : List Token} (nonempty : tokens ≠ []) : ofTokens name tokens =
    Prod.fst <$> ((forM tokens (step name)).run ⟨#[], []⟩ >>= fun made => finish.run made.2) := by
  cases tokens with
  | nil => exact absurd rfl nonempty
  | cons => rfl

theorem finish_eq (construction : Construction) :
    Prod.fst <$> finish.run construction = construction.finish.mapError .reported := by
  obtain ⟨states, fragments⟩ := construction
  rcases fragments with _ | ⟨_, _ | _⟩
  all_goals rfl

/-- If all states go by their positions, no fragment is ever missing, and everything else is the same too. -/
theorem ofTokens_eq {tokens : List Token}
    (faithful : ∀ before reached, before <+: tokens → before.foldlM Construction.step ⟨#[], []⟩ = .ok reached →
      Faithful name reached) : ofTokens name tokens = (Nfa.ofTokens tokens).mapError .reported := by
  cases tokens with
  | nil =>
    have first : name 0 = 0 := faithful [] ⟨#[], []⟩ List.nil_prefix rfl 0 (by decide)
    rw [ofTokens, first]
    rfl
  | cons token rest =>
    rw [ofTokens_run (List.cons_ne_nil token rest), steps_eq faithful]
    change _ = ((token :: rest).foldlM Construction.step ⟨#[], []⟩ >>= Construction.finish).mapError Breach.reported
    cases (token :: rest).foldlM Construction.step ⟨#[], []⟩ with
    | error => rfl
    | ok construction => exact finish_eq construction

end

end Stepwise

end PatternNfa
