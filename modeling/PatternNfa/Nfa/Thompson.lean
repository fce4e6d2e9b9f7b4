import PatternNfa.Nfa
import PatternNfa.PatternError

/-! Thompson's construction: from tokens in reverse Polish order to an automaton. Each token that matches a
character becomes a fragment of two states, and each operator wires the fragments of its operands together.
Every fragment ends in an exit state, and only exit states are ever rewired. -/

namespace PatternNfa

/-- A part of an automaton under construction, with one way in and one way out. -/
structure Fragment where
  initial : StateId
  accept : StateId
deriving DecidableEq

/-- The states allocated so far and the fragments that wait for an operator, the latest first. -/
structure Construction where
  states : Array State
  fragments : List Fragment
deriving DecidableEq

namespace Construction

def single (construction : Construction) (predicate : Predicate) : Construction :=
  let accept := construction.states.size
  ⟨(construction.states.push .exit).push (.consume predicate accept), ⟨accept + 1, accept⟩ :: construction.fragments⟩

/-- Leads from the exit of the first fragment into the second. No state is added. -/
def concat (states : Array State) (first second : Fragment) : Array State × Fragment :=
  (states.set! first.accept (.jump second.initial), ⟨first.initial, second.accept⟩)

/-- Forks into both fragments and leads out of both to a new exit. -/
def alternate (states : Array State) (first second : Fragment) : Array State × Fragment :=
  let accept := states.size
  let allocated := (states.push .exit).push (.fork first.initial second.initial)
  ((allocated.set! first.accept (.jump accept)).set! second.accept (.jump accept), ⟨accept + 1, accept⟩)

/-- Repeats a fragment or passes it by, according to the quantifier. The fork added for `plus` is reached only
after one pass, and the one added for `optional` leads straight to the fragment's own exit. -/
def quantify (states : Array State) (inner : Fragment) : Quantifier → Array State × Fragment
  | .star =>
    let accept := states.size
    let allocated := (states.push .exit).push (.fork inner.initial accept)
    (allocated.set! inner.accept (.fork inner.initial accept), ⟨accept + 1, accept⟩)
  | .plus =>
    let accept := states.size
    let allocated := (states.push .exit).push (.fork inner.initial accept)
    (allocated.set! inner.accept (.jump (accept + 1)), ⟨inner.initial, accept⟩)
  | .optional => (states.push (.fork inner.initial inner.accept), ⟨states.size, inner.accept⟩)

/-- Combines the fragments of an operator's operands, of which the second is on top. -/
def combine (construction : Construction) (op : Operator) : Except PatternError Construction :=
  let done (result : Array State × Fragment) (rest : List Fragment) : Construction := ⟨result.1, result.2 :: rest⟩
  match op, construction.fragments with
  | .concat, second :: first :: rest => .ok (done (concat construction.states first second) rest)
  | .alternate, second :: first :: rest => .ok (done (alternate construction.states first second) rest)
  | .quantified quantifier, inner :: rest => .ok (done (quantify construction.states inner quantifier) rest)
  | _, fragments => .error (.malformed .missingOperand fragments.length)

/-- Takes the next token. Group marks have no place in reverse Polish order. -/
def step (construction : Construction) : Token → Except PatternError Construction
  | .single negated cls => .ok (construction.single ⟨negated, cls.chars⟩)
  | .operator op => construction.combine op
  | .opening _ => .error (.malformed (.groupMark '(') construction.fragments.length)
  | .closing _ => .error (.malformed (.groupMark ')') construction.fragments.length)

/-- The automaton of the one fragment that has to be left at the end. -/
def finish (construction : Construction) : Except PatternError Nfa :=
  match construction.fragments with
  | [fragment] => .ok ⟨construction.states, fragment.initial, fragment.accept⟩
  | fragments => .error (.malformed .leftoverFragments fragments.length)

end Construction

/-- The automaton of tokens in reverse Polish order. The empty sequence matches the empty text only. -/
def Nfa.ofTokens (tokens : List Token) : Except PatternError Nfa :=
  match tokens with
  | [] => .ok ⟨#[.exit], 0, 0⟩
  | tokens => do
    let construction ← tokens.foldlM Construction.step ⟨Array.emptyWithCapacity (2 * tokens.length), []⟩
    construction.finish

end PatternNfa
