import PatternNfa.Nfa.Thompson

/-! Thompson's construction over records whose edges are filled in one by one. It watches what it wires, and breaks off
where it would give edges to a record that consumes a character or has such edges already, or to none at all. -/

namespace PatternNfa

/-- A state as it is stored. One with a predicate is left by its first edge only, with a character. -/
structure Node where
  predicate : Option Predicate := none
  first : Option StateId := none
  second : Option StateId := none
deriving DecidableEq

namespace Node

def edges (node : Node) : List StateId := node.first.toList ++ node.second.toList

def connect (node : Node) (next : StateId) : Option Node := do
  guard (node.predicate.isNone ∧ node.first.isNone)
  return { node with first := some next }

def fork (node : Node) (first second : StateId) : Option Node := do
  guard (node.predicate.isNone ∧ node.first.isNone ∧ node.second.isNone)
  return { node with first := some first, second := some second }

end Node

def State.node : State → Node
  | .exit => {}
  | .consume predicate next => { predicate := some predicate, first := some next }
  | .jump next => { first := some next }
  | .fork first second => { first := some first, second := some second }

theorem State.edges_node (state : State) : state.node.edges = state.successors := by
  cases state <;> rfl

/-- A construction by records. -/
structure Assembly where
  nodes : Array Node
  fragments : List Fragment
deriving DecidableEq

def Construction.assembly (construction : Construction) : Assembly :=
  ⟨construction.states.map State.node, construction.fragments⟩

namespace Assembly

def rewire (nodes : Array Node) (id : StateId) (change : Node → Option Node) : Option (Array Node) := do
  let node ← nodes[id]?
  let changed ← change node
  return nodes.set! id changed

def single (assembly : Assembly) (predicate : Predicate) : Assembly :=
  let accept := assembly.nodes.size
  ⟨(assembly.nodes.push {}).push { predicate := some predicate, first := some accept },
    ⟨accept + 1, accept⟩ :: assembly.fragments⟩

def concat (nodes : Array Node) (first second : Fragment) : Option (Array Node × Fragment) := do
  let nodes ← rewire nodes first.accept fun node => node.connect second.initial
  return (nodes, ⟨first.initial, second.accept⟩)

/-- A new exit and a fork, in this order. -/
def allocate (nodes : Array Node) (first second : StateId) : Array Node :=
  (nodes.push {}).push { first := some first, second := some second }

def alternate (nodes : Array Node) (first second : Fragment) : Option (Array Node × Fragment) := do
  let accept := nodes.size
  let nodes ← rewire (allocate nodes first.initial second.initial) first.accept fun node => node.connect accept
  let nodes ← rewire nodes second.accept fun node => node.connect accept
  return (nodes, ⟨accept + 1, accept⟩)

def quantify (nodes : Array Node) (inner : Fragment) : Quantifier → Option (Array Node × Fragment)
  | .star => do
    let accept := nodes.size
    let nodes ← rewire (allocate nodes inner.initial accept) inner.accept fun node => node.fork inner.initial accept
    return (nodes, ⟨accept + 1, accept⟩)
  | .plus => do
    let accept := nodes.size
    let nodes ← rewire (allocate nodes inner.initial accept) inner.accept fun node => node.connect (accept + 1)
    return (nodes, ⟨inner.initial, accept⟩)
  | .optional =>
    return (nodes.push { first := some inner.initial, second := some inner.accept }, ⟨nodes.size, inner.accept⟩)

def combine (assembly : Assembly) (op : Operator) : ExceptT PatternError Option Assembly :=
  let done (result : Option (Array Node × Fragment)) (rest : List Fragment) : ExceptT PatternError Option Assembly :=
    ExceptT.lift (result.map fun (nodes, fragment) => ⟨nodes, fragment :: rest⟩)
  match op, assembly.fragments with
  | .concat, second :: first :: rest => done (concat assembly.nodes first second) rest
  | .alternate, second :: first :: rest => done (alternate assembly.nodes first second) rest
  | .quantified quantifier, inner :: rest => done (quantify assembly.nodes inner quantifier) rest
  | _, fragments => throw (.malformed .missingOperand fragments.length)

def step (assembly : Assembly) : Token → ExceptT PatternError Option Assembly
  | .single negated cls => return assembly.single ⟨negated, cls.chars⟩
  | .operator op => assembly.combine op
  | .opening _ => throw (.malformed (.groupMark '(') assembly.fragments.length)
  | .closing _ => throw (.malformed (.groupMark ')') assembly.fragments.length)

/-- Nothing is returned if the construction has broken off. -/
def ofTokens (tokens : List Token) : Option (Except PatternError Assembly) := (tokens.foldlM step ⟨#[], []⟩).run

end Assembly

end PatternNfa
