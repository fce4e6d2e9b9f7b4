import PatternNfa.Predicate

/-! What patterns mean. An expression is a tree of operators over single characters and denotes a language. Its
postorder is its reverse Polish form, from which the tree can be read back. -/

namespace PatternNfa

inductive Expr where
  | single (negated : Bool) (cls : CharClass)
  | concat (first second : Expr)
  | alternate (first second : Expr)
  | quantified (quantifier : Quantifier) (inner : Expr)
deriving DecidableEq

namespace Expr

/-- The texts of an expression's language. -/
inductive Denotes [CaseMap] [Categories] : Expr → List Char → Prop where
  | single {negated cls c} (accepted : Predicate.accepts ⟨negated, cls.chars⟩ c = true) :
      Denotes (.single negated cls) [c]
  | concat {first second left right} (before : Denotes first left) (after : Denotes second right) :
      Denotes (.concat first second) (left ++ right)
  | left {first second text} (chosen : Denotes first text) : Denotes (.alternate first second) text
  | right {first second text} (chosen : Denotes second text) : Denotes (.alternate first second) text
  | starNone {inner} : Denotes (.quantified .star inner) []
  | starMore {inner left right} (once : Denotes inner left) (again : Denotes (.quantified .star inner) right) :
      Denotes (.quantified .star inner) (left ++ right)
  | plus {inner left right} (once : Denotes inner left) (again : Denotes (.quantified .star inner) right) :
      Denotes (.quantified .plus inner) (left ++ right)
  | optionalNone {inner} : Denotes (.quantified .optional inner) []
  | optionalOnce {inner text} (once : Denotes inner text) : Denotes (.quantified .optional inner) text

/-- The tokens of an expression, every operator after its operands. -/
def postorder : Expr → List Token
  | .single negated cls => [.single negated cls]
  | .concat first second => first.postorder ++ second.postorder ++ [.operator .concat]
  | .alternate first second => first.postorder ++ second.postorder ++ [.operator .alternate]
  | .quantified quantifier inner => inner.postorder ++ [.operator (.quantified quantifier)]

/-- Takes one token of a reverse Polish sequence, given the expressions complete so far, the latest first. -/
def readStep : List Expr → Token → Option (List Expr)
  | stack, .single negated cls => some (.single negated cls :: stack)
  | second :: first :: stack, .operator .concat => some (.concat first second :: stack)
  | second :: first :: stack, .operator .alternate => some (.alternate first second :: stack)
  | inner :: stack, .operator (.quantified quantifier) => some (.quantified quantifier inner :: stack)
  | _, _ => none

/-- The expression of a reverse Polish sequence, if the sequence denotes exactly one. -/
def ofPostorder? (tokens : List Token) : Option Expr := do
  match ← tokens.foldlM readStep [] with
  | [expr] => some expr
  | _ => none

theorem readSteps_postorder (expr : Expr) (stack : List Expr) :
    expr.postorder.foldlM readStep stack = some (expr :: stack) := by
  induction expr generalizing stack with
  | single negated cls => rfl
  | concat first second left right => simp [postorder, left, right, readStep]
  | alternate first second left right => simp [postorder, left, right, readStep]
  | quantified quantifier inner ih => simp [postorder, ih, readStep]

/-- The postorder loses nothing of the tree. -/
theorem ofPostorder?_postorder (expr : Expr) : ofPostorder? expr.postorder = some expr := by
  simp [ofPostorder?, readSteps_postorder]

end Expr

end PatternNfa
