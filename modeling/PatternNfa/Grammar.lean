import PatternNfa.Expr

/-! The grammar of patterns in the order in which they are written, after concatenation has been made explicit. -/

namespace PatternNfa

/-- What a stretch of tokens is taken for: a choice between terms, a sequence of factors, an atom with any number
of quantifiers after it, or an atom. -/
inductive Rank where
  | choice
  | term
  | factor
  | atom
deriving DecidableEq

/-- The stretches of tokens that denote an expression at a rank. Choices and sequences group to the left. -/
inductive Derives : Rank → List Token → Expr → Prop where
  | single {negated cls} : Derives .atom [.single negated cls] (.single negated cls)
  | group {start stop tokens expr} (inside : Derives .choice tokens expr) :
      Derives .atom (.opening start :: tokens ++ [.closing stop]) expr
  | atom {tokens expr} (atom : Derives .atom tokens expr) : Derives .factor tokens expr
  | quantified {quantifier tokens inner} (operand : Derives .factor tokens inner) :
      Derives .factor (tokens ++ [.operator (.quantified quantifier)]) (.quantified quantifier inner)
  | factor {tokens expr} (factor : Derives .factor tokens expr) : Derives .term tokens expr
  | concat {before after first second} (left : Derives .term before first) (right : Derives .factor after second) :
      Derives .term (before ++ .operator .concat :: after) (.concat first second)
  | term {tokens expr} (term : Derives .term tokens expr) : Derives .choice tokens expr
  | alternate {before after first second} (left : Derives .choice before first) (right : Derives .term after second) :
      Derives .choice (before ++ .operator .alternate :: after) (.alternate first second)

/-- What can be derived begins with an operand. -/
theorem Derives.begins {rank : Rank} {tokens : List Token} {expr : Expr} (derivation : Derives rank tokens expr) :
    ∃ first rest, tokens = first :: rest ∧ first.opensOperand = true := by
  induction derivation with
  | single => exact ⟨_, [], rfl, rfl⟩
  | group => exact ⟨_, _, rfl, rfl⟩
  | atom _ ih | factor _ ih | term _ ih => exact ih
  | quantified _ ih | concat _ _ ih | alternate _ _ ih =>
    obtain ⟨first, rest, rfl, opens⟩ := ih
    exact ⟨first, rest ++ _, rfl, opens⟩

end PatternNfa
