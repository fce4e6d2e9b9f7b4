import PatternNfa.Proofs.AlikeTokens
import PatternNfa.Proofs.Joining
import PatternNfa.Scanner

/-! Scanning a pattern. Character by character the same tokens come out as by lexemes. -/

namespace PatternNfa

namespace Scanner

variable {separate : List Token}

theorem push_joins {tokens : Array Token} (joins : tokens.toList = Token.join separate) {token : Token}
    (opens : token.opensOperand = false) : (tokens.push token).toList = Token.join (separate ++ [token]) := by
  rw [Array.toList_push, joins, Token.join_concat, opens, Bool.and_false]
  rfl

theorem addJoined_joins {tokens : Array Token} (joins : tokens.toList = Token.join separate) {token : Token}
    (opens : token.opensOperand = true) : (addJoined tokens token).toList = Token.join (separate ++ [token]) := by
  have last : tokens.back? = separate.getLast? := by
    rw [← Array.getLast?_toList, joins, Token.getLast?_join]
  rw [addJoined, last, Token.join_concat, opens, Bool.and_true, ← joins]
  split
  next => simp
  next => simp

theorem addJoined_single {tokens : Array Token} (joins : tokens.toList = Token.join separate) (negated : Bool)
    (cls : CharClass) :
    (addJoined tokens (.single negated cls)).toList = Token.join (separate ++ [.single negated cls]) :=
  addJoined_joins joins rfl

theorem step_member {c : Char} (inside : c ≠ ']') (anyCase : Bool) (offset first : Nat) (negating : Bool)
    (members : List Char) (tokens : Array Token) :
    step anyCase offset ⟨none, negating, some (first, members), tokens⟩ c =
      ⟨none, negating, some (first, members ++ [c]), tokens⟩ :=
  if_neg inside

theorem step_plain {c : Char} (escape : c ≠ '\\') (bracket : c ≠ '[') (caret : c ≠ '^') {anyCase : Bool} {offset : Nat}
    {negating : Bool} {tokens : Array Token} (joins : tokens.toList = Token.join separate) :
    let token := Token.ofPlain anyCase negating offset c
    ∃ longer, step anyCase offset ⟨none, negating, none, tokens⟩ c = ⟨none, negating && !token.isSingle, none, longer⟩ ∧
      longer.toList = Token.join (separate ++ [token]) := by
  simp only [step]
  split
  next => exact absurd rfl escape
  next => exact absurd rfl caret
  next => exact absurd rfl bracket
  next => exact ⟨_, by simp [pushOperand, Token.ofPlain, Token.isSingle], addJoined_joins joins rfl⟩
  next => exact ⟨_, by simp [push, Token.ofPlain, Token.isSingle], push_joins joins rfl⟩
  next => exact ⟨_, by simp [pushSingle, pushOperand, Token.ofPlain, Token.isSingle], addJoined_joins joins rfl⟩
  next opening closing any =>
    cases found : Operator.ofChar? c with
    | some op =>
      have plain : Token.ofPlain anyCase negating offset c = .operator op := by
        rw [Token.ofPlain, found] <;> assumption
      exact ⟨_, by simp [push, plain, Token.isSingle], push_joins joins (by rw [plain]; rfl)⟩
    | none =>
      have plain : Token.ofPlain anyCase negating offset c = .single negating (.literal c anyCase) := by
        rw [Token.ofPlain, found] <;> assumption
      exact ⟨_, by simp [pushSingle, pushOperand, plain, Token.isSingle], addJoined_joins joins (by rw [plain]; rfl)⟩

/-- The tokens of lexemes from byte `offset` on, joined to those before them. -/
def joinLexemes (anyCase : Bool) (separate : List Token) (offset : Nat) (negating : Bool) (lexemes : List Lexeme) :
    List Token :=
  Token.join (separate ++ Token.ofLexemes anyCase offset negating lexemes)

theorem joinLexemes_cons {anyCase negating : Bool} {offset : Nat} {lexeme : Lexeme} {token : Token}
    (stands : lexeme.token? anyCase negating offset = some token) (result : Except PatternError (List Lexeme)) :
    joinLexemes anyCase separate offset negating <$> (lexeme :: ·) <$> result =
      joinLexemes anyCase (separate ++ [token]) (offset + lexeme.width) (negating && !token.isSingle) <$> result := by
  cases result with
  | error => rfl
  | ok rest =>
    refine congrArg Except.ok ?_
    rw [joinLexemes, joinLexemes, Token.ofLexemes, stands, List.append_assoc, List.singleton_append]

mutual

/-- From the beginning of a lexeme on, the characters that are left give the tokens of the lexemes that are left. -/
theorem finish_steps (anyCase : Bool) (offset : Nat) (text : List Char) (negating : Bool) {separate : List Token}
    {tokens : Array Token} (joins : tokens.toList = Token.join separate) :
    (steps anyCase offset ⟨none, negating, none, tokens⟩ text).finish =
      joinLexemes anyCase separate offset negating <$> Lexeme.read offset text := by
  -- Between two lexemes no bracket is open and no backslash waits, but a negation mark may.
  unfold Lexeme.read
  split
  next =>
    rw [steps, finish, joins]
    exact congrArg Except.ok (congrArg Token.join (List.append_nil separate).symm)
  next => rfl
  next c rest =>
    have stands : (Lexeme.escaped c).token? anyCase negating offset =
      some (.single negating (.ofEscaped anyCase c)) := rfl
    have ends : offset + (Lexeme.escaped c).width = offset + '\\'.utf8Size + c.utf8Size := (Nat.add_assoc ..).symm
    have later := finish_steps anyCase (offset + (Lexeme.escaped c).width) rest false
      (addJoined_single joins negating (.ofEscaped anyCase c))
    rw [joinLexemes_cons stands, Token.isSingle, Bool.not_true, Bool.and_false, ← later, ends]
    rfl
  next rest => exact finish_steps_bracket anyCase offset [] rest negating joins
  next rest =>
    have later := finish_steps anyCase (offset + Lexeme.caret.width) rest true joins
    rw [Functor.map_map]
    exact later
  next c rest alone escape bracket caret =>
    have unescaped : c ≠ '\\' := by
      intro same
      cases rest with
      | nil => exact alone same rfl
      | cons next rest => exact escape next rest same rfl
    have stands : (Lexeme.plain c).token? anyCase negating offset = some (.ofPlain anyCase negating offset c) := rfl
    obtain ⟨longer, stepped, joins⟩ := step_plain unescaped bracket caret joins
    rw [joinLexemes_cons stands, steps, stepped, ← finish_steps anyCase _ rest _ joins]
    rfl

theorem finish_steps_bracket (anyCase : Bool) (offset : Nat) (members text : List Char) (negating : Bool)
    {separate : List Token} {tokens : Array Token} (joins : tokens.toList = Token.join separate) :
    (steps anyCase (offset + Text.width ('[' :: members.reverse))
        ⟨none, negating, some (offset, members.reverse), tokens⟩ text).finish =
      joinLexemes anyCase separate offset negating <$> Lexeme.readBracket offset members text := by
  unfold Lexeme.readBracket
  split
  next => rfl
  next rest =>
    have stands : (Lexeme.bracket members.reverse).token? anyCase negating offset =
        some (.single negating (.set members.reverse anyCase)) := rfl
    have ends : offset + (Lexeme.bracket members.reverse).width =
        offset + Text.width ('[' :: members.reverse) + ']'.utf8Size := by
      rw [Lexeme.width, Lexeme.text, Text.width_append, Nat.add_assoc]
      rfl
    have later := finish_steps anyCase (offset + (Lexeme.bracket members.reverse).width) rest false
      (addJoined_single joins negating (.set members.reverse anyCase))
    rw [joinLexemes_cons stands, Token.isSingle, Bool.not_true, Bool.and_false, ← later, ends]
    rfl
  next c rest inside =>
    have ends : offset + Text.width ('[' :: (c :: members).reverse) =
        offset + Text.width ('[' :: members.reverse) + c.utf8Size := by
      rw [List.reverse_cons, ← List.cons_append, Text.width_append, Nat.add_assoc]
      rfl
    rw [← finish_steps_bracket anyCase offset (c :: members) rest negating joins, ends, steps, step_member inside,
      List.reverse_cons]

end

theorem scan_eq (pattern : Pattern) : scan pattern = pattern.tokens := by
  have joins : (#[] : Array Token).toList = Token.join [] := rfl
  rw [Pattern.tokens_eq rfl]
  exact finish_steps _ _ _ false joins

end Scanner

end PatternNfa
