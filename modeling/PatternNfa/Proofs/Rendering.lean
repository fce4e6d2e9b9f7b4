import PatternNfa.Proofs.Decomposition

/-! The printed form of tokens can be read again. It loses nothing but the flags of sets that disregard case, the
offsets of group marks and the concatenations, and reading restores those. -/

namespace PatternNfa

/-- The lexeme that a class is printed as. -/
def CharClass.lexeme : CharClass → Lexeme
  | .literal char _ => if char ∈ escapedChars then .escaped char else .plain char
  | .set members _ => .bracket members
  | .letter => .escaped 'w'
  | .digit => .escaped 'd'
  | .space => .escaped 's'
  | .any => .plain '_'

namespace CharClass

/-- Literals and sets disregard case. -/
def DisregardsCase : CharClass → Prop
  | .literal _ anyCase | .set _ anyCase => anyCase = true
  | _ => True

/-- A set can be printed if a closing bracket is not among its members. -/
def Printable : CharClass → Prop
  | .set members _ => ']' ∉ members
  | _ => True

theorem text_lexeme (cls : CharClass) : cls.lexeme.text = cls.text := by
  cases cls with
  | literal char anyCase =>
    rw [lexeme, text]
    split <;> rfl
  | set | letter | digit | space | any => rfl

theorem wellFormed_lexeme {cls : CharClass} (printable : cls.Printable) : cls.lexeme.WellFormed := by
  cases cls with
  | literal char anyCase =>
    rw [lexeme]
    split
    next => trivial
    next ordinary =>
      have specials : ∀ special ∈ ['\\', '[', '^'], special ∈ escapedChars := by simp [escapedChars]
      exact mt (specials char) ordinary
  | set => exact printable
  | letter | digit | space => trivial
  | any => simp [lexeme, Lexeme.WellFormed]

theorem standsFor_lexeme {cls : CharClass} (disregards : cls.DisregardsCase) (negated : Bool) (offset : Nat) :
    Lexeme.StandsFor true negated offset cls.lexeme (.single negated cls) := by
  cases cls with
  | literal char anyCase =>
    obtain rfl : anyCase = true := disregards
    rw [lexeme]
    split
    next special =>
      have shorthands : ∀ special ∈ escapedChars, special ∉ ['d', 'w', 's'] := by simp [escapedChars]
      exact .escaped (shorthands char special)
    next ordinary =>
      have specials : ∀ special ∈ ['_', '|', '*', '+', '?', '(', ')'], special ∈ escapedChars := by simp [escapedChars]
      exact .literal (mt (specials char) ordinary)
  | set members anyCase =>
    obtain rfl : anyCase = true := disregards
    exact .bracket members
  | letter => exact .letter
  | digit => exact .digit
  | space => exact .space
  | any => exact .any

end CharClass

namespace Token

/-- The lexemes that a token is printed as. -/
def lexemes : Token → List Lexeme
  | .single negated cls => if negated then [.caret, cls.lexeme] else [cls.lexeme]
  | .operator op => [.plain op.symbol]
  | .opening _ => [.plain '(']
  | .closing _ => [.plain ')']

def DisregardsCase : Token → Prop
  | .single _ cls => cls.DisregardsCase
  | _ => True

def Printable : Token → Prop
  | .single _ cls => cls.Printable
  | _ => True

/-- The token with the offset that it has if it is a group mark at byte `offset`. -/
def placed (offset : Nat) : Token → Token
  | .opening _ => .opening offset
  | .closing _ => .closing offset
  | token => token

theorem flatMap_text_lexemes (token : Token) : token.lexemes.flatMap Lexeme.text = token.text := by
  cases token with
  | single negated cls =>
    have caret : Lexeme.caret.text = ['^'] := rfl
    cases negated <;> simp [lexemes, text, caret, CharClass.text_lexeme]
  | operator | opening | closing => rfl

theorem toList_render (tokens : List Token) :
    (render tokens).toList = (tokens.flatMap lexemes).flatMap Lexeme.text := by
  simp only [render, String.toList_ofList, List.flatMap_assoc, flatMap_text_lexemes]

theorem wellFormed_lexemes {token : Token} (printable : token.Printable) :
    ∀ lexeme ∈ token.lexemes, lexeme.WellFormed := by
  cases token with
  | single negated cls =>
    have whole := CharClass.wellFormed_lexeme printable
    cases negated with
    | false => exact List.forall_mem_singleton.mpr whole
    | true => exact List.forall_mem_cons.mpr ⟨trivial, List.forall_mem_singleton.mpr whole⟩
  | operator op => rcases op with _ | _ | (_ | _ | _) <;> simp [lexemes, Operator.symbol, Lexeme.WellFormed]
  | opening | closing => simp [lexemes, Lexeme.WellFormed]

/-- What is printed as one token is read as that token, whatever follows. -/
theorem ofLexemes_lexemes {token : Token} (separate : token ≠ .operator .concat) (disregards : token.DisregardsCase)
    (offset : Nat) (rest : List Lexeme) : ofLexemes true offset false (token.lexemes ++ rest) =
      token.placed offset :: ofLexemes true (offset + Text.width token.text) false rest := by
  cases token with
  | single negated cls =>
    have stands (offset : Nat) := CharClass.standsFor_lexeme disregards negated offset
    have width : cls.lexeme.width = Text.width cls.text := congrArg Text.width cls.text_lexeme
    cases negated with
    | false =>
      change ofLexemes true offset false (cls.lexeme :: rest) = _
      rw [ofLexemes_standsFor (stands offset), width]
      rfl
    | true =>
      change ofLexemes true (offset + Lexeme.caret.width) true (cls.lexeme :: rest) = _
      rw [ofLexemes_standsFor (stands _), width, Nat.add_assoc]
      rfl
  | operator op =>
    rcases op with _ | _ | (_ | _ | _)
    · exact absurd rfl separate
    all_goals rfl
  | opening | closing => rfl

theorem ofLexemes_flatMap_lexemes {tokens : List Token} (separate : .operator .concat ∉ tokens)
    (disregard : ∀ token ∈ tokens, token.DisregardsCase) (offset : Nat) :
    ofLexemes true offset false (tokens.flatMap lexemes) = tokens.mapIdx fun index token =>
      token.placed (offset + Text.width ((tokens.take index).flatMap text)) := by
  induction tokens generalizing offset with
  | nil => rfl
  | cons token rest ih =>
    obtain ⟨here, separate⟩ := not_or.mp (mt List.mem_cons.mpr separate)
    obtain ⟨disregards, disregard⟩ := List.forall_mem_cons.mp disregard
    rw [List.flatMap_cons, ofLexemes_lexemes (Ne.symm here) disregards, ih separate disregard, List.mapIdx_cons]
    simp only [List.take_zero, List.flatMap_nil, Text.width, Nat.add_zero, List.take_succ_cons, List.flatMap_cons,
      Text.width_append, Nat.add_assoc]

/-- The token without what printing loses. -/
def bare : Token → Token
  | .single negated (.literal char _) => .single negated (.literal char true)
  | .single negated (.set members _) => .single negated (.set members true)
  | .opening _ => .opening 0
  | .closing _ => .closing 0
  | token => token

theorem opensOperand_bare (token : Token) : token.bare.opensOperand = token.opensOperand := by
  rcases token with ⟨_, _ | _ | _ | _ | _ | _⟩ | _ | _ | _ <;> rfl

theorem closesOperand_bare (token : Token) : token.bare.closesOperand = token.closesOperand := by
  rcases token with ⟨_, _ | _ | _ | _ | _ | _⟩ | _ | _ | _ <;> rfl

theorem text_bare (token : Token) : token.bare.text = token.text := by
  rcases token with ⟨_, _ | _ | _ | _ | _ | _⟩ | _ | _ | _ <;> rfl

theorem bare_placed_bare (offset : Nat) (token : Token) : (token.bare.placed offset).bare = token.bare := by
  rcases token with ⟨_, _ | _ | _ | _ | _ | _⟩ | _ | _ | _ <;> rfl

theorem bare_disregardsCase (token : Token) : token.bare.DisregardsCase := by
  rcases token with ⟨_, _ | _ | _ | _ | _ | _⟩ | _ | _ | _ <;> trivial

theorem Printable.bare {token : Token} (printable : token.Printable) : token.bare.Printable := by
  rcases token with ⟨_, _ | _ | _ | _ | _ | _⟩ | _ | _ | _ <;> exact printable

theorem eq_operator_of_placed {token : Token} {offset : Nat} {op : Operator}
    (same : token.placed offset = .operator op) : token = .operator op := by
  cases token with
  | operator => exact same
  | single | opening | closing => cases same

theorem eq_operator_of_bare {token : Token} {op : Operator} (same : token.bare = .operator op) :
    token = .operator op := by
  cases token with
  | operator => exact same
  | single negated cls => cases cls <;> cases same
  | opening | closing => cases same

theorem render_map_bare (tokens : List Token) : render (tokens.map bare) = render tokens := by
  simp only [render, List.flatMap_map, text_bare]

theorem join_map_bare (tokens : List Token) : join (tokens.map bare) = (join tokens).map bare :=
  join_map opensOperand_bare closesOperand_bare rfl tokens

theorem map_bare_mapIdx_placed (tokens : List Token) (offset : Nat → Nat) :
    ((tokens.map bare).mapIdx fun index token => token.placed (offset index)).map bare = tokens.map bare := by
  apply List.ext_getElem?
  intro index
  simp [List.getElem?_mapIdx, Function.comp_def, bare_placed_bare]

theorem separate_placed {tokens : List Token} (separate : .operator .concat ∉ tokens) (offset : Nat → Nat) :
    .operator .concat ∉ tokens.mapIdx fun index token => token.placed (offset index) := by
  intro member
  obtain ⟨index, inside, same⟩ := List.mem_mapIdx.mp member
  exact separate (eq_operator_of_placed same ▸ List.getElem_mem inside)

theorem separate_bare {tokens : List Token} (separate : .operator .concat ∉ tokens) :
    .operator .concat ∉ tokens.map bare := by
  intro member
  obtain ⟨token, present, same⟩ := List.mem_map.mp member
  exact separate (eq_operator_of_bare same ▸ present)

/-- Every token stands for one of the lexemes that the tokens were made of. -/
theorem standsFor_of_mem {anyCase negated : Bool} {offset : Nat} {lexemes : List Lexeme} {token : Token}
    (member : token ∈ ofLexemes anyCase offset negated lexemes) :
    ∃ lexeme ∈ lexemes, ∃ negated offset, Lexeme.StandsFor anyCase negated offset lexeme token := by
  induction lexemes generalizing offset negated with
  | nil => exact absurd member List.not_mem_nil
  | cons lexeme rest ih =>
    rw [ofLexemes] at member
    split at member
    next =>
      obtain ⟨lexeme, present, stands⟩ := ih member
      exact ⟨lexeme, List.mem_cons_of_mem _ present, stands⟩
    next stands =>
      rcases List.mem_cons.mp member with rfl | member
      · exact ⟨lexeme, List.mem_cons_self, _, _, Lexeme.standsFor_of_token? stands⟩
      · obtain ⟨lexeme, present, stands⟩ := ih member
        exact ⟨lexeme, List.mem_cons_of_mem _ present, stands⟩

theorem printable_of_ofLexemes {lexemes : List Lexeme} (wellFormed : ∀ lexeme ∈ lexemes, lexeme.WellFormed)
    (anyCase : Bool) (offset : Nat) (negated : Bool) :
    ∀ token ∈ ofLexemes anyCase offset negated lexemes, token.Printable := by
  intro token member
  obtain ⟨lexeme, present, _, _, stands⟩ := standsFor_of_mem member
  cases stands with
  | bracket => exact wellFormed _ present
  | digit | letter | space | escaped | any | operator | opening | closing | literal => trivial

end Token

namespace Pattern

theorem tokens_of_render {tokens : List Token} (separate : .operator .concat ∉ tokens)
    (disregard : ∀ token ∈ tokens, token.DisregardsCase) (printable : ∀ token ∈ tokens, token.Printable) :
    Pattern.tokens ("(?i)" ++ Token.render tokens) = .ok (Token.join (tokens.mapIdx fun index token =>
      token.placed (4 + (Token.render (tokens.take index)).utf8ByteSize))) := by
  have text : String.toList ("(?i)" ++ Token.render tokens) =
      caseMark ++ (tokens.flatMap Token.lexemes).flatMap Lexeme.text := by
    rw [← Token.toList_render]
    exact String.toList_append
  have wellFormed : ∀ lexeme ∈ tokens.flatMap Token.lexemes, lexeme.WellFormed := by
    intro lexeme member
    obtain ⟨token, present, member⟩ := List.mem_flatMap.mp member
    exact Token.wellFormed_lexemes (printable token present) lexeme member
  rw [tokens_eq ((congrArg _ text).trans (Source.ofText_marked _)), Lexeme.read_flatMap_text wellFormed]
  change Except.ok (Token.join (Token.ofLexemes true (Text.width caseMark) false (tokens.flatMap Token.lexemes))) = _
  rw [Token.ofLexemes_flatMap_lexemes separate disregard]
  simp only [Text.width_eq_utf8ByteSize, Token.render]
  rfl

/-- Reading printed tokens behind the case mark gives the tokens back, joined in the one way there is, and with the
offsets at which their group marks were printed. The tokens of a pattern are given back but for what printing loses. -/
theorem tokens_rendered :
    (∀ tokens : List Token, .operator .concat ∉ tokens → (∀ token ∈ tokens, token.DisregardsCase) →
      (∀ token ∈ tokens, token.Printable) →
      ∃ joined, Pattern.tokens ("(?i)" ++ Token.render tokens) = .ok joined ∧
        ∀ others, Token.Joined (tokens.mapIdx fun index token =>
          token.placed (4 + (Token.render (tokens.take index)).utf8ByteSize)) others ↔ others = joined) ∧
    ∀ (pattern : Pattern) (tokens : List Token), pattern.tokens = .ok tokens →
      ∃ again, Pattern.tokens ("(?i)" ++ Token.render (Token.unjoined tokens)) = .ok again ∧
        again.map Token.bare = tokens.map Token.bare := by
  constructor
  · intro tokens separate disregard printable
    have placed := Token.separate_placed separate fun index => 4 + (Token.render (tokens.take index)).utf8ByteSize
    exact ⟨_, tokens_of_render separate disregard printable, fun _ => Token.joined_iff placed⟩
  · intro pattern tokens scanned
    rw [tokens_eq rfl] at scanned
    obtain ⟨lexemes, read, rfl⟩ := exists_of_map scanned
    generalize (Source.ofText pattern.toList).anyCase = anyCase at *
    generalize (Source.ofText pattern.toList).base = base at *
    have separate := Token.concat_not_mem_ofLexemes anyCase base false lexemes
    have printable := Token.printable_of_ofLexemes (Lexeme.read_eq_ok_iff.mp read).wellFormed anyCase base false
    rw [Token.unjoined_join, Token.unjoined_eq separate]
    generalize Token.ofLexemes anyCase base false lexemes = tokens at separate printable ⊢
    have again := tokens_of_render (Token.separate_bare separate)
      (by simpa using fun token _ => token.bare_disregardsCase)
      (by simpa using fun token member => (printable token member).bare)
    rw [Token.render_map_bare] at again
    refine ⟨_, again, ?_⟩
    rw [← Token.join_map_bare, Token.map_bare_mapIdx_placed, Token.join_map_bare]

/-- A negation mark is printed before an escaped one, and a set has a backslash among its members. Where printing leaves
an escape out, the group behind it is found at another offset. -/
theorem tokens_rendered_escaped :
    (∃ joined, Pattern.tokens ("(?i)" ++ Token.render [.single true (.literal '^' true), .opening 0,
        .single false (.set ['\\', 'd'] true), .closing 0]) = .ok joined ∧
      ∀ others, Token.Joined [.single true (.literal '^' true), .opening 7, .single false (.set ['\\', 'd'] true),
        .closing 12] others ↔ others = joined) ∧
    ∃ tokens again, Pattern.tokens "\\é(d" = .ok tokens ∧
      Pattern.tokens ("(?i)" ++ Token.render (Token.unjoined tokens)) = .ok again ∧
      again.map Token.bare = tokens.map Token.bare := by
  constructor
  · refine tokens_rendered.1 _ (by decide) ?_ ?_
    · simp [Token.DisregardsCase, CharClass.DisregardsCase]
    · simp [Token.Printable, CharClass.Printable]
  · have scanned : Pattern.tokens "\\é(d" = .ok [.single false (.literal 'é' false), .operator .concat, .opening 3,
        .single false (.literal 'd' false)] := rfl
    obtain ⟨again, read, same⟩ := tokens_rendered.2 _ _ scanned
    exact ⟨_, again, scanned, read, same⟩

end Pattern

end PatternNfa
