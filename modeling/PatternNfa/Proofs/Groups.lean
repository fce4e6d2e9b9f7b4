import PatternNfa.Proofs.AlikeTokens
import PatternNfa.Proofs.Yard

/-! Groups. A pattern in parentheses is read, joined and ordered as it is by itself. Only a negation mark that is left
waiting at its end gets out. -/

namespace PatternNfa

namespace Lexeme

/-- A text whose lexemes are the same wherever it begins. -/
def Reads (text : List Char) (lexemes : List Lexeme) : Prop := ∀ offset, read offset text = .ok lexemes

namespace Reads

theorem of_start {text : List Char} {lexemes : List Lexeme} (done : read 0 text = .ok lexemes) :
    Reads text lexemes := by
  intro offset
  obtain ⟨_, moved, rfl⟩ := (read_moved offset 0 text).of_ok done
  rwa [Nat.zero_add] at moved

theorem plain {char : Char} (escape : char ≠ '\\') (bracket : char ≠ '[') (caret : char ≠ '^') :
    Reads [char] [.plain char] := by
  intro offset
  rw [read_plain escape bracket caret, read]
  rfl

theorem append {text rest : List Char} {lexemes later : List Lexeme} (first : Reads text lexemes)
    (second : Reads rest later) : Reads (text ++ rest) (lexemes ++ later) := by
  intro offset
  rw [read_append offset text rest (first offset), second]
  rfl

end Reads

def group (lexemes : List Lexeme) : List Lexeme := .plain '(' :: lexemes ++ [.plain ')']

theorem Reads.group {text : List Char} {lexemes : List Lexeme} (inside : Reads text lexemes) :
    Reads ('(' :: text ++ [')']) (group lexemes) :=
  ((Reads.plain (by decide) (by decide) (by decide) : Reads ['('] [.plain '(']).append inside).append
    (Reads.plain (by decide) (by decide) (by decide))

/-- Whether the lexeme stands for a token that matches a character. -/
def isSingle : Lexeme → Bool
  | .caret => false
  | .escaped _ | .bracket _ => true
  | .plain char => char != '(' && char != ')' && (Operator.ofChar? char).isNone

/-- Whether a negation mark waits for its token after the lexemes, given whether one waits before them. -/
def pending (negated : Bool) : List Lexeme → Bool
  | [] => negated
  | .caret :: rest => pending true rest
  | lexeme :: rest => pending (negated && !lexeme.isSingle) rest

/-- Every negation mark has some token to negate. -/
def Settled (lexemes : List Lexeme) : Prop :=
  ∀ rest, .caret :: rest <:+ lexemes → ∃ lexeme ∈ rest, lexeme.isSingle = true

instance (lexemes : List Lexeme) : Decidable (Settled lexemes) :=
  decidable_of_iff (∀ rest ∈ lexemes.tails, rest.head? = some .caret → ∃ lexeme ∈ rest.tail, lexeme.isSingle = true)
    ⟨fun all rest within => all (.caret :: rest) ((List.mem_tails _ _).mpr within) rfl, by
      intro settled rest within first
      cases rest with
      | nil => cases first
      | cons lexeme rest =>
        cases first
        exact settled rest ((List.mem_tails _ _).mp within)⟩

theorem waiting_of_pending {negated : Bool} {lexemes : List Lexeme} (waits : pending negated lexemes = true) :
    (negated = true ∧ ∀ lexeme ∈ lexemes, lexeme.isSingle = false) ∨
      ∃ rest, .caret :: rest <:+ lexemes ∧ ∀ lexeme ∈ rest, lexeme.isSingle = false := by
  induction lexemes generalizing negated with
  | nil => exact Or.inl ⟨waits, by simp⟩
  | cons lexeme rest ih =>
    by_cases mark : lexeme = .caret
    · subst mark
      rcases ih waits with ⟨_, none⟩ | ⟨after, within, none⟩
      · exact Or.inr ⟨rest, List.suffix_rfl, none⟩
      · exact Or.inr ⟨after, within.trans (List.suffix_cons _ _), none⟩
    · rw [pending] at waits
      · rcases ih waits with ⟨still, none⟩ | ⟨after, within, none⟩
        · simp only [Bool.and_eq_true, Bool.not_eq_true'] at still
          exact Or.inl ⟨still.1, by simpa using ⟨still.2, none⟩⟩
        · exact Or.inr ⟨after, within.trans (List.suffix_cons _ _), none⟩
      · exact mark

theorem Settled.pending {lexemes : List Lexeme} (settled : Settled lexemes) : pending false lexemes = false := by
  apply Bool.eq_false_iff.mpr
  intro waits
  rcases waiting_of_pending waits with ⟨never, _⟩ | ⟨rest, within, none⟩
  · cases never
  · obtain ⟨lexeme, member, single⟩ := settled rest within
    cases single.symm.trans (none lexeme member)

theorem isSingle_of_token? {anyCase negated : Bool} {offset : Nat} {lexeme : Lexeme} {token : Token}
    (stands : lexeme.token? anyCase negated offset = some token) : token.isSingle = lexeme.isSingle := by
  cases lexeme with
  | caret => cases stands
  | escaped | bracket =>
    cases stands
    rfl
  | plain char =>
    cases stands
    unfold Token.ofPlain
    split
    next => rfl
    next => rfl
    next => rfl
    next opening closing any =>
      simp only [isSingle, bne_iff_ne.mpr opening, bne_iff_ne.mpr closing, Bool.true_and]
      split
      next op found => simp [found, Token.isSingle]
      next found => simp [found, Token.isSingle]

end Lexeme

namespace Token

/-- The tokens of the second part are those of a text that begins where the first part ends, and at whose start a
negation mark waits if one is left over from the first part. -/
theorem ofLexemes_append (anyCase : Bool) (offset : Nat) (negated : Bool) (first second : List Lexeme) :
    ofLexemes anyCase offset negated (first ++ second) = ofLexemes anyCase offset negated first ++
      ofLexemes anyCase (offset + Text.width (first.flatMap Lexeme.text)) (Lexeme.pending negated first) second := by
  induction first generalizing offset negated with
  | nil => rfl
  | cons lexeme rest ih =>
    rw [List.flatMap_cons, ← Lexeme.add_width]
    cases stands : lexeme.token? anyCase negated offset with
    | none =>
      cases lexeme with
      | caret => exact ih _ true
      | escaped | bracket | plain => cases stands
    | some token =>
      have pending : Lexeme.pending negated (lexeme :: rest) = Lexeme.pending (negated && !token.isSingle) rest := by
        rw [Lexeme.isSingle_of_token? stands]
        cases lexeme with
        | caret => cases stands
        | escaped | bracket | plain => rfl
      simp only [List.cons_append, ofLexemes, stands, ih, pending]

theorem ofLexemes_group (anyCase : Bool) (offset : Nat) (negated : Bool) (inside rest : List Lexeme) :
    ∃ start stop later, ofLexemes anyCase offset negated (Lexeme.group inside ++ rest) =
      .opening offset :: ofLexemes anyCase start negated inside ++
        .closing stop :: ofLexemes anyCase later (Lexeme.pending negated inside) rest := by
  let start := offset + (Lexeme.plain '(').width
  let stop := start + Text.width (inside.flatMap Lexeme.text)
  refine ⟨start, stop, stop + (Lexeme.plain ')').width, ?_⟩
  have begun : ofLexemes anyCase offset negated (Lexeme.group inside ++ rest) =
      .opening offset :: ofLexemes anyCase start (negated && true) (inside ++ .plain ')' :: rest) := by
    rw [Lexeme.group, List.append_assoc]
    rfl
  rw [begun, Bool.and_true, ofLexemes_append, ← Bool.and_true (Lexeme.pending negated inside)]
  simp only [stop, ofLexemes, Lexeme.token?, ofPlain, isSingle, Bool.not_false, Bool.and_true, List.cons_append]

theorem any_isSingle_ofLexemes (anyCase : Bool) (offset : Nat) (negated : Bool) (lexemes : List Lexeme) :
    (ofLexemes anyCase offset negated lexemes).any isSingle = lexemes.any Lexeme.isSingle := by
  induction lexemes generalizing offset negated with
  | nil => rfl
  | cons lexeme rest ih =>
    cases stands : lexeme.token? anyCase negated offset with
    | none =>
      cases lexeme with
      | caret => exact ih _ true
      | escaped | bracket | plain => cases stands
    | some token => simp only [ofLexemes, stands, List.any_cons, ih, Lexeme.isSingle_of_token? stands]

theorem any_isSingle_join (tokens : List Token) : (join tokens).any isSingle = tokens.any isSingle := by
  induction tokens using join.induct with
  | case1 first second rest seam ih => simp [join, seam, ih, isSingle]
  | case2 first second rest seam ih => simp [join, seam, ih]
  | case3 => simp [join]

theorem join_cons_of_opens {first : Token} (opens : first.closesOperand = false) (rest : List Token) :
    join (first :: rest) = first :: join rest := by
  cases rest with
  | nil => rfl
  | cons second rest => simp [join, opens]

theorem join_append_of_closes {second : Token} (closes : second.opensOperand = false) (before rest : List Token) :
    join (before ++ second :: rest) = join before ++ join (second :: rest) := by
  induction before with
  | nil => rfl
  | cons first before ih =>
    cases before with
    | nil => simp [join, closes]
    | cons next before =>
      simp only [List.cons_append, join] at ih ⊢
      rw [ih]
      split <;> rfl

theorem join_group (start stop : Nat) (inside rest : List Token) :
    join (.opening start :: inside ++ .closing stop :: rest) =
      .opening start :: join inside ++ join (.closing stop :: rest) := by
  rw [List.cons_append, join_cons_of_opens rfl, join_append_of_closes rfl]
  rfl

end Token

namespace Held

theorem release_above (yields : Operator → Bool) (held below : List Held) (start : Nat) :
    release yields (held ++ .opening start :: below) =
      ((release yields held).1, (release yields held).2 ++ .opening start :: below) := by
  induction held with
  | nil => rfl
  | cons top held ih =>
    cases top with
    | opening => rfl
    | operator op =>
      simp only [List.cons_append, release, ih]
      split <;> rfl

end Held

namespace Yard

/-- The yard while a group is open that began at `start`. -/
def within (start : Nat) (yard : Yard) : Yard := ⟨yard.output, yard.held ++ [.opening start]⟩

theorem step_within (start : Nat) {yard next : Yard} {token : Token} (stepped : yard.step token = .ok next) :
    (yard.within start).step token = .ok (next.within start) := by
  cases token with
  | single | opening =>
    cases stepped
    rfl
  | operator op =>
    cases stepped
    simp only [step, within, Held.release_above]
    rfl
  | closing stop =>
    obtain ⟨released, outer, below, found, rfl⟩ := of_step_closing stepped
    simp only [step, within, Held.release_above, found]
    rfl

theorem steps_within (start : Nat) {tokens : List Token} {yard last : Yard}
    (steps : tokens.foldlM step yard = .ok last) :
    tokens.foldlM step (yard.within start) = .ok (last.within start) := by
  induction tokens generalizing yard with
  | nil =>
    cases steps
    rfl
  | cons token rest ih =>
    obtain ⟨next, stepped, steps⟩ := of_steps_cons steps
    rw [steps_cons (step_within start stepped)]
    exact ih steps

end Yard

/-- A group has the order of its inside. -/
theorem Token.reversePolish_group (start stop : Nat) {inside ordered : List Token}
    (ended : reversePolish inside = .ok ordered) :
    reversePolish (.opening start :: inside ++ [.closing stop]) = .ok ordered := by
  obtain ⟨last, steps, finished⟩ := steps_of_reversePolish ended
  obtain ⟨released, bottom, same⟩ := Yard.finish_ok finished
  have opened : Yard.step .empty (.opening start) = .ok (Yard.empty.within start) := rfl
  have closed : (last.within start).step (.closing stop) = .ok ⟨last.emit released, []⟩ := by
    simp only [Yard.step, Yard.within, Held.release_above, bottom]
    rfl
  rw [reversePolish, List.cons_append, Yard.steps_cons opened, Yard.steps_append (Yard.steps_within start steps),
    Yard.steps_cons closed]
  exact congrArg Except.ok same

end PatternNfa
