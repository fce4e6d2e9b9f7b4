import PatternNfa.Proofs.Decomposition
import PatternNfa.Proofs.OperandCount
import PatternNfa.Proofs.Scanning

/-! Where a scanner puts concatenations. At any time one stands between two tokens just where an operand ends and the
next one begins, and that settles how many more operands than binary operators there are. -/

namespace PatternNfa

theorem Operator.ne_concat_of_ofChar? {char : Char} {op : Operator} (found : ofChar? char = some op) :
    op ≠ .concat := by
  have listed := listed_of_ofChar? found
  rintro rfl
  simp [star, plus, optional] at listed

namespace Token

/-- Concatenations stand exactly where the end of an operand would meet the beginning of the next. So there is none at
either end, and none beside another or beside a choice. -/
structure Placed (tokens : List Token) : Prop where
  between : ∀ before after, tokens = before ++ .operator .concat :: after →
    (∃ ended, before.getLast? = some ended ∧ ended.closesOperand = true) ∧
      ∃ begun, after.head? = some begun ∧ begun.opensOperand = true
  apart : ∀ before first second after, tokens = before ++ first :: second :: after →
    first.closesOperand = true → second.opensOperand = false
  begins : tokens.head? ≠ some (.operator .concat)
  ends : tokens.getLast? ≠ some (.operator .concat)
  beside : ∀ before first second after, tokens = before ++ first :: second :: after →
    (first = .operator .concat → second ≠ .operator .concat ∧ second ≠ .operator .alternate) ∧
      (second = .operator .concat → first ≠ .operator .concat ∧ first ≠ .operator .alternate)

/-- Whether the first token calls for an operand behind it, as the mark of a group and a choice do, and none begins
there. -/
def lacksOperand : List Token → Bool
  | .opening _ :: rest | .operator .alternate :: rest => !rest.head?.any opensOperand
  | _ => false

namespace Joined

variable {separate tokens : List Token}

theorem placed (joined : Joined separate tokens) : Placed tokens where
  between := by
    intro before after same
    subst same
    constructor
    · rcases List.eq_nil_or_concat' before with rfl | ⟨_, ended, rfl⟩
      · exact absurd rfl joined.begins
      · have seamed := joined.seamed
        rw [List.append_assoc] at seamed
        exact ⟨ended, by simp, (seamed.right_of_append.rel).1 rfl⟩
    · cases after with
      | nil => exact absurd (by simp) joined.ends
      | cons begun rest => exact ⟨begun, rfl, (joined.seamed.right_of_append.rel).2 rfl⟩
  apart := by
    intro before first second after same
    subst same
    exact joined.apart.right_of_append.rel
  begins := joined.begins
  ends := joined.ends
  beside := by
    intro before first second after same
    subst same
    obtain ⟨closes, opens⟩ := joined.seamed.right_of_append.rel
    constructor
    · intro concat
      have begins := opens concat
      constructor
      all_goals
        rintro rfl
        cases begins
    · intro concat
      have ended := closes concat
      constructor
      all_goals
        rintro rfl
        cases ended

end Joined

section

variable {token : Token} {rest : List Token}

/-- What one token adds to the counts, given what begins behind it. -/
theorem single_add_lacksOperand
    (apart : token.closesOperand = true → rest.head?.any opensOperand = false)
    (seamed : token = .operator .concat → rest.head?.any opensOperand = true) :
    (if token.isSingle then 1 else 0) + (if lacksOperand (token :: rest) then 1 else 0) +
        (rest.head?.any opensOperand).toNat =
      (if token.isBinary then 1 else 0) + token.opensOperand.toNat := by
  cases token with
  | single | closing =>
    rw [apart rfl]
    rfl
  | opening =>
    rw [lacksOperand]
    cases rest.head?.any opensOperand <;> rfl
  | operator op =>
    cases op with
    | concat =>
      rw [seamed rfl]
      rfl
    | alternate =>
      rw [lacksOperand]
      cases rest.head?.any opensOperand <;> rfl
    | quantified =>
      rw [apart rfl]
      rfl

/-- Every operand but the first begins behind a concatenation, a choice or a mark, and behind each concatenation there
is one that does. -/
theorem countP_isSingle_add {tokens : List Token} (apart : tokens.IsChain Apart) (seamed : tokens.IsChain Seamed)
    (ends : tokens.getLast? ≠ some (.operator .concat)) :
    tokens.countP isSingle + tokens.tails.countP lacksOperand =
      tokens.countP isBinary + (tokens.head?.any opensOperand).toNat := by
  induction tokens with
  | nil => rfl
  | cons token rest ih =>
    have here : (if token.isSingle then 1 else 0) + (if lacksOperand (token :: rest) then 1 else 0) +
        (rest.head?.any opensOperand).toNat = (if token.isBinary then 1 else 0) + token.opensOperand.toNat := by
      cases rest with
      | nil =>
        refine single_add_lacksOperand (fun _ => rfl) fun same => ?_
        exact absurd (congrArg some same) ends
      | cons next rest => exact single_add_lacksOperand apart.rel fun same => seamed.rel.2 same
    have later : rest.getLast? ≠ some (.operator .concat) := by
      cases rest with
      | nil => exact nofun
      | cons => rwa [List.getLast?_cons_cons] at ends
    have counts := ih apart.tail seamed.tail later
    simp only [List.tails_cons, List.countP_cons, List.head?_cons, Option.any_some]
    omega

end

end Token

namespace Scanner

/-- The tokens put out so far are joined. -/
def Tidy (scanner : Scanner) : Prop :=
  ∃ separate, .operator .concat ∉ separate ∧ scanner.tokens.toList = Token.join separate

theorem start_tidy : start.Tidy := ⟨[], List.not_mem_nil, rfl⟩

theorem tokens_of_finish {scanner : Scanner} {tokens : List Token} (finished : scanner.finish = .ok tokens) :
    scanner.tokens.toList = tokens := by
  unfold finish at finished
  split at finished
  next => cases finished
  next => cases finished
  next => exact Except.ok.inj finished

namespace Tidy

variable {scanner : Scanner}

theorem push (tidy : scanner.Tidy) {token : Token} (other : token ≠ .operator .concat)
    (opens : token.opensOperand = false) : (scanner.push token).Tidy := by
  obtain ⟨separate, single, joins⟩ := tidy
  refine ⟨separate ++ [token], ?_, push_joins joins opens⟩
  simpa using ⟨single, other.symm⟩

theorem pushOperand (tidy : scanner.Tidy) {token : Token} (opens : token.opensOperand = true) :
    (scanner.pushOperand token).Tidy := by
  obtain ⟨separate, single, joins⟩ := tidy
  refine ⟨separate ++ [token], ?_, addJoined_joins joins opens⟩
  have other : token ≠ .operator .concat := by
    rintro rfl
    cases opens
  simpa using ⟨single, other.symm⟩

theorem step (tidy : scanner.Tidy) (anyCase : Bool) (offset : Nat) (c : Char) :
    (scanner.step anyCase offset c).Tidy := by
  unfold Scanner.step
  split
  next =>
    split
    next => exact tidy.pushOperand rfl
    next => exact tidy
  next => exact tidy.pushOperand rfl
  next =>
    split
    next => exact tidy
    next => exact tidy
    next => exact tidy
    next => exact tidy.pushOperand rfl
    next => exact tidy.push nofun rfl
    next => exact tidy.pushOperand rfl
    next =>
      split
      next op found =>
        apply tidy.push
        · intro same
          exact Operator.ne_concat_of_ofChar? found (Token.operator.inj same)
        · rfl
      next => exact tidy.pushOperand rfl

theorem steps (tidy : scanner.Tidy) (anyCase : Bool) (offset : Nat) (text : List Char) :
    (scanner.steps anyCase offset text).Tidy := by
  induction text generalizing scanner offset with
  | nil => exact tidy
  | cons c rest ih => exact ih (tidy.step anyCase offset c) _

theorem joined (tidy : scanner.Tidy) : ∃ separate, Token.Joined separate scanner.tokens.toList := by
  obtain ⟨separate, single, joins⟩ := tidy
  rw [joins]
  exact ⟨separate, Token.join_joined single⟩

end Tidy

theorem afterBody_joined (source : Source) (read : List Char) :
    ∃ separate, Token.Joined separate (afterBody source read).tokens.toList :=
  (start_tidy.steps source.anyCase source.base read).joined

end Scanner

namespace Pattern

/-- Whether a pattern is read by characters or by lexemes, the same tokens come out. However many characters have been
read, a concatenation stands just where an operand begins right behind the end of another. When all have been read,
there is one operand more than there are binary operators if the first token begins one, less one for every mark and
every choice behind which none begins. -/
theorem concat_placed (pattern : Pattern) :
    let source := Source.ofText pattern.toList
    Scanner.scan pattern = pattern.tokens ∧
    (∀ read, read <+: source.body → Token.Placed (Scanner.afterBody source read).tokens.toList) ∧
    ∀ tokens, pattern.tokens = .ok tokens → Token.Placed tokens ∧
      (tokens.countP Token.isSingle : Int) - tokens.countP Token.isBinary =
        (if tokens.head?.any Token.opensOperand then 1 else 0) - tokens.tails.countP Token.lacksOperand ∧
      (tokens.countP Token.isSingle : Int) - tokens.countP Token.isBinary ≤ 1 := by
  intro source
  refine ⟨Scanner.scan_eq pattern, ?_, ?_⟩
  · intro read _
    obtain ⟨separate, joined⟩ := Scanner.afterBody_joined source read
    exact joined.placed
  · intro tokens scanned
    rw [← Scanner.scan_eq] at scanned
    obtain ⟨separate, joined⟩ := Scanner.afterBody_joined source source.body
    rw [Scanner.tokens_of_finish scanned] at joined
    have counts := Token.countP_isSingle_add joined.apart joined.seamed joined.ends
    refine ⟨joined.placed, ?_⟩
    cases begins : tokens.head?.any Token.opensOperand with
    | false =>
      rw [begins, Bool.toNat_false] at counts
      simp only [Bool.false_eq_true, if_false]
      omega
    | true =>
      rw [begins, Bool.toNat_true] at counts
      simp only [if_true]
      omega

/-- Two choices have no operand behind them, one of them in a group. The bracket has a backslash for a member. -/
theorem concat_placed_misplaced : ∃ tokens, Pattern.tokens "(|a^[\\](\\s)*|" = .ok tokens ∧
    tokens.map Token.text = [['('], ['|'], ['a'], ['.'], ['^', '[', '\\', ']'], ['.'], ['('], ['\\', 's'], [')'], ['*'],
      ['|']] ∧
    Token.Placed tokens ∧ (tokens.countP Token.isSingle : Int) - tokens.countP Token.isBinary = -1 := by
  have scanned : Pattern.tokens "(|a^[\\](\\s)*|" = .ok [.opening 0, .operator .alternate,
      .single false (.literal 'a' false), .operator .concat, .single true (.set ['\\'] false), .operator .concat,
      .opening 7, .single false .space, .closing 10, .operator .star, .operator .alternate] := rfl
  obtain ⟨placed, counts, _⟩ := (concat_placed "(|a^[\\](\\s)*|").2.2 _ scanned
  exact ⟨_, scanned, rfl, placed, counts⟩

end Pattern

end PatternNfa
