import Mathlib.Algebra.Group.Nat.Defs
import PatternNfa.Nfa.Stepwise
import PatternNfa.Proofs.LexicalFaults
import PatternNfa.Proofs.PatternLanguage

/-! How many states an automaton has. Every token adds a number of its own, at most two, and concatenations add none.
So the states are at most twice as many as the characters of the pattern, however its tokens are put in order, and the
room set aside for them is never exceeded. -/

namespace PatternNfa

namespace Token

/-- The number of states that a token adds. -/
def growth : Token → Nat
  | .single .. | .operator .alternate | .operator (.quantified .star) | .operator (.quantified .plus) => 2
  | .operator (.quantified .optional) => 1
  | .operator .concat | .opening _ | .closing _ => 0

def growths : List Token → Nat
  | [] => 0
  | token :: rest => token.growth + growths rest

theorem growths_perm {tokens others : List Token} (perm : tokens.Perm others) : growths tokens = growths others := by
  induction perm with
  | nil => rfl
  | cons token _ ih => rw [growths, growths, ih]
  | swap first second rest =>
    simp only [growths]
    omega
  | trans _ _ left right => exact left.trans right

theorem growth_le (token : Token) : token.growth ≤ 2 := by
  unfold growth
  split <;> decide

theorem growths_le (tokens : List Token) : growths tokens ≤ 2 * tokens.length := by
  induction tokens with
  | nil => exact Nat.le_refl 0
  | cons token rest ih =>
    have here := token.growth_le
    simp only [growths, List.length_cons]
    omega

theorem growths_prefix_le {before tokens : List Token} (within : before <+: tokens) :
    growths before ≤ growths tokens := by
  induction before generalizing tokens with
  | nil => exact Nat.zero_le _
  | cons token before ih =>
    obtain ⟨after, rfl⟩ := within
    exact Nat.add_le_add_left (ih (List.prefix_append before after)) _

/-- What adds no state can be left out. -/
theorem growths_filter {kept : Token → Bool} (none : ∀ token, kept token = false → token.growth = 0)
    (tokens : List Token) : growths (tokens.filter kept) = growths tokens := by
  induction tokens with
  | nil => rfl
  | cons token rest ih =>
    cases keeps : kept token with
    | true => simp [growths, keeps, ih]
    | false => simp [growths, keeps, ih, none token keeps]

theorem growths_unjoined (tokens : List Token) : growths (unjoined tokens) = growths tokens := by
  apply growths_filter
  intro token concat
  obtain rfl : token = .operator .concat := by simpa using concat
  rfl

theorem growths_of_reversePolish {tokens ordered : List Token} (ended : reversePolish tokens = .ok ordered) :
    growths ordered = growths tokens := by
  have whole := perm_of_reversePolish ended
  calc
    growths ordered = growths (tokens.filter fun token => !token.isGroupMark) := growths_perm whole
    _ = growths tokens := growths_filter (fun token mark => by cases token <;> simp_all [isGroupMark, growth]) tokens

/-- The kinds of tokens that add states. -/
theorem growths_eq (tokens : List Token) : growths tokens = 2 * tokens.countP isSingle +
    2 * (tokens.count (.operator .alternate) + tokens.count (.operator .star) + tokens.count (.operator .plus)) +
    tokens.count (.operator .optional) := by
  induction tokens with
  | nil => rfl
  | cons token rest ih =>
    rw [growths, ih]
    rcases token with _ | (_ | _ | _ | _ | _) | _ | _ <;>
      simp [growth, isSingle, List.countP_cons, Operator.star, Operator.plus, Operator.optional] <;> omega

theorem length_join_le (tokens : List Token) : (join tokens).length ≤ 2 * tokens.length := by
  fun_induction join tokens with
  | case1 first second rest both ih => simp only [List.length_cons] at ih ⊢; omega
  | case2 first second rest either ih => simp only [List.length_cons] at ih ⊢; omega
  | case3 tokens short => omega

end Token

namespace Construction

theorem step_size {construction next : Construction} {token : Token} (stepped : construction.step token = .ok next) :
    next.states.size = construction.states.size + token.growth := by
  obtain ⟨states, fragments⟩ := construction
  cases token with
  | single negated cls =>
    cases stepped
    simp [single, Token.growth]
  | opening | closing => cases stepped
  | operator op =>
    cases op with
    | concat =>
      rcases fragments with _ | ⟨second, _ | ⟨first, rest⟩⟩ <;> cases stepped
      simp [concat, Token.growth]
    | alternate =>
      rcases fragments with _ | ⟨second, _ | ⟨first, rest⟩⟩ <;> cases stepped
      simp [alternate, Token.growth]
    | quantified quantifier =>
      cases fragments with
      | nil => cases stepped
      | cons inner rest =>
        cases stepped
        cases quantifier <;> simp [quantify, Token.growth]

theorem steps_size {tokens : List Token} {construction last : Construction}
    (steps : tokens.foldlM step construction = .ok last) :
    last.states.size = construction.states.size + Token.growths tokens := by
  induction tokens generalizing construction with
  | nil =>
    cases steps
    rfl
  | cons token rest ih =>
    rw [List.foldlM_cons] at steps
    obtain ⟨next, stepped, steps⟩ := exists_of_bind steps
    rw [ih steps, step_size stepped, Token.growths, Nat.add_assoc]

/-- Whatever the tokens are, the room that is set aside for their states is enough at any time. -/
theorem steps_room {tokens before : List Token} {reached : Construction} (within : before <+: tokens)
    (steps : before.foldlM step ⟨#[], []⟩ = .ok reached) : reached.states.size ≤ Token.growths tokens := by
  rw [steps_size steps]
  simpa using Token.growths_prefix_le within

end Construction

theorem Nfa.stateCount_eq {tokens : List Token} {nfa : Nfa} (built : Nfa.ofTokens tokens = .ok nfa) :
    nfa.stateCount = if tokens = [] then 1 else Token.growths tokens := by
  by_cases empty : tokens = []
  · subst tokens
    cases built
    rfl
  · rw [if_neg empty]
    simpa [stateCount] using Construction.steps_size (steps_of_ofTokens built empty)

theorem Text.length_le_width (text : List Char) : text.length ≤ Text.width text := by
  induction text with
  | nil => exact Nat.le_refl 0
  | cons char rest ih =>
    have positive := char.utf8Size_pos
    rw [List.length_cons, width]
    omega

theorem Lexeme.length_le (lexemes : List Lexeme) : lexemes.length ≤ (lexemes.flatMap Lexeme.text).length := by
  induction lexemes with
  | nil => exact Nat.le_refl 0
  | cons lexeme rest ih =>
    have positive := List.length_pos_iff.mpr lexeme.text_ne_nil
    rw [List.length_cons, List.flatMap_cons, List.length_append]
    omega

/-- A name of 32 bits is the position if the position fits. -/
theorem Stepwise.shortName_eq {position : Nat} (fits : position < 2 ^ 32) : shortName position = position := by
  rw [shortName, StateId.word, Nat.toUInt32, UInt32.toNat_ofNat', Nat.mod_eq_of_lt fits]

namespace Pattern

variable {pattern : Pattern}

/-- Apart from concatenations, there is at most one token for each character. -/
theorem tokens_joined {tokens : List Token} (scanned : pattern.tokens = .ok tokens) :
    ∃ separate, tokens = Token.join separate ∧ .operator .concat ∉ separate ∧
      separate.length ≤ (Source.ofText pattern.toList).body.length := by
  rw [tokens_eq rfl] at scanned
  obtain ⟨lexemes, read, rfl⟩ := exists_of_map scanned
  refine ⟨_, rfl, Token.concat_not_mem_ofLexemes _ _ _ _, ?_⟩
  rw [Token.length_ofLexemes, ← Lexeme.flatMap_text_of_read _ _ read]
  exact Nat.le_trans List.countP_le_length (Lexeme.length_le lexemes)

theorem length_tokens_le {tokens : List Token} (scanned : pattern.tokens = .ok tokens) :
    tokens.length ≤ 2 * (Source.ofText pattern.toList).body.length := by
  obtain ⟨separate, rfl, _, short⟩ := tokens_joined scanned
  exact Nat.le_trans (Token.length_join_le separate) (Nat.mul_le_mul_left 2 short)

theorem growths_ordered_le {reading : Reading} (done : pattern.read = .ok reading) :
    Token.growths reading.ordered ≤ 2 * (Source.ofText pattern.toList).body.length := by
  obtain ⟨scanned, ended⟩ := read_stages done
  obtain ⟨separate, joined, alone, short⟩ := tokens_joined scanned
  calc
    Token.growths reading.ordered = Token.growths reading.tokens := Token.growths_of_reversePolish ended
    _ = Token.growths separate := by rw [joined, ← Token.growths_unjoined, Token.unjoined_join, Token.unjoined_eq alone]
    _ ≤ 2 * separate.length := Token.growths_le separate
    _ ≤ _ := Nat.mul_le_mul_left 2 short

theorem stateCount_le {nfa : Nfa} (compiled : pattern.compile = .ok nfa) :
    nfa.stateCount ≤ max 1 (2 * (Source.ofText pattern.toList).body.length) := by
  obtain ⟨reading, done, built⟩ := exists_of_bind compiled
  rw [Nfa.stateCount_eq built]
  split
  next => exact Nat.le_max_left ..
  next => exact Nat.le_trans (growths_ordered_le done) (Nat.le_max_right ..)

/-- While a short pattern is built, the names of 32 bits never run out. -/
theorem steps_faithful (short : (Source.ofText pattern.toList).body.length < 2 ^ 31) {reading : Reading}
    (done : pattern.read = .ok reading) {before : List Token} {reached : Construction}
    (within : before <+: reading.ordered) (steps : before.foldlM Construction.step ⟨#[], []⟩ = .ok reached) :
    Stepwise.Faithful Stepwise.shortName reached := by
  intro ahead near
  have room := Construction.steps_room within steps
  have bound := growths_ordered_le done
  exact Stepwise.shortName_eq (by omega)

/-- Two states for each token that matches a character, chooses or repeats, and one for each optional part. A pattern is
compiled into at most two for each of its characters behind the case mark, and neither its tokens nor its states outgrow
the room set aside for them. While there are fewer than 2 ^ 31 characters, all states go by their positions. -/
theorem compile_size (pattern : Pattern) :
    let body := (Source.ofText pattern.toList).body
    (∀ tokens nfa, Nfa.ofTokens tokens = .ok nfa → nfa.stateCount = if tokens = [] then 1 else
      2 * tokens.countP Token.isSingle +
      2 * (tokens.count (.operator .alternate) + tokens.count (.operator .star) + tokens.count (.operator .plus)) +
      tokens.count (.operator .optional)) ∧
    (∀ nfa, pattern.compile = .ok nfa → nfa.stateCount ≤ max 1 (2 * body.length)) ∧
    (∀ tokens before reached, before <+: tokens → before.foldlM Construction.step ⟨#[], []⟩ = .ok reached →
      reached.states.size ≤ 2 * tokens.length) ∧
    (∀ tokens, pattern.tokens = .ok tokens → tokens.length ≤ 2 * Text.width body) ∧
    (body.length < 2 ^ 31 →
      (∀ reading, pattern.read = .ok reading →
        (∀ before reached, before <+: reading.ordered → before.foldlM Construction.step ⟨#[], []⟩ = .ok reached →
          Stepwise.Faithful Stepwise.shortName reached) ∧
        Stepwise.ofTokens Stepwise.shortName reading.ordered = (Nfa.ofTokens reading.ordered).mapError .reported) ∧
      ∀ nfa, pattern.compile = .ok nfa → ∀ id : StateId, id < nfa.stateCount → id.word.toNat = id) := by
  intro body
  refine ⟨?_, fun _ => stateCount_le, ?_, ?_, ?_⟩
  · intro tokens nfa built
    rw [Nfa.stateCount_eq built, Token.growths_eq]
  · intro tokens before reached within steps
    exact Nat.le_trans (Construction.steps_room within steps) (Token.growths_le tokens)
  · intro tokens scanned
    exact Nat.le_trans (length_tokens_le scanned) (Nat.mul_le_mul_left 2 (Text.length_le_width body))
  · intro short
    constructor
    · intro reading done
      have faithful := fun before reached => @steps_faithful pattern short reading done before reached
      exact ⟨faithful, Stepwise.ofTokens_eq faithful⟩
    · intro nfa compiled id inside
      have bound : nfa.stateCount ≤ max 1 (2 * body.length) := stateCount_le compiled
      have fits : nfa.stateCount < 2 ^ 32 := by omega
      exact Stepwise.shortName_eq (Nat.lt_trans inside fits)

/-- Behind the case mark an optional character of two bytes and a repeated one. -/
theorem compile_size_marked : ∃ reading nfa, Pattern.read "(?i)é?b*" = .ok reading ∧
    Pattern.compile "(?i)é?b*" = .ok nfa ∧ nfa.stateCount = 7 ∧ nfa.stateCount ≤ 8 ∧
    nfa.states.size ≤ 2 * reading.ordered.length ∧ reading.tokens.length ≤ 10 ∧
    Stepwise.ofTokens Stepwise.shortName reading.ordered = .ok nfa ∧
    ∀ id : StateId, id < nfa.stateCount → id.word.toNat = id := by
  obtain ⟨law, bound, room, few, short⟩ := compile_size "(?i)é?b*"
  obtain ⟨builds, named⟩ := short (by decide)
  let ordered : List Token := [.single false (.literal 'é' true), .operator .optional,
    .single false (.literal 'b' true), .operator .star, .operator .concat]
  have built : Nfa.ofTokens ordered = .ok ⟨#[.jump 6, .consume ⟨false, .members ['é'] true⟩ 0, .fork 1 0, .fork 4 5,
      .consume ⟨false, .members ['b'] true⟩ 3, .exit, .fork 4 5], 2, 5⟩ := rfl
  have read : Pattern.read "(?i)é?b*" = .ok ⟨[.single false (.literal 'é' true), .operator .optional, .operator .concat,
      .single false (.literal 'b' true), .operator .star], ordered⟩ := rfl
  have steps := Nfa.steps_of_ofTokens built (List.cons_ne_nil _ _)
  exact ⟨_, _, read, rfl, law _ _ built, bound _ rfl, room _ _ _ List.prefix_rfl steps, few _ rfl, (builds _ read).2,
    named _ rfl⟩

end Pattern

end PatternNfa
