import Mathlib.Data.List.Forall2
import PatternNfa.Infix
import PatternNfa.Predicate
import PatternNfa.ReversePolish

/-! Tokens that are alike: they lie a fixed distance apart and ask related things of characters. Reading and ordering
keep them alike, and reject either both or neither. -/

namespace PatternNfa

/-- The same error of a pattern in which everything lies `distance` bytes further on. -/
def PatternError.moved (distance : Nat) : PatternError → PatternError
  | .unmatchedParenthesis offset => .unmatchedParenthesis (offset + distance)
  | .unterminatedClass offset => .unterminatedClass (offset + distance)
  | .trailingBackslash offset => .trailingBackslash (offset + distance)
  | .malformed fault fragments => .malformed fault fragments

/-- Two computations that give related values, or the same error `distance` bytes apart. -/
inductive InStep {α β : Type} (distance : Nat) (related : α → β → Prop) :
    Except PatternError α → Except PatternError β → Prop where
  | done {first second} (same : related first second) : InStep distance related (.ok first) (.ok second)
  | failed (error : PatternError) : InStep distance related (.error error) (.error (error.moved distance))

namespace InStep

variable {α β γ δ : Type} {distance : Nat} {related : α → β → Prop} {later : γ → δ → Prop}

theorem of_ok {first : Except PatternError α} {second : Except PatternError β}
    (steps : InStep distance related first second) {a : α} (done : first = .ok a) :
    ∃ b, second = .ok b ∧ related a b := by
  subst done
  cases steps with
  | done same => exact ⟨_, rfl, same⟩

/-- A computation keeps step with itself. -/
theorem refl {related : α → α → Prop} {result : Except PatternError α}
    (same : ∀ value, result = .ok value → related value value) : InStep 0 related result result := by
  cases result with
  | ok value => exact .done (same value rfl)
  | error error => cases error <;> exact .failed _

/-- Without a distance the errors are the same. -/
theorem cases_zero {first : Except PatternError α} {second : Except PatternError β}
    (steps : InStep 0 related first second) : (∃ a b, first = .ok a ∧ second = .ok b ∧ related a b) ∨
      ∃ error, first = .error error ∧ second = .error error := by
  cases steps with
  | done same => exact Or.inl ⟨_, _, rfl, rfl, same⟩
  | failed error =>
    refine Or.inr ⟨error, rfl, ?_⟩
    cases error <;> rfl

theorem bind {first : Except PatternError α} {second : Except PatternError β} {next : α → Except PatternError γ}
    {next' : β → Except PatternError δ} (before : InStep distance related first second)
    (after : ∀ a b, related a b → InStep distance later (next a) (next' b)) :
    InStep distance later (first >>= next) (second >>= next') := by
  cases before with
  | done same => exact after _ _ same
  | failed error => exact .failed error

theorem map {first : Except PatternError α} {second : Except PatternError β} {f : α → γ} {g : β → δ}
    (before : InStep distance related first second) (after : ∀ a b, related a b → later (f a) (g b)) :
    InStep distance later (f <$> first) (g <$> second) := by
  cases before with
  | done same => exact .done (after _ _ same)
  | failed error => exact .failed error

theorem foldlM {tokens : Token → Token → Prop} {step : α → Token → Except PatternError α}
    {step' : β → Token → Except PatternError β}
    (steps : ∀ a b token token', related a b → tokens token token' →
      InStep distance related (step a token) (step' b token'))
    {first second : List Token} (alike : List.Forall₂ tokens first second) {a : α} {b : β} (same : related a b) :
    InStep distance related (first.foldlM step a) (second.foldlM step' b) := by
  induction alike generalizing a b with
  | nil => exact .done same
  | cons here _ ih =>
    rw [List.foldlM_cons, List.foldlM_cons]
    exact (steps _ _ _ _ same here).bind fun _ _ => ih

end InStep

namespace Lexeme

variable (distance : Nat)

mutual

/-- Where a text begins shows in its errors only. -/
theorem read_moved (offset : Nat) (text : List Char) :
    InStep distance Eq (read offset text) (read (offset + distance) text) := by
  unfold read
  split
  next => exact .done rfl
  next => exact .failed _
  next char rest =>
    rw [Nat.add_right_comm]
    exact (read_moved _ rest).map fun _ _ same => congrArg _ same
  next rest => exact readBracket_moved offset [] rest
  next rest =>
    rw [Nat.add_right_comm]
    exact (read_moved _ rest).map fun _ _ same => congrArg _ same
  next char rest _ _ _ _ =>
    rw [Nat.add_right_comm]
    exact (read_moved _ rest).map fun _ _ same => congrArg _ same

theorem readBracket_moved (offset : Nat) (members text : List Char) :
    InStep distance Eq (readBracket offset members text) (readBracket (offset + distance) members text) := by
  unfold readBracket
  split
  next => exact .failed _
  next rest =>
    rw [Nat.add_right_comm]
    exact (read_moved _ rest).map fun _ _ same => congrArg _ same
  next char rest _ => exact readBracket_moved offset (char :: members) rest

end

end Lexeme

/-- Predicates that differ in nothing but the flag of a set of members, which is `first` in one and `second` in the
other. -/
inductive Predicate.Recased (first second : Bool) : Predicate → Predicate → Prop where
  | members (negated : Bool) (chars : List Char) :
      Recased first second ⟨negated, .members chars first⟩ ⟨negated, .members chars second⟩
  | digit (negated : Bool) : Recased first second ⟨negated, .digit⟩ ⟨negated, .digit⟩
  | letter (negated : Bool) : Recased first second ⟨negated, .letter⟩ ⟨negated, .letter⟩
  | space (negated : Bool) : Recased first second ⟨negated, .space⟩ ⟨negated, .space⟩
  | any (negated : Bool) : Recased first second ⟨negated, .any⟩ ⟨negated, .any⟩

/-- Some token asks this of the character that it matches. -/
def Predicate.AskedBy (tokens : List Token) (asked : Predicate) : Prop :=
  ∃ negated cls, .single negated cls ∈ tokens ∧ asked = ⟨negated, cls.chars⟩

namespace Token

inductive Alike (distance : Nat) (related : Predicate → Predicate → Prop) : Token → Token → Prop where
  | single {negated negated' cls cls'} (asks : related ⟨negated, cls.chars⟩ ⟨negated', cls'.chars⟩) :
      Alike distance related (.single negated cls) (.single negated' cls')
  | operator (op : Operator) : Alike distance related (.operator op) (.operator op)
  | opening (offset : Nat) : Alike distance related (.opening offset) (.opening (offset + distance))
  | closing (offset : Nat) : Alike distance related (.closing offset) (.closing (offset + distance))

section

variable {distance : Nat} {related : Predicate → Predicate → Prop} {token token' : Token}

theorem Alike.closesOperand (alike : Alike distance related token token') :
    token.closesOperand = token'.closesOperand := by
  cases alike <;> rfl

theorem Alike.opensOperand (alike : Alike distance related token token') :
    token.opensOperand = token'.opensOperand := by
  cases alike <;> rfl

theorem Alike.isSingle (alike : Alike distance related token token') : token.isSingle = token'.isSingle := by
  cases alike <;> rfl

theorem Alike.mono {weaker : Predicate → Predicate → Prop} (alike : Alike distance related token token')
    (implies : ∀ asked other, related asked other → weaker asked other) : Alike distance weaker token token' := by
  cases alike with
  | single asks => exact .single (implies _ _ asks)
  | operator op => exact .operator op
  | opening offset => exact .opening offset
  | closing offset => exact .closing offset

theorem alike_asked {tokens tokens' : List Token} (alike : List.Forall₂ (Alike distance related) tokens tokens') :
    List.Forall₂ (Alike distance fun asked other => related asked other ∧ asked.AskedBy tokens) tokens tokens' := by
  induction alike with
  | nil => exact .nil
  | cons here _ ih =>
    refine .cons ?_ (ih.imp fun _ _ same => same.mono ?_)
    · cases here with
      | single asks => exact .single ⟨asks, _, _, List.mem_cons_self, rfl⟩
      | operator op => exact .operator op
      | opening offset => exact .opening offset
      | closing offset => exact .closing offset
    · rintro asked other ⟨asks, negated, cls, member, same⟩
      exact ⟨asks, negated, cls, List.mem_cons_of_mem _ member, same⟩

end

variable (first second : Bool) (distance : Nat)

theorem ofPlain_alike (negated : Bool) (offset : Nat) (char : Char) : Alike distance (Predicate.Recased first second)
    (ofPlain first negated offset char) (ofPlain second negated (offset + distance) char) := by
  unfold ofPlain
  split
  next => exact .opening offset
  next => exact .closing offset
  next => exact .single (.any negated)
  next =>
    split
    next op _ => exact .operator op
    next => exact .single (.members negated [char])

theorem ofEscaped_recased (negated : Bool) (char : Char) : Predicate.Recased first second
    ⟨negated, (CharClass.ofEscaped first char).chars⟩ ⟨negated, (CharClass.ofEscaped second char).chars⟩ := by
  unfold CharClass.ofEscaped
  split
  next => exact .digit negated
  next => exact .letter negated
  next => exact .space negated
  next => exact .members negated [char]

theorem ofLexemes_alike (offset : Nat) (negated : Bool) (lexemes : List Lexeme) :
    List.Forall₂ (Alike distance (Predicate.Recased first second)) (ofLexemes first offset negated lexemes)
      (ofLexemes second (offset + distance) negated lexemes) := by
  induction lexemes generalizing offset negated with
  | nil => exact .nil
  | cons lexeme rest ih =>
    have later (negated : Bool) := ih (offset + lexeme.width) negated
    rw [Nat.add_right_comm] at later
    cases lexeme with
    | caret => exact later true
    | escaped char => exact .cons (.single (ofEscaped_recased first second negated char)) (later _)
    | bracket members => exact .cons (.single (.members negated members)) (later _)
    | plain char =>
      have here := ofPlain_alike first second distance negated offset char
      simp only [ofLexemes, Lexeme.token?, here.isSingle]
      exact .cons here (later _)

variable {first second distance}

theorem join_alike {related : Predicate → Predicate → Prop} {tokens tokens' : List Token}
    (alike : List.Forall₂ (Alike distance related) tokens tokens') :
    List.Forall₂ (Alike distance related) (join tokens) (join tokens') := by
  induction alike with
  | nil => exact .nil
  | cons here later ih =>
    cases later with
    | nil => exact .cons here .nil
    | cons next rest =>
      rw [join, join, here.closesOperand, next.opensOperand]
      split
      next => exact .cons here (.cons (.operator .concat) ih)
      next => exact .cons here ih

end Token

theorem Pattern.tokens_eq {pattern : Pattern} {source : Source} (parts : Source.ofText pattern.toList = source) :
    pattern.tokens = (fun lexemes => Token.join (Token.ofLexemes source.anyCase source.base false lexemes)) <$>
      Lexeme.read source.base source.body := by
  subst parts
  rfl

inductive Held.Alike (distance : Nat) : Held → Held → Prop where
  | operator (op : Operator) : Alike distance (.operator op) (.operator op)
  | opening (offset : Nat) : Alike distance (.opening offset) (.opening (offset + distance))

theorem Held.release_alike {distance : Nat} (yields : Operator → Bool) {held held' : List Held}
    (alike : List.Forall₂ (Alike distance) held held') : ∃ released kept kept',
      release yields held = (released, kept) ∧ release yields held' = (released, kept') ∧
      List.Forall₂ (Alike distance) kept kept' := by
  induction alike with
  | nil => exact ⟨[], [], [], rfl, rfl, .nil⟩
  | cons top below ih =>
    cases top with
    | opening offset => exact ⟨[], _, _, rfl, rfl, .cons (.opening offset) below⟩
    | operator op =>
      obtain ⟨released, kept, kept', first, second, alike⟩ := ih
      simp only [release, first, second]
      split
      next => exact ⟨op :: released, kept, kept', rfl, rfl, alike⟩
      next => exact ⟨[], _, _, rfl, rfl, .cons (.operator op) below⟩

/-- Yards that have taken alike tokens. -/
structure Yard.Alike (distance : Nat) (related : Predicate → Predicate → Prop) (first second : Yard) : Prop where
  output : List.Forall₂ (Token.Alike distance related) first.output.toList second.output.toList
  held : List.Forall₂ (Held.Alike distance) first.held second.held

namespace Yard

variable {distance : Nat} {related : Predicate → Predicate → Prop} {yard yard' : Yard}

theorem emit_alike (alike : Alike distance related yard yard') (released : List Operator) :
    List.Forall₂ (Token.Alike distance related) (yard.emit released).toList (yard'.emit released).toList := by
  rw [toList_emit, toList_emit]
  apply List.rel_append alike.output
  induction released with
  | nil => exact .nil
  | cons op _ ih => exact .cons (.operator op) ih

theorem step_alike {token token' : Token} (alike : Alike distance related yard yard')
    (same : Token.Alike distance related token token') :
    InStep distance (Alike distance related) (yard.step token) (yard'.step token') := by
  cases same with
  | single asks =>
    refine .done ⟨?_, alike.held⟩
    rw [Array.toList_push, Array.toList_push]
    exact List.rel_append alike.output (.cons (.single asks) .nil)
  | operator op =>
    obtain ⟨released, kept, kept', first, second, held⟩ :=
      Held.release_alike (fun waiting => op.precedence ≤ waiting.precedence) alike.held
    simp only [step, first, second]
    exact .done ⟨emit_alike alike released, .cons (.operator op) held⟩
  | opening offset => exact .done ⟨alike.output, .cons (.opening offset) alike.held⟩
  | closing offset =>
    obtain ⟨released, kept, kept', first, second, held⟩ := Held.release_alike (fun _ => true) alike.held
    simp only [step, first, second]
    cases held with
    | nil => exact .failed (.unmatchedParenthesis offset)
    | cons top below =>
      cases top with
      | operator => exact .failed (.unmatchedParenthesis offset)
      | opening => exact .done ⟨emit_alike alike released, below⟩

theorem finish_alike (alike : Alike distance related yard yard') :
    InStep distance (List.Forall₂ (Token.Alike distance related)) yard.finish yard'.finish := by
  obtain ⟨released, kept, kept', first, second, held⟩ := Held.release_alike (fun _ => true) alike.held
  simp only [finish, first, second]
  cases held with
  | nil => exact .done (emit_alike alike released)
  | cons top below =>
    cases top with
    | operator => exact .done (emit_alike alike released)
    | opening offset => exact .failed (.unmatchedParenthesis offset)

end Yard

theorem Token.reversePolish_alike {distance : Nat} {related : Predicate → Predicate → Prop}
    {tokens tokens' : List Token} (alike : List.Forall₂ (Alike distance related) tokens tokens') :
    InStep distance (List.Forall₂ (Alike distance related)) (reversePolish tokens) (reversePolish tokens') := by
  have steps : InStep distance (Yard.Alike distance related) (tokens.foldlM Yard.step Yard.empty)
      (tokens'.foldlM Yard.step Yard.empty) := by
    refine InStep.foldlM ?_ alike ⟨.nil, .nil⟩
    exact fun _ _ _ _ => Yard.step_alike
  exact steps.bind fun _ _ => Yard.finish_alike

end PatternNfa
