import PatternNfa.Proofs.OperatorOrder
import PatternNfa.Proofs.UnmatchedMarks
import PatternNfa.ReversePolish.TokenYard

/-! What waits on the stack of the yard: the marks of the open groups, and above each of them operators that bind more
tightly the higher they stand. The stack stays small however many tokens are read. -/

namespace PatternNfa

namespace Token

/-- The first mark that closes a group too many stands behind tokens that balance. -/
theorem not_closable_iff {tokens : List Token} : ¬ Closable tokens ↔
    ∃ inside stop rest, tokens = inside ++ .closing stop :: rest ∧ Balanced 0 inside := by
  constructor
  · intro unclosable
    cases ended : reversePolish tokens with
    | ok ordered => exact absurd (balanced_of_reversePolish ended).closable unclosable
    | error =>
      rcases of_reversePolish_error ended with ⟨inside, stop, rest, same, _, balanced⟩ | ⟨_, _, _, _, _, closable, _⟩
      · exact ⟨inside, stop, rest, same, balanced⟩
      · exact absurd closable unclosable
  · intro ⟨inside, stop, rest, same, balanced⟩ closable
    have within : inside ++ [.closing stop] <+: tokens := ⟨rest, by simp [same]⟩
    have bound := closable _ within
    have even := balanced.ended
    simp only [List.countP_append, List.countP_singleton, isOpening, isClosing, if_true, Bool.false_eq_true, if_false]
      at bound
    omega

/-- A mark opens a group that ends just if what stands behind it closes one group too many. -/
theorem exists_group_iff {before after : List Token} {start : Nat} :
    (∃ stop, Group (before ++ .opening start :: after) before.length stop) ↔ ¬ Closable after := by
  rw [not_closable_iff]
  constructor
  · intro ⟨_, outside, first, inside, last, ⟨rest, same⟩, balanced, place, _⟩
    simp only [List.append_assoc, List.cons_append, List.nil_append] at same
    obtain ⟨_, tail⟩ := List.append_inj same place.symm
    exact ⟨inside, last, rest, (List.cons.inj tail).2.symm, balanced⟩
  · intro ⟨inside, last, rest, same, balanced⟩
    subst same
    exact ⟨_, before, start, inside, last, ⟨rest, by simp⟩, balanced, rfl, rfl⟩

/-- The marks with which a yard keeps count are those behind which no group is closed that was open before. -/
theorem Unclosed.mem_iff {marks : List (Token × Nat)} {tokens : List Token} (unclosed : Unclosed marks tokens)
    {item : Token × Nat} : item ∈ marks ↔
      ∃ before start after, tokens = before ++ .opening start :: after ∧ item = (.opening start, before.length) ∧
        Closable after := by
  induction unclosed with
  | none balanced =>
    constructor
    · exact nofun
    · intro ⟨before, start, after, same, _, closable⟩
      subst same
      exact absurd closable balanced.not_closable
  | @some marks outside first inside outer balanced ih =>
    rw [List.mem_cons, ih]
    constructor
    · intro member
      rcases member with rfl | ⟨before, start, after, rfl, place, closable⟩
      · exact ⟨outside, first, inside, rfl, rfl, balanced.closable⟩
      · refine ⟨before, start, after ++ .opening first :: inside, by simp, place, ?_⟩
        exact closable.append (balanced.closable.opening first)
    · intro ⟨before, start, after, same, place, closable⟩
      -- The groups of marks behind the innermost end before the tokens do.
      rcases split_cases same with ⟨rfl, mark, _⟩ | ⟨_, rfl, rfl⟩ | ⟨rest, rfl, rfl⟩
      · exact Or.inl (by rw [place, mark])
      · exact absurd closable balanced.not_closable
      · exact Or.inr ⟨before, start, rest, rfl, place, closable.of_append⟩

/-- The marks of the groups that are open after `tokens`, with their places and in the order of these. -/
structure OpenMarks (tokens : List Token) (marks : List (Token × Nat)) : Prop where
  ascends : marks.Pairwise fun first second => first.2 < second.2
  mem_iff : ∀ item, item ∈ marks ↔
    tokens[item.2]? = some item.1 ∧ item.1.isOpening = true ∧ ∀ stop, ¬ Group tokens item.2 stop

theorem getElem?_eq_some_iff_split {tokens : List Token} {place : Nat} {token : Token} :
    tokens[place]? = some token ↔ ∃ before after, tokens = before ++ token :: after ∧ place = before.length := by
  constructor
  · intro found
    obtain ⟨inside, rfl⟩ := List.getElem?_eq_some_iff.mp found
    refine ⟨tokens.take place, tokens.drop (place + 1), ?_, ?_⟩
    · rw [List.getElem_cons_drop, List.take_append_drop]
    · rw [List.length_take_of_le (Nat.le_of_lt inside)]
  · intro ⟨before, after, same, place⟩
    simp [same, place]

theorem Unclosed.openMarks {marks : List (Token × Nat)} {tokens : List Token} (unclosed : Unclosed marks tokens)
    (descends : marks.Pairwise fun upper lower => lower.2 < upper.2) : OpenMarks tokens marks.reverse where
  ascends := List.pairwise_reverse.mpr descends
  mem_iff := by
    intro item
    rw [List.mem_reverse, unclosed.mem_iff]
    constructor
    · intro ⟨before, start, after, same, place, closable⟩
      subst same place
      refine ⟨by simp, rfl, ?_⟩
      exact not_exists.mp (mt exists_group_iff.mp (not_not_intro closable))
    · intro ⟨found, opens, unended⟩
      obtain ⟨token, place⟩ := item
      obtain ⟨before, after, rfl, rfl⟩ := getElem?_eq_some_iff_split.mp found
      cases token with
      | single | operator | closing => cases opens
      | opening start =>
        have closable := not_not.mp (mt exists_group_iff.mpr (not_exists.mpr unended))
        exact ⟨before, start, after, rfl, rfl, closable⟩

end Token

theorem Operator.precedence_pos (op : Operator) : 0 < op.precedence := by
  cases op with
  | concat | alternate => decide
  | quantified quantifier => exact Nat.lt_of_lt_of_le (by decide) quantifier.three_le_precedence

namespace Held

/-- What stands on top of an operator binds more tightly, if it is an operator too. -/
def Climbs (upper lower : Held) : Prop :=
  ∀ above below, upper = .operator above → lower = .operator below → below.precedence < above.precedence

/-- The precedence of the operator on top of the stack. It is zero if there is none. -/
def height : List Held → Nat
  | .operator op :: _ => op.precedence
  | _ => 0

theorem height_le (held : List Held) : height held ≤ 5 := by
  unfold height
  split
  next op _ => exact Nat.le_of_lt_succ op.precedence_lt_six
  next => exact Nat.zero_le 5

/-- The groups that are open are those whose marks wait. -/
theorem depth_eq (held : List Held) : depth held = ((held.map Held.token).filter Token.isOpening).length := by
  induction held with
  | nil => rfl
  | cons top below ih =>
    cases top with
    | operator => exact ih
    | opening => exact congrArg Nat.succ ih

/-- From one mark up to the next there is room for five operators. -/
theorem length_le {held : List Held} (climbs : held.IsChain Climbs) : held.length ≤ 6 * depth held + height held := by
  induction held with
  | nil => exact Nat.zero_le _
  | cons top below ih =>
    have bound := ih climbs.tail
    cases top with
    | opening =>
      have low := height_le below
      simp only [List.length_cons, depth]
      omega
    | operator op =>
      have lower : height below < op.precedence := by
        cases below with
        | nil => exact op.precedence_pos
        | cons next rest =>
          cases next with
          | opening => exact op.precedence_pos
          | operator waiting => exact climbs.rel op waiting rfl rfl
      simp only [List.length_cons, depth, height]
      omega

/-- The stack has as many entries as the operators at all marks and at the bottom can make, and the marks. -/
theorem length_le_terraces {held : List Held} (climbs : held.IsChain Climbs) :
    held.length ≤ 5 * (depth held + 1) + depth held := by
  have bound := length_le climbs
  have low := height_le held
  omega

theorem eq_operator {held : Held} {op : Operator} (same : held.token = .operator op) : held = .operator op := by
  cases held with
  | opening => cases same
  | operator waiting => rw [Token.operator.inj same]

theorem precedence_lt {held : List Held} (climbs : held.IsChain Climbs) {above below : List Token}
    {upper lower : Operator} (same : held.map Held.token = above ++ .operator upper :: .operator lower :: below) :
    lower.precedence < upper.precedence := by
  obtain ⟨_, stack, rfl, _, rest⟩ := List.map_eq_append_iff.mp same
  obtain ⟨first, stack, rfl, here, rest⟩ := List.map_eq_cons_iff.mp rest
  obtain ⟨second, _, rfl, there, _⟩ := List.map_eq_cons_iff.mp rest
  exact climbs.right_of_append.rel upper lower (eq_operator here) (eq_operator there)

theorem release_stops {yields : Operator → Bool} {held : List Held} {op : Operator}
    (top : (release yields held).2.head? = some (.operator op)) : yields op = false := by
  induction held with
  | nil => cases top
  | cons held below ih =>
    cases held with
    | opening => cases top
    | operator waiting =>
      rw [release] at top
      split at top
      next => exact ih top
      next stays =>
        cases top
        exact Bool.eq_false_iff.mpr stays

theorem climbs_release {held : List Held} (climbs : held.IsChain Climbs) (yields : Operator → Bool) :
    (release yields held).2.IsChain Climbs := by
  rw [← release_append yields held] at climbs
  exact climbs.right_of_append

end Held

namespace Yard

/-- Whatever comes next, operators on the stack go on climbing. -/
theorem step_climbs {yard next : Yard} {token : Token} (climbs : yard.held.IsChain Held.Climbs)
    (stepped : yard.step token = .ok next) : next.held.IsChain Held.Climbs := by
  cases token with
  | single =>
    cases stepped
    exact climbs
  | opening =>
    cases stepped
    apply climbs.cons
    intro lower _ above below same
    cases same
  | closing =>
    obtain ⟨released, start, below, found, rfl⟩ := of_step_closing stepped
    have kept := Held.climbs_release climbs fun _ => true
    rw [found] at kept
    exact kept.tail
  | operator op =>
    cases stepped
    -- What is still on top has stopped the release, and so binds less tightly than what arrives.
    apply (Held.climbs_release climbs _).cons
    intro lower top above below same waits
    cases same
    subst waits
    have stops := Held.release_stops top
    simpa using stops

theorem steps_climbs {tokens : List Token} {yard last : Yard} (climbs : yard.held.IsChain Held.Climbs)
    (steps : tokens.foldlM step yard = .ok last) : last.held.IsChain Held.Climbs := by
  induction tokens generalizing yard with
  | nil =>
    cases steps
    exact climbs
  | cons token rest ih =>
    obtain ⟨next, stepped, steps⟩ := of_steps_cons steps
    exact ih (step_climbs climbs stepped) steps

end Yard

namespace TokenYard

def ofYard (yard : Yard) : TokenYard := ⟨yard.output, yard.held.map Held.token⟩

theorem yieldTo_eq (arriving : Operator) (output : Array Token) (held : List Held) :
    yieldTo arriving output (held.map Held.token) =
      let released := Held.release (fun waiting => arriving.precedence ≤ waiting.precedence) held
      ofYard ⟨(Yard.mk output held).emit released.1, released.2⟩ := by
  induction held generalizing output with
  | nil => rfl
  | cons top below ih =>
    cases top with
    | opening => rfl
    | operator waiting =>
      rw [List.map_cons, Held.token, yieldTo, Held.release]
      by_cases lower : waiting.precedence < arriving.precedence
      · have stays : ¬ arriving.precedence ≤ waiting.precedence := Nat.not_le_of_lt lower
        simp only [if_pos lower, decide_eq_false stays]
        rfl
      · have yields : arriving.precedence ≤ waiting.precedence := Nat.le_of_not_lt lower
        simp only [if_neg lower, decide_eq_true yields, if_true]
        exact ih (output.push (.operator waiting))

theorem closeGroup_eq (stop : Nat) (output : Array Token) (held : List Held) :
    closeGroup stop output (held.map Held.token) = ofYard <$> (Yard.mk output held).step (.closing stop) := by
  induction held generalizing output with
  | nil => rfl
  | cons top below ih =>
    cases top with
    | opening => rfl
    | operator waiting =>
      rw [List.map_cons, Held.token, closeGroup, ih, Yard.step, Yard.step, Held.release]
      · rcases Held.release_every below with ⟨_, bottom⟩ | ⟨_, _, _, found⟩
        · simp only [bottom, if_true]
        · simp only [found, if_true]
          rfl
      · intro start same
        cases same

theorem drain_eq (output : Array Token) (held : List Held) :
    drain output (held.map Held.token) = (Yard.mk output held).finish := by
  induction held generalizing output with
  | nil => rfl
  | cons top below ih =>
    cases top with
    | opening => rfl
    | operator waiting =>
      rw [List.map_cons, Held.token, drain, ih, Yard.finish, Yard.finish, Held.release]
      · rcases Held.release_every below with ⟨_, bottom⟩ | ⟨_, _, _, found⟩
        · simp only [bottom, if_true]
          rfl
        · simp only [found, if_true]
      · intro start same
        cases same

theorem step_eq (yard : Yard) (token : Token) : (ofYard yard).step token = ofYard <$> yard.step token := by
  cases token with
  | single | opening => rfl
  | closing stop => exact closeGroup_eq stop yard.output yard.held
  | operator op =>
    rw [step, ofYard, yieldTo_eq]
    rfl

theorem steps_eq (tokens : List Token) (yard : Yard) :
    tokens.foldlM step (ofYard yard) = ofYard <$> tokens.foldlM Yard.step yard := by
  induction tokens generalizing yard with
  | nil => rfl
  | cons token rest ih =>
    rw [List.foldlM_cons, List.foldlM_cons, step_eq]
    cases yard.step token with
    | error => rfl
    | ok next => exact ih next

theorem reversePolish_eq (tokens : List Token) : reversePolish tokens = Token.reversePolish tokens := by
  have same : tokens.foldlM step empty = ofYard <$> tokens.foldlM Yard.step Yard.empty := steps_eq tokens Yard.empty
  rw [reversePolish, Token.reversePolish, same]
  cases tokens.foldlM Yard.step Yard.empty with
  | error => rfl
  | ok yard => exact drain_eq yard.output yard.held

/-- What waits after `tokens`, the latest first: operators and the marks of all groups that are open, these in the order
in which they were read. Operators with no mark between them bind more tightly the higher they stand, and so at most
five of them stand together. -/
structure Terraced (tokens held : List Token) : Prop where
  kinds : ∀ token ∈ held, (∃ op, token = .operator op) ∨ ∃ offset, token = .opening offset
  climbs : ∀ above upper lower below, held = above ++ .operator upper :: .operator lower :: below →
    lower.precedence < upper.precedence
  marks : ∃ marks, Token.OpenMarks tokens marks ∧ held.reverse.filter Token.isOpening = marks.map Prod.fst ∧
    held.length ≤ 5 * (marks.length + 1) + marks.length

theorem terraced {tokens : List Token} {yard : Yard} (steps : tokens.foldlM Yard.step Yard.empty = .ok yard) :
    Terraced tokens (ofYard yard).held := by
  have climbs := Yard.steps_climbs .nil steps
  obtain ⟨_, waiting, traces⟩ := Yard.traced steps
  have opened := traces.unclosed.openMarks (traces.descends.filter _)
  have same : (yard.held.map Held.token).filter Token.isOpening = (waiting.filter (·.1.isOpening)).map Prod.fst := by
    rw [← traces.waiting_eq, List.filter_map]
    rfl
  refine ⟨?_, ?_, _, opened, ?_, ?_⟩
  · intro token member
    obtain ⟨held, _, rfl⟩ := List.mem_map.mp member
    cases held with
    | operator op => exact Or.inl ⟨op, rfl⟩
    | opening offset => exact Or.inr ⟨offset, rfl⟩
  · intro above upper lower below split
    exact Held.precedence_lt climbs split
  · rw [List.filter_reverse, List.map_reverse, ← same]
    rfl
  · have bound := Held.length_le_terraces climbs
    rw [Held.depth_eq, same, List.length_map] at bound
    rwa [ofYard, List.length_map, List.length_reverse]

/-- The yard gives the same order if its stack has room for tokens of every kind. Nothing but operators and marks ever
waits there, and after each token they stand in terraces. -/
theorem held_terraced (tokens : List Token) : reversePolish tokens = Token.reversePolish tokens ∧
    ∀ before, before <+: tokens →
      before.foldlM step empty = ofYard <$> before.foldlM Yard.step Yard.empty ∧
      ∀ yard, before.foldlM step empty = .ok yard → Terraced before yard.held := by
  refine ⟨reversePolish_eq tokens, ?_⟩
  intro before _
  have same : before.foldlM step empty = ofYard <$> before.foldlM Yard.step Yard.empty := steps_eq before Yard.empty
  refine ⟨same, ?_⟩
  intro yard steps
  rw [same] at steps
  obtain ⟨plain, taken, rfl⟩ := exists_of_map steps
  exact terraced taken

/-- Five operators before the mark of a group and five behind it. There is no room for more. -/
theorem held_terraced_full : ∃ tokens yard, tokens.foldlM step empty = .ok yard ∧
    tokens.map Token.text = [['|'], ['.'], ['?'], ['+'], ['*'], ['('], ['|'], ['.'], ['?'], ['+'], ['*']] ∧
    yard.held = tokens.reverse ∧ Terraced tokens yard.held := by
  let climbing : List Token := [.operator .alternate, .operator .concat, .operator .optional, .operator .plus,
    .operator .star]
  have steps : (climbing ++ .opening 5 :: climbing).foldlM step empty =
      .ok ⟨#[], (climbing ++ .opening 5 :: climbing).reverse⟩ := rfl
  exact ⟨_, _, steps, rfl, rfl, ((held_terraced _).2 _ List.prefix_rfl).2 _ steps⟩

end TokenYard

end PatternNfa
