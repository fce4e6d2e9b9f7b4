import Mathlib.Data.List.TakeWhile
import PatternNfa.Proofs.GroupMarks
import PatternNfa.ReversePolish

/-! The tokens in the yard. At any time its output and its stack hold all that were read, the marks of closed groups
apart. -/

namespace PatternNfa

namespace Held

theorem release_map {yields : Operator → Bool} {held : List Held}
    (stops : ∀ op, held.head? = some (.operator op) → yields op = false) (waiting : List Operator) :
    release yields (waiting.map .operator ++ held) =
      (waiting.takeWhile yields, (waiting.dropWhile yields).map .operator ++ held) := by
  induction waiting with
  | nil =>
    cases held with
    | nil => rfl
    | cons top below =>
      cases top with
      | opening => rfl
      | operator op => simp [release, stops op rfl]
  | cons op waiting ih =>
    simp only [List.map_cons, List.cons_append, release, List.takeWhile_cons, List.dropWhile_cons]
    split
    next => simp [ih]
    next => rfl

theorem release_all {yields : Operator → Bool} {held : List Held} {waiting : List Operator}
    (all : ∀ op ∈ waiting, yields op = true) (stops : ∀ op, held.head? = some (.operator op) → yields op = false) :
    release yields (waiting.map .operator ++ held) = (waiting, held) := by
  rw [release_map stops, List.takeWhile_eq_self_iff.mpr all, List.dropWhile_eq_nil_iff.mpr all]
  rfl

def operators : List Held → List Operator
  | [] => []
  | .operator op :: below => op :: operators below
  | .opening _ :: below => operators below

/-- The number of groups that are still open. -/
def depth : List Held → Nat
  | [] => 0
  | .operator _ :: below => depth below
  | .opening _ :: below => depth below + 1

theorem operators_append (waiting : List Operator) (held : List Held) :
    operators (waiting.map .operator ++ held) = waiting ++ operators held := by
  induction waiting with
  | nil => rfl
  | cons op waiting ih => simp [operators, ih]

theorem depth_append (waiting : List Operator) (held : List Held) :
    depth (waiting.map .operator ++ held) = depth held := by
  induction waiting with
  | nil => rfl
  | cons op waiting ih => simp [depth, ih]

theorem operators_release (yields : Operator → Bool) (held : List Held) :
    (release yields held).1 ++ operators (release yields held).2 = operators held := by
  rw [← operators_append, release_append]

theorem depth_release (yields : Operator → Bool) (held : List Held) : depth (release yields held).2 = depth held := by
  rw [← depth_append (release yields held).1, release_append]

/-- If everything yields, nothing is kept or a group is open. -/
theorem release_every (held : List Held) : (∃ released, release (fun _ => true) held = (released, [])) ∨
    ∃ released start below, release (fun _ => true) held = (released, .opening start :: below) := by
  induction held with
  | nil => exact Or.inl ⟨[], rfl⟩
  | cons top below ih =>
    cases top with
    | operator op =>
      rcases ih with ⟨released, bottom⟩ | ⟨released, start, outer, found⟩
      · exact Or.inl ⟨op :: released, by simp [release, bottom]⟩
      · exact Or.inr ⟨op :: released, start, outer, by simp [release, found]⟩
    | opening start => exact Or.inr ⟨[], start, below, rfl⟩

end Held

namespace Yard

theorem steps_cons {yard next : Yard} {token : Token} (first : step yard token = .ok next) (rest : List Token) :
    (token :: rest).foldlM step yard = rest.foldlM step next := by
  rw [List.foldlM_cons, first]
  rfl

theorem steps_append {yard middle : Yard} {before : List Token} (first : before.foldlM step yard = .ok middle)
    (after : List Token) : (before ++ after).foldlM step yard = after.foldlM step middle := by
  rw [List.foldlM_append, first]
  rfl

theorem of_steps_cons {yard last : Yard} {token : Token} {rest : List Token}
    (steps : (token :: rest).foldlM step yard = .ok last) :
    ∃ next, step yard token = .ok next ∧ rest.foldlM step next = .ok last := by
  rw [List.foldlM_cons] at steps
  exact exists_of_bind steps

/-- A group can be closed only if one is open, and what waits in it is put out then. -/
theorem of_step_closing {yard next : Yard} {stop : Nat} (stepped : yard.step (.closing stop) = .ok next) :
    ∃ released start below, Held.release (fun _ => true) yard.held = (released, .opening start :: below) ∧
      next = ⟨yard.emit released, below⟩ := by
  rcases Held.release_every yard.held with ⟨_, bottom⟩ | ⟨released, start, below, found⟩
  · rw [step, bottom] at stepped
    cases stepped
  · rw [step, found] at stepped
    exact ⟨released, start, below, found, (Except.ok.inj stepped).symm⟩

theorem emit_eq (yard : Yard) (released : List Operator) :
    yard.emit released = yard.output ++ (released.map Token.operator).toArray := by
  apply Array.toList_inj.mp
  simp [toList_emit]

def contents (yard : Yard) : List Token := yard.output.toList ++ (Held.operators yard.held).map .operator

/-- A token other than a group mark is added to the contents, and nothing else changes. -/
theorem step_contents {yard : Yard} {token : Token}
    (closable : token.isClosing = true → 0 < Held.depth yard.held) : ∃ next, yard.step token = .ok next ∧
      Held.depth next.held + [token].countP Token.isClosing = Held.depth yard.held + [token].countP Token.isOpening ∧
      next.contents.Perm (yard.contents ++ [token].filter fun token => !token.isGroupMark) := by
  obtain ⟨output, held⟩ := yard
  cases token with
  | single negated cls =>
    refine ⟨_, rfl, rfl, ?_⟩
    simp only [contents, Array.toList_push, Token.isGroupMark, List.filter_cons, Bool.not_false, if_true,
      List.filter_nil, List.append_assoc]
    exact List.Perm.append_left _ List.perm_append_comm
  | operator op =>
    let yields (waiting : Operator) : Bool := op.precedence ≤ waiting.precedence
    have whole := Held.operators_release yields held
    have level := Held.depth_release yields held
    refine ⟨⟨(Yard.mk output held).emit (Held.release yields held).1, .operator op :: (Held.release yields held).2⟩,
      rfl, level, ?_⟩
    have order : ((Held.release yields held).1 ++ op :: Held.operators (Held.release yields held).2).Perm
        (Held.operators held ++ [op]) := by
      rw [← whole]
      exact List.perm_middle.trans (List.perm_append_singleton op _).symm
    have emitted := (order.map Token.operator).append_left output.toList
    simpa [contents, toList_emit, Held.operators, Token.isGroupMark] using emitted
  | opening offset => exact ⟨_, rfl, rfl, by simp [contents, Held.operators, Token.isGroupMark]⟩
  | closing offset =>
    have whole := Held.operators_release (fun _ => true) held
    have level := Held.depth_release (fun _ => true) held
    rcases Held.release_every held with ⟨released, bottom⟩ | ⟨released, start, below, found⟩
    · rw [bottom] at level
      exact absurd (closable rfl) (Nat.not_lt_of_le (Nat.le_of_eq level.symm))
    · rw [found] at whole level
      refine ⟨⟨(Yard.mk output held).emit released, below⟩, ?_, level, ?_⟩
      · rw [step, found]
      · simp [contents, toList_emit, Token.isGroupMark, ← whole, Held.operators]

theorem steps_contents {tokens : List Token} {yard : Yard} (balanced : Token.Balanced (Held.depth yard.held) tokens) :
    ∃ last, tokens.foldlM step yard = .ok last ∧ Held.depth last.held = 0 ∧
      last.contents.Perm (yard.contents ++ tokens.filter fun token => !token.isGroupMark) := by
  induction tokens generalizing yard with
  | nil => exact ⟨yard, rfl, balanced.depth_of_nil, by simp⟩
  | cons token rest ih =>
    have closable : token.isClosing = true → 0 < Held.depth yard.held := by
      intro closing
      cases token with
      | closing => exact balanced.positive
      | single | operator | opening => cases closing
    obtain ⟨next, stepped, level, here⟩ := step_contents closable
    obtain ⟨last, steps, ended, later⟩ := ih (balanced.tail level)
    refine ⟨last, (steps_cons stepped rest).trans steps, ended, later.trans ?_⟩
    have whole := here.append_right (rest.filter fun token => !token.isGroupMark)
    rwa [List.append_assoc, ← List.filter_append] at whole

theorem depth_pos_of_step {yard next : Yard} {stop : Nat} (stepped : yard.step (.closing stop) = .ok next) :
    0 < Held.depth yard.held := by
  obtain ⟨released, start, below, found, _⟩ := of_step_closing stepped
  rw [← Held.depth_release (fun _ => true), found]
  exact Nat.succ_pos _

theorem balanced_of_steps {tokens : List Token} {yard last : Yard} (steps : tokens.foldlM step yard = .ok last)
    (closed : Held.depth last.held = 0) : Token.Balanced (Held.depth yard.held) tokens := by
  induction tokens generalizing yard with
  | nil =>
    cases steps
    rw [closed]
    exact ⟨fun before within => by simp [List.prefix_nil.mp within], rfl⟩
  | cons token rest ih =>
    obtain ⟨next, stepped, steps⟩ := of_steps_cons steps
    have closable : token.isClosing = true → 0 < Held.depth yard.held := by
      intro closing
      cases token with
      | closing => exact depth_pos_of_step stepped
      | single | operator | opening => cases closing
    obtain ⟨other, same, level, _⟩ := step_contents closable
    cases stepped.symm.trans same
    exact (ih steps).cons level

theorem finish_ok {yard : Yard} {ordered : List Token} (finished : yard.finish = .ok ordered) :
    ∃ released, Held.release (fun _ => true) yard.held = (released, []) ∧ (yard.emit released).toList = ordered := by
  rcases Held.release_every yard.held with ⟨released, bottom⟩ | ⟨_, _, _, found⟩
  · rw [finish, bottom] at finished
    exact ⟨released, bottom, Except.ok.inj finished⟩
  · rw [finish, found] at finished
    cases finished

end Yard

theorem Token.steps_of_reversePolish {tokens ordered : List Token} (ended : Token.reversePolish tokens = .ok ordered) :
    ∃ last, tokens.foldlM Yard.step Yard.empty = .ok last ∧ last.finish = .ok ordered :=
  exists_of_bind ended

/-- Only balanced tokens have a reverse Polish order. -/
theorem Token.balanced_of_reversePolish {tokens ordered : List Token}
    (ended : Token.reversePolish tokens = .ok ordered) : Balanced 0 tokens := by
  obtain ⟨last, steps, finished⟩ := Token.steps_of_reversePolish ended
  obtain ⟨released, bottom, _⟩ := Yard.finish_ok finished
  apply Yard.balanced_of_steps steps
  rw [← Held.depth_release (fun _ => true), bottom]
  rfl

/-- Balanced tokens have a reverse Polish order. Nothing is lost or added but the group marks. -/
theorem Token.Balanced.reversePolish {tokens : List Token} (balanced : Balanced 0 tokens) :
    ∃ ordered, Token.reversePolish tokens = .ok ordered ∧
      ordered.Perm (tokens.filter fun token => !token.isGroupMark) := by
  have start : Balanced (Held.depth Yard.empty.held) tokens := balanced
  obtain ⟨last, steps, ended, whole⟩ := Yard.steps_contents start
  have operators := Held.operators_release (fun _ => true) last.held
  have level := Held.depth_release (fun _ => true) last.held
  rcases Held.release_every last.held with ⟨released, bottom⟩ | ⟨_, _, _, found⟩
  · rw [bottom, Held.operators, List.append_nil] at operators
    subst operators
    refine ⟨last.contents, ?_, whole⟩
    rw [Token.reversePolish, steps]
    change last.finish = _
    rw [Yard.finish, bottom, Yard.contents, ← Yard.toList_emit]
  · rw [found, ended] at level
    cases level

theorem Token.perm_of_reversePolish {tokens ordered : List Token} (ended : Token.reversePolish tokens = .ok ordered) :
    ordered.Perm (tokens.filter fun token => !token.isGroupMark) := by
  obtain ⟨other, same, whole⟩ := (Token.balanced_of_reversePolish ended).reversePolish
  cases ended.symm.trans same
  exact whole

end PatternNfa
