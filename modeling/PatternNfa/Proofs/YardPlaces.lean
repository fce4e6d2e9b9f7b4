import PatternNfa.Proofs.OpenGroups
import PatternNfa.Proofs.Yard

/-! The places of the tokens in the yard. Every token that was read, closing marks and the marks they close apart, is in
the yard once, and what waits on the stack stands in no group that has ended. -/

namespace PatternNfa

def Held.token : Held → Token
  | .operator op => .operator op
  | .opening offset => .opening offset

namespace Token

theorem zipIdx_append_singleton (tokens : List Token) (token : Token) :
    (tokens ++ [token]).zipIdx = tokens.zipIdx ++ [(token, tokens.length)] := by
  simp [List.zipIdx_append]

theorem place_lt {tokens : List Token} {item : Token × Nat} (placed : item ∈ tokens.zipIdx) :
    item.2 < tokens.length := by
  have found := List.mem_zipIdx_iff_getElem?.mp placed
  exact (List.getElem?_eq_some_iff.mp found).1

/-- The token at the place `later` is written after the end of a group in which the one at `earlier` stands. -/
def Parted (tokens : List Token) (earlier later : Nat) : Prop :=
  ∃ start stop, Group tokens start stop ∧ start < earlier ∧ earlier < stop ∧ stop < later

/-- Of two tokens with their places, the second may come before the first in the pattern only if it matches no
character, and if no group in which it stands ends before the first. -/
def InOrder (tokens : List Token) (first second : Token × Nat) : Prop :=
  second.2 < first.2 → second.1.isSingle = false ∧ ¬ Parted tokens second.2 first.2

theorem InOrder.append {tokens rest : List Token} {first second : Token × Nat} (order : InOrder tokens first second)
    (inside : first.2 < tokens.length) : InOrder (tokens ++ rest) first second := by
  intro earlier
  obtain ⟨unmatched, together⟩ := order earlier
  refine ⟨unmatched, ?_⟩
  intro ⟨start, stop, group, above, below, before⟩
  exact together ⟨start, stop, group.of_append (Nat.lt_trans before inside), above, below, before⟩

def isUnmarked (item : Token × Nat) : Bool := !item.1.isGroupMark

end Token

namespace Yard

/-- The tokens that a yard has put out and those that wait in it, with their places among the `tokens` that it has
taken. -/
structure Traces (yard : Yard) (tokens : List Token) (output waiting : List (Token × Nat)) : Prop where
  output_eq : output.map Prod.fst = yard.output.toList
  waiting_eq : waiting.map Prod.fst = yard.held.map Held.token
  whole : (output ++ waiting.filter Token.isUnmarked).Perm (tokens.zipIdx.filter Token.isUnmarked)
  placed : ∀ item ∈ waiting, item ∈ tokens.zipIdx
  descends : waiting.Pairwise fun upper lower => lower.2 < upper.2
  unclosed : Token.Unclosed (waiting.filter (·.1.isOpening)) tokens
  unended : ∀ item ∈ waiting, ∀ start stop, Token.Group tokens start stop → start < item.2 → stop ≤ item.2
  ordered : output.Pairwise (Token.InOrder tokens)

namespace Traces

theorem start : empty.Traces [] [] [] where
  output_eq := rfl
  waiting_eq := rfl
  whole := .nil
  placed := nofun
  descends := .nil
  unclosed := .none .nil
  unended := nofun
  ordered := .nil

variable {yard : Yard} {tokens : List Token} {output waiting : List (Token × Nat)}

theorem output_placed (traces : yard.Traces tokens output waiting) {item : Token × Nat} (member : item ∈ output) :
    item ∈ tokens.zipIdx :=
  (List.mem_filter.mp (traces.whole.subset (List.mem_append_left _ member))).1

theorem inOrder_waiting (traces : yard.Traces tokens output waiting) (first : Token × Nat) {second : Token × Nat}
    (waits : second ∈ waiting) (unmatched : second.1.isSingle = false) :
    Token.InOrder tokens first second := by
  intro _
  refine ⟨unmatched, ?_⟩
  intro ⟨start, stop, group, above, below, _⟩
  exact Nat.not_lt_of_le (traces.unended second waits start stop group above) below

section

variable {front back : List (Token × Nat)} {released : List Operator}

theorem unmatched_of_released (top : front.map Prod.fst = released.map Token.operator) :
    ∀ item ∈ front, Token.isUnmarked item = true ∧ item.1.isOpening = false ∧ item.1.isSingle = false := by
  intro item member
  have mapped : item.1 ∈ released.map Token.operator := top ▸ List.mem_map_of_mem member
  obtain ⟨op, _, same⟩ := List.mem_map.mp mapped
  rw [Token.isUnmarked, ← same]
  exact ⟨rfl, rfl, rfl⟩

/-- Operators from the top of the stack may come next in the output. -/
theorem emit (traces : yard.Traces tokens output (front ++ back))
    (top : front.map Prod.fst = released.map Token.operator) {kept : List Held}
    (bottom : back.map Prod.fst = kept.map Held.token) :
    Traces ⟨yard.emit released, kept⟩ tokens (output ++ front) back where
  output_eq := by rw [List.map_append, traces.output_eq, top, toList_emit]
  waiting_eq := bottom
  whole := by
    have unmarked := List.filter_eq_self.mpr fun item member => (unmatched_of_released top item member).1
    have order := traces.whole
    rwa [List.filter_append, unmarked, ← List.append_assoc] at order
  placed := fun item member => traces.placed item (List.mem_append_right _ member)
  descends := (List.pairwise_append.mp traces.descends).2.1
  unclosed := by
    have none : front.filter (·.1.isOpening) = [] := by
      apply List.filter_eq_nil_iff.mpr
      intro item member
      rw [(unmatched_of_released top item member).2.1]
      exact Bool.false_ne_true
    have marks := traces.unclosed
    rwa [List.filter_append, none, List.nil_append] at marks
  unended := fun item member => traces.unended item (List.mem_append_right _ member)
  ordered := by
    -- Whatever is put out before an item of the front, no group that the item stands in has ended.
    have last (first : Token × Nat) {item : Token × Nat} (member : item ∈ front) : Token.InOrder tokens first item :=
      traces.inOrder_waiting first (List.mem_append_left _ member) (unmatched_of_released top item member).2.2
    refine List.pairwise_append.mpr ⟨traces.ordered, ?_, fun first _ item member => last first member⟩
    exact List.pairwise_of_forall_mem_list fun first _ item member => last first member

end

/-- What is released goes to the output in the order in which it comes off the stack. -/
theorem release (traces : yard.Traces tokens output waiting) (yields : Operator → Bool) :
    ∃ front back, waiting = front ++ back ∧
      Traces ⟨yard.emit (Held.release yields yard.held).1, (Held.release yields yard.held).2⟩ tokens (output ++ front)
        back := by
  have split := traces.waiting_eq
  rw [← Held.release_append yields yard.held, List.map_append, List.map_map] at split
  obtain ⟨front, back, rfl, top, bottom⟩ := List.map_eq_append_iff.mp split
  exact ⟨front, back, rfl, traces.emit top bottom⟩

theorem placed_append (traces : yard.Traces tokens output waiting) (token : Token) {item : Token × Nat}
    (waits : item ∈ waiting) : item ∈ (tokens ++ [token]).zipIdx := by
  rw [Token.zipIdx_append_singleton]
  exact List.mem_append_left _ (traces.placed item waits)

theorem ordered_append (traces : yard.Traces tokens output waiting) (token : Token) :
    output.Pairwise (Token.InOrder (tokens ++ [token])) := by
  apply List.Pairwise.imp_of_mem ?_ traces.ordered
  intro first second here _ order
  exact order.append (Token.place_lt (traces.output_placed here))

/-- Only the mark of its end makes a group end. -/
theorem unended_append (traces : yard.Traces tokens output waiting) {token : Token} (goesOn : token.isClosing = false)
    {item : Token × Nat} (waits : item ∈ waiting) {start stop : Nat}
    (group : Token.Group (tokens ++ [token]) start stop) (above : start < item.2) : stop ≤ item.2 := by
  rcases Nat.lt_or_eq_of_le group.stop_le with inside | rfl
  · exact traces.unended item waits start stop (group.of_append inside) above
  · obtain ⟨closes, _⟩ := group.ends
    cases goesOn.symm.trans closes

theorem single (traces : yard.Traces tokens output waiting) (negated : Bool) (cls : CharClass) :
    Traces { yard with output := yard.output.push (.single negated cls) } (tokens ++ [.single negated cls])
      (output ++ [(.single negated cls, tokens.length)]) waiting where
  output_eq := by rw [List.map_append, traces.output_eq, Array.toList_push]; rfl
  waiting_eq := traces.waiting_eq
  whole := by
    rw [Token.zipIdx_append_singleton, List.filter_append, List.append_assoc]
    apply (List.perm_append_comm.append_left output).trans
    rw [← List.append_assoc]
    exact traces.whole.append_right _
  placed := fun item waits => traces.placed_append _ waits
  descends := traces.descends
  unclosed := traces.unclosed.append (.of_plain rfl)
  unended := fun item waits start stop => traces.unended_append rfl waits
  ordered := by
    refine List.pairwise_append.mpr ⟨traces.ordered_append _, List.pairwise_singleton _ _, ?_⟩
    intro first here second there earlier
    rw [List.mem_singleton.mp there] at earlier
    exact (Nat.lt_asymm earlier (Token.place_lt (traces.output_placed here))).elim

/-- An operator, or the mark of a group that begins, waits above all that waited before. -/
theorem push (traces : yard.Traces tokens output waiting) (top : Held) :
    Traces { yard with held := top :: yard.held } (tokens ++ [top.token]) output
      ((top.token, tokens.length) :: waiting) where
  output_eq := traces.output_eq
  waiting_eq := by rw [List.map_cons, List.map_cons, traces.waiting_eq]
  whole := by
    rw [Token.zipIdx_append_singleton, List.filter_append]
    cases top with
    | operator op => exact List.perm_middle.trans ((traces.whole.cons _).trans (List.perm_append_singleton _ _).symm)
    | opening start => simpa [Held.token, Token.isUnmarked, Token.isGroupMark] using traces.whole
  placed := by
    intro item waits
    rcases List.mem_cons.mp waits with rfl | below
    · rw [Token.zipIdx_append_singleton]
      exact List.mem_append_right _ List.mem_cons_self
    · exact traces.placed_append _ below
  descends := traces.descends.cons fun item below => Token.place_lt (traces.placed item below)
  unclosed := by
    cases top with
    | operator op => exact traces.unclosed.append (.of_plain rfl)
    | opening start => exact .some traces.unclosed .nil
  unended := by
    intro item waits start stop group above
    rcases List.mem_cons.mp waits with rfl | below
    · exact group.stop_le
    · have goesOn : top.token.isClosing = false := by cases top <;> rfl
      exact traces.unended_append goesOn below group above
  ordered := traces.ordered_append _

/-- When a group ends, the mark of its beginning leaves the stack, and what waits below stands before that mark. -/
theorem close (traces : yard.Traces tokens output waiting) {first : Nat} {below : List Held}
    (held : yard.held = .opening first :: below) (stop : Nat) :
    ∃ rest, Traces { yard with held := below } (tokens ++ [.closing stop]) output rest := by
  have split := traces.waiting_eq
  rw [held, List.map_cons] at split
  obtain ⟨⟨mark, place⟩, rest, rfl, rfl, bottom⟩ := List.map_eq_cons_iff.mp split
  have marks := traces.unclosed
  rw [List.filter_cons_of_pos rfl] at marks
  have earlier := List.pairwise_cons.mp traces.descends
  refine ⟨rest, traces.output_eq, bottom, ?_, ?_, earlier.2, marks.closing stop, ?_, traces.ordered_append _⟩
  · rw [Token.zipIdx_append_singleton, List.filter_append]
    simpa [Held.token, Token.isUnmarked, Token.isGroupMark] using traces.whole
  · exact fun item waits => traces.placed_append _ (List.mem_cons_of_mem _ waits)
  · intro item waits start stop group above
    rcases Nat.lt_or_eq_of_le group.stop_le with inside | rfl
    · exact traces.unended item (List.mem_cons_of_mem _ waits) start stop (group.of_append inside) above
    · -- The group that ends here began at the mark that leaves, so nothing that still waits stands in it.
      obtain ⟨_, before, _, inner, same, balanced, rfl⟩ := group.ends
      have innermost := marks.innermost same balanced
      have lower := earlier.1 item waits
      omega

theorem step (traces : yard.Traces tokens output waiting) {token : Token} {next : Yard}
    (stepped : yard.step token = .ok next) : ∃ output waiting, next.Traces (tokens ++ [token]) output waiting := by
  cases token with
  | single negated cls =>
    cases stepped
    exact ⟨_, _, traces.single negated cls⟩
  | operator op =>
    cases stepped
    obtain ⟨_, _, _, released⟩ := traces.release fun waiting => op.precedence ≤ waiting.precedence
    exact ⟨_, _, released.push (.operator op)⟩
  | opening offset =>
    cases stepped
    exact ⟨_, _, traces.push (.opening offset)⟩
  | closing offset =>
    obtain ⟨_, _, _, found, rfl⟩ := of_step_closing stepped
    obtain ⟨_, _, _, released⟩ := traces.release fun _ => true
    rw [found] at released
    obtain ⟨_, closed⟩ := released.close rfl offset
    exact ⟨_, _, closed⟩

theorem steps (traces : yard.Traces tokens output waiting) {more : List Token} {last : Yard}
    (steps : more.foldlM Yard.step yard = .ok last) :
    ∃ output waiting, last.Traces (tokens ++ more) output waiting := by
  induction more generalizing yard tokens output waiting with
  | nil =>
    cases steps
    rw [List.append_nil]
    exact ⟨output, waiting, traces⟩
  | cons token more ih =>
    obtain ⟨next, stepped, rest⟩ := of_steps_cons steps
    obtain ⟨_, _, after⟩ := traces.step stepped
    rw [List.append_cons]
    exact ih after rest

end Traces

/-- After any tokens that the yard takes without a fault, it holds them, each once and in its place. -/
theorem traced {tokens : List Token} {yard : Yard} (steps : tokens.foldlM step empty = .ok yard) :
    ∃ output waiting, yard.Traces tokens output waiting :=
  Traces.start.steps steps

/-- What has been put out in the end. Nothing waits any more. -/
theorem Traces.finish {yard : Yard} {tokens ordered : List Token} {output waiting : List (Token × Nat)}
    (traces : yard.Traces tokens output waiting) (finished : yard.finish = .ok ordered) :
    ∃ placed : List (Token × Nat), placed.map Prod.fst = ordered ∧
      placed.Perm (tokens.zipIdx.filter Token.isUnmarked) ∧ placed.Pairwise (Token.InOrder tokens) := by
  obtain ⟨released, bottom, rfl⟩ := finish_ok finished
  obtain ⟨front, back, rfl, last⟩ := traces.release fun _ => true
  rw [bottom] at last
  obtain rfl := List.map_eq_nil_iff.mp last.waiting_eq
  have whole := last.whole
  rw [List.filter_nil, List.append_nil] at whole
  exact ⟨output ++ front, last.output_eq, whole, last.ordered⟩

end Yard

namespace Token

theorem pairwise_zipIdx (tokens : List Token) : tokens.zipIdx.Pairwise fun first second => first.2 < second.2 := by
  rw [← List.pairwise_map, List.zipIdx_map_snd]
  exact List.pairwise_lt_range' 1

theorem eq_of_place {tokens : List Token} {first second : Token × Nat} (here : first ∈ tokens.zipIdx)
    (there : second ∈ tokens.zipIdx) (same : first.2 = second.2) : first = second := by
  have found := List.mem_zipIdx_iff_getElem?.mp here
  rw [same, List.mem_zipIdx_iff_getElem?.mp there] at found
  exact Prod.ext (Option.some.inj found).symm same

/-- Tokens that match characters stay in the order in which they are written. -/
theorem singles_in_order {tokens : List Token} {placed : List (Token × Nat)}
    (whole : placed.Perm (tokens.zipIdx.filter isUnmarked)) (ordered : placed.Pairwise (InOrder tokens)) :
    (placed.map Prod.fst).filter isSingle = tokens.filter isSingle := by
  have unmarked : (tokens.zipIdx.filter isUnmarked).filter (·.1.isSingle) = tokens.zipIdx.filter (·.1.isSingle) := by
    rw [List.filter_filter]
    apply List.filter_congr
    intro item _
    obtain ⟨token, place⟩ := item
    cases token <;> rfl
  have same := whole.filter (·.1.isSingle)
  rw [unmarked] at same
  have ascends : (placed.filter (·.1.isSingle)).Pairwise fun first second => first.2 ≤ second.2 := by
    apply List.Pairwise.imp_of_mem ?_ (ordered.filter _)
    intro first second _ there order
    apply Nat.le_of_not_lt
    intro earlier
    cases (order earlier).1.symm.trans (List.mem_filter.mp there).2
  have written : (tokens.zipIdx.filter (·.1.isSingle)).Pairwise fun first second => first.2 ≤ second.2 :=
    ((pairwise_zipIdx tokens).imp Nat.le_of_lt).filter _
  have equal : placed.filter (·.1.isSingle) = tokens.zipIdx.filter (·.1.isSingle) := by
    apply same.eq_of_pairwise ?_ ascends written
    intro first second here there before after
    have placed := (List.mem_filter.mp (same.subset here)).1
    exact eq_of_place placed (List.mem_filter.mp there).1 (Nat.le_antisymm before after)
  calc (placed.map Prod.fst).filter isSingle = (placed.filter (·.1.isSingle)).map Prod.fst := List.filter_map
    _ = (tokens.zipIdx.filter (·.1.isSingle)).map Prod.fst := by rw [equal]
    _ = (tokens.zipIdx.map Prod.fst).filter isSingle := (List.filter_map (p := isSingle)).symm
    _ = tokens.filter isSingle := by rw [List.zipIdx_map_fst]

/-- Any tokens whose group marks balance have a reverse Polish order, and no others. It has all of them but the marks:
what matches characters comes in the written order, nothing overtakes a token that matches a character, and nothing
overtakes what stands in a group that ended before. -/
theorem reversePolish_rearranged (tokens : List Token) :
    ((∃ ordered, reversePolish tokens = .ok ordered) ↔ Balanced 0 tokens) ∧
      ∀ ordered, reversePolish tokens = .ok ordered →
        (∀ token ∈ ordered, token.isGroupMark = false) ∧
        ordered.Perm (tokens.filter fun token => !token.isGroupMark) ∧
        ordered.filter isSingle = tokens.filter isSingle ∧
        ∃ placed : List (Token × Nat), placed.map Prod.fst = ordered ∧
          placed.Perm (tokens.zipIdx.filter isUnmarked) ∧ placed.Pairwise (InOrder tokens) := by
  refine ⟨⟨?_, ?_⟩, ?_⟩
  · intro ⟨_, ended⟩
    exact balanced_of_reversePolish ended
  · intro balanced
    obtain ⟨ordered, ended, _⟩ := balanced.reversePolish
    exact ⟨ordered, ended⟩
  · intro ordered ended
    have perm := perm_of_reversePolish ended
    obtain ⟨yard, steps, finished⟩ := steps_of_reversePolish ended
    obtain ⟨_, _, traces⟩ := Yard.traced steps
    obtain ⟨placed, same, whole, inOrder⟩ := traces.finish finished
    refine ⟨?_, perm, ?_, placed, same, whole, inOrder⟩
    · intro token member
      simpa using (List.mem_filter.mp (perm.subset member)).2
    · rw [← same]
      exact singles_in_order whole inOrder

/-- In `*(a|)b` no operator has its operands. The one in the group waits until the group ends, the first to the end. -/
theorem reversePolish_rearranged_misplaced :
    ∃ tokens ordered, reversePolish tokens = .ok ordered ∧
      tokens.map text = [['*'], ['('], ['a'], ['|'], [')'], ['b']] ∧ ordered.map text = [['a'], ['|'], ['b'], ['*']] ∧
      ∃ placed : List (Token × Nat), placed.map Prod.fst = ordered ∧
        placed.Perm (tokens.zipIdx.filter isUnmarked) ∧ placed.Pairwise (InOrder tokens) := by
  have ended : reversePolish [.operator .star, .opening 1, .single false (.literal 'a' false), .operator .alternate,
      .closing 4, .single false (.literal 'b' false)] = .ok [.single false (.literal 'a' false),
        .operator .alternate, .single false (.literal 'b' false), .operator .star] := rfl
  exact ⟨_, _, ended, by decide, by decide, ((reversePolish_rearranged _).2 _ ended).2.2.2⟩

end Token

end PatternNfa
