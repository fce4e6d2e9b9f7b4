import PatternNfa.Proofs.Fragments
import PatternNfa.Proofs.Quantifiers

/-! What a fragment spells on the way from its initial state to its exit is the language of an expression, and every
operator takes the languages of its operands to that of the expression composed of theirs. -/

namespace PatternNfa

variable [CaseMap] [Categories]

def Fragment.Spells (fragment : Fragment) (states : Array State) (expr : Expr) : Prop :=
  ∀ text, Path states fragment.initial text fragment.accept ↔ expr.Denotes text

theorem Fragment.Spells.occurrence {fragment : Fragment} {states : Array State} {expr : Expr} {low high : Nat}
    (spells : fragment.Spells states expr) (block : fragment.Block states low high) {exits : List StateId}
    (only : ∀ exit ∈ exits, low ≤ exit → exit < high → exit = fragment.accept)
    {onward : StateId → List Char → Prop} {text : List Char}
    (leads : LeadsOn states exits onward fragment.initial text) :
    ∃ before after, before ++ after = text ∧ expr.Denotes before ∧ onward fragment.accept after := by
  have old := Nat.lt_of_lt_of_le block.initial.2 block.within
  obtain ⟨exit, member, before, after, same, way, next⟩ := (LeadsOn.old_iff old).mp leads
  obtain ⟨above, below⟩ := block.path_within way block.initial.1 block.initial.2
  have := only exit member above below
  subst exit
  exact ⟨before, after, same, (spells before).mp way, next⟩

theorem Fragment.Spells.congr {fragment : Fragment} {states after : Array State} {expr : Expr} {low high : Nat}
    (spells : fragment.Spells states expr) (block : fragment.Block states low high)
    (grown : states.size ≤ after.size) (same : ∀ id, low ≤ id → id < high → after[id]? = states[id]?) :
    fragment.Spells after expr := by
  intro text
  rw [← spells text]
  constructor
  · intro way
    exact (block.congr grown same).path_congr (fun id above below => (same id above below).symm) way
      block.initial.1 block.initial.2
  · intro way
    exact block.path_congr same way block.initial.1 block.initial.2

/-- What is left to be spelled at a hub: nothing where the operand has ended, and an expression elsewhere. -/
def Remaining (ended : List StateId) (expr : Expr) (id : StateId) (text : List Char) : Prop :=
  if id ∈ ended then text = [] else expr.Denotes text

theorem remaining_ended {ended : List StateId} {expr : Expr} {id : StateId} {text : List Char} (member : id ∈ ended) :
    Remaining ended expr id text ↔ text = [] := by rw [Remaining, if_pos member]

theorem remaining_going {ended : List StateId} {expr : Expr} {id : StateId} {text : List Char} (going : id ∉ ended) :
    Remaining ended expr id text ↔ expr.Denotes text := by rw [Remaining, if_neg going]

namespace Construction

variable {states : Array State} {low middle : Nat} {first second inner : Fragment} {left right operand : Expr}

section

variable (spells : inner.Spells states operand)
include spells

/-- A fork between the operand and the end, to which the operand's exit leads back, spells repetitions. -/
private theorem path_of_repetition {after : Array State} {fork accept : StateId} {text : List Char}
    (lift : ∀ {text}, Path states inner.initial text inner.accept → Path after inner.initial text inner.accept)
    (found : after[fork]? = some (.fork inner.initial accept)) (back : Path after inner.accept [] fork)
    (denotes : Expr.Denotes (.quantified .star operand) text) : Path after fork text accept := by
  apply denotes.star_induction
  · exact .forkSecond found (.stay accept)
  · intro before rest once _ ih
    exact .forkFirst found ((lift ((spells before).mpr once)).trans (back.trans ih))

variable (block : inner.Block states low states.size)
include block

private theorem occurrence_one {onward : StateId → List Char → Prop} {text : List Char}
    (leads : LeadsOn states [inner.accept] onward inner.initial text) :
    ∃ before after, before ++ after = text ∧ operand.Denotes before ∧ onward inner.accept after :=
  spells.occurrence block (fun _ member _ _ => List.mem_singleton.mp member) leads

private theorem again_of_leadsOn {next : StateId} {text : List Char}
    (moves : next ∈ [inner.initial, states.size, states.size + 1])
    (leads : LeadsOn states [inner.accept] (Remaining [states.size] (.quantified .star operand)) next text) :
    Expr.Denotes (.quantified .star operand) text := by
  simp only [List.mem_cons, List.not_mem_nil, or_false] at moves
  rcases moves with rfl | rfl | rfl
  · obtain ⟨before, after, rfl, once, again⟩ := occurrence_one spells block leads
    rw [remaining_going (by simpa using Nat.ne_of_lt block.accept.2)] at again
    exact .starMore once again
  · rw [LeadsOn.new_iff (Nat.le_refl _), remaining_ended List.mem_cons_self] at leads
    subst text
    exact .starNone
  · rw [LeadsOn.new_iff (Nat.le_succ _), remaining_going (by simp)] at leads
    exact leads

private theorem leadsOn_again {after : Array State} {state : State}
    (rewired : Rewired states after low [inner.accept]
      [(inner.accept, state), (states.size, .exit), (states.size + 1, .fork inner.initial states.size)])
    (round : state.emptyMoves ⊆ [inner.initial, states.size, states.size + 1])
    {start : StateId} {text : List Char} (way : Path after start text states.size) (inside : low ≤ start) :
    LeadsOn states [inner.accept] (Remaining [states.size] (.quantified .star operand)) start text := by
  apply rewired.leadsOn _ way inside
  · rw [LeadsOn.new_iff (Nat.le_refl _), remaining_ended List.mem_cons_self]
  · intro hub member next moves rest leads
    simp only [List.mem_cons, List.not_mem_nil, or_false] at member
    rcases member with rfl | rfl | rfl
    · rw [remaining_going (by simpa using Nat.ne_of_lt block.accept.2)]
      exact again_of_leadsOn spells block (round moves) leads
    · cases moves
    · rw [remaining_going (by simp)]
      apply again_of_leadsOn spells block _ leads
      simp only [State.emptyMoves, State.successors, List.mem_cons, List.not_mem_nil, or_false] at moves ⊢
      exact moves.imp_right Or.inl

theorem star_spells : (quantify states inner .star).2.Spells (quantify states inner .star).1
    (.quantified .star operand) := by
  intro text
  change Path _ (states.size + 1) text states.size ↔ _
  have rewired := star_rewired block
  have again := rewired.found _ List.mem_cons_self
  have entry := rewired.found _ (List.mem_cons_of_mem _ (List.mem_cons_of_mem _ List.mem_cons_self))
  have old := block.accept.2
  constructor
  · intro way
    have leads := leadsOn_again spells block rewired (by simp [State.emptyMoves, State.successors]) way
      (Nat.le_succ_of_le (Nat.le_of_lt block.low_lt))
    exact again_of_leadsOn spells block (by simp) leads
  · intro denotes
    cases denotes with
    | starNone => exact .forkSecond entry (.stay _)
    | @starMore _ before after once more =>
      have loop := path_of_repetition spells rewired.lift again (.stay _) more
      exact .forkFirst entry ((rewired.lift ((spells before).mpr once)).trans loop)

/-- The operand's own entry is that of the whole, so the fork is reached only once the operand has occurred. -/
theorem plus_spells : (quantify states inner .plus).2.Spells (quantify states inner .plus).1
    (.quantified .plus operand) := by
  intro text
  change Path _ inner.initial text states.size ↔ _
  have rewired := plus_rewired block
  have back := rewired.found _ List.mem_cons_self
  have gate := rewired.found _ (List.mem_cons_of_mem _ (List.mem_cons_of_mem _ List.mem_cons_self))
  have old := block.accept.2
  constructor
  · intro way
    have leads := leadsOn_again spells block rewired (by simp [State.emptyMoves, State.successors]) way block.initial.1
    obtain ⟨before, after, rfl, once, more⟩ := occurrence_one spells block leads
    rw [remaining_going (by simpa using Nat.ne_of_lt old)] at more
    exact .plus once more
  · intro denotes
    cases denotes with
    | @plus _ before after once more =>
      have loop := path_of_repetition spells rewired.lift gate (.jump back (.stay _)) more
      exact (rewired.lift ((spells before).mpr once)).trans (.jump back loop)

theorem optional_spells : (quantify states inner .optional).2.Spells (quantify states inner .optional).1
    (.quantified .optional operand) := by
  intro text
  change Path _ states.size text inner.accept ↔ _
  have rewired := optional_rewired block
  have entry := rewired.found _ (List.mem_cons_of_mem _ List.mem_cons_self)
  have old := block.accept.2
  have going : states.size ∉ [inner.accept] := by simpa using Nat.ne_of_gt old
  constructor
  · intro way
    have leads : LeadsOn states [inner.accept] (Remaining [inner.accept] (.quantified .optional operand))
        states.size text := by
      apply rewired.leadsOn _ way (Nat.le_of_lt block.low_lt)
      · exact .of_exit List.mem_cons_self ((remaining_ended List.mem_cons_self).mpr rfl)
      · intro hub member next moves rest leads
        simp only [List.mem_cons, List.not_mem_nil, or_false] at member
        rcases member with rfl | rfl
        · cases moves
        · rw [remaining_going going]
          simp only [State.emptyMoves, State.successors, List.mem_cons, List.not_mem_nil, or_false] at moves
          rcases moves with rfl | rfl
          · obtain ⟨before, after, rfl, once, done⟩ := occurrence_one spells block leads
            rw [(remaining_ended List.mem_cons_self).mp done, List.append_nil]
            exact .optionalOnce once
          · rw [(remaining_ended List.mem_cons_self).mp (leads.at_exit block.exit_accept)]
            exact .optionalNone
    rwa [LeadsOn.new_iff (Nat.le_refl _), remaining_going going] at leads
  · intro denotes
    cases denotes with
    | optionalNone => exact .forkSecond entry (.stay _)
    | optionalOnce once => exact .forkFirst entry (rewired.lift ((spells text).mpr once))

theorem quantify_spells (quantifier : Quantifier) :
    (quantify states inner quantifier).2.Spells (quantify states inner quantifier).1
      (.quantified quantifier operand) := by
  cases quantifier with
  | star => exact star_spells spells block
  | plus => exact plus_spells spells block
  | optional => exact optional_spells spells block

end

section

variable (spellsFirst : first.Spells states left) (spellsSecond : second.Spells states right)
  (leftBlock : first.Block states low middle) (rightBlock : second.Block states middle states.size)
include spellsFirst leftBlock rightBlock

private theorem occurrence_first {onward : StateId → List Char → Prop} {text : List Char}
    (leads : LeadsOn states [first.accept, second.accept] onward first.initial text) :
    ∃ before after, before ++ after = text ∧ left.Denotes before ∧ onward first.accept after := by
  apply spellsFirst.occurrence leftBlock _ leads
  intro exit member above below
  have behind := rightBlock.accept.1
  simp only [List.mem_cons, List.not_mem_nil, or_false] at member
  rcases member with same | same
  · exact same
  · exact absurd below (Nat.not_lt_of_le (same ▸ behind))

omit spellsFirst in
include spellsSecond in
private theorem occurrence_second {onward : StateId → List Char → Prop} {text : List Char}
    (leads : LeadsOn states [first.accept, second.accept] onward second.initial text) :
    ∃ before after, before ++ after = text ∧ right.Denotes before ∧ onward second.accept after := by
  apply spellsSecond.occurrence rightBlock _ leads
  intro exit member above below
  have ahead := leftBlock.accept.2
  simp only [List.mem_cons, List.not_mem_nil, or_false] at member
  rcases member with same | same
  · exact absurd above (Nat.not_le_of_lt (same ▸ ahead))
  · exact same

include spellsSecond

theorem concat_spells : (concat states first second).2.Spells (concat states first second).1
    (.concat left right) := by
  intro text
  change Path _ first.initial text second.accept ↔ _
  have rewired := concat_rewired leftBlock rightBlock
  have bridge := rewired.found _ List.mem_cons_self
  have going : first.accept ∉ [second.accept] := by
    intro member
    apply Nat.ne_of_lt (Nat.lt_of_lt_of_le leftBlock.accept.2 rightBlock.accept.1)
    exact List.mem_singleton.mp member
  constructor
  · intro way
    have leads : LeadsOn states [first.accept, second.accept] (Remaining [second.accept] right)
        first.initial text := by
      apply rewired.leadsOn _ way leftBlock.initial.1
      · exact .of_exit (List.mem_cons_of_mem _ List.mem_cons_self) ((remaining_ended List.mem_cons_self).mpr rfl)
      · intro hub member next moves rest leads
        simp only [List.mem_cons, List.not_mem_nil, or_false] at member
        rcases member with rfl | rfl
        · rw [remaining_going going]
          have := List.mem_singleton.mp moves
          subst next
          obtain ⟨before, after, rfl, once, done⟩ := occurrence_second spellsSecond leftBlock rightBlock leads
          rw [(remaining_ended List.mem_cons_self).mp done, List.append_nil]
          exact once
        · cases moves
    obtain ⟨before, after, rfl, once, more⟩ := occurrence_first spellsFirst leftBlock rightBlock leads
    rw [remaining_going going] at more
    exact .concat once more
  · intro denotes
    cases denotes with
    | concat once more =>
      exact (rewired.lift ((spellsFirst _).mpr once)).trans (.jump bridge (rewired.lift ((spellsSecond _).mpr more)))

theorem alternate_spells : (alternate states first second).2.Spells (alternate states first second).1
    (.alternate left right) := by
  intro text
  change Path _ (states.size + 1) text states.size ↔ _
  have rewired := alternate_rewired leftBlock rightBlock
  have exitFirst := rewired.found _ List.mem_cons_self
  have exitSecond := rewired.found _ (List.mem_cons_of_mem _ List.mem_cons_self)
  have entry := rewired.found (states.size + 1, .fork first.initial second.initial) (by simp)
  have inside : low ≤ states.size + 1 := by
    have := leftBlock.low_lt
    have := rightBlock.low_lt
    omega
  have going : states.size + 1 ∉ [first.accept, second.accept, states.size] := by
    have before := Nat.lt_of_lt_of_le leftBlock.accept.2 leftBlock.within
    intro member
    simp only [List.mem_cons, List.not_mem_nil, or_false] at member
    rcases member with same | same | same
    · exact absurd same (Nat.ne_of_gt (Nat.lt_succ_of_lt before))
    · exact absurd same (Nat.ne_of_gt (Nat.lt_succ_of_lt rightBlock.accept.2))
    · exact absurd same (Nat.succ_ne_self _)
  constructor
  · intro way
    have ended {rest : List Char} (leads : LeadsOn states [first.accept, second.accept]
        (Remaining [first.accept, second.accept, states.size] (.alternate left right)) states.size rest) :
        rest = [] := by
      rwa [LeadsOn.new_iff (Nat.le_refl _), remaining_ended (by simp)] at leads
    have leads : LeadsOn states [first.accept, second.accept]
        (Remaining [first.accept, second.accept, states.size] (.alternate left right)) (states.size + 1) text := by
      apply rewired.leadsOn _ way inside
      · rw [LeadsOn.new_iff (Nat.le_refl _), remaining_ended (by simp)]
      · intro hub member next moves rest leads
        simp only [List.mem_cons, List.not_mem_nil, or_false] at member
        rcases member with rfl | rfl | rfl | rfl
        · rw [remaining_ended (by simp)]
          exact ended (List.mem_singleton.mp moves ▸ leads)
        · rw [remaining_ended (by simp)]
          exact ended (List.mem_singleton.mp moves ▸ leads)
        · cases moves
        · rw [remaining_going going]
          simp only [State.emptyMoves, State.successors, List.mem_cons, List.not_mem_nil, or_false] at moves
          rcases moves with rfl | rfl
          · obtain ⟨before, after, rfl, once, done⟩ := occurrence_first spellsFirst leftBlock rightBlock leads
            rw [(remaining_ended (by simp)).mp done, List.append_nil]
            exact .left once
          · obtain ⟨before, after, rfl, once, done⟩ := occurrence_second spellsSecond leftBlock rightBlock leads
            rw [(remaining_ended (by simp)).mp done, List.append_nil]
            exact .right once
    rwa [LeadsOn.new_iff (Nat.le_succ _), remaining_going going] at leads
  · intro denotes
    cases denotes with
    | left chosen =>
      rw [← List.append_nil text]
      exact .forkFirst entry ((rewired.lift ((spellsFirst text).mpr chosen)).trans (.jump exitFirst (.stay _)))
    | right chosen =>
      rw [← List.append_nil text]
      exact .forkSecond entry ((rewired.lift ((spellsSecond text).mpr chosen)).trans (.jump exitSecond (.stay _)))

end

theorem single_spells (construction : Construction) (negated : Bool) (cls : CharClass) :
    Fragment.Spells ⟨construction.states.size + 1, construction.states.size⟩
      (construction.single ⟨negated, cls.chars⟩).states (.single negated cls) := by
  intro text
  have entry : (construction.single ⟨negated, cls.chars⟩).states[construction.states.size + 1]? =
      some (.consume ⟨negated, cls.chars⟩ construction.states.size) := by
    simp only [single, Array.getElem?_push, Array.size_push, if_true]
  have exit : (construction.single ⟨negated, cls.chars⟩).states[construction.states.size]? = some .exit := by
    simp only [single, Array.getElem?_push, Array.size_push, if_true]
    exact if_neg (Nat.ne_of_lt (Nat.lt_succ_self _))
  constructor
  · intro way
    obtain ⟨c, rest, rfl, accepted, after⟩ := Path.of_consume entry way (Nat.succ_ne_self _)
    obtain ⟨rfl, _⟩ := Path.of_exit exit after
    exact .single accepted
  · intro denotes
    cases denotes with
    | single accepted => exact .consume entry accepted (.stay _)

end Construction

end PatternNfa
