import PatternNfa.Proofs.Counting
import PatternNfa.Proofs.PatternLanguage
import PatternNfa.Reporting

/-! What is reported on the way is what the results tell afterwards. Only occurrences that workers share may be reported
in another order, as the workers get to them. -/

namespace PatternNfa

/-- The events of a stage that may be the last one. -/
def eventsOf {α : Type} : Except PatternError α → List Event
  | .ok _ => []
  | .error error => error.events

/-- The events of a stage that is come to only if the one before it has given a result. -/
def eventsBehind {α : Type} (result : Except PatternError α) (later : α → List Event) : List Event :=
  match result with
  | .ok value => later value
  | .error _ => []

namespace Reports

section

variable {α β : Type} {work : Reporting α} {next : α → Reporting β} {events more : List Event}

theorem pure (value : α) : Reports (Pure.pure value) (.ok value) [] := by
  intro journal
  rw [List.append_nil]
  rfl

theorem silent (result : Except PatternError α) : Reports (Reporting.silent result) result [] := by
  intro journal
  rw [List.append_nil]
  rfl

theorem report (event : Event) : Reports (Reporting.report event) (.ok ()) [event] := fun _ => rfl

theorem bind {value : α} {result : Except PatternError β} (first : Reports work (.ok value) events)
    (later : Reports (next value) result more) : Reports (work >>= next) result (events ++ more) := by
  intro journal
  simp only [ExceptT.run_bind, StateT.run_bind, first journal, pure_bind]
  rw [later, List.append_assoc]

theorem stop {error : PatternError} (failed : Reports work (.error error) events) :
    Reports (work >>= next) (.error error) events := by
  intro journal
  simp only [ExceptT.run_bind, StateT.run_bind, failed journal, pure_bind]
  rfl

/-- A stage is followed by the next one unless it fails. -/
theorem stage {result : Except PatternError α} (first : Reports work result events) {after : α → Except PatternError β}
    {later : α → List Event} (rest : ∀ value, result = .ok value → Reports (next value) (after value) (later value)) :
    Reports (work >>= next) (result >>= after) (events ++ eventsBehind result later) := by
  cases result with
  | error =>
    rw [eventsBehind, List.append_nil]
    exact first.stop
  | ok value => exact first.bind (rest value rfl)

/-- A work that never fails, done for one value after the other. -/
theorem mapM {f : α → Reporting β} {g : α → β} {events : α → List Event}
    (each : ∀ value, Reports (f value) (.ok (g value)) (events value)) (values : List α) :
    Reports (values.mapM f) (.ok (values.map g)) (values.flatMap events) := by
  induction values with
  | nil => exact pure []
  | cons value rest ih =>
    rw [List.mapM_cons, List.flatMap_cons, ← List.append_nil (rest.flatMap events)]
    exact (each value).bind (ih.bind (pure _))

end

end Reports

namespace Reporting

theorem step_reports (construction : Construction) (token : Token) :
    Reports (step construction token) (construction.step token) (eventsOf (construction.step token)) := by
  cases token with
  | single negated cls => exact .pure _
  | opening | closing => exact fun _ => rfl
  | operator op =>
    have silent : eventsOf (construction.combine op) = [] := by
      unfold Construction.combine
      split
      all_goals rfl
    rw [Construction.step, silent]
    exact .silent _

theorem eventsOf_bind {α β : Type} (result : Except PatternError α) (next : α → Except PatternError β) :
    eventsOf (result >>= next) = eventsOf result ++ eventsBehind result fun value => eventsOf (next value) := by
  cases result with
  | error => exact (List.append_nil _).symm
  | ok => rfl

theorem steps_reports (tokens : List Token) (construction : Construction) :
    Reports (tokens.foldlM step construction) (tokens.foldlM Construction.step construction)
      (eventsOf (tokens.foldlM Construction.step construction)) := by
  induction tokens generalizing construction with
  | nil => exact .pure construction
  | cons token rest ih =>
    rw [List.foldlM_cons, List.foldlM_cons, eventsOf_bind]
    exact (step_reports construction token).stage fun next _ => ih next

theorem build_reports (tokens : List Token) :
    Reports (build tokens) (Nfa.ofTokens tokens) (Nfa.eventsOfTokens tokens) := by
  have told : Nfa.eventsOfTokens tokens = eventsOf (Nfa.ofTokens tokens) := by
    rw [Nfa.eventsOfTokens]
    cases Nfa.ofTokens tokens <;> rfl
  rw [told]
  cases tokens with
  | nil => exact .pure _
  | cons token rest =>
    have silent (construction : Construction) : eventsOf construction.finish = [] := by
      unfold Construction.finish
      split
      all_goals rfl
    change Reports _ (_ >>= Construction.finish) (eventsOf (_ >>= Construction.finish))
    rw [eventsOf_bind]
    refine (steps_reports (token :: rest) _).stage fun construction _ => ?_
    rw [silent]
    exact .silent _

theorem compileEvents_eq (pattern : Pattern) : pattern.compileEvents = eventsBehind pattern.read fun reading =>
    .ordered pattern (Token.render reading.ordered) :: Nfa.eventsOfTokens reading.ordered ++
      eventsBehind (Nfa.ofTokens reading.ordered) fun nfa =>
        [.compiled pattern reading.tokens.length nfa.stateCount] := by
  rw [Pattern.compileEvents]
  cases pattern.read with
  | error => rfl
  | ok reading =>
    simp only [eventsBehind]
    cases Nfa.ofTokens reading.ordered with
    | error => rfl
    | ok => rfl

theorem compile_reports (pattern : Pattern) : Reports (compile pattern) pattern.compile pattern.compileEvents := by
  rw [compileEvents_eq]
  refine (Reports.silent pattern.read).stage fun reading _ => ?_
  refine (Reports.report _).bind ?_
  nth_rewrite 1 [← bind_pure (Nfa.ofTokens reading.ordered)]
  refine (build_reports reading.ordered).stage fun nfa _ => ?_
  exact (Reports.report _).bind (.pure nfa)

section

variable [CaseMap] [Categories]

theorem consume_reports (nfa : Nfa) (input : String) (offset : Nat) (rest : List Char) (buffers : Buffers) :
    let ended := nfa.consume offset rest buffers
    Reports (consume nfa input offset rest buffers) (.ok (ended.1.isAccepted, ended.2)) (ended.1.events input) := by
  induction rest generalizing offset buffers with
  | nil =>
    simp only [consume, Nfa.consume]
    cases buffers.current.contains nfa.accept with
    | false => exact .pure (false, buffers)
    | true => exact .pure (true, buffers)
  | cons c rest ih =>
    simp only [consume, Nfa.consume]
    split
    next => exact (Reports.report (.died offset input)).bind (.pure (false, buffers.step nfa c))
    next => exact ih _ _

theorem acceptsWith_reports (nfa : Nfa) (input : String) (buffers : Buffers) :
    Reports (acceptsWith nfa input buffers) (.ok (nfa.acceptsWith input buffers))
      ((nfa.run input buffers).1.events input) :=
  consume_reports nfa input 0 input.toList (buffers.start nfa)

theorem accepts_reports (nfa : Nfa) (input : String) :
    Reports (accepts nfa input) (.ok (nfa.accepts input)) ((nfa.outcome input).events input) := by
  rw [← List.append_nil (Outcome.events _ _)]
  exact (acceptsWith_reports nfa input Buffers.empty).bind (.pure _)

/-- The events of runs over several inputs, one after the other. -/
def eventsOver (nfa : Nfa) (inputs : List String) : List Event :=
  inputs.flatMap fun input => (nfa.outcome input).events input

section

variable {nfa : Nfa} (wired : nfa.Wired)
include wired

theorem countAccepted_reports (inputs : List String) {buffers : Buffers} (valid : buffers.Valid) :
    Reports (countAccepted nfa inputs buffers) (.ok (inputs.countP nfa.accepts)) (eventsOver nfa inputs) := by
  induction inputs generalizing buffers with
  | nil => exact .pure 0
  | cons input rest ih =>
    have told := acceptsWith_reports nfa input buffers
    rw [Nfa.run_outcome wired valid input] at told
    rw [← Nfa.toNat_add_countP wired valid, eventsOver, List.flatMap_cons, ← List.append_nil (List.flatMap _ rest)]
    exact told.bind ((ih (Nfa.run_valid wired valid input)).bind (.pure _))

theorem occurrences_reports (text : String) :
    Reports (occurrences nfa text) (.ok (nfa.occurrences text)) (eventsOver nfa (substrings text)) := by
  rw [Nfa.occurrences, Nfa.countAccepted_eq wired]
  exact countAccepted_reports wired (substrings text) Buffers.empty_valid

/-- Workers who are told one after the other report the runs over what each of them tries. -/
theorem occurrencesBy_reports (text : String) (schedule : List (List Nat)) :
    Reports (occurrencesBy nfa text schedule) (.ok (nfa.occurrencesBy text schedule))
      (eventsOver nfa ("" :: schedule.flatMap fun starts => starts.flatMap (substringsFrom text))) := by
  have each (starts : List Nat) : Reports (countAccepted nfa (starts.flatMap (substringsFrom text)) Buffers.empty)
      (.ok (nfa.share text starts)) (eventsOver nfa (starts.flatMap (substringsFrom text))) := by
    rw [Nfa.share, Nfa.countAccepted_eq wired]
    exact countAccepted_reports wired _ Buffers.empty_valid
  have total : (schedule.map (nfa.share text)).foldl (· + ·) (nfa.accepts "").toNat =
      nfa.occurrencesBy text schedule := by
    rw [List.foldl_map, Nfa.occurrencesBy]
    cases nfa.accepts "" <;> rfl
  rw [← total, eventsOver, List.flatMap_cons, List.flatMap_assoc, ← List.append_nil (List.flatMap _ _)]
  exact (accepts_reports nfa "").bind ((Reports.mapM each schedule).bind (.pure _))

end

theorem runEvents_eq (pattern : Pattern) (inputs : List String) : pattern.runEvents inputs =
    pattern.compileEvents ++ eventsBehind pattern.compile fun nfa => eventsOver nfa inputs := by
  rw [Pattern.runEvents]
  cases pattern.compile with
  | error => rfl
  | ok => rfl

open Command

theorem countEvents_eq (ignoreCase shared : Bool) (pattern : Pattern) (text : String) :
    Action.events ignoreCase (.count pattern text shared) = (markCase ignoreCase pattern).compileEvents ++
      eventsBehind (markCase ignoreCase pattern).compile fun nfa =>
        eventsOver nfa (substrings text) ++ [.counted nfa.stateCount text.length] := by
  rw [Action.events, runEvents_eq, List.append_assoc]
  cases (markCase ignoreCase pattern).compile with
  | error => rfl
  | ok => rfl

variable (ignoreCase : Bool) (schedule : List (List Nat))

theorem perform_accept_reports (pattern : Pattern) (inputs : List String) :
    Reports (perform ignoreCase schedule (.accept pattern inputs))
      (Action.perform ignoreCase (.accept pattern inputs)) (Action.events ignoreCase (.accept pattern inputs)) := by
  rw [Action.events, runEvents_eq]
  refine (compile_reports (markCase ignoreCase pattern)).stage fun nfa _ => ?_
  rw [← List.append_nil (eventsOver nfa inputs)]
  exact (Reports.mapM (accepts_reports nfa) inputs).bind (.pure _)

theorem perform_count_reports (pattern : Pattern) (text : String) :
    Reports (perform ignoreCase schedule (.count pattern text false))
      (Action.perform ignoreCase (.count pattern text false))
      (Action.events ignoreCase (.count pattern text false)) := by
  rw [countEvents_eq]
  refine (compile_reports (markCase ignoreCase pattern)).stage fun nfa compiled => ?_
  have counted := occurrences_reports (Pattern.compile_wired compiled) text
  exact counted.bind ((Reports.report _).bind (.pure _))

theorem perform_order_reports (pattern : Pattern) : Reports (perform ignoreCase schedule (.order pattern))
    (Action.perform ignoreCase (.order pattern)) (Action.events ignoreCase (.order pattern)) := by
  have quiet : eventsBehind (markCase ignoreCase pattern).read (fun _ => []) = [] := by
    cases (markCase ignoreCase pattern).read with
    | error => rfl
    | ok => rfl
  have told : Reports (perform ignoreCase schedule (.order pattern)) (Action.perform ignoreCase (.order pattern))
      ([] ++ eventsBehind (markCase ignoreCase pattern).read fun _ => []) :=
    (Reports.silent _).stage fun _ _ => .pure _
  rwa [quiet] at told

variable {schedule}

theorem perform_shared_reports (pattern : Pattern) {text : String}
    (whole : schedule.flatten.Perm (List.range text.length)) : ∃ events,
      Reports (perform ignoreCase schedule (.count pattern text true))
        (Action.perform ignoreCase (.count pattern text true)) events ∧
      events.Perm (Action.events ignoreCase (.count pattern text true)) := by
  have told := compile_reports (markCase ignoreCase pattern)
  rw [countEvents_eq, Action.perform]
  cases compiled : (markCase ignoreCase pattern).compile with
  | error error =>
    rw [compiled] at told
    refine ⟨_, told.stop, ?_⟩
    rw [eventsBehind, List.append_nil]
  | ok nfa =>
    have wired := Pattern.compile_wired compiled
    have settled : nfa.occurrencesBy text schedule = nfa.occurrencesShared text :=
      (Nfa.occurrencesBy_eq_occurrences wired whole).trans (Nfa.occurrencesShared_eq_occurrences wired text).symm
    have counted := occurrencesBy_reports wired text schedule
    rw [settled] at counted
    rw [compiled] at told
    refine ⟨_, told.bind (counted.bind ((Reports.report _).bind (.pure _))), ?_⟩
    exact (((perm_substrings whole).flatMap_right _).append_right _).append_left _

/-- A command comes to the same result if each event is reported where it arises, and the same events are reported.
Where workers share the occurrences of a text, whose beginnings have to be dealt out once each, these events may come in
another order. -/
theorem perform_reports (action : Action)
    (whole : ∀ pattern text, action = .count pattern text true → schedule.flatten.Perm (List.range text.length)) :
    ∃ events, Reports (perform ignoreCase schedule action) (action.perform ignoreCase) events ∧
      events.Perm (action.events ignoreCase) ∧
      ((∀ pattern text, action ≠ .count pattern text true) → events = action.events ignoreCase) := by
  cases action with
  | accept pattern inputs => exact ⟨_, perform_accept_reports ignoreCase schedule pattern inputs, .rfl, fun _ => rfl⟩
  | order pattern => exact ⟨_, perform_order_reports ignoreCase schedule pattern, .rfl, fun _ => rfl⟩
  | count pattern text shared =>
    cases shared with
    | false => exact ⟨_, perform_count_reports ignoreCase schedule pattern text, .rfl, fun _ => rfl⟩
    | true =>
      obtain ⟨events, told, same⟩ := perform_shared_reports ignoreCase pattern (whole pattern text rfl)
      exact ⟨events, told, same, fun alone => absurd rfl (alone pattern text)⟩

end

end Reporting

end PatternNfa
