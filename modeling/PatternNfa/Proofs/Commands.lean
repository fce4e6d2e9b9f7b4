import PatternNfa.Proofs.Reporting

/-! Commands as a whole. A rejected pattern is reported on the last line, before anything is printed. Otherwise the
answers come in the order of the inputs. Asking for any case is the same as writing the case mark. -/

namespace PatternNfa

namespace Text

theorem consPiece_feed {pieces : List (List Char)} (some : pieces ≠ []) : consPiece '\n' pieces = [] :: pieces := by
  cases pieces with
  | nil => exact absurd rfl some
  | cons first rest => rfl

theorem consPiece_cons {c : Char} (inside : c ≠ '\n') (first : List Char) (rest : List (List Char)) :
    consPiece c (first :: rest) = (c :: first) :: rest := by
  rw [consPiece, if_neg inside]

/-- Only the last piece of a text and the first piece of what follows it come together. -/
theorem pieces_append (front : List Char) {back first : List Char} {rest : List (List Char)}
    (split : pieces back = first :: rest) : ∃ before last, pieces front = before ++ [last] ∧
      pieces (front ++ back) = before ++ (last ++ first) :: rest := by
  induction front with
  | nil => exact ⟨[], [], rfl, split⟩
  | cons c front ih =>
    obtain ⟨before, last, here, there⟩ := ih
    have left : pieces (c :: front) = consPiece c (pieces front) := rfl
    have whole : pieces (c :: front ++ back) = consPiece c (pieces (front ++ back)) := rfl
    rw [left, whole, here, there]
    by_cases feed : c = '\n'
    · subst feed
      exact ⟨[] :: before, last, consPiece_feed (by simp), consPiece_feed (by simp)⟩
    · cases before with
      | nil => exact ⟨[], c :: last, consPiece_cons feed _ _, consPiece_cons feed _ _⟩
      | cons head before => exact ⟨(c :: head) :: before, last, consPiece_cons feed _ _, consPiece_cons feed _ _⟩

theorem pieces_line {line : List Char} (single : '\n' ∉ line) : pieces (line ++ ['\n']) = [line, []] := by
  induction line with
  | nil => rfl
  | cons c rest ih =>
    obtain ⟨inside, single⟩ := not_or.mp (mt List.mem_cons.mpr single)
    have whole : pieces (c :: rest ++ ['\n']) = consPiece c (pieces (rest ++ ['\n'])) := rfl
    rw [whole, ih single, consPiece_cons (Ne.symm inside)]

/-- Text without line feeds and carriage returns. -/
def Unbroken (text : String) : Prop := ∀ c ∈ text.toList, c ≠ '\n' ∧ c ≠ '\r'

/-- A line that is added to a text is its last. It stands behind what the text has left without an end. -/
theorem lines_append (front : List Char) {line : String} (unbroken : Unbroken line) (some : line ≠ "") :
    ∃ before unended, (lines (front ++ (line.toList ++ ['\n']))).map String.ofList = before ++ [unended ++ line] ∧
      (front = [] → before = [] ∧ unended = "") := by
  have single : '\n' ∉ line.toList := fun fed => (unbroken _ fed).1 rfl
  obtain ⟨before, last, here, there⟩ := pieces_append front (pieces_line single)
  have ended : dropReturn (last ++ line.toList) = last ++ line.toList := by
    apply if_neg
    intro returned
    rw [List.getLast?_append_of_ne_nil last (mt String.toList_eq_nil_iff.mp some)] at returned
    exact (unbroken _ (List.mem_of_getLast? returned)).2 rfl
  refine ⟨(before.map dropReturn).map String.ofList, String.ofList last, ?_, ?_⟩
  · have all : before ++ [last ++ line.toList, []] = (before ++ [last ++ line.toList]) ++ [[]] := by simp
    rw [lines, there, all, List.dropLast_concat, List.getLast?_concat]
    simp [ended]
  · intro empty
    subst empty
    cases before with
    | nil => exact ⟨rfl, congrArg String.ofList (List.cons.inj here).1.symm⟩
    | cons head before => exact absurd (List.cons.inj here).2 (by simp)

end Text

namespace Text.Unbroken

instance (text : String) : Decidable (Unbroken text) :=
  List.decidableBAll (fun c => c ≠ '\n' ∧ c ≠ '\r') text.toList

theorem append {first second : String} (left : Unbroken first) (right : Unbroken second) :
    Unbroken (first ++ second) := by
  intro c member
  rw [String.toList_append] at member
  exact (List.mem_append.mp member).elim (left c) (right c)

theorem number (n : Nat) : Unbroken (toString n) := by
  intro c member
  rw [Nat.toString_eq_ofList_toDigits, String.toList_ofList] at member
  have digit := Nat.isDigit_of_mem_toDigits (by decide) (by decide) member
  constructor
  all_goals
    rintro rfl
    cases digit

theorem message (error : PatternError) : Unbroken error.message := by
  cases error with
  | unmatchedParenthesis offset => exact append (by decide) (number offset)
  | unterminatedClass offset => exact append (by decide) (number offset)
  | trailingBackslash offset => exact append (by decide) (number offset)
  | malformed fault fragments => exact append (by decide) (number fragments)

end Text.Unbroken

section

variable {ε α β γ : Type} {result : Except ε α}

theorem bind_congr_of_ok {next other : α → Except ε β} (same : ∀ value, result = .ok value → next value = other value) :
    result >>= next = result >>= other := by
  cases result with
  | error => rfl
  | ok value => exact same value rfl

theorem bind_eq_error_congr {next : α → Except ε β} {other : α → Except ε γ} {error : ε}
    (same : ∀ value, next value = .error error ↔ other value = .error error) :
    result >>= next = .error error ↔ result >>= other = .error error := by
  cases result with
  | error failure =>
    constructor
    all_goals
      intro failed
      exact congrArg Except.error (Except.error.inj failed)
  | ok value => exact same value

theorem bind_pure_eq_error_iff {f : α → β} {error : ε} :
    (result >>= fun value => pure (f value)) = .error error ↔ result = .error error := by
  have congr : (result >>= fun value => pure (f value)) = .error error ↔ result >>= pure = .error error :=
    bind_eq_error_congr fun _ => ⟨nofun, nofun⟩
  rwa [bind_pure] at congr

end

theorem Pattern.read_eq_error_iff {pattern : Pattern} {error : PatternError} :
    pattern.read = .error error ↔ pattern.tokens >>= Token.reversePolish = .error error := by
  apply bind_eq_error_congr
  intro tokens
  exact bind_pure_eq_error_iff

namespace Command

def Action.pattern : Action → Pattern
  | .accept pattern _ | .count pattern _ _ | .order pattern => pattern

def Action.withPattern (pattern : Pattern) : Action → Action
  | .accept _ inputs => .accept pattern inputs
  | .count _ text shared => .count pattern text shared
  | .order _ => .order pattern

theorem markCase_unmarked {pattern : Pattern} (unmarked : ¬ caseMark <+: pattern.toList) :
    markCase true pattern = "(?i)" ++ pattern := by
  rw [markCase, if_pos]
  · rfl
  · rw [Bool.true_and, Bool.not_eq_true', Bool.eq_false_iff]
    exact mt List.isPrefixOf_iff_prefix.mp unmarked

theorem markCase_marked {pattern : Pattern} (marked : caseMark <+: pattern.toList) :
    markCase true pattern = pattern := by
  apply if_neg
  simpa using marked

theorem Action.withPattern_pattern (action : Action) : action.withPattern action.pattern = action := by
  cases action <;> rfl

theorem joinLines_singleton (line : String) : joinLines [line] = line ++ "\n" := by
  simp [joinLines]

theorem joinLines_verdicts (inputs : List String) (accepts : String → Bool) :
    joinLines (List.zipWith (fun verdict input => s!"{verdict}\t{input}") (inputs.map accepts) inputs) =
      String.join (inputs.map fun input => (if accepts input then "true\t" else "false\t") ++ input ++ "\n") := by
  rw [joinLines, List.zipWith_map_left, List.zipWith_self, List.map_map]
  congr 2
  funext input
  rw [Function.comp_apply]
  cases accepts input <;> rfl

section

variable [CaseMap] [Categories]

/-- The error with which the pattern in force is rejected. To be printed in reverse Polish order, a pattern only has to
be read. -/
inductive Rejected (ignoreCase : Bool) : Action → PatternError → Prop where
  | accept {pattern inputs error} (failed : (markCase ignoreCase pattern).compile = .error error) :
      Rejected ignoreCase (.accept pattern inputs) error
  | count {pattern text shared error} (failed : (markCase ignoreCase pattern).compile = .error error) :
      Rejected ignoreCase (.count pattern text shared) error
  | order {pattern error} (failed : (markCase ignoreCase pattern).tokens >>= Token.reversePolish = .error error) :
      Rejected ignoreCase (.order pattern) error

/-- The exit code and the output of a command whose pattern is not rejected: a line for each input, in the order of the
inputs, or the number of occurrences, however they are counted, or the pattern in reverse Polish order. -/
inductive Answered (ignoreCase : Bool) : Action → UInt32 → String → Prop where
  | accept {pattern inputs nfa} (compiled : (markCase ignoreCase pattern).compile = .ok nfa) :
      Answered ignoreCase (.accept pattern inputs) (if ∀ input ∈ inputs, nfa.accepts input = true then 0 else 1)
        (String.join (inputs.map fun input => (if nfa.accepts input then "true\t" else "false\t") ++ input ++ "\n"))
  | count {pattern text shared nfa} (compiled : (markCase ignoreCase pattern).compile = .ok nfa) :
      Answered ignoreCase (.count pattern text shared) 0 (toString (nfa.occurrences text) ++ "\n")
  | order {pattern tokens ordered} (scanned : (markCase ignoreCase pattern).tokens = .ok tokens)
      (ended : Token.reversePolish tokens = .ok ordered) :
      Answered ignoreCase (.order pattern) 0 (Token.render ordered ++ "\n")

variable {ignoreCase : Bool} {action : Action}

theorem perform_eq_error_iff {error : PatternError} :
    action.perform ignoreCase = .error error ↔ Rejected ignoreCase action error := by
  constructor
  · intro failed
    cases action with
    | accept => exact .accept (bind_pure_eq_error_iff.mp failed)
    | count => exact .count (bind_pure_eq_error_iff.mp failed)
    | order => exact .order (Pattern.read_eq_error_iff.mp (bind_pure_eq_error_iff.mp failed))
  · intro rejected
    cases rejected with
    | accept failed | count failed => exact bind_pure_eq_error_iff.mpr failed
    | order failed => exact bind_pure_eq_error_iff.mpr (Pattern.read_eq_error_iff.mpr failed)

theorem answered_of_perform {exitCode : UInt32} {lines : List String}
    (done : action.perform ignoreCase = .ok (exitCode, lines)) :
    Answered ignoreCase action exitCode (joinLines lines) := by
  cases action with
  | accept pattern inputs =>
    obtain ⟨nfa, compiled, done⟩ := exists_of_bind done
    cases done
    have code : (if (inputs.map nfa.accepts).all id then 0 else 1 : UInt32) =
        if ∀ input ∈ inputs, nfa.accepts input = true then 0 else 1 := by simp
    rw [code, joinLines_verdicts]
    exact .accept compiled
  | count pattern text shared =>
    obtain ⟨nfa, compiled, done⟩ := exists_of_bind done
    cases done
    rw [Nfa.occurrencesShared_eq_occurrences (Pattern.compile_wired compiled), ite_self, joinLines_singleton]
    exact .count compiled
  | order pattern =>
    obtain ⟨reading, read, done⟩ := exists_of_bind done
    cases done
    obtain ⟨scanned, ended⟩ := Pattern.read_stages read
    rw [joinLines_singleton]
    exact .order scanned ended

/-- The last line that is shown is the error's. In front of it may stand what a record before it had left unended. -/
def Shows (report : Report) (error : PatternError) : Prop :=
  ∃ before unended, report.diagnostics = before ++ [unended ++ ("error: " ++ error.message)]

section

variable (wanted : Option Level)

theorem report_rejected {error : PatternError} (rejected : Rejected ignoreCase action error) :
    let report := (Invocation.mk ignoreCase action).report wanted
    report.exitCode = 2 ∧ report.output = "" ∧ Shows report error ∧
      (wanted = none → report.diagnostics = ["error: " ++ error.message]) := by
  have unbroken : Text.Unbroken ("error: " ++ error.message) := .append (by decide) (.message error)
  have line : (s!"error: {error.message}\n").toList = ("error: " ++ error.message).toList ++ ['\n'] :=
    String.toList_append
  have shown (journal : List Char) := Text.lines_append journal unbroken (by simp)
  simp only [← line] at shown
  rw [Invocation.report, perform_eq_error_iff.mpr rejected]
  refine ⟨rfl, rfl, ?_, ?_⟩
  · obtain ⟨before, unended, same, _⟩ := shown _
    exact ⟨before, unended, same⟩
  · intro silent
    subst silent
    obtain ⟨before, unended, same, none⟩ := shown []
    obtain ⟨rfl, rfl⟩ := none rfl
    rw [String.empty_append] at same
    exact same

theorem report_answered (accepted : ∀ error, ¬ Rejected ignoreCase action error) :
    let report := (Invocation.mk ignoreCase action).report wanted
    Answered ignoreCase action report.exitCode report.output ∧ (wanted = none → report.diagnostics = []) := by
  cases performed : action.perform ignoreCase with
  | error error => exact absurd (perform_eq_error_iff.mp performed) (accepted error)
  | ok done =>
    obtain ⟨exitCode, lines⟩ := done
    rw [Invocation.report, performed]
    refine ⟨answered_of_perform performed, ?_⟩
    intro silent
    subst silent
    rfl

end

theorem Answered.exitCode_ne {exitCode : UInt32} {output : String}
    (answered : Answered ignoreCase action exitCode output) : exitCode ≠ 2 := by
  cases answered with
  | accept =>
    split
    next => decide
    next => decide
  | count | order => decide

/-- Whether substrings are tried by one worker or by several shows neither in the output nor in the exit code. -/
theorem report_count (wanted : Option Level) (pattern : Pattern) (text : String) :
    let report (shared : Bool) := (Invocation.mk ignoreCase (.count pattern text shared)).report wanted
    (report true).exitCode = (report false).exitCode ∧ (report true).output = (report false).output := by
  have performed : (Action.count pattern text true).perform ignoreCase =
      (Action.count pattern text false).perform ignoreCase := by
    apply bind_congr_of_ok
    intro nfa compiled
    simp only [if_true, Bool.false_eq_true, if_false]
    rw [Nfa.occurrencesShared_eq_occurrences (Pattern.compile_wired compiled)]
  simp only [Invocation.report, performed]
  cases (Action.count pattern text false).perform ignoreCase with
  | error => exact ⟨rfl, rfl⟩
  | ok => exact ⟨rfl, rfl⟩

/-- Case is asked for by nothing but the mark in front of the pattern. -/
theorem report_marked (wanted : Option Level) (ignoreCase : Bool) (action : Action) :
    (Invocation.mk ignoreCase action).report wanted =
      (Invocation.mk false (action.withPattern (markCase ignoreCase action.pattern))).report wanted := by
  have performed : action.perform ignoreCase =
      (action.withPattern (markCase ignoreCase action.pattern)).perform false := by
    cases action <;> rfl
  have reported : action.events ignoreCase =
      (action.withPattern (markCase ignoreCase action.pattern)).events false := by
    cases action <;> rfl
  rw [Invocation.report, performed, reported]
  rfl

/-- The report of a command. The exit code is 2 just if the pattern in force is rejected; then nothing is printed, and
the last line shown is the error's. Otherwise the answers are printed, and how occurrences are counted makes no
difference. To ask for any case is to write the case mark, unless it is there already. The events are those that the
work reports as it goes, in some order if workers share the substrings. -/
theorem Invocation.report_settled (wanted : Option Level) (ignoreCase : Bool) (action : Action) :
    let report (ignoreCase : Bool) (action : Action) := (Invocation.mk ignoreCase action).report wanted
    ((report ignoreCase action).exitCode = 2 ↔ ∃ error, Rejected ignoreCase action error) ∧
    (∀ error, Rejected ignoreCase action error → (report ignoreCase action).exitCode = 2 ∧
      (report ignoreCase action).output = "" ∧ Shows (report ignoreCase action) error ∧
      (wanted = none → (report ignoreCase action).diagnostics = ["error: " ++ error.message])) ∧
    ((∀ error, ¬ Rejected ignoreCase action error) →
      Answered ignoreCase action (report ignoreCase action).exitCode (report ignoreCase action).output ∧
      (wanted = none → (report ignoreCase action).diagnostics = [])) ∧
    (∀ pattern text,
      (report ignoreCase (.count pattern text true)).exitCode =
        (report ignoreCase (.count pattern text false)).exitCode ∧
      (report ignoreCase (.count pattern text true)).output = (report ignoreCase (.count pattern text false)).output ∧
      ∀ nfa schedule, (markCase ignoreCase pattern).compile = .ok nfa →
        schedule.flatten.Perm (List.range text.length) → nfa.occurrencesBy text schedule = nfa.occurrences text) ∧
    (¬ caseMark <+: action.pattern.toList →
      report true action = report false (action.withPattern ("(?i)" ++ action.pattern))) ∧
    (caseMark <+: action.pattern.toList → report true action = report false action) ∧
    ∀ schedule,
      (∀ pattern text, action = .count pattern text true → schedule.flatten.Perm (List.range text.length)) →
      ∃ events, Reports (Reporting.perform ignoreCase schedule action) (action.perform ignoreCase) events ∧
        events.Perm (action.events ignoreCase) ∧
        ((∀ pattern text, action ≠ .count pattern text true) → events = action.events ignoreCase) := by
  intro report
  refine ⟨⟨?_, ?_⟩, ?_, ?_, ?_, ?_, ?_, fun _ => Reporting.perform_reports ignoreCase action⟩
  · intro failed
    apply Classical.byContradiction
    intro accepted
    exact (report_answered wanted (not_exists.mp accepted)).1.exitCode_ne failed
  · intro ⟨error, rejected⟩
    exact (report_rejected wanted rejected).1
  · exact fun error => report_rejected wanted
  · exact report_answered wanted
  · intro pattern text
    obtain ⟨code, printed⟩ := report_count wanted pattern text
    refine ⟨code, printed, ?_⟩
    intro nfa schedule compiled whole
    exact Nfa.occurrencesBy_eq_occurrences (Pattern.compile_wired compiled) whole
  · intro unmarked
    have same := report_marked wanted true action
    rwa [markCase_unmarked unmarked] at same
  · intro marked
    have same := report_marked wanted true action
    rwa [markCase_marked marked, Action.withPattern_pattern] at same

end

/-- A group is left open, with the offset counted behind the case mark. Without the group one of two inputs matches. -/
theorem Invocation.report_settled_spelled :
    let report (ignoreCase : Bool) (pattern : Pattern) :=
      (Invocation.mk ignoreCase (.accept pattern ["K", "x"])).report none
    (report true "k|(b").exitCode = 2 ∧ (report true "k|(b").output = "" ∧
    (report true "k|(b").diagnostics = ["error: unmatched parenthesis at offset 6"] ∧
    report true "k" = report false "(?i)k" ∧ report false "(?i)k" = ⟨1, "true\tK\nfalse\tx\n", []⟩ := by
  have rejected : Rejected true (.accept "k|(b" ["K", "x"]) (.unmatchedParenthesis 6) := .accept rfl
  obtain ⟨code, printed, _, shown⟩ := (report_settled none true (.accept "k|(b" ["K", "x"])).2.1 _ rejected
  have unmarked : ¬ caseMark <+: String.toList "k" := by decide
  have marked := (report_settled none true (.accept "k" ["K", "x"])).2.2.2.2.1 unmarked
  exact ⟨code, printed, shown rfl, marked, by decide +kernel⟩

end Command

end PatternNfa
