import PatternNfa.Proofs.CacheHistory
import PatternNfa.Proofs.PatternLanguage
import PatternNfa.Proofs.SharedBuffers

/-! What requests to a session leave behind. Under its name an automaton goes on answering as if it were alone,
whatever else is asked of the session and however often its cache is cleared. -/

namespace PatternNfa

/-- The request may give the name to an automaton. -/
def Request.Names (request : Request) (name : String) : Prop :=
  ∃ pattern, request = .get pattern name ∨ request = .compile pattern name

namespace Session

/-- The cache and the buffers are fit for use, and so is every automaton that has a name. -/
structure Sound (session : Session) : Prop where
  cache : session.cache.Valid
  buffers : session.buffers.Valid
  wired : ∀ {name : String} {handle : Handle}, session.names[name]? = some handle → handle.nfa.Wired

theorem empty_sound : empty.Sound :=
  ⟨Cache.empty_valid, Buffers.empty_valid, by simp [empty]⟩

variable {session : Session}

theorem store_sound (sound : session.Sound) {name : String} {handle : Handle} (wired : handle.nfa.Wired) :
    (session.store name handle).2.Sound where
  cache := sound.cache
  buffers := sound.buffers
  wired := by
    intro other kept found
    simp only [store, Std.HashMap.getElem?_insert] at found
    split at found
    next => cases found; exact wired
    next => exact sound.wired found

variable [CaseMap] [Categories]

/-- The session that requests leave. -/
def after (requests : List Request) : Session :=
  requests.foldl (fun session request => (session.answer request).2) empty

theorem after_concat (requests : List Request) (request : Request) :
    after (requests ++ [request]) = ((after requests).answer request).2 := by
  simp [after]

theorem replies_concat (requests : List Request) (request : Request) :
    replies (requests ++ [request]) = replies requests ++ [((after requests).answer request).1] := by
  have follows : ∀ (given : Array Reply) (session : Session),
      (requests.foldl (fun run request => (run.1.push (run.2.answer request).1, (run.2.answer request).2))
        (given, session)).2 = requests.foldl (fun session request => (session.answer request).2) session := by
    induction requests with
    | nil => exact fun _ _ => rfl
    | cons request rest ih => exact fun given session => ih _ _
  rw [replies, List.foldl_append, List.foldl_cons, List.foldl_nil, after, ← follows #[] empty]
  exact Array.toList_push

theorem answer_sound (sound : session.Sound) (request : Request) : (session.answer request).2.Sound := by
  cases request with
  | get pattern name =>
    have valid := (session.cache.apply_applied (.fetch pattern)).valid sound.cache
    have compiled := (session.cache.fetch_fetched pattern).compile_eq sound.cache
    rw [Cache.apply] at valid
    simp only [answer]
    split
    next handle cache fetched =>
      rw [fetched] at valid compiled
      have sound : Sound { session with cache } := ⟨valid, sound.buffers, sound.wired⟩
      exact store_sound sound (Pattern.compile_wired compiled.symm)
    next error cache fetched =>
      rw [fetched] at valid
      exact ⟨valid, sound.buffers, sound.wired⟩
  | compile pattern name =>
    simp only [answer]
    split
    next nfa compiled =>
      have sound : Sound { session with cache := (session.cache.issue nfa).2 } :=
        ⟨sound.cache.issue nfa, sound.buffers, sound.wired⟩
      exact store_sound sound (Pattern.compile_wired compiled)
    next => exact sound
  | size | describe => exact sound
  | clear => exact ⟨Cache.clear_valid _, sound.buffers, sound.wired⟩
  | compare => simp only [answer]; split <;> exact sound
  | accepts name input =>
    simp only [answer]
    split
    next handle found =>
      have wired := sound.wired found
      exact ⟨sound.cache, Nfa.run_valid wired (Nfa.run_valid wired sound.buffers input) input, sound.wired⟩
    next => exact sound
  | count => simp only [answer]; split <;> exact sound

theorem after_sound (requests : List Request) : (after requests).Sound := by
  induction requests using List.reverseRecOn with
  | nil => exact empty_sound
  | append_singleton requests request ih =>
    rw [after_concat]
    exact answer_sound ih request

theorem answer_names {request : Request} {name : String} (kept : ¬ request.Names name) :
    (session.answer request).2.names[name]? = session.names[name]? := by
  have apart {other : String} (handle : Handle) (different : other ≠ name) :
      (session.names.insert other handle)[name]? = session.names[name]? := by
    rw [Std.HashMap.getElem?_insert, if_neg (by simpa using different)]
  cases request with
  | get pattern other =>
    have different : other ≠ name := by rintro rfl; exact kept ⟨pattern, Or.inl rfl⟩
    simp only [answer]
    split
    next handle _ _ => exact apart handle different
    next => rfl
  | compile pattern other =>
    have different : other ≠ name := by rintro rfl; exact kept ⟨pattern, Or.inr rfl⟩
    simp only [answer]
    split
    next => exact apart _ different
    next => rfl
  | size | clear | describe => rfl
  | compare | accepts | count => simp only [answer]; split <;> rfl

theorem after_names (before later : List Request) {name : String} (kept : ∀ request ∈ later, ¬ request.Names name) :
    (after (before ++ later)).names[name]? = (after before).names[name]? := by
  induction later using List.reverseRecOn with
  | nil => rw [List.append_nil]
  | append_singleton later request ih =>
    rw [← List.append_assoc, after_concat, answer_names (kept request (by simp))]
    exact ih fun other member => kept other (by simp [member])

/-- An automaton with a name answers in the shared buffers as in fresh ones. -/
theorem answer_accepts (sound : session.Sound) {name : String} {handle : Handle}
    (named : session.names[name]? = some handle) (input : String) :
    (session.answer (.accepts name input)).1 =
      .acceptance (handle.nfa.accepts input) (handle.nfa.accepts input) (handle.nfa.accepts input) := by
  have wired := sound.wired named
  have first := Nfa.run_outcome wired sound.buffers input
  have second := Nfa.run_outcome wired (Nfa.run_valid wired sound.buffers input) input
  simp only [answer, named, Nfa.acceptsWith, first, second, Nfa.accepts]

/-- A name given for a pattern stays with the pattern's automaton until it is given again. -/
theorem after_get_names (before later : List Request) {pattern : Pattern} {nfa : Nfa} {name : String}
    (compiled : pattern.compile = .ok nfa) (kept : ∀ request ∈ later, ¬ request.Names name) :
    ∃ handle, (after (before ++ .get pattern name :: later)).names[name]? = some handle ∧ handle.nfa = nfa := by
  have given := (Cache.fetch_fetched _ pattern).compile_eq (after_sound before).cache
  rw [List.append_cons, after_names _ later kept, after_concat]
  simp only [answer]
  split
  next handle cache fetched =>
    rw [fetched, compiled] at given
    exact ⟨handle, by simp [store], Except.ok.inj given⟩
  next error cache fetched =>
    rw [fetched, compiled] at given
    cases given

end Session

/-- Calls made in turn on one cache, which is empty at first. A call for a pattern gives what compiling the pattern
gives, and a call that fails leaves the cache as it was. Two calls that succeed give one object exactly when they are
for one pattern and no clearing lies between them. The size is the number of patterns for which a call has succeeded
since the last clearing. An automaton that has a name matches and counts as it did at first, whatever a session is
asked in the meantime. -/
theorem Cache.after_answers [CaseMap] [Categories] (calls : List Call) :
    (∀ pattern, ((after calls).fetch pattern).1.map Handle.nfa = pattern.compile) ∧
    (∀ pattern error, ((after calls).fetch pattern).1 = .error error → ((after calls).fetch pattern).2 = after calls) ∧
    (∀ pattern between other first second, ((after calls).fetch pattern).1 = .ok first →
      ((after (calls ++ .fetch pattern :: between)).fetch other).1 = .ok second →
      (first.serial = second.serial ↔ pattern = other ∧ .clear ∉ between) ∧
      (first.serial = second.serial → first = second)) ∧
    (∃ patterns : Finset Pattern, (∀ pattern, pattern ∈ patterns ↔ Succeeded calls pattern) ∧
      (after calls).size = patterns.card) ∧
    ((after calls).isEmpty = true ↔ (after calls).size = 0) ∧
    ∀ before pattern nfa name later, pattern.compile = .ok nfa → (∀ request ∈ later, ¬ request.Names name) →
      let requests := before ++ .get pattern name :: later
      (∀ input, Session.replies (requests ++ [.accepts name input]) = Session.replies requests ++
        [.acceptance (nfa.accepts input) (nfa.accepts input) (nfa.accepts input)]) ∧
      ∀ text, Session.replies (requests ++ [.count name text]) = Session.replies requests ++
        [.count (nfa.occurrences text)] := by
  have valid := after_valid calls
  refine ⟨fun pattern => (fetch_fetched _ pattern).compile_eq valid,
    fun pattern _ failed => (fetch_fetched _ pattern).unchanged failed, ?_, ?_, isEmpty_iff _, ?_⟩
  · intro pattern between other first second former latter
    rw [after, List.foldl_append, List.foldl_cons] at latter
    have apart := fetch_apart valid former latter
    have again : pattern = other → .clear ∉ between → first = second := by
      rintro rfl uncleared
      exact fetch_again former latter uncleared
    exact ⟨⟨apart, fun both => congrArg Handle.serial (again both.1 both.2)⟩,
      fun serial => again (apart serial).1 (apart serial).2⟩
  · obtain ⟨patterns, held, size⟩ := size_eq_card (after calls)
    exact ⟨patterns, fun pattern => (held pattern).trans (after_holds_iff calls pattern), size⟩
  · intro before pattern nfa name later compiled kept requests
    obtain ⟨handle, named, rfl⟩ := Session.after_get_names before later compiled kept
    constructor
    · intro input
      rw [Session.replies_concat, Session.answer_accepts (Session.after_sound requests) named]
    · intro text
      simp only [Session.replies_concat, Session.answer, requests, named]

/-- The pattern `a` before and after a clearing, with a pattern between that fails. The first automaton still works. -/
theorem Cache.after_answers_cleared : ∃ first second,
    ((after []).fetch "a").1 = .ok first ∧ ((after [.fetch "a", .fetch "(", .clear]).fetch "a").1 = .ok second ∧
    first.serial ≠ second.serial ∧ first.nfa = second.nfa ∧
    Session.replies [.get "a" "first", .clear, .get "a" "second", .accepts "first" "a"] =
      Session.replies [.get "a" "first", .clear, .get "a" "second"] ++ [.acceptance true true true] := by
  obtain ⟨nfa, compiled, accepted⟩ : ∃ nfa, Pattern.compile "a" = .ok nfa ∧ nfa.accepts "a" = true := ⟨_, rfl, rfl⟩
  obtain ⟨error, failed⟩ : ∃ error, Pattern.compile "(" = .error error := ⟨_, rfl⟩
  have former : ((after []).fetch "a").1 = .ok ⟨0, nfa⟩ := by
    simp [after, empty, fetch, issue, compiled]
  have latter : ((after [.fetch "a", .fetch "(", .clear]).fetch "a").1 = .ok ⟨1, nfa⟩ := by
    simp [after, empty, apply, fetch, issue, clear, compiled, failed]
  obtain ⟨_, _, objects, _, _, served⟩ := after_answers []
  have apart := (objects "a" [.fetch "(", .clear] "a" _ _ former latter).1
  have kept := (served [] "a" nfa "first" [.clear, .get "a" "second"] compiled (by simp [Request.Names])).1 "a"
  rw [accepted] at kept
  exact ⟨_, _, former, latter, by simp [apart], rfl, kept⟩

end PatternNfa
