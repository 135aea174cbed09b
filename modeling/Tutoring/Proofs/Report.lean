import Tutoring.Http
import Tutoring.Proofs.Authorization

/-!
# What an answer tells about the lesson

A move may fail after it has moved the lesson, when there is no way into the meeting. Whatever the
collaborators answer, the result of a request tells whether the lesson was moved.

* `moveLesson_report`: at most one swap is made, and one is made if and only if the request succeeds
  or says that the lesson was started.
* `Http.respond_meets`: so does the response that a client sees.
* `moves_are_reported`: both together, with the result of a join, which changes nothing.
-/

namespace Tutoring

/-- None of the calls has changed a store. -/
def Log.Harmless (log : Log) : Prop :=
  ∀ e ∈ log, ∀ w w' : World, w.Reacts e.call e.reply w' → w' = w

theorem World.Effect.eq_of_idle {w w' : World} {e : Event} (h : w.Effect e w')
    (idle : e.changes = false) : w' = w := by
  cases h with
  | idle => rfl
  | _ => cases idle

theorem Log.harmless_of_idle {log : Log} (h : ∀ e ∈ log, e.changes = false) : log.Harmless :=
  fun e he _ _ reacts => reacts.effect.eq_of_idle (h e he)

theorem LessonError.not_retryable_of_started {e : LessonError} (h : e.started = true) :
    e.isRetryable = false := by
  cases e with
  | meetingUnavailable _ started _ =>
    obtain rfl : started = true := h
    rfl
  | _ => cases h

section Move

variable {room : LessonId → String} {user : UserId} {lesson : LessonId} {name : String} {log : Log}

theorem moveLesson_harmless {q : Program (Except LessonError MovedLesson)}
    (h : (moveLesson room user lesson name).run.After log q) (unmoved : log.moves = []) :
    log.Harmless := by
  refine Log.harmless_of_idle fun e he => ?_
  obtain ⟨_, allowed⟩ :=
    h.allowed (moveLesson_meets (fun _ => True) room user lesson name) (fun _ _ => trivial) e he
  have still : e.move? = none := List.filterMap_eq_nil_iff.1 unmoved e he
  obtain ⟨c, r⟩ := e
  cases c with
  | swapState item source target =>
    obtain _ | _ | _ := r
    · rfl
    · rfl
    · cases still
  | _ => first | rfl | exact allowed.elim

theorem MoveFailed.moves_le {e : LessonError} (h : MoveFailed log e) : log.moves.length ≤ 1 := by
  unfold MoveFailed at h
  split at h
  · obtain ⟨m, moved⟩ := h
    exact Nat.le_of_eq (congrArg List.length moved)
  · rw [h]
    exact Nat.zero_le 1

/-- A move that fails has moved the lesson just when the error says that it is started. -/
theorem MoveFailed.moved_iff {e : LessonError} (h : MoveFailed log e) :
    log.moves ≠ [] ↔ e.started = true := by
  unfold MoveFailed at h
  split at h
  · obtain ⟨m, moved⟩ := h
    simp [*]
  · simp [*]

/-- A move that succeeds has moved the item of the lesson to the state that it reports. -/
theorem MoveSucceeded.moved {m : MovedLesson} (h : MoveSucceeded user lesson name log m) :
    ∃ item source reached, log.moves = [(item, source, reached.id)] ∧ m.state = reached.name ∧
      ∃ goal, Engine.Named goal reached log := by
  obtain ⟨access, reached, ⟨goal, _, _, named, source, moved⟩, _, state⟩ := h
  exact ⟨_, source, reached, moved, state, goal, named⟩

theorem moveTerms_moves_le {R : Event → Prop} {c : Call}
    (h : (moveTerms R room user lesson name).guar log c) : log.moves.length ≤ 1 := by
  have le_of_unmoved (unmoved : log.moves = []) : log.moves.length ≤ 1 := by
    rw [unmoved]
    exact Nat.zero_le 1
  cases c with
  | findUser | findTeacherByUser | findLesson | swapState => exact le_of_unmoved h.1
  | findItem | findMachine | findMachineState | transitionExists => exact le_of_unmoved h
  | issueCredential =>
    obtain ⟨_, _, _, ⟨_, _, _, _, _, moved⟩, _⟩ := h
    exact Nat.le_of_eq (congrArg List.length moved)
  | _ => exact h.elim

/-- A move swaps one state at most. -/
theorem moveLesson_moves_le {q : Program (Except LessonError MovedLesson)}
    (h : (moveLesson room user lesson name).run.After log q) : log.moves.length ≤ 1 := by
  have meets := h.meets (moveLesson_meets (fun _ => True) room user lesson name) fun _ _ => trivial
  match q, meets with
  | .done (.ok m), (succeeded : MoveSucceeded user lesson name log m) =>
    obtain ⟨_, _, _, moved, _⟩ := succeeded.moved
    exact Nat.le_of_eq (congrArg List.length moved)
  | .done (.error e), (failed : MoveFailed log e) => exact failed.moves_le
  | .call c next, ⟨allowed, _⟩ => exact moveTerms_moves_le allowed

/-- A move that may be sent again has changed nothing. -/
theorem moveLesson_retryable {e : LessonError}
    (h : (moveLesson room user lesson name).run.After log (.done (.error e)))
    (retryable : e.isRetryable = true) : log.Harmless := by
  have failed : MoveFailed log e :=
    h.post (moveLesson_meets (fun _ => True) room user lesson name) fun _ _ => trivial
  refine moveLesson_harmless h ?_
  refine Decidable.byContradiction fun moved => ?_
  rw [LessonError.not_retryable_of_started (failed.moved_iff.1 moved)] at retryable
  cases retryable

/-- Joining a lesson changes nothing. -/
theorem joinLesson_harmless {q : Program (Except LessonError Admission)}
    (h : (joinLesson room user lesson).run.After log q) : log.Harmless := by
  refine Log.harmless_of_idle fun e he => ?_
  obtain ⟨_, allowed⟩ :=
    h.allowed (joinLesson_meets (fun _ => True) room user lesson) (fun _ _ => trivial) e he
  obtain ⟨c, r⟩ := e
  cases c with
  | _ => first | rfl | exact allowed.elim

end Move

/-! ## Responses -/

namespace Http

/-- What the details of an error body say about the lesson having been started. -/
def Response.started? (r : Response) : Option Json :=
  match r.content with
  | .json (.object fields) =>
    match fields.lookup "details" with
    | some (.object details) => details.lookup "started"
    | _ => none
  | _ => none

/-- The response tells that the lesson was moved: it is 200, or 502 with the detail that the lesson
was started. -/
def Response.TellsMove (r : Response) : Prop :=
  r.status = 200 ∨ (r.status = 502 ∧ r.started? = some (.bool true))

theorem statusOf_ne_ok (k : ErrorKind) : statusOf k ≠ 200 := by
  cases k <;> decide

/-- An error tells of a move just when it says that the lesson is started. -/
theorem errorResponse_tellsMove (e : LessonError) :
    (errorResponse e).TellsMove ↔ e.started = true := by
  constructor
  · rintro (ok | ⟨_, detail⟩)
    · exact absurd ok (statusOf_ne_ok e.kind)
    · cases e with
      | meetingUnavailable lesson started reason => exact Json.bool.inj (Option.some.inj detail)
      | _ => cases detail
  · intro h
    cases e with
    | meetingUnavailable lesson started reason =>
      obtain rfl : started = true := h
      exact .inr ⟨rfl, rfl⟩
    | _ => cases h

section Respond

variable {K : Contract} {Q : Log → Response → Prop} {log : Log} {s : Service} {r : Request}

theorem meets_gate {next : Option UserId → Program Response}
    (refused : ∀ refusal, r.user s.resolve = .error refusal → Q log refusal)
    (passed : ∀ user, (next user).Meets K Q log) : (s.gate r next).Meets K Q log := by
  unfold Service.gate
  split
  · rename_i h
    exact refused _ h
  · exact passed _

theorem meets_answer {α : Type} {status : Nat} {body : α → Json} {t : LessonTask α} :
    (answer status body t).Meets K Q log ↔
      Task.Meets K t (fun log a => Q log { status, content := .json (body a) })
        (fun log e => Q log (errorResponse e)) log := by
  unfold answer Task.Meets
  rw [Program.meets_bind]
  refine Program.meets_congr fun log result => ?_
  cases result <;> rfl

/-- What is wanted of a response to a move: it tells whether the lesson was moved. -/
def MoveTold (log : Log) (response : Response) : Prop :=
  log.moves.length ≤ 1 ∧ (log.moves ≠ [] ↔ response.TellsMove)

/-- A response that is given before anything is called. -/
theorem MoveTold.of_status {response : Response} (h : response.status ∉ [200, 502]) :
    MoveTold [] response := by
  refine ⟨Nat.zero_le 1, fun moved => absurd rfl moved, ?_⟩
  rintro (ok | ⟨dependency, _⟩)
  · exact absurd (by simp [ok]) h
  · exact absurd (by simp [dependency]) h

theorem user_refused {refusal : Response} (h : r.user s.resolve = .error refusal) :
    refusal.status ∉ [200, 502] := by
  unfold Request.user at h
  split at h
  · cases h
  · split at h
    · cases h
    · rename_i e _
      obtain rfl := Except.error.inj h
      cases e <;> simp [tokenRefusal, Response.refusal]

theorem parameter_refused {t : List Char} {refusal : Response}
    (h : parameter t = .error refusal) : refusal.status = 400 := by
  unfold parameter at h
  split at h
  · cases h
  · obtain rfl := Except.error.inj h
    rfl

theorem lessonId_refused {t : String} {refusal : Response}
    (h : lessonId t = .error refusal) : refusal.status = 400 := by
  unfold lessonId at h
  cases hr : (Id.read t : Except _ LessonId) with
  | ok id =>
    rw [hr] at h
    cases h
  | error fault =>
    rw [hr] at h
    obtain rfl := Except.error.inj h
    rfl

/-- The path of a move leads to a move, or the request cannot be read. -/
theorem handle_move (s : Service) (r : Request) (user : UserId) (id name : List Char) :
    (∃ lesson name', s.handle r user (.move id name) =
      .ok (answer 200 movedBody (moveLesson s.room user lesson name'))) ∨
    ∃ refusal, s.handle r user (.move id name) = .error refusal ∧ refusal.status = 400 := by
  cases hid : parameter id with
  | error refusal =>
    refine .inr ⟨refusal, ?_, parameter_refused hid⟩
    simp only [Service.handle, hid]
    rfl
  | ok idText =>
    cases hname : parameter name with
    | error refusal =>
      refine .inr ⟨refusal, ?_, parameter_refused hname⟩
      simp only [Service.handle, hid, hname]
      rfl
    | ok nameText =>
      cases hlesson : lessonId idText with
      | error refusal =>
        refine .inr ⟨refusal, ?_, lessonId_refused hlesson⟩
        simp only [Service.handle, hid, hname]
        show (lessonId idText >>= _) = _
        rw [hlesson]
        rfl
      | ok lesson =>
        refine .inl ⟨lesson, nameText, ?_⟩
        simp only [Service.handle, hid, hname]
        show (lessonId idText >>= _) = _
        rw [hlesson]
        rfl

/-- The calls of a request for a move make one swap at most, and the response tells of it. -/
theorem respond_meets {id name : List Char}
    (route : Route.ofPath? (path r.target.toList) = some (.move id name)) :
    (s.respond r).Meets ⟨fun _ => True, fun log _ => log.moves.length ≤ 1⟩ MoveTold [] := by
  have not_health : path r.target.toList ≠ healthPath := by
    intro h
    rw [h] at route
    exact nomatch route
  simp only [Service.respond, if_neg not_health, route]
  by_cases method : r.method ∈ methodsWith (Route.move id name).method
  · have post : r.method = "POST" := List.mem_singleton.1 method
    have shown : Response.shown r.method = fun response => response := by
      rw [post]
      rfl
    rw [if_pos method, shown, map_eq_pure_bind, Program.meets_bind]
    refine meets_gate (fun refusal h => .of_status (user_refused h)) fun user => ?_
    cases user with
    | none => exact MoveTold.of_status (by decide)
    | some user =>
      simp only [Service.serve]
      rcases handle_move s r user id name with ⟨lesson, name', handled⟩ | ⟨refusal, handled, status⟩
      · rw [handled]
        refine meets_answer.2 ((moveLesson_meets (fun _ => True) s.room user lesson name').mono
          (fun _ h => h) (fun _ _ => moveTerms_moves_le) (fun log m succeeded => ?_)
          fun log e failed => ?_)
        · obtain ⟨_, _, _, moved, _⟩ := succeeded.moved
          refine ⟨Nat.le_of_eq (congrArg List.length moved), fun _ => .inl rfl, fun _ => ?_⟩
          rw [moved]
          exact List.cons_ne_nil _ _
        · exact ⟨failed.moves_le, failed.moved_iff.trans (errorResponse_tellsMove e).symm⟩
      · rw [handled]
        refine MoveTold.of_status ?_
        rw [status]
        decide
  · rw [if_neg method, map_eq_pure_bind, Program.meets_bind]
    refine meets_gate (fun refusal h => ?_) fun _ => ?_
    · have refused : refusal.status ∉ [200, 502] := user_refused h
      exact MoveTold.of_status refused
    · exact MoveTold.of_status (show 405 ∉ [200, 502] by decide)

end Respond

end Http

/-! ## Results and responses together -/

/-- The result of a move tells what it did: whether it moved the item, where to, and for an error
after which it may be sent again, that no store was changed. -/
structure MoveReport (log : Log) (result : Except LessonError MovedLesson) : Prop where
  moved_iff : log.moves ≠ [] ↔
    (∃ m, result = .ok m) ∨ ∃ l reason, result = .error (.meetingUnavailable l true reason)
  /-- The target is the one that the store gave for the state, and so in stores in memory it is the
  number of the state. -/
  state : ∀ m, result = .ok m → ∃ item source target, log.moves = [(item, source, target)] ∧
    (∃ machine goal, ⟨.findMachineState machine goal, .ok (some ⟨target, m.state⟩)⟩ ∈ log) ∧
    ∀ d k, (∀ e ∈ log, World.Honest d k e) → target = m.state.id
  retryable : ∀ e, result = .error e → e.isRetryable = true → log.Harmless

theorem LessonError.started_iff {e : LessonError} :
    e.started = true ↔ ∃ l reason, e = .meetingUnavailable l true reason := by
  constructor
  · intro h
    cases e with
    | meetingUnavailable l started reason =>
      obtain rfl : started = true := h
      exact ⟨l, reason, rfl⟩
    | _ => cases h
  · rintro ⟨l, reason, rfl⟩
    rfl

/-- What a move has done is what it reports. -/
theorem moveLesson_report {room : LessonId → String} {user : UserId} {lesson : LessonId}
    {name : String} {log : Log} {result : Except LessonError MovedLesson}
    (h : (moveLesson room user lesson name).run.After log (.done result)) :
    MoveReport log result := by
  have meets := h.post (moveLesson_meets (fun _ => True) room user lesson name) fun _ _ => trivial
  cases result with
  | ok m =>
    obtain ⟨item, source, ⟨target, _⟩, moved, rfl, goal, named⟩ :=
      MoveSucceeded.moved (show MoveSucceeded user lesson name log m from meets)
    refine ⟨⟨fun _ => .inl ⟨m, rfl⟩, fun _ => ?_⟩, ?_, fun e he => nomatch he⟩
    · rw [moved]
      exact List.cons_ne_nil _ _
    · rintro _ ⟨rfl⟩
      refine ⟨item, source, target, moved, ?_, fun d k honest => ?_⟩
      · obtain ⟨machine, hm⟩ := named
        exact ⟨machine, goal, hm⟩
      · obtain ⟨target_eq, state_eq⟩ := State.mk.inj (named.eq honest)
        rw [target_eq, state_eq]
  | error e =>
    have failed : MoveFailed log e := meets
    refine ⟨?_, fun m hm => (nomatch hm), ?_⟩
    · rw [failed.moved_iff, LessonError.started_iff]
      simp
    · rintro _ ⟨rfl⟩ retryable
      exact moveLesson_retryable h retryable

/-- **What an answer tells about a lesson**, whatever the collaborators reply: a move swaps at most
once and its result tells whether it did, so does the response that a client sees, and a join
changes nothing and never says that the lesson was started. -/
theorem moves_are_reported (s : Http.Service) :
    (∀ user lesson name log q, (moveLesson s.room user lesson name).run.After log q →
      log.moves.length ≤ 1 ∧ ∀ result, q = .done result → MoveReport log result) ∧
    (∀ r id name log q,
      Http.Route.ofPath? (Http.path r.target.toList) = some (.move id name) →
      (s.respond r).After log q →
      log.moves.length ≤ 1 ∧ ∀ response, q = .done response →
        (log.moves ≠ [] ↔ response.status = 200 ∨
          (response.status = 502 ∧ response.started? = some (.bool true)))) ∧
    (∀ user lesson log q, (joinLesson s.room user lesson).run.After log q →
      log.Harmless ∧ ∀ l started reason, q = .done (.error (.meetingUnavailable l started reason)) →
        started = false) := by
  refine ⟨fun user lesson name log q after => ⟨moveLesson_moves_le after, ?_⟩,
    fun r id name log q route after => ?_, fun user lesson log q after => ⟨?_, ?_⟩⟩
  · rintro result rfl
    exact moveLesson_report after
  · have meets := after.meets (Http.respond_meets route) fun _ _ => trivial
    cases q with
    | done response =>
      refine ⟨meets.1, ?_⟩
      rintro _ ⟨rfl⟩
      exact meets.2
    | call c next => exact ⟨meets.1, fun _ h => nomatch h⟩
  · exact joinLesson_harmless after
  · rintro l started reason rfl
    exact after.post (joinLesson_meets (fun _ => True) s.room user lesson) fun _ _ => trivial

/-- A lesson is started, and the provider of meetings fails. -/
theorem moves_are_reported_started :
    ∃ log l reason, (moveLesson (fun _ => "") (.ofInt 2) (.ofInt 1) "start").run.After log
      (.done (.error (.meetingUnavailable l true reason))) ∧ log.moves ≠ [] := by
  have none_served : Run (LessonRequest.program fun _ => "")
    [.move (.ofInt 2) (.ofInt 1) "start"] .sample [] .sample := .start
  have served := none_served.serve (i := 0) (r := .move (.ofInt 2) (.ofInt 1) "start")
    (fun _ _ => .error (.unavailable "")) 10 rfl .start
  have after : (moveLesson (fun _ => "") (.ofInt 2) (.ofInt 1) "start").run.After _
    (.done (.error (.meetingUnavailable (.ofInt 1) true (MeetingError.unavailable "").toText))) :=
    served.2
  have report := (moves_are_reported ⟨fun _ => .error .invalidToken, fun _ => "", .epoch⟩).1
    (.ofInt 2) (.ofInt 1) "start" _ _ after
  exact ⟨_, _, _, after, (report.2 _ rfl).moved_iff.2 (.inr ⟨_, _, rfl⟩)⟩

end Tutoring
