import Tutoring.Proofs.Compensation
import Tutoring.Proofs.Gate
import Tutoring.Proofs.Scripts

/-!
# Failures of stores decide the result

When a call of a store fails, the request is over, and its result is that failure. Only the calls
that undo a booking may fail without a trace.

* `Task.Tells`: if a call of a store fails in a task, the task ends with a failure of the database.
  There is one lemma for each part of a request, put together by `Task.Tells.bind`.
* `Http.respond_tells`: the response is then 500 with a fixed message.
* `Http.respond_broken`: so it is over a database, whatever statement fails or cannot be read.
-/

namespace Tutoring

/-! ## Tasks -/

/-- A call of a store has failed, and not one that undoes a booking. -/
def Event.breaks (e : Event) : Bool :=
  !e.call.undoes && e.call.collaborator ≠ .meetings && e.failed

/-- No call of a store has failed, up to those that undo a booking. -/
def Log.Intact (log : Log) : Prop := ∀ e ∈ log, e.breaks = false

theorem Log.Intact.cons {e : Event} {log : Log} (h : log.Intact) (he : e.breaks = false) :
    Log.Intact (e :: log) :=
  List.forall_mem_cons.2 ⟨he, h⟩

/-- Stores in a database: whenever they fail, it is a failure of the database. -/
def databaseTerms : Contract where
  rely e := ∀ f, e.call.failed? f = some e.reply → f.code = .databaseError
  guar _ _ := True

/-- If a call of a store fails in the task, the task ends with a failure of the database. -/
def Task.Tells {ε α : Type} (code : ε → ErrorCode) (t : Task ε α) : Prop :=
  ∀ log : Log, log.Intact → Task.Meets databaseTerms t (fun log _ => log.Intact)
    (fun log e => log.Intact ∨ code e = .databaseError) log

namespace Task.Tells

variable {ε α β : Type} {code : ε → ErrorCode}

theorem pure (a : α) : Task.Tells code (Pure.pure a : Task ε α) := fun _ h => h

theorem throw (e : ε) : Task.Tells code (MonadExcept.throw e : Task ε α) := fun _ h => .inl h

/-- Two tasks tell of a fault one after the other. -/
theorem bind {t : Task ε α} {f : α → Task ε β} (h : Task.Tells code t)
    (onward : ∀ a, Task.Tells code (f a)) : Task.Tells code (t >>= f) := by
  intro log intact
  rw [Task.meets_bind]
  exact (h log intact).mono (fun _ h => h) (fun _ _ h => h) (fun log a intact => onward a log intact)
    fun _ _ h => h

/-- Nothing comes after an error. -/
theorem throw_bind (e : ε) (f : α → Task ε β) :
    Task.Tells code (MonadExcept.throw e >>= f) := fun _ h => .inl h

theorem map {t : Task ε α} {f : α → β} (h : Task.Tells code t) : Task.Tells code (f <$> t) := by
  rw [map_eq_pure_bind]
  exact .bind h fun a => .pure _

theorem check (r : Except ε α) : Task.Tells code (Task.check r) := by
  cases r with
  | ok a => exact .pure a
  | error e => exact .throw e

theorem demand (e : ε) (o : Option α) : Task.Tells code (Task.demand e o) := by
  cases o with
  | some a => exact .pure a
  | none => exact .throw e

theorem ite {c : Prop} [Decidable c] {t u : Task ε α} (pos : Task.Tells code t)
    (neg : Task.Tells code u) : Task.Tells code (if c then t else u) := by
  split
  · exact pos
  · exact neg

/-- A call of a store passes its failure on. -/
theorem ask {c : Call} {wrap : c.Error → ε}
    (wraps : ∀ e, ∃ f, c.failed? f = some (.error e) ∧ code (wrap e) = f.code) :
    Task.Tells code (Task.ask c wrap) := by
  intro log intact
  rw [Task.meets_ask]
  refine ⟨trivial, fun a _ => intact.cons ?_, fun e relied => .inr ?_⟩
  · simp [Event.breaks, Event.failed, Except.isOk, Except.toBool]
  · obtain ⟨f, failed, code_eq⟩ := wraps e
    rw [code_eq]
    exact relied f failed

end Task.Tells

namespace Engine

theorem load_tells (item : ItemId) : Task.Tells EngineError.code (load item) :=
  .bind (.ask fun e => ⟨e, rfl, rfl⟩) fun _ => .demand _ _

theorem current_tells (item : ItemId) : Task.Tells EngineError.code (current item) :=
  .bind (load_tells item) fun _ => .pure _

theorem available_tells (item : ItemId) : Task.Tells EngineError.code (available item) :=
  .bind (load_tells item) fun _ => .ask (c := .nextStates _ _) fun e => ⟨e, rfl, rfl⟩

theorem create_tells (machine : MachineName) : Task.Tells EngineError.code (create machine) :=
  .bind (.ask fun e => ⟨e, rfl, rfl⟩) fun _ => .bind (.demand _ _) fun _ =>
    .ask (c := .insertItem _ _) fun e => ⟨e, rfl, rfl⟩

/-- Whichever attempt meets with a fault, the swap tells of it. -/
theorem swap_tells (item : ItemId) (machine : Machine) (expected : Option StateId) (target : State)
    (next : StateName) (attempts : Nat) (seen : State) :
    Task.Tells EngineError.code (swap item machine expected target next attempts seen) := by
  induction attempts generalizing seen with
  | zero => exact .throw _
  | succ attempts ih =>
    unfold swap
    refine .ite (.throw_bind _ _) ?_
    refine .bind (.ask (c := .transitionExists _ _ _) fun e => ⟨e, rfl, rfl⟩) fun edge => ?_
    refine .ite ?_ (.throw_bind _ _)
    refine .bind (.ask (c := .swapState _ _ _) fun e => ⟨e, rfl, rfl⟩) fun moved => ?_
    exact .ite (.pure _) (.bind (current_tells item) ih)

/-- A transition tells of a fault at any of its calls. -/
theorem transition_tells (item : ItemId) (expected : Option StateId) (next : StateName) :
    Task.Tells EngineError.code (transition item expected next) := by
  refine .bind (load_tells item) fun found => ?_
  refine .bind (.bind (.ask fun e => ⟨e, rfl, rfl⟩) fun _ => .demand _ _) fun machine => ?_
  refine .bind (.ask fun e => ⟨e, rfl, rfl⟩) fun _ => ?_
  exact .bind (.demand _ _) fun target => swap_tells item machine expected target next _ _

end Engine

section Lesson

/-- A fault within the engine is told on. -/
theorem LessonTask.engine_tells {α : Type} {t : Engine.EngineTask α}
    (h : Task.Tells EngineError.code t) : Task.Tells LessonError.code (LessonTask.engine t) :=
  fun log intact => LessonTask.meets_engine.2 (h log intact)

open LessonTask (engine_tells)

theorem Access.load_tells (user : UserId) (lesson : LessonId) :
    Task.Tells LessonError.code (Access.load user lesson) := by
  refine .bind (.ask fun e => ⟨e, rfl, rfl⟩) fun _ => .bind (.demand _ _) fun _ => ?_
  refine .bind (.ask fun e => ⟨e, rfl, rfl⟩) fun _ => .bind (.demand _ _) fun _ => ?_
  exact .bind (.ask fun e => ⟨e, rfl, rfl⟩) fun _ => .pure _

/-- The provider of meetings is no store. -/
theorem issueCredential_tells (room : LessonId → String) (lesson : LessonId) (user : UserId)
    (started : Bool) : Task.Tells LessonError.code (issueCredential room lesson user started) := by
  intro log intact
  rw [issueCredential, Task.meets_ask]
  exact ⟨trivial, fun _ _ => intact.cons rfl, fun _ _ => .inl (intact.cons rfl)⟩

theorem getLesson_tells (user : UserId) (lesson : LessonId) :
    Task.Tells LessonError.code (getLesson user lesson) := by
  refine .bind (Access.load_tells user lesson) fun a => .bind (.check _) fun _ => ?_
  refine .bind (engine_tells (Engine.current_tells _)) fun state => ?_
  exact .bind (engine_tells (Engine.available_tells _)) fun next => .pure _

theorem joinLesson_tells (room : LessonId → String) (user : UserId) (lesson : LessonId) :
    Task.Tells LessonError.code (joinLesson room user lesson) := by
  refine .bind (Access.load_tells user lesson) fun a => .bind (.check _) fun _ => ?_
  refine .bind (engine_tells (Engine.current_tells _)) fun state => .bind (.check _) fun _ => ?_
  exact .bind (issueCredential_tells _ _ _ _) fun meeting => .pure _

theorem moveLesson_tells (room : LessonId → String) (user : UserId) (lesson : LessonId)
    (name : String) : Task.Tells LessonError.code (moveLesson room user lesson name) := by
  refine .bind (.check _) fun read => ?_
  refine .bind (Access.load_tells user lesson) fun a => .bind (.check _) fun _ => ?_
  refine .bind (engine_tells (Engine.current_tells _)) fun seen => .bind (.check _) fun _ => ?_
  refine .bind (engine_tells (Engine.transition_tells _ _ _)) fun state => ?_
  exact .ite (.bind (.map (issueCredential_tells _ _ _ _)) fun _ => .pure _)
    (.bind (.pure _) fun _ => .pure _)

namespace Booking

theorem verify_tells (b : Booking) : Task.Tells LessonError.code b.verify := by
  refine .bind (.ask fun e => ⟨e, rfl, rfl⟩) fun _ => .bind (.demand _ _) fun _ => ?_
  refine .bind (.ask fun e => ⟨e, rfl, rfl⟩) fun _ => .bind (.demand _ _) fun teacher => ?_
  refine .ite (.throw_bind _ _) ?_
  refine .bind (.ask fun e => ⟨e, rfl, rfl⟩) fun _ => .bind (.demand _ _) fun category => ?_
  refine .ite ?_ (.throw_bind _ _)
  refine .bind (.ask fun e => ⟨e, rfl, rfl⟩) fun skill => .ite ?_ (.throw_bind _ _)
  refine .bind (.ask fun e => ⟨e, rfl, rfl⟩) fun _ => .bind (.demand _ _) fun slot => ?_
  exact .ite (.throw_bind _ _) (.ite (.pure _) (.throw_bind _ _))

/-- The undoing changes nothing about whether a call of a store has failed. -/
theorem undo_tells {slot : SlotId} {item : Option ItemId} {log : Log} {e : LessonError}
    (h : log.Intact ∨ e.code = .databaseError) :
    Program.Meets databaseTerms (fun log _ => log.Intact ∨ e.code = .databaseError)
      (undo slot item) log := by
  have passes {c : Call} {r : c.Reply} {log : Log} (undoes : c.undoes = true)
      (h : log.Intact ∨ e.code = .databaseError) :
      Log.Intact (⟨c, r⟩ :: log) ∨ e.code = .databaseError :=
    h.imp_left fun intact => intact.cons (by simp [Event.breaks, undoes])
  cases item with
  | none => exact ⟨trivial, fun _ _ => passes rfl h⟩
  | some item => exact ⟨trivial, fun _ _ => ⟨trivial, fun _ _ => passes rfl (passes rfl h)⟩⟩

theorem orUndo_tells {α : Type} {step : LessonTask α} (h : Task.Tells LessonError.code step)
    (slot : SlotId) (item : Option ItemId) :
    Task.Tells LessonError.code (orUndo step slot item) := by
  intro log intact
  rw [meets_orUndo]
  exact (h log intact).mono (fun _ h => h) (fun _ _ h => h) (fun _ _ h => h)
    fun _ _ h => undo_tells h

end Booking

/-- A booking tells of a fault, even if the undoing meets with others. -/
theorem bookLesson_tells (now : Timestamp) (b : Booking) :
    Task.Tells LessonError.code (bookLesson now b) := by
  refine .bind b.verify_tells fun found => ?_
  refine .bind (.ask (c := .reserveSlot _) fun e => ⟨e, rfl, rfl⟩) fun taken => ?_
  refine .ite ?_ (.throw_bind _ _)
  refine .bind (Booking.orUndo_tells (engine_tells (Engine.create_tells .lesson)) _ _) fun item => ?_
  refine .bind (Booking.orUndo_tells
    (.ask (c := .insertLesson _) fun e => ⟨e, rfl, rfl⟩) _ _) fun lesson => ?_
  exact .pure _

/-- Every request tells of a fault of the database. -/
theorem LessonRequest.tells (room : LessonId → String) (q : LessonRequest) :
    Task.Tells LessonError.code (ExceptT.mk (q.program room)) := by
  cases q with
  | book now b => exact bookLesson_tells now b
  | get user lesson => exact getLesson_tells user lesson
  | join user lesson => exact joinLesson_tells room user lesson
  | move user lesson name => exact moveLesson_tells room user lesson name

end Lesson

/-! ## Responses -/

namespace Http

/-- What a client is told about a failure of the database. -/
def databaseRefusal : Response := .refusal 500 "DATABASE_ERROR" "Internal server error"

theorem errorResponse_of_database {e : LessonError} (h : e.code = .databaseError) :
    errorResponse e = databaseRefusal := by
  have kind : e.kind = .infrastructure := by
    rw [LessonError.kind, h]
    rfl
  have message : e.message = LessonError.internalMessage := if_pos kind
  have details : errorDetails e = [] := by
    cases e with
    | meetingUnavailable => cases h
    | _ => rfl
  rw [errorResponse, errorBody, details, message, kind, h]
  rfl

/-- If a call of a store fails, the client is told that there is an error inside, and no more. -/
theorem respond_tells (s : Service) (r : Request) :
    (s.respond r).Meets databaseTerms
      (fun log response => log.Intact ∨ response = .shown r.method databaseRefusal) [] := by
  have intact : Log.Intact [] := fun _ he => nomatch he
  rcases s.respond_cases r with ⟨response, shape⟩ | ⟨q, shape⟩
  · rw [shape]
    exact .inl intact
  · rw [shape, map_eq_pure_bind, Program.meets_bind]
    refine meets_answer.2 ((q.tells s.room [] intact).mono (fun _ h => h) (fun _ _ h => h)
      (fun _ _ intact => .inl intact) fun log e h => ?_)
    refine h.imp_right fun code => ?_
    rw [errorResponse_of_database code]

end Http

/-! ## Faults of statements -/

namespace Database

/-- Whatever the fault is, it is one of the database. -/
theorem failure_code (c : Call) (f : Fault) : (failure c f).code = .databaseError := by
  cases f <;> rfl

/-- Replies that are read from outcomes are such as the contract relies on. -/
theorem relied_of_reply? {c : Call} {o : Outcome} {r : c.Reply} (read : reply? c o = some r) :
    databaseTerms.rely ⟨c, r⟩ := by
  intro f (failed : c.failed? f = some r)
  obtain ⟨q, store⟩ := store_of_failed? failed
  obtain ⟨g | a, hx⟩ := answer_store store o
  · by_cases lost : g = .unknownTime
    · rw [lost] at hx
      rw [reply?_of_unknownTime hx] at read
      cases read
    · rw [reply?_of_fault hx lost] at read
      rw [Call.failed?_injective read failed]
      exact failure_code c g
  · obtain ⟨e, he⟩ := failed?_store store f
    rw [reply?_of_ok hx] at read
    exact nomatch (read.trans failed.symm).trans he

theorem relied_of_meeting {c : Call} {r : c.Reply} (h : statement? c = none) :
    databaseTerms.rely ⟨c, r⟩ := by
  cases c with
  | issueCredential => exact fun _ failed => nomatch failed
  | _ => cases h

/-- A fault that is reported is a failure of the call. -/
theorem breaks_of_fault {c : Call} {o : Outcome} {f : Fault} {r : c.Reply}
    (fault : answer c o = some (.error f)) (plain : c.undoes = false)
    (read : reply? c o = some r) : Event.breaks ⟨c, r⟩ = true := by
  by_cases lost : f = .unknownTime
  · rw [lost] at fault
    rw [reply?_of_unknownTime fault] at read
    cases read
  · rw [reply?_of_fault fault lost] at read
    have stores : c.collaborator ≠ .meetings := by
      cases c with
      | issueCredential => cases fault
      | _ => exact nofun
    obtain ⟨q, store⟩ := store_of_answer fault
    obtain ⟨e, he⟩ := failed?_store store (failure c f)
    obtain rfl := Option.some.inj (he.symm.trans read)
    simp [Event.breaks, plain, stores, Event.failed, Except.isOk, Except.toBool]

end Database

open Database in
/-- **If a statement fails, or what comes back cannot be read, the client is told that there is an
error inside, and no more.** What undoes a booking is excepted. -/
theorem Http.respond_broken {server : Service} {r : Request} {now : Timestamp} {s : Script}
    {k : Nat} {c : Call} {f : Fault} {response : Response}
    (called : (s.calls now (server.respond r))[k]? = some c) (plain : c.undoes = false)
    (fault : Database.answer c (s.outcome k) = some (.error f))
    (responds : (s.run now (server.respond r)).1 = some response) :
    response = .shown r.method databaseRefusal := by
  obtain ⟨log, ends, -, replies⟩ := (respond_tells server r).run
    (fun _ _ _ => relied_of_reply?) (fun c r meeting => relied_of_meeting meeting) responds
  obtain ⟨reply, hmem, read⟩ := replies k c called
  refine ends.resolve_left fun intact => ?_
  exact nomatch (intact _ hmem).symm.trans (breaks_of_fault fault plain read)

end Tutoring
