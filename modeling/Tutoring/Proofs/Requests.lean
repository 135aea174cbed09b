import Tutoring.Proofs.Book
import Tutoring.Proofs.Move
import Tutoring.Request.Get
import Tutoring.Request.Join

/-!
# The requests of clients

The four requests on lessons as one family of programs, of which any number may run at once.

* `joinLesson_meets`, `getLesson_meets`: these requests only look things up, apart from the
  credential that a join asks for in the end.
* `LessonRequest.meets_terms`: what holds of the calls of every request, as far as others depend on
  it.
* `LessonRequest.swap_cleared`: of all requests only a move asks for a swap.
-/

namespace Tutoring

/-- A request of a client. A booking comes with the time at which it is made. -/
inductive LessonRequest where
  | book (now : Timestamp) (booking : Booking)
  | get (user : UserId) (lesson : LessonId)
  | join (user : UserId) (lesson : LessonId)
  | move (user : UserId) (lesson : LessonId) (name : String)

namespace LessonRequest

/-- What a request leads to when it succeeds. -/
@[reducible] def Answer : LessonRequest → Type
  | book _ _ => BookedLesson
  | get _ _ => LessonView
  | join _ _ => Admission
  | move _ _ _ => MovedLesson

/-- How a request is carried out; `room` is the meeting room of a lesson. -/
def program (room : LessonId → String) : (r : LessonRequest) → Program (Except LessonError r.Answer)
  | book now booking => (bookLesson now booking).run
  | get user lesson => (getLesson user lesson).run
  | join user lesson => (joinLesson room user lesson).run
  | move user lesson name => (moveLesson room user lesson name).run

end LessonRequest

/-! ## Joining and looking -/

section Join

variable {R : Event → Prop} {room : LessonId → String} {user : UserId} {lesson : LessonId}

/-- The calls of a join: it looks things up, and in the end it asks for a credential. -/
def joinTerms (R : Event → Prop) : Contract where
  rely := R
  guar _
    | .findUser _ | .findTeacherByUser _ | .findLesson _ | .findItem _ | .issueCredential _ _ => True
    | _ => False

/-- A join never tells that the lesson was started. -/
theorem joinLesson_meets (R : Event → Prop) (room : LessonId → String) (user : UserId)
    (lesson : LessonId) :
    Task.Meets (joinTerms R) (joinLesson room user lesson) (fun _ _ => True)
      (fun _ e => e.started = false) [] := by
  unfold joinLesson
  rw [Task.meets_bind]
  have loads : Task.Meets (joinTerms R) (Access.load user lesson)
      (fun log access => Log.Still [] log ∧ Access.Loaded user lesson log access)
      (fun log e => Log.Still [] log ∧ e.started = false) [] :=
    Access.load_meets trivial (fun _ _ => trivial) (fun _ _ => trivial)
  refine loads.mono (fun _ h => h) (fun _ _ h => h) ?_ (fun _ _ h => h.2)
  rintro log access -
  simp only [Task.meets_bind, Task.meets_check, LessonTask.meets_engine, Engine.current,
    Engine.load, issueCredential, Task.meets_ask, Task.meets_demand, Task.meets_pure]
  refine ⟨fun _ _ => ⟨trivial, fun answer _ => ⟨?_, fun _ => rfl⟩, fun _ _ => rfl⟩,
    fun e he => Guard.started_of_check he⟩
  rintro ⟨found, observed⟩ rfl
  refine ⟨fun _ _ => ⟨trivial, fun _ _ => trivial, fun _ _ => rfl⟩, fun e he => ?_⟩
  exact LessonAction.started_of_checkState he

/-- The calls of a look at a lesson. -/
def getTerms (R : Event → Prop) : Contract where
  rely := R
  guar _
    | .findUser _ | .findTeacherByUser _ | .findLesson _ | .findItem _ | .nextStates _ _ => True
    | _ => False

theorem getLesson_meets (R : Event → Prop) (user : UserId) (lesson : LessonId) :
    Task.Meets (getTerms R) (getLesson user lesson) (fun _ _ => True)
      (fun _ e => e.started = false) [] := by
  unfold getLesson
  rw [Task.meets_bind]
  have loads : Task.Meets (getTerms R) (Access.load user lesson)
      (fun log access => Log.Still [] log ∧ Access.Loaded user lesson log access)
      (fun log e => Log.Still [] log ∧ e.started = false) [] :=
    Access.load_meets trivial (fun _ _ => trivial) (fun _ _ => trivial)
  refine loads.mono (fun _ h => h) (fun _ _ h => h) ?_ (fun _ _ h => h.2)
  rintro log access -
  simp only [Task.meets_bind, Task.meets_check, LessonTask.meets_engine, Engine.current,
    Engine.available, Engine.load, Task.meets_ask, Task.meets_demand, Task.meets_pure]
  refine ⟨fun _ _ => ⟨trivial, fun answer _ => ⟨?_, fun _ => rfl⟩, fun _ _ => rfl⟩,
    fun e he => Guard.started_of_check he⟩
  rintro ⟨found, observed⟩ rfl
  refine ⟨trivial, fun answer _ => ⟨?_, fun _ => rfl⟩, fun _ _ => rfl⟩
  rintro ⟨found, again⟩ rfl
  exact ⟨trivial, fun _ _ => trivial, fun _ _ => rfl⟩

end Join

/-! ## What no request does -/

namespace LessonRequest

variable {room : LessonId → String} {r : LessonRequest} {log : Log}

/-- The request is a move, and it is cleared for this swap. -/
def Clears (r : LessonRequest) (log : Log) (item : ItemId) (source target : StateId) : Prop :=
  match r with
  | move user lesson name => Cleared user lesson name log item source target
  | _ => False

/-- What no request does to others. A swap is asked for by a move that is cleared for it. A slot is
taken by a booking that has found it and has taken none, and what is done to a slot after that is
done by the request that holds it. -/
def terms (r : LessonRequest) : Contract where
  rely _ := True
  guar log
    | .swapState item source target => r.Clears log item source target
    | .reserveSlot id => log.taken = [] ∧ ∃ now b slot, r = .book now b ∧
      ⟨.findSlot b.slot, .ok (some slot)⟩ ∈ log ∧ slot.id = id
    | .insertLesson draft => log.held = some draft.slot
    | .releaseSlot id => log.held = some id
    | _ => True

/-- **The contract of all requests.** -/
theorem meets_terms (room : LessonId → String) (r : LessonRequest) :
    (r.program room).Meets r.terms (fun _ _ => True) [] := by
  cases r with
  | book now b =>
    refine (bookLesson_meets (fun _ => True) now b).calls (fun _ h => h) fun log c hc => ?_
    cases c with
    | swapState => exact hc.elim
    | reserveSlot =>
      obtain ⟨untaken, slot, found, id_eq⟩ := hc
      exact ⟨untaken, now, b, slot, rfl, found, id_eq⟩
    | insertLesson | releaseSlot => exact hc
    | _ => trivial
  | get user lesson =>
    refine (getLesson_meets (fun _ => True) user lesson).calls (fun _ h => h) fun log c hc => ?_
    cases c with
    | swapState | reserveSlot | insertLesson | releaseSlot => exact hc.elim
    | _ => trivial
  | join user lesson =>
    refine (joinLesson_meets (fun _ => True) room user lesson).calls (fun _ h => h)
      fun log c hc => ?_
    cases c with
    | swapState | reserveSlot | insertLesson | releaseSlot => exact hc.elim
    | _ => trivial
  | move user lesson name =>
    refine (moveLesson_meets (fun _ => True) room user lesson name).calls (fun _ h => h)
      fun log c hc => ?_
    cases c with
    | swapState => exact hc.2
    | reserveSlot | insertLesson | releaseSlot => exact hc.elim
    | _ => trivial

/-- Of all requests only a move asks for a swap, and only for one that it is cleared for. -/
theorem swap_cleared {item : ItemId} {source target : StateId} {next}
    (h : (r.program room).After log (.call (.swapState item source target) next)) :
    ∃ user lesson name, r = .move user lesson name ∧
      Cleared user lesson name log item source target := by
  have cleared : r.Clears log item source target := h.guar (r.meets_terms room) fun _ _ => trivial
  cases r with
  | move user lesson name => exact ⟨user, lesson, name, rfl, cleared⟩
  | _ => exact cleared.elim

end LessonRequest

end Tutoring
