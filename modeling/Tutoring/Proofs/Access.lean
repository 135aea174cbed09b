import Tutoring.Proofs.Engine
import Tutoring.Request.Move

/-!
# Loading a lesson and its actor

What the requests on a lesson have in common: the look-ups that come first, and the checks of the
guard and of the state. Nothing moves in them, and none of their errors is one of a meeting.

* `LessonError.started`: the error tells that the lesson was started.
* `Access.Loaded`: the lesson and the profile of its actor stand in the log.
* `Access.load_meets`: the contract of the look-ups, within any contract that allows them.
-/

namespace Tutoring

variable {K : Contract} {log : Log}

@[simp] theorem LessonTask.meets_engine {α : Type} {t : Engine.EngineTask α}
    {Q : Log → α → Prop} {E : Log → LessonError → Prop} :
    Task.Meets K (LessonTask.engine t) Q E log ↔
      Task.Meets K t Q (fun log e => E log (.transition e)) log :=
  Task.meets_adapt

/-- The error tells that the lesson was started. -/
def LessonError.started : LessonError → Bool
  | .meetingUnavailable _ started _ => started
  | _ => false

/-- A guard that refuses does not tell that the lesson was started. -/
theorem Guard.started_of_check {g : Guard} {l : Lesson} {a : Actor} {e : LessonError}
    (h : g.check l a = .error e) : e.started = false := by
  unfold Guard.check at h
  split at h
  · cases h
  · obtain rfl := Except.error.inj h
    cases g
    · unfold Guard.refusal
      dsimp only
      split <;> rfl
    · rfl
    · rfl

theorem LessonAction.started_of_checkState {a : LessonAction} {l : Lesson} {actor : Actor}
    {n : StateName} {e : LessonError} (h : a.checkState l actor n = .error e) :
    e.started = false := by
  unfold LessonAction.checkState at h
  split at h
  · cases h
  · exact Guard.started_of_check h
  · obtain rfl := Except.error.inj h
    rfl

theorem started_of_readMove {name : String} {e : LessonError} (h : readMove name = .error e) :
    e.started = false := by
  unfold readMove at h
  split at h
  · obtain rfl := Except.error.inj h
    rfl
  · split at h
    · obtain rfl := Except.error.inj h
      rfl
    · cases h

/-- The lesson and the actor were read in this log. -/
structure Access.Loaded (user : UserId) (lesson : LessonId) (log : Log) (a : Access) : Prop where
  lesson_mem : ⟨.findLesson lesson, .ok (some a.lesson)⟩ ∈ log
  teacher_mem : ⟨.findTeacherByUser user, .ok a.actor.teacher⟩ ∈ log
  user_eq : a.actor.user = user

/-- What was read stays in the log. -/
theorem Access.Loaded.mono {user : UserId} {lesson : LessonId} {log' : Log} {a : Access}
    (h : Access.Loaded user lesson log a) (old : log <:+ log') :
    Access.Loaded user lesson log' a :=
  ⟨old.subset h.lesson_mem, old.subset h.teacher_mem, h.user_eq⟩

/-- The actor and the lesson are looked up; nothing moves, and an error is no matter of meetings. -/
theorem Access.load_meets {user : UserId} {lesson : LessonId}
    (users : K.guar log (.findUser user))
    (lessons : ∀ log', Log.Still log log' → K.guar log' (.findLesson lesson))
    (teachers : ∀ log', Log.Still log log' → K.guar log' (.findTeacherByUser user)) :
    Task.Meets K (Access.load user lesson)
      (fun log' a => Log.Still log log' ∧ Access.Loaded user lesson log' a)
      (fun log' e => Log.Still log log' ∧ e.started = false) log := by
  simp only [Access.load, Task.meets_bind, Task.meets_ask, Task.meets_demand, Task.meets_pure]
  have still₀ : Log.Still log log := .refl
  refine ⟨users, fun found _ => ⟨fun _ _ => ?_, fun _ => ⟨still₀.cons rfl, rfl⟩⟩,
    fun _ _ => ⟨still₀.cons rfl, rfl⟩⟩
  have still₁ := still₀.cons (e := ⟨.findUser user, .ok found⟩) rfl
  refine ⟨lessons _ still₁, fun answer _ => ⟨?_, fun _ => ⟨still₁.cons rfl, rfl⟩⟩,
    fun _ _ => ⟨still₁.cons rfl, rfl⟩⟩
  rintro l rfl
  have still₂ := still₁.cons (e := ⟨.findLesson lesson, .ok (some l)⟩) rfl
  refine ⟨teachers _ still₂, fun teacher _ => ⟨still₂.cons rfl, ?_⟩,
    fun _ _ => ⟨still₂.cons rfl, rfl⟩⟩
  exact ⟨List.mem_cons_of_mem _ List.mem_cons_self, List.mem_cons_self, rfl⟩

end Tutoring
