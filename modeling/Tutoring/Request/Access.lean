import Tutoring.Lesson.Guard
import Tutoring.Machine.Engine

/-!
# Steps that lesson requests share

Loading the lesson together with the actor, and issuing the credential for its meeting.
-/

namespace Tutoring

/-- A task of a lesson request. -/
abbrev LessonTask (α : Type) : Type := Task LessonError α

/-- A task of the engine as part of a lesson request. -/
def LessonTask.engine {α : Type} (t : Engine.EngineTask α) : LessonTask α :=
  ExceptT.adapt .transition t

/-- A lesson and the actor who asks for it. -/
structure Access where
  lesson : Lesson
  actor : Actor
  deriving DecidableEq

/-- Loads a lesson for a user, who must exist. -/
def Access.load (user : UserId) (lesson : LessonId) : LessonTask Access := do
  let _ ← Task.demand (.actorNotFound user) (← Task.ask (.findUser user) .store)
  let lesson ← Task.demand (.lessonNotFound lesson) (← Task.ask (.findLesson lesson) .store)
  let teacher ← Task.ask (.findTeacherByUser user) .store
  return { lesson, actor := { user, teacher } }

/-- Asks for a credential to the meeting of a lesson; `started` tells whether the request has
started the lesson. -/
def issueCredential (room : LessonId → String) (lesson : LessonId) (user : UserId)
    (started : Bool) : LessonTask Credential :=
  Task.ask (.issueCredential (room lesson) user.toText)
    fun e => .meetingUnavailable lesson started e.toText

end Tutoring
