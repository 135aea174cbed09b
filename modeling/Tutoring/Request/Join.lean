import Tutoring.Lesson.Policy
import Tutoring.Request.Access

/-!
# Joining a lesson

A party of a lesson that is going on is let into its meeting room. The state of the lesson does not
change, so joining may be repeated.
-/

namespace Tutoring

/-- The way into the meeting of a lesson. -/
structure Admission where
  lesson : LessonId
  meeting : Credential
  deriving DecidableEq

/-- Lets a user into the meeting of a lesson. -/
def joinLesson (room : LessonId → String) (user : UserId) (lesson : LessonId) :
    LessonTask Admission := do
  let { lesson, actor } ← Access.load user lesson
  Task.check (LessonAction.join.guard.check lesson actor)
  let state ← .engine (Engine.current lesson.item)
  Task.check (LessonAction.join.checkState lesson actor state.name)
  return { lesson := lesson.id, meeting := ← issueCredential room lesson.id actor.user false }

end Tutoring
