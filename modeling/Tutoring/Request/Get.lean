import Tutoring.Lesson.Policy
import Tutoring.Request.Access

/-!
# Looking at a lesson

A party of a lesson sees it together with its state and the actions they could take now.
-/

namespace Tutoring

/-- A lesson as a party sees it. -/
structure LessonView where
  lesson : Lesson
  state : StateName
  actions : List LessonAction
  deriving DecidableEq

/-- The actions that an actor may take in a state from which the machine leads on to `next`. -/
def offeredActions (lesson : Lesson) (actor : Actor) (state : StateName) (next : List StateName) :
    List LessonAction :=
  LessonAction.all.filter fun a =>
    (a.authorize lesson actor state).isOk && a.target?.all (· ∈ next)

/-- Shows a lesson to a user. -/
def getLesson (user : UserId) (lesson : LessonId) : LessonTask LessonView := do
  let { lesson, actor } ← Access.load user lesson
  Task.check (Guard.eitherParty.check lesson actor)
  let state ← .engine (Engine.current lesson.item)
  let next ← .engine (Engine.available lesson.item)
  return {
    lesson, state := state.name
    actions := offeredActions lesson actor state.name (next.map (·.name)) }

end Tutoring
