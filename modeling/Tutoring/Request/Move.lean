import Tutoring.Lesson.Policy
import Tutoring.Request.Access

/-!
# Moving a lesson to another state

A request names an action that moves the lesson. Who may do so is decided before anything is read
about the state. When the state that was seen decides whether the action is allowed, the lesson is
moved from that state only. Starting a lesson also issues a credential, after the lesson has moved:
if that fails, the lesson stays started and the way in is to join it.
-/

namespace Tutoring

/-- A lesson that was moved. -/
structure MovedLesson where
  lesson : LessonId
  action : LessonAction
  state : StateName
  meeting : Option Credential
  deriving DecidableEq

/-- The action of a name, and the state it moves to. -/
def readMove (name : String) : Except LessonError (LessonAction × StateName) :=
  match LessonAction.read name with
  | .error lowered => .error (.unknownAction lowered)
  | .ok action =>
    match action.target? with
    | none => .error (.notATransition action)
    | some target => .ok (action, target)

/-- Moves a lesson by the action of that name. -/
def moveLesson (room : LessonId → String) (user : UserId) (lesson : LessonId) (name : String) :
    LessonTask MovedLesson := do
  let (action, target) ← Task.check (readMove name)
  let { lesson, actor } ← Access.load user lesson
  Task.check (action.guard.check lesson actor)
  let seen ← .engine (Engine.current lesson.item)
  Task.check (action.checkState lesson actor seen.name)
  let expected := if action.pinsState then some seen.id else none
  let state ← .engine (Engine.transition lesson.item expected target)
  let meeting ←
    if action.issuesCredential then
      some <$> issueCredential room lesson.id actor.user true
    else pure none
  return { lesson := lesson.id, action, state := state.name, meeting }

end Tutoring
