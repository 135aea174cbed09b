import Tutoring.Lesson.Guard

/-!
# When an action is allowed

Every action has a guard that holds whatever state the lesson is in. On top of it, the state may
refuse the action or ask for a further guard. The guard always comes first, so an actor who fails it
learns nothing about the state.

| Action  | Guard        | State                                                            |
|---------|--------------|------------------------------------------------------------------|
| approve | teacher      | any                                                              |
| reject  | teacher      | any                                                              |
| cancel  | either party | planned, and ongoing for the teacher                             |
| start   | teacher      | any                                                              |
| finish  | teacher      | any                                                              |
| join    | either party | ongoing                                                          |

Where any state is allowed, the edges of the machine decide.
-/

namespace Tutoring

/-- What a state asks for beyond the guard of an action. -/
inductive StatePolicy where
  /-- Nothing. -/
  | unrestricted
  /-- A further guard. -/
  | require (guard : Guard)
  /-- The action is not allowed. -/
  | refused
  deriving DecidableEq, Repr

namespace LessonAction

/-- The relation to the lesson that the action requires in every state. -/
def guard : LessonAction → Guard
  | approve | reject | start | finish => .teacherOfLesson
  | cancel | join => .eitherParty

/-- What a state asks for beyond the guard. -/
def policy : LessonAction → StateName → StatePolicy
  | cancel, .ongoing => .require .teacherOfLesson
  | cancel, .planned => .unrestricted
  | cancel, _ => .refused
  | join, .ongoing => .unrestricted
  | join, _ => .refused
  | _, _ => .unrestricted

/-- Refuses the action where the state does. -/
def checkState (a : LessonAction) (lesson : Lesson) (actor : Actor) (current : StateName) :
    Except LessonError Unit :=
  match a.policy current with
  | .unrestricted => .ok ()
  | .require g => g.check lesson actor
  | .refused => .error (.actionNotAllowed a current)

/-- Refuses the action where its guard or the state does. -/
def authorize (a : LessonAction) (lesson : Lesson) (actor : Actor) (current : StateName) :
    Except LessonError Unit := do
  a.guard.check lesson actor
  a.checkState lesson actor current

end LessonAction

end Tutoring
