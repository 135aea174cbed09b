import Tutoring.Lesson.Error
import Tutoring.Marketplace

/-!
# Who may act on a lesson

An actor is a user together with their teacher profile, if they have one. A guard is a relation to
the lesson that an action requires.
-/

namespace Tutoring

/-- The user who asks, and their teacher profile. -/
structure Actor where
  user : UserId
  teacher : Option Teacher
  deriving DecidableEq

/-- A relation to a lesson. -/
inductive Guard where
  /-- The actor's profile teaches the lesson. -/
  | teacherOfLesson
  /-- The actor booked the lesson. -/
  | studentOfLesson
  /-- One of the two. -/
  | eitherParty
  deriving DecidableEq, Repr

namespace Guard

/-- The name of the guard. -/
def toText : Guard → String
  | teacherOfLesson => "teacher_of_lesson"
  | studentOfLesson => "student_of_lesson"
  | eitherParty => "either_party"

/-- The relation holds. -/
def permits (lesson : Lesson) (actor : Actor) : Guard → Bool
  | teacherOfLesson => actor.teacher.any fun t => t.id = lesson.teacher
  | studentOfLesson => lesson.student = actor.user
  | eitherParty =>
    lesson.student = actor.user || actor.teacher.any fun t => t.id = lesson.teacher

/-- What an actor is told who does not have the relation. -/
def refusal (lesson : Lesson) (actor : Actor) : Guard → LessonError
  | teacherOfLesson =>
    if actor.teacher.isSome then .notRelatedTeacher lesson.id actor.user
    else .actorNotTeacher actor.user
  | studentOfLesson | eitherParty => .notRelatedUser lesson.id actor.user

/-- Refuses an actor who does not have the relation. -/
def check (g : Guard) (lesson : Lesson) (actor : Actor) : Except LessonError Unit :=
  if g.permits lesson actor then .ok () else .error (g.refusal lesson actor)

end Guard

end Tutoring
