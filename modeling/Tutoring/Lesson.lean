import Tutoring.Id
import Tutoring.Timestamp

/-!
# Lessons

A lesson is booked by one student with one teacher. How far it has come is the state of its item,
and is not stored with the lesson.
-/

namespace Tutoring

/-- A lesson before the store has given it a number. -/
structure LessonDraft where
  student : UserId
  teacher : TeacherId
  category : CategoryId
  slot : SlotId
  item : ItemId
  createdAt : Timestamp
  deriving DecidableEq

/-- A booked lesson. -/
structure Lesson extends LessonDraft where
  id : LessonId
  deriving DecidableEq

/-- The lesson that a draft becomes. -/
def LessonDraft.numbered (d : LessonDraft) (id : LessonId) : Lesson := { d with id }

end Tutoring
