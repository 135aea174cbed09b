import Tutoring.Http.Message
import Tutoring.Lesson.Json
import Tutoring.Request.Book
import Tutoring.Request.Get
import Tutoring.Request.Join
import Tutoring.Request.Move

/-!
# Bodies

What clients send and what they are sent. A booking does not say who books: that is the user who is
signed in.
-/

namespace Tutoring.Http

open Json

/-- What a client sends to book a lesson. -/
structure BookingBody where
  teacher : TeacherId
  category : CategoryId
  slot : SlotId
  deriving DecidableEq

namespace BookingBody

/-- The fields of a booking. -/
def fields : Fields [TeacherId, CategoryId, SlotId] :=
  .cons (.required "teacher_id" Id.readJson) <|
  .cons (.required "category_id" Id.readJson) <|
  .cons (.required "schedule_slot_id" Id.readJson) .nil

/-- Reads a booking. -/
def readJson : Reader BookingBody :=
  fields.read.map fun (teacher, category, slot, ()) => ⟨teacher, category, slot⟩

/-- A booking as JSON. -/
def toJson (b : BookingBody) : Json :=
  .object [
    ("teacher_id", b.teacher.toJson), ("category_id", b.category.toJson),
    ("schedule_slot_id", b.slot.toJson)]

/-- The booking of a student. -/
def ofStudent (b : BookingBody) (student : UserId) : Booking :=
  { student, teacher := b.teacher, category := b.category, slot := b.slot }

end BookingBody

/-- The fields that show a lesson in a state. -/
def lessonFields (l : Lesson) (state : StateName) : List (String × Json) :=
  [("id", l.id.toJson), ("student_id", l.student.toJson), ("teacher_id", l.teacher.toJson),
    ("category_id", l.category.toJson), ("schedule_slot_id", l.slot.toJson),
    ("state", state.toJson), ("created_at", l.createdAt.toJson)]

/-- A booked lesson. -/
def bookedBody (b : BookedLesson) : Json := .object (lessonFields b.lesson b.state)

/-- A lesson with the actions that are offered. -/
def viewBody (v : LessonView) : Json :=
  .object (lessonFields v.lesson v.state ++
    [("available_actions", .ofList LessonAction.toJson v.actions)])

/-- The way into a meeting. -/
def credentialBody (c : Credential) : Json :=
  .object [("room_name", .text c.room), ("token", .text c.token)]

/-- A lesson that was moved; without a meeting there is no such field. -/
def movedBody (m : MovedLesson) : Json :=
  .object ([("lesson_id", m.lesson.toJson), ("action", m.action.toJson),
    ("state", m.state.toJson)] ++ m.meeting.toList.map fun c => ("meeting", credentialBody c))

/-- The way into the meeting of a lesson. -/
def admissionBody (a : Admission) : Json :=
  .object [("lesson_id", a.lesson.toJson), ("meeting", credentialBody a.meeting)]

/-- What a client gets to know about an error beyond its message: whether the lesson was started
although there is no way into its meeting. -/
def errorDetails : LessonError → List (String × Json)
  | .meetingUnavailable _ started _ => [("details", .object [("started", .bool started)])]
  | _ => []

/-- An error. -/
def errorBody (e : LessonError) : Json :=
  .object ([("code", .text e.code.toText), ("message", .text e.message)] ++ errorDetails e)

/-- The code of requests that are wrong in form. -/
def badRequest : String := "BAD_REQUEST"

end Tutoring.Http
