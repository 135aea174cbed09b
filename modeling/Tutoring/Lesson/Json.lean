import Tutoring.Lesson
import Tutoring.Lesson.Action
import Tutoring.Machine.Json
import Tutoring.Timestamp.Json

/-!
# Lessons as JSON
-/

namespace Tutoring

open Json

namespace LessonAction

/-- The name of an action as JSON. -/
def toJson (a : LessonAction) : Json := .text a.toText

/-- Reads the name of an action, which is written exactly as it is shown. -/
def readJson : Reader LessonAction := readName ofText?

end LessonAction

namespace Lesson

/-- A lesson as JSON. -/
def toJson (l : Lesson) : Json :=
  .object [
    ("id", l.id.toJson), ("student_id", l.student.toJson), ("teacher_id", l.teacher.toJson),
    ("category_id", l.category.toJson), ("schedule_slot_id", l.slot.toJson),
    ("state_item_id", l.item.toJson), ("created_at", l.createdAt.toJson)]

/-- The fields of a lesson. -/
def fields : Fields [LessonId, UserId, TeacherId, CategoryId, SlotId, ItemId, Timestamp] :=
  .cons (.required "id" Id.readJson) <|
  .cons (.required "student_id" Id.readJson) <|
  .cons (.required "teacher_id" Id.readJson) <|
  .cons (.required "category_id" Id.readJson) <|
  .cons (.required "schedule_slot_id" Id.readJson) <|
  .cons (.required "state_item_id" Id.readJson) <|
  .cons (.required "created_at" Timestamp.readJson) .nil

/-- Reads a lesson. -/
def readJson : Reader Lesson :=
  fields.read.map fun (id, student, teacher, category, slot, item, createdAt, ()) =>
    { id, student, teacher, category, slot, item, createdAt }

end Lesson

end Tutoring
