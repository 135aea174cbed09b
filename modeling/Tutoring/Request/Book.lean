import Tutoring.Request.Access

/-!
# Booking a lesson

A student books a slot of a teacher for a category. The records that the booking refers to are
checked one after the other; then the slot is reserved, the item of the lesson is made and the
lesson is stored. When a step after the reservation fails, what was done before is undone: the item
is removed and the slot released. The request then reports the step that failed, whatever becomes of
the undoing.
-/

namespace Tutoring

/-- What a student wants to book. -/
structure Booking where
  student : UserId
  teacher : TeacherId
  category : CategoryId
  slot : SlotId
  deriving DecidableEq

/-- A lesson that was booked. -/
structure BookedLesson where
  lesson : Lesson
  state : StateName
  deriving DecidableEq

namespace Booking

/-- Finds the teacher, the category and the open slot of a booking. -/
def verify (b : Booking) : LessonTask (Teacher × Category × Slot) := do
  let _ ← Task.demand (.actorNotFound b.student) (← Task.ask (.findUser b.student) .store)
  let teacher ←
    Task.demand (.teacherNotFound b.teacher) (← Task.ask (.findTeacher b.teacher) .store)
  if teacher.user = b.student then throw .selfBooking
  let category ←
    Task.demand (.categoryNotFound b.category) (← Task.ask (.findCategory b.category) .store)
  unless category.active do throw (.categoryInactive category.id)
  let skill ← Task.ask (.findSkill teacher.id category.id) .store
  unless skill.any (·.active) do throw (.skillInactive teacher.id category.id)
  let slot ← Task.demand (.slotNotFound b.slot) (← Task.ask (.findSlot b.slot) .store)
  if slot.teacher ≠ teacher.id then throw (.slotNotOwned slot.id teacher.id)
  unless slot.available do throw (.slotUnavailable slot.id)
  return (teacher, category, slot)

/-- Removes the item, if there is one, and releases the slot. Failures are of no consequence. -/
def undo (slot : SlotId) (item : Option ItemId) : Program Unit := do
  if let some item := item then
    let _ ← (Engine.discard item).run
  let _ ← Program.ask (.releaseSlot slot)

/-- Undoes a booking when one of its steps fails. -/
def orUndo {α : Type} (step : LessonTask α) (slot : SlotId) (item : Option ItemId) :
    LessonTask α := ExceptT.mk do
  match ← step.run with
  | .ok a => return .ok a
  | .error e =>
    undo slot item
    return .error e

end Booking

/-- Books a lesson at the given time. -/
def bookLesson (now : Timestamp) (b : Booking) : LessonTask BookedLesson := do
  let (teacher, category, slot) ← b.verify
  unless ← Task.ask (.reserveSlot slot.id) .store do throw (.slotUnavailable slot.id)
  let item ← Booking.orUndo (.engine (Engine.create .lesson)) slot.id none
  let draft : LessonDraft :=
    { student := b.student, teacher := teacher.id, category := category.id, slot := slot.id
      item := item.id, createdAt := now }
  let lesson ← Booking.orUndo (Task.ask (.insertLesson draft) .store) slot.id (some item.id)
  return { lesson, state := .pending }

end Tutoring
