import Tutoring.Directory
import Tutoring.Machine.Catalog
import Tutoring.Program

/-!
# Stores in memory

A world holds everything that requests read and write: the directory, the calendars, the provisioned
machines with their items, and the lessons. Each call is one step of the world. Items and lessons
are numbered from 1 on; a number is not given out again when its record is gone.
-/

namespace Tutoring

/-- The contents of all stores. -/
structure World where
  directory : Directory
  slots : Table SlotId Slot
  catalog : Catalog
  items : Table ItemId Item
  /-- The number of the next item. -/
  nextItem : ItemId
  lessons : Table LessonId Lesson
  /-- The number of the next lesson. -/
  nextLesson : LessonId

namespace World

/-- A world without items and lessons. -/
def start (directory : Directory) (slots : Table SlotId Slot) (catalog : Catalog) : World where
  directory := directory
  slots := slots
  catalog := catalog
  items := .empty
  nextItem := .ofInt 1
  lessons := .empty
  nextLesson := .ofInt 1

/-- An item together with its state, if the state is in the catalog. -/
def item? (w : World) (id : ItemId) : Option (Item × State) := do
  let item ← w.items.get? id
  return (item, ← State.ofId? item.state)

/-- Takes a slot if it is available. -/
def reserve (w : World) (id : SlotId) : Bool × World :=
  match w.slots.get? id with
  | some slot =>
    if slot.available then
      (true, { w with slots := w.slots.insert id { slot with available := false } })
    else (false, w)
  | none => (false, w)

/-- Makes a slot available. -/
def release (w : World) (id : SlotId) : World :=
  { w with slots := w.slots.modify id fun slot => { slot with available := true } }

/-- Stores a lesson under the next number. -/
def addLesson (w : World) (draft : LessonDraft) : Lesson × World :=
  let lesson := draft.numbered w.nextLesson
  (lesson,
    { w with lessons := w.lessons.insert lesson.id lesson, nextLesson := w.nextLesson.succ })

/-- Makes an item under the next number. -/
def addItem (w : World) (machine : MachineId) (state : StateId) : Item × World :=
  let item : Item := ⟨w.nextItem, machine, state⟩
  (item, { w with items := w.items.insert item.id item, nextItem := w.nextItem.succ })

/-- Removes an item. -/
def removeItem (w : World) (id : ItemId) : World := { w with items := w.items.erase id }

/-- Moves an item from the expected state along an edge of its machine. -/
def swap (w : World) (id : ItemId) (expected next : StateId) : Bool × World :=
  match w.items.get? id with
  | some item =>
    if item.state = expected ∧ w.catalog.hasEdge item.machine expected next then
      (true, { w with items := w.items.insert id { item with state := next } })
    else (false, w)
  | none => (false, w)

/-- The effect of a call, where `meet` answers for the meeting provider. -/
def step (meet : String → String → Except MeetingError Credential) (w : World) :
    (c : Call) → c.Reply × World
  | .findUser id => (.ok (w.directory.users.get? id), w)
  | .findTeacher id => (.ok (w.directory.teachers.get? id), w)
  | .findTeacherByUser user => (.ok (w.directory.teacherOf? user), w)
  | .findCategory id => (.ok (w.directory.categories.get? id), w)
  | .findSkill teacher category => (.ok (w.directory.skills.get? (teacher, category)), w)
  | .findSlot id => (.ok (w.slots.get? id), w)
  | .reserveSlot id => (w.reserve id).map .ok fun w => w
  | .releaseSlot id => (.ok (), w.release id)
  | .insertLesson draft => (w.addLesson draft).map .ok fun w => w
  | .findLesson id => (.ok (w.lessons.get? id), w)
  | .findMachineByName name => (.ok (w.catalog.machineNamed? name), w)
  | .findMachine id => (.ok (w.catalog.machine? id), w)
  | .findMachineState machine name => (.ok (w.catalog.stateOf? machine name), w)
  | .transitionExists machine source target =>
    (.ok (w.catalog.hasEdge machine source target), w)
  | .nextStates machine source => (.ok (w.catalog.nextStates machine source), w)
  | .insertItem machine state => (w.addItem machine state).map .ok fun w => w
  | .deleteItem id => (.ok (), w.removeItem id)
  | .findItem id => (.ok (w.item? id), w)
  | .swapState id expected next => (w.swap id expected next).map .ok fun w => w
  | .issueCredential room identity => (meet room identity, w)

end World

end Tutoring
