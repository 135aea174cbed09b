import Tutoring.Call

/-!
# Statements

Each call of a store is one statement, and its arguments are the values of the statement's
placeholders. Whether a slot is still free and an item still in its state is decided by the
database, in the statement that makes the change.
-/

namespace Tutoring.Database

/-- The value of a placeholder. -/
inductive Parameter where
  | int (n : Int64)
  | text (s : String)
  /-- A point in time, in microseconds since the start of 1970. -/
  | time (micros : Int)
  deriving DecidableEq

/-- A statement and the values of its placeholders `$1`, `$2` and so on. -/
structure Statement where
  sql : String
  parameters : List Parameter
  deriving DecidableEq

/-- The number of a record as the value of a placeholder. -/
def key {entity : Entity} (id : Id entity) : Parameter := .int id.value

/-- The placeholders of a new lesson. -/
def draftParameters (d : LessonDraft) : List Parameter :=
  [key d.student, key d.teacher, key d.category, key d.slot, key d.item, .time d.createdAt.micros]

/-- The statement of a call, if the call goes to a store. -/
def statement? : Call → Option Statement
  | .findUser id => some ⟨"SELECT id, name FROM users WHERE id = $1", [key id]⟩
  | .findTeacher id => some ⟨"SELECT id, user_id FROM teachers WHERE id = $1", [key id]⟩
  | .findTeacherByUser user =>
    some ⟨"SELECT id, user_id FROM teachers WHERE user_id = $1", [key user]⟩
  | .findCategory id =>
    some ⟨"SELECT id, name, active FROM categories WHERE id = $1", [key id]⟩
  | .findSkill teacher category =>
    some ⟨"SELECT active FROM teacher_skills WHERE teacher_id = $1 AND category_id = $2",
      [key teacher, key category]⟩
  | .findSlot id =>
    some ⟨"SELECT id, teacher_id, starts_at, ends_at, available FROM schedule_slots WHERE id = $1",
      [key id]⟩
  | .reserveSlot id =>
    some ⟨"UPDATE schedule_slots SET available = FALSE WHERE id = $1 AND available", [key id]⟩
  | .releaseSlot id =>
    some ⟨"UPDATE schedule_slots SET available = TRUE WHERE id = $1", [key id]⟩
  | .insertLesson draft =>
    some ⟨"INSERT INTO lessons ( student_id, teacher_id, category_id, schedule_slot_id, " ++
        "state_machine_item_id, created_at ) VALUES ($1, $2, $3, $4, $5, $6) RETURNING id",
      draftParameters draft⟩
  | .findLesson id =>
    some ⟨"SELECT id, student_id, teacher_id, category_id, schedule_slot_id, " ++
        "state_machine_item_id, created_at FROM lessons WHERE id = $1",
      [key id]⟩
  | .findMachineByName name =>
    some ⟨"SELECT id, name, start_state_id FROM state_machines WHERE name = $1",
      [.text name.toText]⟩
  | .findMachine id =>
    some ⟨"SELECT id, name, start_state_id FROM state_machines WHERE id = $1", [key id]⟩
  | .findMachineState machine name =>
    some ⟨"SELECT s.id, s.name FROM states s WHERE s.name = $2 AND ( EXISTS ( " ++
        "SELECT 1 FROM state_machines m WHERE m.id = $1 AND m.start_state_id = s.id ) " ++
        "OR EXISTS ( SELECT 1 FROM transitions t WHERE t.state_machine_id = $1 " ++
        "AND (t.current_state_id = s.id OR t.next_state_id = s.id) ) )",
      [key machine, .text name.toText]⟩
  | .transitionExists machine source target =>
    some ⟨"SELECT EXISTS ( SELECT 1 FROM transitions WHERE state_machine_id = $1 " ++
        "AND current_state_id = $2 AND next_state_id = $3 )",
      [key machine, key source, key target]⟩
  | .nextStates machine source =>
    some ⟨"SELECT s.id, s.name FROM transitions t JOIN states s ON s.id = t.next_state_id " ++
        "WHERE t.state_machine_id = $1 AND t.current_state_id = $2 ORDER BY t.id",
      [key machine, key source]⟩
  | .insertItem machine state =>
    some ⟨"INSERT INTO state_machine_items (state_machine_id, state_id) " ++
        "VALUES ($1, $2) RETURNING id",
      [key machine, key state]⟩
  | .deleteItem id => some ⟨"DELETE FROM state_machine_items WHERE id = $1", [key id]⟩
  | .findItem id =>
    some ⟨"SELECT i.id, i.state_machine_id, i.state_id, s.name AS state_name " ++
        "FROM state_machine_items i JOIN states s ON s.id = i.state_id WHERE i.id = $1",
      [key id]⟩
  | .swapState id expected next =>
    some ⟨"UPDATE state_machine_items i SET state_id = $3 WHERE i.id = $1 AND i.state_id = $2 " ++
        "AND EXISTS ( SELECT 1 FROM transitions t WHERE t.state_machine_id = " ++
        "i.state_machine_id AND t.current_state_id = $2 AND t.next_state_id = $3 )",
      [key id, key expected, key next]⟩
  | .issueCredential _ _ => none

end Tutoring.Database
