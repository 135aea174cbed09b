import Tutoring.Call

/-!
# What comes back from the database

The outcome of a statement is a list of rows, a number of changed rows, or a refusal. Reading it
ends at the first fault: a row that is required and missing, an empty cell, or a name that is
unknown. All rows are read before their names are looked up.
-/

namespace Tutoring.Database

/-- A value in a row. A point in time is a number of microseconds since the start of 1970. -/
inductive Cell where
  | null
  | int (n : Int64)
  | text (s : String)
  | bool (b : Bool)
  deriving DecidableEq

/-- A row of a result. -/
abbrev Row := List Cell

/-- What becomes of a statement. -/
inductive Outcome where
  | rows (rows : List Row)
  /-- So many rows were changed. -/
  | affected (count : Nat)
  /-- The statement failed with this text. -/
  | refused (text : String)
  deriving DecidableEq

/-- Why an outcome is not what was asked for. -/
inductive Fault where
  | refused (text : String)
  | noRow
  /-- A cell of this column is empty. -/
  | emptyCell (column : String)
  | unknownState (error : FieldError)
  | unknownMachine (error : FieldError)
  /-- A time that the calendar does not have. -/
  | unknownTime
  deriving DecidableEq

/-- The fault in words; names have their own. -/
def Fault.toText : Fault → String
  | refused text => s!"error returned from database: {text}"
  | noRow => "no rows returned by a query that expected to return at least one row"
  | emptyCell column =>
    s!"error occurred while decoding column {column}: unexpected null; try decoding as an " ++
      "\x60Option\x60"
  | unknownState e => s!"Invalid state row: {e}"
  | unknownMachine e => s!"Invalid machine row: {e}"
  | unknownTime => "time out of range"

/-- Reads something, or finds a fault. -/
abbrev Reading (α : Type) : Type := Except Fault α

/-! ## Cells -/

/-- A column by its name. -/
def named (column : String) : String := "\"" ++ column ++ "\""

/-- A column by its position. -/
def numbered (n : Nat) : String := toString n

/-- The cell at a position, if it holds what is wanted. -/
def Row.cell {α : Type} (row : Row) (n : Nat) (column : String) (value? : Cell → Option α) :
    Reading α :=
  match row[n]? >>= value? with
  | some a => .ok a
  | none => .error (.emptyCell column)

/-- A number. -/
def Row.int (row : Row) (n : Nat) (column : String) : Reading Int64 :=
  row.cell n column fun | .int i => some i | _ => none

/-- The number of a record. -/
def Row.id {entity : Entity} (row : Row) (n : Nat) (column : String) : Reading (Id entity) :=
  Id.mk <$> row.int n column

/-- A text. -/
def Row.text (row : Row) (n : Nat) (column : String) : Reading String :=
  row.cell n column fun | .text s => some s | _ => none

/-- A truth value. -/
def Row.bool (row : Row) (n : Nat) (column : String) : Reading Bool :=
  row.cell n column fun | .bool b => some b | _ => none

/-- A point in time. -/
def Row.time (row : Row) (n : Nat) (column : String) : Reading Timestamp := do
  match Timestamp.ofMicros? (← row.int n column).toInt with
  | some t => return t
  | none => throw .unknownTime

/-! ## Records -/

/-- A user; the columns go by their positions. -/
def readUser (row : Row) : Reading User :=
  return { id := ← row.id 0 (numbered 0), name := ← row.text 1 (numbered 1) }

/-- A teacher profile. -/
def readTeacher (row : Row) : Reading Teacher :=
  return { id := ← row.id 0 (named "id"), user := ← row.id 1 (named "user_id") }

/-- A category. -/
def readCategory (row : Row) : Reading Category :=
  return {
    id := ← row.id 0 (named "id")
    name := ← row.text 1 (named "name")
    active := ← row.bool 2 (named "active") }

/-- A slot. -/
def readSlot (row : Row) : Reading Slot :=
  return {
    id := ← row.id 0 (named "id")
    teacher := ← row.id 1 (named "teacher_id")
    starts := ← row.time 2 (named "starts_at")
    ends := ← row.time 3 (named "ends_at")
    available := ← row.bool 4 (named "available") }

/-- A lesson. -/
def readLesson (row : Row) : Reading Lesson := do
  let id ← row.id 0 (named "id")
  let student ← row.id 1 (named "student_id")
  let teacher ← row.id 2 (named "teacher_id")
  let category ← row.id 3 (named "category_id")
  let slot ← row.id 4 (named "schedule_slot_id")
  let item ← row.id 5 (named "state_machine_item_id")
  let createdAt ← row.time 6 (named "created_at")
  return { id, student, teacher, category, slot, item, createdAt }

/-- The name of a state. -/
def readStateName (s : String) : Reading StateName := (StateName.read s).mapError .unknownState

/-- The name of a machine. -/
def readMachineName (s : String) : Reading MachineName :=
  (MachineName.read s).mapError .unknownMachine

/-- A machine. -/
def readMachine (row : Row) : Reading Machine := do
  let id ← row.id 0 (named "id")
  let name ← row.text 1 (named "name")
  let start ← row.id 2 (named "start_state_id")
  return { id, name := ← readMachineName name, start }

/-- The number and the name of a state. -/
def readStateRow (row : Row) : Reading (StateId × String) :=
  return (← row.id 0 (named "id"), ← row.text 1 (named "name"))

/-- A state. -/
def readState (row : StateId × String) : Reading State :=
  return { id := row.1, name := ← readStateName row.2 }

/-- An item with its state. -/
def readItem (row : Row) : Reading (Item × State) := do
  let id ← row.id 0 (named "id")
  let machine ← row.id 1 (named "state_machine_id")
  let state ← row.id 2 (named "state_id")
  let name ← row.text 3 (named "state_name")
  return ({ id, machine, state }, { id := state, name := ← readStateName name })

/-! ## Outcomes -/

namespace Outcome

/-- All rows. -/
def all : Outcome → Reading (List Row)
  | rows rs => .ok rs
  | affected _ => .ok []
  | refused text => .error (.refused text)

/-- The first row, if there is one. -/
def first? (o : Outcome) : Reading (Option Row) := List.head? <$> o.all

/-- The first row, which must be there. -/
def first (o : Outcome) : Reading Row := do
  match ← o.first? with
  | some row => return row
  | none => throw .noRow

/-- The first row, read. -/
def find? {α : Type} (o : Outcome) (read : Row → Reading α) : Reading (Option α) := do
  match ← o.first? with
  | some row => return some (← read row)
  | none => return none

/-- How many rows were changed. -/
def changed : Outcome → Reading Nat
  | rows rs => .ok rs.length
  | affected count => .ok count
  | refused text => .error (.refused text)

end Outcome

end Tutoring.Database
