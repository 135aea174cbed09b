import Tutoring.Text.Blank
import Tutoring.Text.Numeral

/-!
# Record numbers

Every stored record is known by a signed 64-bit number. An `Id` carries the kind of record it
belongs to in its type, so a teacher's number is never taken for a user's.
-/

namespace Tutoring

/-- The kinds of stored records. -/
inductive Entity where
  | user | teacher | category | slot | lesson | state | machine | transition | item
  deriving DecidableEq, Repr

/-- The number of a record of one kind. -/
structure Id (entity : Entity) where
  value : Int64
  deriving DecidableEq, Repr

/-- Students are plain users. -/
abbrev UserId := Id .user
/-- A teacher profile, which belongs to a user. -/
abbrev TeacherId := Id .teacher
/-- A subject that lessons are given in. -/
abbrev CategoryId := Id .category
/-- A window in a teacher's calendar. -/
abbrev SlotId := Id .slot
/-- A booked lesson. -/
abbrev LessonId := Id .lesson
/-- An entry of the state catalog. -/
abbrev StateId := Id .state
/-- A provisioned state machine. -/
abbrev MachineId := Id .machine
/-- A declared edge of a state machine. -/
abbrev TransitionId := Id .transition
/-- A running instance of a state machine. -/
abbrev ItemId := Id .item

namespace Id

variable {entity : Entity}

/-- The record number for a whole number, which wraps around at 64 bits. -/
def ofInt (n : Int) : Id entity := ⟨Int64.ofInt n⟩

/-- The next record number, which wraps around at 64 bits. -/
def succ (i : Id entity) : Id entity := ⟨i.value + 1⟩

/-- The record number in decimal. -/
def toText (i : Id entity) : String := String.ofList (Text.Numeral.integer i.value.toInt)

instance : ToString (Id entity) := ⟨toText⟩

/-- Reads a record number: blanks around it are dropped, and what remains is a decimal numeral of
the signed 64-bit range. -/
def read (s : String) : Except Text.Numeral.Fault (Id entity) :=
  ofInt <$> Text.Numeral.readInt 9223372036854775808 9223372036854775807 (Text.trim s.toList)

end Id

end Tutoring
