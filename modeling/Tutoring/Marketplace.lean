import Tutoring.Id
import Tutoring.Timestamp

/-!
# People, subjects and calendars

The records that bookings refer to: users, teacher profiles, subject categories, the categories that
a teacher may teach, and the bookable windows in a teacher's calendar.
-/

namespace Tutoring

/-- A registered user. -/
structure User where
  id : UserId
  name : String
  deriving DecidableEq

/-- A teacher profile, which always belongs to a user. -/
structure Teacher where
  id : TeacherId
  user : UserId
  deriving DecidableEq

/-- A subject that lessons can be booked in. -/
structure Category where
  id : CategoryId
  name : String
  active : Bool
  deriving DecidableEq

/-- A category that a teacher offers. It is active once it has been approved. -/
structure TeacherSkill where
  teacher : TeacherId
  category : CategoryId
  active : Bool
  deriving DecidableEq

/-- A bookable window in a teacher's calendar. -/
structure Slot where
  id : SlotId
  teacher : TeacherId
  starts : Timestamp
  ends : Timestamp
  available : Bool
  deriving DecidableEq

end Tutoring
