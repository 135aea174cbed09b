import Tutoring.Machine.Json
import Tutoring.Marketplace
import Tutoring.Timestamp.Json

/-!
# People, subjects and calendars as JSON
-/

namespace Tutoring

open Json

namespace User

/-- A user as JSON. -/
def toJson (u : User) : Json := .object [("id", u.id.toJson), ("name", .text u.name)]

/-- The fields of a user. -/
def fields : Fields [UserId, String] :=
  .cons (.required "id" Id.readJson) <| .cons (.required "name" readString) .nil

/-- Reads a user. -/
def readJson : Reader User := fields.read.map fun (id, name, ()) => ⟨id, name⟩

end User

namespace Teacher

/-- A teacher profile as JSON. -/
def toJson (t : Teacher) : Json := .object [("id", t.id.toJson), ("user_id", t.user.toJson)]

/-- The fields of a teacher profile. -/
def fields : Fields [TeacherId, UserId] :=
  .cons (.required "id" Id.readJson) <| .cons (.required "user_id" Id.readJson) .nil

/-- Reads a teacher profile. -/
def readJson : Reader Teacher := fields.read.map fun (id, user, ()) => ⟨id, user⟩

end Teacher

namespace Category

/-- A category as JSON. -/
def toJson (c : Category) : Json :=
  .object [("id", c.id.toJson), ("name", .text c.name), ("active", .bool c.active)]

/-- The fields of a category. -/
def fields : Fields [CategoryId, String, Bool] :=
  .cons (.required "id" Id.readJson) <|
  .cons (.required "name" readString) <|
  .cons (.required "active" readBool) .nil

/-- Reads a category. -/
def readJson : Reader Category := fields.read.map fun (id, name, active, ()) => ⟨id, name, active⟩

end Category

namespace TeacherSkill

/-- An offered category as JSON. -/
def toJson (s : TeacherSkill) : Json :=
  .object [
    ("teacher_id", s.teacher.toJson), ("category_id", s.category.toJson),
    ("active", .bool s.active)]

/-- The fields of an offered category. -/
def fields : Fields [TeacherId, CategoryId, Bool] :=
  .cons (.required "teacher_id" Id.readJson) <|
  .cons (.required "category_id" Id.readJson) <|
  .cons (.required "active" readBool) .nil

/-- Reads an offered category. -/
def readJson : Reader TeacherSkill :=
  fields.read.map fun (teacher, category, active, ()) => ⟨teacher, category, active⟩

end TeacherSkill

namespace Slot

/-- A slot as JSON. -/
def toJson (s : Slot) : Json :=
  .object [
    ("id", s.id.toJson), ("teacher_id", s.teacher.toJson), ("starts_at", s.starts.toJson),
    ("ends_at", s.ends.toJson), ("available", .bool s.available)]

/-- The fields of a slot. -/
def fields : Fields [SlotId, TeacherId, Timestamp, Timestamp, Bool] :=
  .cons (.required "id" Id.readJson) <|
  .cons (.required "teacher_id" Id.readJson) <|
  .cons (.required "starts_at" Timestamp.readJson) <|
  .cons (.required "ends_at" Timestamp.readJson) <|
  .cons (.required "available" readBool) .nil

/-- Reads a slot. -/
def readJson : Reader Slot :=
  fields.read.map fun (id, teacher, starts, ends, available, ()) =>
    ⟨id, teacher, starts, ends, available⟩

end Slot

end Tutoring
