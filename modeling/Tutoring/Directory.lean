import Tutoring.Marketplace
import Tutoring.Table

/-!
# The directory

People and subjects, looked up by their numbers. Requests only read the directory. A teacher profile
is also found by the user it belongs to.
-/

namespace Tutoring

/-- People and subjects. -/
structure Directory where
  users : Table UserId User
  teachers : Table TeacherId Teacher
  categories : Table CategoryId Category
  skills : Table (TeacherId × CategoryId) TeacherSkill

namespace Directory

/-- Nobody and nothing. -/
def empty : Directory := ⟨.empty, .empty, .empty, .empty⟩

/-- Enters a user under their number. -/
def addUser (d : Directory) (u : User) : Directory := { d with users := d.users.insert u.id u }

/-- Enters a teacher profile under its number. -/
def addTeacher (d : Directory) (t : Teacher) : Directory :=
  { d with teachers := d.teachers.insert t.id t }

/-- Enters a category under its number. -/
def addCategory (d : Directory) (c : Category) : Directory :=
  { d with categories := d.categories.insert c.id c }

/-- Enters a category that a teacher offers. -/
def addSkill (d : Directory) (s : TeacherSkill) : Directory :=
  { d with skills := d.skills.insert (s.teacher, s.category) s }

/-- The profile of a user. Of several the first one counts. -/
def teacherOf? (d : Directory) (user : UserId) : Option Teacher :=
  d.teachers.find? (·.user = user)

end Directory

end Tutoring
