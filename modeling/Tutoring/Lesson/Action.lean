import Tutoring.Machine
import Tutoring.Text.Lowercase

/-!
# Actions on a lesson

What an actor can ask for on a booked lesson. An action that moves the lesson names its target
state; `join` does not move it. An action is known by its name in any letter case, and `approve`
also as `plan`.
-/

namespace Tutoring

/-- An action on a booked lesson. -/
inductive LessonAction where
  | approve | reject | cancel | start | finish | join
  deriving DecidableEq, Repr

namespace LessonAction

/-- All actions, in the order in which they are shown. -/
def all : List LessonAction := [approve, reject, cancel, start, finish, join]

/-- The name of the action. -/
def toText : LessonAction → String
  | approve => "approve"
  | reject => "reject"
  | cancel => "cancel"
  | start => "start"
  | finish => "finish"
  | join => "join"

instance : ToString LessonAction := ⟨toText⟩

/-- The action with that name. -/
def ofText? (s : String) : Option LessonAction := all.find? (·.toText = s)

/-- The other name of `approve`. -/
def planAlias : String := "plan"

/-- Reads the name of an action in any letter case; a text that names none is given back in lower
case. -/
def read (s : String) : Except String LessonAction :=
  let name := String.ofList (Text.lower s.toList)
  if name = planAlias then .ok approve
  else
    match ofText? name with
    | some a => .ok a
    | none => .error name

/-- The state that the action moves the lesson to. -/
def target? : LessonAction → Option StateName
  | approve => some .planned
  | reject => some .rejected
  | cancel => some .cancelled
  | start => some .ongoing
  | finish => some .finished
  | join => none

/-- The action hands out a credential for the meeting. -/
def issuesCredential : LessonAction → Bool
  | start | join => true
  | _ => false

/-- Whether the action is allowed depends on the state that was seen, so it applies to that state
only. -/
def pinsState : LessonAction → Bool
  | cancel | join => true
  | _ => false

@[simp] theorem ofText?_toText (a : LessonAction) : ofText? a.toText = some a := by
  cases a <;> decide

end LessonAction

end Tutoring
