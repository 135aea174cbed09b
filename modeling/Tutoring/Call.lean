import Tutoring.Error
import Tutoring.Lesson
import Tutoring.Machine
import Tutoring.Marketplace
import Tutoring.Meeting

/-!
# Calls of collaborators

All that a request asks of the outside is a call of one of five collaborators: the directory of
people and subjects, the schedule of slots, the store of lessons, the store of state machines and
the meeting provider. A call is a value, and the type of its reply depends on it. Each call is one
step: nothing comes in between.
-/

namespace Tutoring

/-- A call of a collaborator. -/
inductive Call where
  | findUser (id : UserId)
  | findTeacher (id : TeacherId)
  /-- The profile that belongs to a user. -/
  | findTeacherByUser (user : UserId)
  | findCategory (id : CategoryId)
  | findSkill (teacher : TeacherId) (category : CategoryId)
  | findSlot (id : SlotId)
  /-- Takes an available slot; answers whether it was taken. -/
  | reserveSlot (id : SlotId)
  /-- Makes a slot available. -/
  | releaseSlot (id : SlotId)
  | insertLesson (draft : LessonDraft)
  | findLesson (id : LessonId)
  | findMachineByName (name : MachineName)
  | findMachine (id : MachineId)
  /-- The catalog entry of a state, if it is a state of the machine. -/
  | findMachineState (machine : MachineId) (name : StateName)
  /-- Whether the machine has an edge. -/
  | transitionExists (machine : MachineId) (source target : StateId)
  /-- The ends of the edges that lead out of a state. -/
  | nextStates (machine : MachineId) (source : StateId)
  | insertItem (machine : MachineId) (state : StateId)
  | deleteItem (id : ItemId)
  /-- An item with the state it is in. -/
  | findItem (id : ItemId)
  /-- Moves an item along an edge if it is in the expected state; answers whether it was moved. -/
  | swapState (id : ItemId) (expected next : StateId)
  /-- Admits a user to a meeting room. -/
  | issueCredential (room identity : String)
  deriving DecidableEq

namespace Call

/-- The collaborators. -/
inductive Collaborator where
  | directory | schedule | lessons | machines | meetings
  deriving DecidableEq, Repr

/-- Who is called. -/
def collaborator : Call → Collaborator
  | findUser _ | findTeacher _ | findTeacherByUser _ | findCategory _ | findSkill _ _ => .directory
  | findSlot _ | reserveSlot _ | releaseSlot _ => .schedule
  | insertLesson _ | findLesson _ => .lessons
  | findMachineByName _ | findMachine _ | findMachineState _ _ | transitionExists _ _ _
  | nextStates _ _ | insertItem _ _ | deleteItem _ | findItem _ | swapState _ _ _ => .machines
  | issueCredential _ _ => .meetings

/-- The kinds of calls. -/
inductive Kind where
  | findUser | findTeacher | findTeacherByUser | findCategory | findSkill
  | findSlot | reserveSlot | releaseSlot
  | insertLesson | findLesson
  | findMachineByName | findMachine | findMachineState | transitionExists | nextStates
  | insertItem | deleteItem | findItem | swapState
  | issueCredential
  deriving DecidableEq, Repr

/-- The kinds of calls of stores with their names. -/
def Kind.names : List (String × Kind) :=
  [("find_user", .findUser), ("find_teacher", .findTeacher),
    ("find_teacher_by_user", .findTeacherByUser), ("find_category", .findCategory),
    ("find_teacher_skill", .findSkill), ("find_slot", .findSlot), ("reserve_slot", .reserveSlot),
    ("release_slot", .releaseSlot), ("insert", .insertLesson), ("find_by_id", .findLesson),
    ("find_machine_by_name", .findMachineByName), ("find_machine", .findMachine),
    ("find_machine_state", .findMachineState), ("transition_exists", .transitionExists),
    ("next_states", .nextStates), ("insert_item", .insertItem), ("delete_item", .deleteItem),
    ("find_item_state", .findItem), ("swap_item_state", .swapState)]

/-- The kind of a call. -/
def kind : Call → Kind
  | findUser _ => .findUser
  | findTeacher _ => .findTeacher
  | findTeacherByUser _ => .findTeacherByUser
  | findCategory _ => .findCategory
  | findSkill _ _ => .findSkill
  | findSlot _ => .findSlot
  | reserveSlot _ => .reserveSlot
  | releaseSlot _ => .releaseSlot
  | insertLesson _ => .insertLesson
  | findLesson _ => .findLesson
  | findMachineByName _ => .findMachineByName
  | findMachine _ => .findMachine
  | findMachineState _ _ => .findMachineState
  | transitionExists _ _ _ => .transitionExists
  | nextStates _ _ => .nextStates
  | insertItem _ _ => .insertItem
  | deleteItem _ => .deleteItem
  | findItem _ => .findItem
  | swapState _ _ _ => .swapState
  | issueCredential _ _ => .issueCredential

/-- What the call answers when it succeeds. -/
@[reducible] def Answer : Call → Type
  | findUser _ => Option User
  | findTeacher _ | findTeacherByUser _ => Option Teacher
  | findCategory _ => Option Category
  | findSkill _ _ => Option TeacherSkill
  | findSlot _ => Option Slot
  | reserveSlot _ => Bool
  | releaseSlot _ => Unit
  | insertLesson _ => Lesson
  | findLesson _ => Option Lesson
  | findMachineByName _ | findMachine _ => Option Machine
  | findMachineState _ _ => Option State
  | transitionExists _ _ _ => Bool
  | nextStates _ _ => List State
  | insertItem _ _ => Item
  | deleteItem _ => Unit
  | findItem _ => Option (Item × State)
  | swapState _ _ _ => Bool
  | issueCredential _ _ => Credential

/-- What the call answers when it fails. -/
@[reducible] def Error : Call → Type
  | issueCredential _ _ => MeetingError
  | _ => Failure

/-- An answer or a failure. -/
abbrev Reply (c : Call) : Type := Except c.Error c.Answer

/-- The answer that nothing was found or done, where there is one. -/
def nothing? : (c : Call) → Option c.Answer
  | findUser _ | findTeacher _ | findTeacherByUser _ | findCategory _ | findSkill _ _
  | findSlot _ | findLesson _ | findMachineByName _ | findMachine _ | findMachineState _ _
  | findItem _ => some none
  | reserveSlot _ | transitionExists _ _ _ | swapState _ _ _ => some false
  | nextStates _ _ => some []
  | releaseSlot _ | insertLesson _ | insertItem _ _ | deleteItem _ | issueCredential _ _ => none

/-- A store that fails with this failure, if the call goes to a store. -/
def failed? (f : Failure) : (c : Call) → Option c.Reply
  | issueCredential _ _ => none
  | findUser _ | findTeacher _ | findTeacherByUser _ | findCategory _ | findSkill _ _
  | findSlot _ | reserveSlot _ | releaseSlot _ | insertLesson _ | findLesson _
  | findMachineByName _ | findMachine _ | findMachineState _ _ | transitionExists _ _ _
  | nextStates _ _ | insertItem _ _ | deleteItem _ | findItem _ | swapState _ _ _ =>
    some (.error f)

end Call

end Tutoring
