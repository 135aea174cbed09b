import Tutoring.Error
import Tutoring.Id

/-!
# State machines

A state machine is a name, a start state and the edges that lead from state to state. All machines
share one catalog of states. An item is a running instance of one machine: it belongs to one thing
(a lesson, say) and holds the state that the thing is in.
-/

namespace Tutoring

/-- The names of states. They are unique across all machines. -/
inductive StateName where
  | pending | planned | rejected | ongoing | cancelled | finished | approved | conflicted
  | completed
  deriving DecidableEq, Repr

namespace StateName

/-- All names, in the order in which the catalog numbers them. -/
def all : List StateName :=
  [pending, planned, rejected, ongoing, cancelled, finished, approved, conflicted, completed]

/-- The name as it is stored and shown. -/
def toText : StateName → String
  | pending => "pending"
  | planned => "planned"
  | rejected => "rejected"
  | ongoing => "ongoing"
  | cancelled => "cancelled"
  | finished => "finished"
  | approved => "approved"
  | conflicted => "conflicted"
  | completed => "completed"

instance : ToString StateName := ⟨toText⟩

/-- The state with that name. -/
def ofText? (s : String) : Option StateName := all.find? (·.toText = s)

/-- Reads the name of a state. -/
def read (s : String) : Except FieldError StateName :=
  match ofText? s with
  | some n => .ok n
  | none => .error (.invalidFormat "state" s!"unknown state name '{s}'")

/-- No state is missing from the catalog. -/
theorem mem_all (n : StateName) : n ∈ all := by cases n <;> decide

@[simp] theorem ofText?_toText (n : StateName) : ofText? n.toText = some n := by
  cases n <;> decide

end StateName

/-- The names of machines. -/
inductive MachineName where
  | lesson | skill
  deriving DecidableEq, Repr

namespace MachineName

/-- All names. -/
def all : List MachineName := [lesson, skill]

/-- The name as it is stored and shown. -/
def toText : MachineName → String
  | lesson => "lesson"
  | skill => "skill"

instance : ToString MachineName := ⟨toText⟩

/-- The machine with that name. -/
def ofText? (s : String) : Option MachineName := all.find? (·.toText = s)

/-- Reads the name of a machine. -/
def read (s : String) : Except FieldError MachineName :=
  match ofText? s with
  | some n => .ok n
  | none => .error (.invalidFormat "machine" s!"unknown state machine '{s}'")

@[simp] theorem ofText?_toText (n : MachineName) : ofText? n.toText = some n := by
  cases n <;> decide

end MachineName

/-- An entry of the state catalog. -/
structure State where
  id : StateId
  name : StateName
  deriving DecidableEq

/-- A provisioned machine. -/
structure Machine where
  id : MachineId
  name : MachineName
  start : StateId
  deriving DecidableEq

/-- A provisioned edge: the machine may move from one state to the other. -/
structure Transition where
  id : TransitionId
  machine : MachineId
  source : StateId
  target : StateId
  deriving DecidableEq

/-- A running instance of a machine. -/
structure Item where
  id : ItemId
  machine : MachineId
  state : StateId
  deriving DecidableEq

end Tutoring
