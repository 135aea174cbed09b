import Tutoring.Machine

/-!
# Blueprints of machines

What a machine is made from: its name, its start state and its edges by the names of their states.
The machines of lessons and of teacher skills are given here; together they are the catalog that is
provisioned by default.
-/

namespace Tutoring

/-- A machine by the names of its states. -/
structure Blueprint where
  name : MachineName
  start : StateName
  edges : List (StateName × StateName)
  deriving DecidableEq, Repr

namespace Blueprint

/-- The first edge that was declared before. -/
def firstRepeated? : List (StateName × StateName) → List (StateName × StateName) →
    Option (StateName × StateName)
  | _, [] => none
  | seen, e :: es => if e ∈ seen then some e else firstRepeated? (e :: seen) es

/-- A blueprint whose edges are all different. -/
def make (name : MachineName) (start : StateName) (edges : List (StateName × StateName)) :
    Except FieldError Blueprint :=
  match firstRepeated? [] edges with
  | some (source, target) =>
    .error (.invalidFormat "transitions"
      s!"duplicate transition {source} -> {target} in {name}")
  | none => .ok { name, start, edges }

/-- A state is valid for the machine: it is the start state or an end of an edge. -/
def hasState (b : Blueprint) (n : StateName) : Bool :=
  n = b.start || b.edges.any fun e => n = e.1 || n = e.2

/-- The states of the machine, in the order of the catalog. -/
def states (b : Blueprint) : List StateName := StateName.all.filter b.hasState

/-- An edge leads from one state to the other. -/
def allows (b : Blueprint) (source target : StateName) : Bool := (source, target) ∈ b.edges

/-- The states that no edge leads out of. -/
def terminalStates (b : Blueprint) : List StateName :=
  b.states.filter fun n => !b.edges.any fun e => e.1 = n

/-- A lesson is requested, then planned or rejected; a planned one is run to its end or cancelled
along the way. -/
def lesson : Blueprint where
  name := .lesson
  start := .pending
  edges :=
    [(.pending, .planned), (.pending, .rejected), (.planned, .ongoing), (.planned, .cancelled),
      (.ongoing, .finished), (.ongoing, .cancelled)]

/-- The approval of a teacher's skill. -/
def skill : Blueprint where
  name := .skill
  start := .pending
  edges :=
    [(.pending, .approved), (.pending, .rejected), (.pending, .conflicted),
      (.conflicted, .approved), (.conflicted, .rejected), (.approved, .completed)]

/-- The machines that are provisioned by default. -/
def defaultCatalog : List Blueprint := [lesson, skill]

end Blueprint

end Tutoring
