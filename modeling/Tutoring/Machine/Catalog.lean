import Tutoring.Machine.Blueprint

/-!
# Provisioned machines

The records that blueprints become. States are numbered from 1 in the order of the state catalog,
machines in the order of the blueprints, and edges throughout in the order of their declaration.
-/

namespace Tutoring

/-- The number of a state. -/
def StateName.id (n : StateName) : StateId := .ofInt (StateName.all.idxOf n + 1)

/-- The catalog entry of a state. -/
def State.ofName (n : StateName) : State := ⟨n.id, n⟩

/-- The catalog entry with that number. -/
def State.ofId? (id : StateId) : Option State :=
  (StateName.all.map State.ofName).find? (·.id = id)

/-- Provisioned machines and their edges. -/
structure Catalog where
  machines : List Machine
  transitions : List Transition
  deriving DecidableEq

namespace Catalog

/-- The edges of all blueprints, each with the number of its machine. -/
def edgesOf (blueprints : List Blueprint) : List (MachineId × StateName × StateName) :=
  (blueprints.zipIdx 1).flatMap fun (b, k) => b.edges.map fun e => (.ofInt k, e)

/-- Provisions the machines of blueprints. -/
def ofBlueprints (blueprints : List Blueprint) : Catalog where
  machines := (blueprints.zipIdx 1).map fun (b, k) => ⟨.ofInt k, b.name, b.start.id⟩
  transitions := ((edgesOf blueprints).zipIdx 1).map fun ((machine, source, target), k) =>
    ⟨.ofInt k, machine, source.id, target.id⟩

/-- The machine with that number. -/
def machine? (c : Catalog) (id : MachineId) : Option Machine := c.machines.find? (·.id = id)

/-- The first machine of that name. -/
def machineNamed? (c : Catalog) (name : MachineName) : Option Machine :=
  c.machines.find? (·.name = name)

/-- The machine has an edge from one state to the other. -/
def hasEdge (c : Catalog) (machine : MachineId) (source target : StateId) : Bool :=
  c.transitions.any fun t => t.machine = machine && t.source = source && t.target = target

/-- The catalog entry of a state, if it is the start state of the machine or an end of one of its
edges. -/
def stateOf? (c : Catalog) (machine : MachineId) (name : StateName) : Option State := do
  let m ← c.machine? machine
  let touches (t : Transition) : Bool :=
    t.machine = machine && (t.source = name.id || t.target = name.id)
  if m.start = name.id || c.transitions.any touches then some (.ofName name) else none

/-- The ends of the machine's edges that lead out of a state, in the order of the edges. -/
def nextStates (c : Catalog) (machine : MachineId) (source : StateId) : List State :=
  (c.transitions.filter fun t => t.machine = machine && t.source = source).filterMap
    fun t => State.ofId? t.target

end Catalog

end Tutoring
