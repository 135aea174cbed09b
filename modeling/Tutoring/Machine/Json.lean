import Tutoring.Json
import Tutoring.Json.Record
import Tutoring.Machine

/-!
# State machines as JSON

Names are strings and numbers are numbers.
-/

namespace Tutoring

open Json

namespace Id

variable {entity : Entity}

/-- A record number as JSON. -/
def toJson (i : Id entity) : Json := .int i.value.toInt

/-- Reads a record number. -/
def readJson : Reader (Id entity) := Reader.map Id.mk readInt64

end Id

namespace StateName

/-- The name of a state as JSON. -/
def toJson (n : StateName) : Json := .text n.toText

/-- Reads the name of a state. -/
def readJson : Reader StateName := readName ofText?

end StateName

namespace MachineName

/-- The name of a machine as JSON. -/
def toJson (n : MachineName) : Json := .text n.toText

/-- Reads the name of a machine. -/
def readJson : Reader MachineName := readName ofText?

end MachineName

namespace State

/-- A catalog entry as JSON. -/
def toJson (s : State) : Json := .object [("id", s.id.toJson), ("name", s.name.toJson)]

/-- The fields of a catalog entry. -/
def fields : Fields [StateId, StateName] :=
  .cons (.required "id" Id.readJson) <| .cons (.required "name" StateName.readJson) .nil

/-- Reads a catalog entry. -/
def readJson : Reader State := fields.read.map fun (id, name, ()) => ⟨id, name⟩

end State

namespace Machine

/-- A machine as JSON. -/
def toJson (m : Machine) : Json :=
  .object [("id", m.id.toJson), ("name", m.name.toJson), ("start_state_id", m.start.toJson)]

/-- The fields of a machine. -/
def fields : Fields [MachineId, MachineName, StateId] :=
  .cons (.required "id" Id.readJson) <|
  .cons (.required "name" MachineName.readJson) <|
  .cons (.required "start_state_id" Id.readJson) .nil

/-- Reads a machine. -/
def readJson : Reader Machine := fields.read.map fun (id, name, start, ()) => ⟨id, name, start⟩

end Machine

namespace Transition

/-- An edge as JSON. -/
def toJson (t : Transition) : Json :=
  .object [
    ("id", t.id.toJson), ("state_machine_id", t.machine.toJson),
    ("current_state_id", t.source.toJson), ("next_state_id", t.target.toJson)]

/-- The fields of an edge. -/
def fields : Fields [TransitionId, MachineId, StateId, StateId] :=
  .cons (.required "id" Id.readJson) <|
  .cons (.required "state_machine_id" Id.readJson) <|
  .cons (.required "current_state_id" Id.readJson) <|
  .cons (.required "next_state_id" Id.readJson) .nil

/-- Reads an edge. -/
def readJson : Reader Transition :=
  fields.read.map fun (id, machine, source, target, ()) => ⟨id, machine, source, target⟩

end Transition

namespace Item

/-- An item as JSON. -/
def toJson (i : Item) : Json :=
  .object [
    ("id", i.id.toJson), ("state_machine_id", i.machine.toJson), ("state_id", i.state.toJson)]

/-- The fields of an item. -/
def fields : Fields [ItemId, MachineId, StateId] :=
  .cons (.required "id" Id.readJson) <|
  .cons (.required "state_machine_id" Id.readJson) <|
  .cons (.required "state_id" Id.readJson) .nil

/-- Reads an item. -/
def readJson : Reader Item := fields.read.map fun (id, machine, state, ()) => ⟨id, machine, state⟩

end Item

end Tutoring
