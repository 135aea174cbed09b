import Tutoring.Machine.Error
import Tutoring.Program

/-!
# The engine

The engine runs the items of state machines. It knows no machine: states are resolved and edges
looked up in the store, by calls. A transition reads the item, checks the edge and swaps the state
for the next one, which only succeeds from the state that was read. When another writer was faster,
the item is read again, up to three attempts in all. A caller who relied on the state that they saw
can name it, and then no other state is left.
-/

namespace Tutoring.Engine

/-- A task of the engine. -/
abbrev EngineTask (α : Type) : Type := Task EngineError α

/-- Makes a new item of a machine, in its start state. -/
def create (machine : MachineName) : EngineTask Item := do
  let m ← Task.demand (.unknownMachine machine) (← Task.ask (.findMachineByName machine) .store)
  Task.ask (.insertItem m.id m.start) .store

/-- Removes an item. -/
def discard (item : ItemId) : EngineTask Unit := Task.ask (.deleteItem item) .store

/-- Reads an item and its state. -/
def load (item : ItemId) : EngineTask (Item × State) := do
  Task.demand (.itemNotFound item) (← Task.ask (.findItem item) .store)

/-- The state that an item is in. -/
def current (item : ItemId) : EngineTask State := do
  return (← load item).2

/-- The machine has an edge. -/
def can (machine : MachineId) (source target : StateId) : EngineTask Bool :=
  Task.ask (.transitionExists machine source target) .store

/-- The states that an item may move to. -/
def available (item : ItemId) : EngineTask (List State) := do
  let (item, state) ← load item
  Task.ask (.nextStates item.machine state.id) .store

/-- The failure of a store whose item belongs to no machine. -/
def danglingItem (item : Item) : EngineError :=
  .store {
    code := .internalError
    message := s!"Item {item.id} references missing machine {item.machine}" }

/-- The machine of an item. -/
def machineOf (item : Item) : EngineTask Machine := do
  Task.demand (danglingItem item) (← Task.ask (.findMachine item.machine) .store)

/-- Tries to move an item from the state it was seen in, as often as there are attempts. -/
def swap (item : ItemId) (machine : Machine) (expected : Option StateId) (target : State)
    (next : StateName) : (attempts : Nat) → (seen : State) → EngineTask State
  | 0, seen => throw (.illegalTransition seen.name next)
  | attempts + 1, seen => do
    if expected.any (· ≠ seen.id) then throw (.illegalTransition seen.name next)
    unless ← can machine.id seen.id target.id do throw (.illegalTransition seen.name next)
    if ← Task.ask (.swapState item seen.id target.id) .store then return target
    swap item machine expected target next attempts (← current item)

/-- How often a swap is tried. -/
def maxAttempts : Nat := 3

/-- Moves an item to a state; if a state is expected, from that state only. -/
def transition (item : ItemId) (expected : Option StateId) (next : StateName) :
    EngineTask State := do
  let (found, seen) ← load item
  let machine ← machineOf found
  let target ← Task.demand (.unknownState machine.name next)
    (← Task.ask (.findMachineState machine.id next) .store)
  swap item machine expected target next maxAttempts seen

/-- Moves an item to a state, from whichever state it is in. -/
def apply (item : ItemId) (next : StateName) : EngineTask State := transition item none next

/-- Moves an item from the expected state to another one. -/
def applyFrom (item : ItemId) (expected : StateId) (next : StateName) : EngineTask State :=
  transition item (some expected) next

end Tutoring.Engine
