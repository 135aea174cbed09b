import Tutoring.Machine

/-!
# Errors of the state machine engine
-/

namespace Tutoring

/-- Why the engine did not do what it was asked to. -/
inductive EngineError where
  /-- No machine of that name is provisioned. -/
  | unknownMachine (machine : MachineName)
  /-- The item does not exist. -/
  | itemNotFound (item : ItemId)
  /-- The state is not part of the item's machine. -/
  | unknownState (machine : MachineName) (state : StateName)
  /-- No edge leads from the current state to the wanted one. -/
  | illegalTransition (current attempted : StateName)
  /-- The store failed. -/
  | store (failure : Failure)
  deriving DecidableEq, Repr

namespace EngineError

/-- The code of the error; a failure of the store keeps its own. -/
def code : EngineError → ErrorCode
  | unknownMachine _ => .stateMachineNotFound
  | itemNotFound _ => .stateMachineItemNotFound
  | unknownState _ _ => .stateNotFound
  | illegalTransition _ _ => .invalidStateTransition
  | store f => f.code

/-- The sort of the error. -/
def kind (e : EngineError) : ErrorKind := e.code.kind

/-- The error in words. -/
def toText : EngineError → String
  | unknownMachine machine => s!"State machine '{machine}' is not provisioned"
  | itemNotFound item => s!"State machine item {item} not found"
  | unknownState machine state => s!"State '{state}' is not valid for machine '{machine}'"
  | illegalTransition current attempted => s!"Cannot transition from '{current}' to '{attempted}'"
  | store f => s!"State machine store error: {f}"

instance : ToString EngineError := ⟨toText⟩

end EngineError

end Tutoring
