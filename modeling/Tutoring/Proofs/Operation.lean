import Tutoring.Proofs.Engine

/-!
# The operations of the engine

What callers ask of the engine, as one family of programs of which any number may run at once. Some
make, move or remove an item, and the others only look.

* `Engine.Operation.meets`: an operation has moved nothing at any call that it still makes, it swaps
  only its own item, it makes an item only in the start state of a machine that it has found, and it
  returns a state if and only if it has moved its item.
* `Engine.Operation.moves_eq_of_ok`, `Engine.Operation.ok_of_moves`: so a log with a move is that of
  an operation that has returned, and the other way round.
-/

namespace Tutoring.Engine

/-- An operation of the engine. -/
inductive Operation where
  | create (machine : MachineName)
  | discard (item : ItemId)
  | current (item : ItemId)
  | can (machine : MachineId) (source target : StateId)
  | available (item : ItemId)
  | apply (item : ItemId) (next : StateName)
  | applyFrom (item : ItemId) (expected : StateId) (next : StateName)

namespace Operation

/-- What an operation returns when it succeeds. -/
@[reducible] def Answer : Operation → Type
  | create _ => Item
  | discard _ => Unit
  | current _ => State
  | can _ _ _ => Bool
  | available _ => List State
  | apply _ _ | applyFrom _ _ _ => State

/-- How an operation is carried out. -/
def program : (o : Operation) → Program (Except EngineError o.Answer)
  | create machine => (Engine.create machine).run
  | discard item => (Engine.discard item).run
  | current item => (Engine.current item).run
  | can machine source target => (Engine.can machine source target).run
  | available item => (Engine.available item).run
  | apply item next => (Engine.apply item next).run
  | applyFrom item expected next => (Engine.applyFrom item expected next).run

/-- The item that an operation moves. -/
def item? : Operation → Option ItemId
  | create _ | discard _ | current _ | can _ _ _ | available _ => none
  | apply item _ | applyFrom item _ _ => some item

/-- The calls of an operation, before each of which it has moved nothing. -/
def terms (o : Operation) : Contract where
  rely _ := True
  guar log
    | .swapState id _ _ => log.moves = [] ∧ o.item? = some id
    | .insertItem machine state => log.moves = [] ∧ ∃ name m,
      ⟨.findMachineByName name, .ok (some m)⟩ ∈ log ∧ m.id = machine ∧ m.start = state
    | _ => log.moves = []

/-- What an operation has moved when it has come to its end. -/
def Reported (o : Operation) : Log → Except EngineError o.Answer → Prop :=
  Task.Ends
    (fun log _ =>
      match o.item? with
      | some id => ∃ source target, log.moves = [(id, source, target)]
      | none => log.moves = [])
    (fun log _ => log.moves = [])

private theorem transition_meets_terms {o : Operation} {item : ItemId} {expected : Option StateId}
    {next : StateName} (ho : o.item? = some item) :
    Task.Meets o.terms (transition item expected next)
      (fun log _ => ∃ source target, log.moves = [(item, source, target)])
      (fun log _ => log.moves = []) [] := by
  refine (transition_meets (fun _ => True) item expected next []).mono (fun _ h => h) ?_ ?_ ?_
  · intro log c hc
    cases c with
    | swapState id source target =>
      obtain ⟨still, rfl, _⟩ := hc
      exact ⟨still.moves_eq, ho⟩
    | findItem id => exact hc.1.moves_eq
    | findMachine | findMachineState | transitionExists => exact hc.moves_eq
    | _ => exact hc.elim
  · rintro log state ⟨_, _, source, moved⟩
    exact ⟨source, state.id, moved⟩
  · exact fun log _ still => still.moves_eq

/-- The task moves nothing, whatever is answered. -/
def Unmoving {α : Type} (o : Operation) (t : EngineTask α) : Prop :=
  Task.Meets o.terms t (fun log _ => log.moves = []) (fun log _ => log.moves = []) []

/-- A new item is made in the start state of its machine, and no item is moved. -/
theorem unmoving_create (machine : MachineName) :
    (create machine).Unmoving (Engine.create machine) := by
  simp only [Unmoving, Engine.create, Task.meets_bind, Task.meets_ask, Task.meets_demand]
  refine ⟨rfl, fun found _ => ⟨?_, fun _ => rfl⟩, fun _ _ => rfl⟩
  rintro m rfl
  exact ⟨⟨rfl, machine, m, List.mem_cons_self, rfl, rfl⟩, fun _ _ => rfl, fun _ _ => rfl⟩

theorem unmoving_current (item : ItemId) : (current item).Unmoving (Engine.current item) := by
  simp only [Unmoving, Engine.current, load, Task.meets_bind, Task.meets_ask, Task.meets_demand,
    Task.meets_pure]
  exact ⟨rfl, fun found _ => ⟨fun _ _ => rfl, fun _ => rfl⟩, fun _ _ => rfl⟩

theorem unmoving_available (item : ItemId) :
    (available item).Unmoving (Engine.available item) := by
  simp only [Unmoving, Engine.available, load, Task.meets_bind, Task.meets_ask, Task.meets_demand]
  refine ⟨rfl, fun found _ => ⟨fun seen _ => ?_, fun _ => rfl⟩, fun _ _ => rfl⟩
  exact ⟨rfl, fun _ _ => rfl, fun _ _ => rfl⟩

/-- **The contract of an operation.** -/
theorem meets (o : Operation) : o.program.Meets o.terms o.Reported [] := by
  cases o with
  | create machine => exact unmoving_create machine
  | discard item => exact ⟨rfl, fun r _ => by cases r <;> rfl⟩
  | current item => exact unmoving_current item
  | can machine source target => exact ⟨rfl, fun r _ => by cases r <;> rfl⟩
  | available item => exact unmoving_available item
  | apply item next => exact transition_meets_terms (o := .apply item next) rfl
  | applyFrom item expected next =>
    exact transition_meets_terms (o := .applyFrom item expected next) rfl

theorem unmoved_of_guar {o : Operation} {log : Log} {c : Call} (h : o.terms.guar log c) :
    log.moves = [] := by
  cases c with
  | swapState | insertItem => exact h.1
  | _ => exact h

/-- An operation on an item that returns a state has moved this item, once and no other. -/
theorem moves_eq_of_ok {o : Operation} {log : Log} {a : o.Answer} {id : ItemId}
    (h : o.program.After log (.done (.ok a))) (ho : o.item? = some id) :
    ∃ source target, log.moves = [(id, source, target)] := by
  have reported : o.Reported log (.ok a) := h.post o.meets fun _ _ => trivial
  simp only [Reported, Task.Ends, ho] at reported
  exact reported

/-- An operation that has moved something has moved its own item and has returned. -/
theorem ok_of_moves {o : Operation} {log : Log} {q : Program (Except EngineError o.Answer)}
    (h : o.program.After log q) (moved : log.moves ≠ []) :
    ∃ id source target, o.item? = some id ∧ log.moves = [(id, source, target)] ∧
      ∃ a, q = .done (.ok a) := by
  have meets := h.meets o.meets fun _ _ => trivial
  match q, meets with
  | .call c next, ⟨allowed, _⟩ => exact absurd (unmoved_of_guar allowed) moved
  | .done (.error e), (unmoved : log.moves = []) => exact absurd unmoved moved
  | .done (.ok a), (reported : o.Reported log (.ok a)) =>
    cases ho : o.item? with
    | none =>
      simp only [Reported, Task.Ends, ho] at reported
      exact absurd reported moved
    | some id =>
      simp only [Reported, Task.Ends, ho] at reported
      obtain ⟨source, target, moves_eq⟩ := reported
      exact ⟨id, source, target, rfl, moves_eq, a, rfl⟩

end Operation

end Tutoring.Engine
