import Tutoring.Machine.Engine
import Tutoring.Proofs.Run

/-!
# What the engine does to items

Only a swap that is answered with yes moves an item. `Log.moves` lists these moves, the latest one
first, and the contract of `Engine.transition` is about this list, whatever the store answers:

* nothing has moved at any call that the engine still makes (`Engine.terms`);
* a swap leaves the state that was read from the item, the expected one if one is expected, for
  the state that the store gave for the wanted name;
* the engine returns a state if and only if its last call moved the item there
  (`Engine.transition_meets`).
-/

namespace Tutoring

/-- The move of an item that a call has made: the item, the state it left and the one it reached. -/
def Event.move? : Event → Option (ItemId × StateId × StateId)
  | ⟨.swapState item source target, .ok true⟩ => some (item, source, target)
  | _ => none

theorem Event.eq_of_move {e : Event} {id : ItemId} {source target : StateId}
    (h : e.move? = some (id, source, target)) : e = ⟨.swapState id source target, .ok true⟩ := by
  obtain ⟨c, r⟩ := e
  cases c with
  | swapState id' source' target' =>
    obtain _ | _ | _ := r
    · cases h
    · cases h
    · obtain ⟨rfl, rfl, rfl⟩ : id' = id ∧ source' = source ∧ target' = target := by
        simpa [Event.move?] using h
      rfl
  | _ => cases h

/-- The moves of items in a log, the latest one first. -/
def Log.moves (log : Log) : List (ItemId × StateId × StateId) := log.filterMap Event.move?

namespace Log

variable {e : Event} {log : Log}

theorem moves_cons_of_none (h : e.move? = none) : moves (e :: log) = moves log :=
  List.filterMap_cons_none h

theorem moves_cons_of_some {m : ItemId × StateId × StateId} (h : e.move? = some m) :
    moves (e :: log) = m :: moves log :=
  List.filterMap_cons_some h

end Log

/-- A log goes on from an earlier one, and nothing has moved since. -/
structure Log.Still (log₀ log : Log) : Prop where
  old : log₀ <:+ log
  moves_eq : log.moves = log₀.moves

namespace Log.Still

variable {e : Event} {log₀ log : Log}

/-- Nothing has been moved yet. -/
theorem refl : Still log log := ⟨List.suffix_refl log, rfl⟩

/-- Nothing is moved by another call that moves nothing. -/
theorem cons (h : Still log₀ log) (he : e.move? = none) : Still log₀ (e :: log) :=
  ⟨h.old.trans (List.suffix_cons e log), (moves_cons_of_none he).trans h.moves_eq⟩

end Log.Still

namespace Engine

variable {R : Event → Prop} {item : ItemId} {expected : Option StateId} {next : StateName}
  {log₀ log : Log}

/-- The item was seen in a state. -/
def Seen (item : ItemId) (state : State) (log : Log) : Prop :=
  ∃ found, ⟨.findItem item, .ok (some (found, state))⟩ ∈ log

/-- The store gave a state for a name. -/
def Named (name : StateName) (state : State) (log : Log) : Prop :=
  ∃ machine, ⟨.findMachineState machine name, .ok (some state)⟩ ∈ log

theorem Seen.cons {e : Event} {state : State} (h : Seen item state log) :
    Seen item state (e :: log) :=
  let ⟨found, hm⟩ := h
  ⟨found, List.mem_cons_of_mem e hm⟩

theorem Named.cons {e : Event} {state : State} (h : Named next state log) :
    Named next state (e :: log) :=
  let ⟨machine, hm⟩ := h
  ⟨machine, List.mem_cons_of_mem e hm⟩

/-- The calls of a transition: it looks things up about its item, and it swaps the state that it
has seen, and that is expected, for the one of the wanted name. Before each of them nothing has
moved. -/
def terms (R : Event → Prop) (item : ItemId) (expected : Option StateId) (next : StateName)
    (log₀ : Log) : Contract where
  rely := R
  guar log
    | .findItem i => Log.Still log₀ log ∧ i = item
    | .findMachine _ | .findMachineState _ _ | .transitionExists _ _ _ => Log.Still log₀ log
    | .swapState i source target => Log.Still log₀ log ∧ i = item ∧
      ∃ seen wanted, Seen item seen log ∧ Named next wanted log ∧ source = seen.id ∧
        target = wanted.id ∧ ∀ id ∈ expected, id = source
    | _ => False

/-- The last call moved the item to a state, and nothing else has moved. -/
def Moved (item : ItemId) (next : StateName) (log₀ log : Log) (state : State) : Prop :=
  log₀ <:+ log ∧ Named next state log ∧ ∃ source, log.moves = (item, source, state.id) :: log₀.moves

/-- An attempt starts with the state that was seen last; the next one reads it anew. -/
theorem swap_meets {machine : Machine} {target : State} (attempts : Nat) {seen : State}
    (still : Log.Still log₀ log) (hseen : Seen item seen log) (hnamed : Named next target log) :
    Task.Meets (terms R item expected next log₀)
      (swap item machine expected target next attempts seen) (Moved item next log₀)
      (fun log _ => Log.Still log₀ log) log := by
  induction attempts generalizing seen log with
  | zero => exact still
  | succ attempts ih =>
    simp only [swap, can, current, load, Task.meets_bind, Task.meets_ite, Task.meets_throw,
      Task.meets_pure, Task.meets_ask, Task.meets_demand]
    refine ⟨fun _ => still, fun hexpected => ⟨still, fun edge _ => ⟨fun _ => ?_, fun _ => ?_⟩, ?_⟩⟩
    · have still₁ := still.cons (e := ⟨.transitionExists machine.id seen.id target.id, .ok edge⟩) rfl
      have from_expected : ∀ id ∈ expected, id = seen.id := by
        intro id hid
        refine Decidable.byContradiction fun hne => hexpected ?_
        exact (Option.any_eq_true _ _).2 ⟨id, hid, decide_eq_true hne⟩
      refine ⟨⟨still₁, rfl, seen, target, hseen.cons, hnamed.cons, rfl, rfl, from_expected⟩, ?_, ?_⟩
      · rintro (_ | _) _
        · refine ⟨fun h => absurd h (by decide), fun _ => ?_⟩
          have still₂ := still₁.cons (e := ⟨.swapState item seen.id target.id, .ok false⟩) rfl
          refine ⟨⟨still₂, rfl⟩, fun answer _ => ⟨?_, ?_⟩, fun _ _ => still₂.cons rfl⟩
          · rintro ⟨found, state⟩ rfl
            exact ih (still₂.cons rfl) ⟨found, List.mem_cons_self⟩ hnamed.cons.cons.cons
          · exact fun _ => still₂.cons rfl
        · refine ⟨fun _ => ⟨?_, hnamed.cons.cons, seen.id, ?_⟩, fun h => absurd rfl h⟩
          · exact still₁.old.trans (List.suffix_cons _ _)
          · rw [Log.moves_cons_of_some rfl, still₁.moves_eq]
      · exact fun _ _ => still₁.cons rfl
    · exact still.cons rfl
    · exact fun _ _ => still.cons rfl

/-- **The contract of a transition.** It returns a state exactly when it has moved the item to that
state, with its last call. -/
theorem transition_meets (R : Event → Prop) (item : ItemId) (expected : Option StateId)
    (next : StateName) (log : Log) :
    Task.Meets (terms R item expected next log) (transition item expected next)
      (Moved item next log) (fun log' _ => Log.Still log log') log := by
  simp only [transition, load, machineOf, Task.meets_bind, Task.meets_ask, Task.meets_demand]
  have still₀ : Log.Still log log := .refl
  refine ⟨⟨still₀, rfl⟩, fun answer _ => ⟨?_, fun _ => still₀.cons rfl⟩, fun _ _ => still₀.cons rfl⟩
  rintro ⟨found, seen⟩ rfl
  have still₁ := still₀.cons (e := ⟨.findItem item, .ok (some (found, seen))⟩) rfl
  refine ⟨still₁, fun answer _ => ⟨?_, fun _ => still₁.cons rfl⟩, fun _ _ => still₁.cons rfl⟩
  rintro machine rfl
  have still₂ := still₁.cons (e := ⟨.findMachine found.machine, .ok (some machine)⟩) rfl
  refine ⟨still₂, fun answer _ => ⟨?_, fun _ => still₂.cons rfl⟩, fun _ _ => still₂.cons rfl⟩
  rintro target rfl
  refine swap_meets maxAttempts (still₂.cons rfl) ?_ ⟨machine.id, List.mem_cons_self⟩
  exact ⟨found, by simp⟩

end Engine

end Tutoring
