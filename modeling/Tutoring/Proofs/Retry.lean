import Mathlib.Data.List.Nodup
import Mathlib.Data.List.Perm.Subperm
import Mathlib.Logic.Relation
import Tutoring.Proofs.Lifecycle

/-!
# How often a swap is lost

A transition whose swap is lost reads the item again and checks the edge from the state that the
winner has left behind. A winner moves the item on along an edge of its machine, so each loss is
from a state that has been left for good where no edges lead around in a circle, and all of these
states have an edge to the wanted one.

* `Engine.retry_meets`: the attempts of a transition, whatever the store answers. A swap follows upon
  the check of its edge from the state that was read last, and a refusal upon a check that failed or
  upon the last attempt.
* `Engine.Watched`: what an operation has seen of an item. Every call of a run keeps it, as long as
  the item is not removed (`Engine.Watched.step`, `Run.watched`).
* `three_attempts_suffice`: in the default machines two edges at most lead to a state, so the third
  attempt is never in vain.
-/

namespace Tutoring

open Relation (ReflTransGen TransGen)

/-! ## The attempts of a transition -/

/-- The state that a call was to move an item from, and another writer was faster. -/
def Event.lost? : Event → Option StateId
  | ⟨.swapState _ source _, .ok false⟩ => some source
  | _ => none

/-- The states that swaps were lost from, the latest one first. -/
def Log.losses (log : Log) : List StateId := log.filterMap Event.lost?

namespace Log

variable {e : Event} {log : Log}

theorem losses_cons_of_none (h : e.lost? = none) : losses (e :: log) = losses log :=
  List.filterMap_cons_none h

theorem losses_cons_of_some {source : StateId} (h : e.lost? = some source) :
    losses (e :: log) = source :: losses log :=
  List.filterMap_cons_some h

end Log

namespace Engine

variable {item : ItemId} {expected : Option StateId} {next : StateName} {machine : Machine}
  {goal : State} {found : Item} {seen : State} {e : Event} {log : Log}

/-- The machine of the item and the state of the wanted name, as the store has given them. -/
structure Resolved (item : ItemId) (next : StateName) (machine : Machine) (goal : State)
    (log : Log) : Prop where
  machine_mem : ∃ found seen, ⟨.findItem item, .ok (some (found, seen))⟩ ∈ log ∧
    ⟨.findMachine found.machine, .ok (some machine)⟩ ∈ log
  goal_mem : ⟨.findMachineState machine.id next, .ok (some goal)⟩ ∈ log

theorem Resolved.cons (h : Resolved item next machine goal log) :
    Resolved item next machine goal (e :: log) where
  machine_mem :=
    let ⟨found, seen, read, given⟩ := h.machine_mem
    ⟨found, seen, List.mem_cons_of_mem e read, List.mem_cons_of_mem e given⟩
  goal_mem := List.mem_cons_of_mem e h.goal_mem

/-- The item was read last with this state, and no swap has been lost since. -/
def ReadLast (item : ItemId) (found : Item) (seen : State) (log : Log) : Prop :=
  ∃ newer older, log = newer ++ ⟨.findItem item, .ok (some (found, seen))⟩ :: older ∧
    ∀ e ∈ newer, e.lost? = none ∧ e.call ≠ .findItem item

theorem ReadLast.head : ReadLast item found seen (⟨.findItem item, .ok (some (found, seen))⟩ :: log) :=
  ⟨[], log, rfl, fun _ he => nomatch he⟩

theorem ReadLast.cons (h : ReadLast item found seen log) (unlost : e.lost? = none)
    (other : e.call ≠ .findItem item) : ReadLast item found seen (e :: log) := by
  obtain ⟨newer, older, rfl, since⟩ := h
  exact ⟨e :: newer, older, rfl, List.forall_mem_cons.2 ⟨⟨unlost, other⟩, since⟩⟩

/-- A swap is tried from the state that was read last, right after the store has said that its edge
is there, and from the expected state if one is expected. -/
structure Tries (item : ItemId) (expected : Option StateId) (next : StateName) (log : Log)
    (source target : StateId) (machine : Machine) (goal : State) (found : Item) (seen : State)
    (older : Log) : Prop where
  checked : log = ⟨.transitionExists machine.id seen.id goal.id, .ok true⟩ :: older
  resolved : Resolved item next machine goal older
  last : ReadLast item found seen older
  source_eq : source = seen.id
  target_eq : target = goal.id
  pinned : ∀ id ∈ expected, id = source
  left : older.losses.length < maxAttempts

/-- The calls of a transition, as far as its attempts go. -/
def retryTerms (item : ItemId) (expected : Option StateId) (next : StateName) : Contract where
  rely _ := True
  guar log
    | .findItem i => i = item
    | .swapState i source target => i = item ∧ ∃ machine goal found seen older,
      Tries item expected next log source target machine goal found seen older
    | .findMachine _ | .findMachineState _ _ | .transitionExists _ _ _ => True
    | _ => False

/-- Why a transition is refused: the edge is not there, or the item is not in the expected state, or
no attempt is left. -/
inductive Refused (item : ItemId) (expected : Option StateId) (next : StateName) (log : Log) :
    EngineError → Prop
  | missing {machine : Machine} {goal : State} {found : Item} {seen : State} {older : Log}
      (resolved : Resolved item next machine goal older) (last : ReadLast item found seen older)
      (checked : log = ⟨.transitionExists machine.id seen.id goal.id, .ok false⟩ :: older) :
      Refused item expected next log (.illegalTransition seen.name next)
  | unexpected {found : Item} {seen : State} {id : StateId} (last : ReadLast item found seen log)
      (hid : id ∈ expected) (ne : id ≠ seen.id) :
      Refused item expected next log (.illegalTransition seen.name next)
  | exhausted {seen : State} (spent : log.losses.length = maxAttempts) :
      Refused item expected next log (.illegalTransition seen.name next)

/-- What a transition ends with when it moves nothing. -/
def Failed (item : ItemId) (expected : Option StateId) (next : StateName) (log : Log)
    (e : EngineError) : Prop :=
  (∀ current attempted, e ≠ .illegalTransition current attempted) ∨ Refused item expected next log e

/-- An attempt starts with the state that was read last. Every attempt that is gone was lost. -/
theorem retry_swap_meets (attempts : Nat) (resolved : Resolved item next machine goal log)
    (last : ReadLast item found seen log) (spent : log.losses.length + attempts = maxAttempts) :
    Task.Meets (retryTerms item expected next)
      (swap item machine expected goal next attempts seen) (fun _ _ => True)
      (Failed item expected next) log := by
  induction attempts generalizing found seen log with
  | zero => exact .inr (.exhausted spent)
  | succ attempts ih =>
    simp only [swap, can, current, load, Task.meets_bind, Task.meets_ite, Task.meets_throw,
      Task.meets_pure, Task.meets_ask, Task.meets_demand]
    refine ⟨fun other => ?_, fun expected_eq => ⟨trivial, fun edge _ => ⟨fun there => ?_, ?_⟩, ?_⟩⟩
    · obtain ⟨id, hid, ne⟩ := (Option.any_eq_true _ _).1 other
      exact .inr (.unexpected last hid (of_decide_eq_true ne))
    · obtain rfl : edge = true := there
      have pinned : ∀ id ∈ expected, id = seen.id := by
        intro id hid
        refine Decidable.byContradiction fun ne => expected_eq ?_
        exact (Option.any_eq_true _ _).2 ⟨id, hid, decide_eq_true ne⟩
      refine ⟨⟨rfl, machine, goal, found, seen, log, rfl, resolved, last, rfl, rfl, pinned, ?_⟩,
        fun moved _ => ⟨fun _ => trivial, fun lost => ?_⟩, fun _ _ => .inl nofun⟩
      · omega
      · obtain rfl : moved = false := by simpa using lost
        refine ⟨rfl, fun answer _ => ⟨?_, fun _ => .inl nofun⟩, fun _ _ => .inl nofun⟩
        rintro ⟨found', seen'⟩ rfl
        refine ih resolved.cons.cons.cons .head ?_
        rw [Log.losses_cons_of_none rfl, Log.losses_cons_of_some rfl, Log.losses_cons_of_none rfl,
          List.length_cons]
        omega
    · intro absent
      obtain rfl : edge = false := by simpa using absent
      exact .inr (.missing resolved last rfl)
    · exact fun _ _ => .inl nofun

/-- **The contract of the attempts of a transition.** -/
theorem retry_meets (item : ItemId) (expected : Option StateId) (next : StateName) :
    Task.Meets (retryTerms item expected next) (transition item expected next) (fun _ _ => True)
      (Failed item expected next) [] := by
  simp only [transition, load, machineOf, Task.meets_bind, Task.meets_ask, Task.meets_demand]
  refine ⟨rfl, fun answer _ => ⟨?_, fun _ => .inl nofun⟩, fun _ _ => .inl nofun⟩
  rintro ⟨found, seen⟩ rfl
  refine ⟨trivial, fun answer _ => ⟨?_, fun _ => .inl nofun⟩, fun _ _ => .inl nofun⟩
  rintro machine rfl
  refine ⟨trivial, fun answer _ => ⟨?_, fun _ => .inl nofun⟩, fun _ _ => .inl nofun⟩
  rintro goal rfl
  have resolved : Resolved item next machine goal
      [⟨.findMachineState machine.id next, .ok (some goal)⟩,
        ⟨.findMachine found.machine, .ok (some machine)⟩,
        ⟨.findItem item, .ok (some (found, seen))⟩] :=
    ⟨⟨found, seen, by simp, by simp⟩, List.mem_cons_self⟩
  refine retry_swap_meets maxAttempts resolved ((ReadLast.head.cons rfl ?_).cons rfl ?_) rfl
  · exact nofun
  · exact nofun

end Engine

/-! ## What becomes of an item meanwhile -/

/-- The item of a number goes away: it is removed, or another one takes its place. -/
def Event.unmakes (id : ItemId) : Event → Bool
  | ⟨.deleteItem id', .ok _⟩ => id' = id
  | e => e.makes id

/-- The machine has an edge from one state to the other. -/
def Catalog.Leads (k : Catalog) (machine : MachineId) (s t : StateId) : Prop :=
  k.hasEdge machine s t = true

namespace World

variable {w w' : World} {id : ItemId} {item : Item} {e : Event}

/-- An item that stays is moved along an edge of its machine, if at all. -/
theorem Effect.item_onward (h : w.Effect e w') (there : w.items.get? id = some item)
    (stays : e.unmakes id = false) :
    ∃ now, w'.items.get? id = some now ∧ now.machine = item.machine ∧
      ReflTransGen (w.catalog.Leads item.machine) item.state now.state := by
  cases h with
  | addItem machine state =>
    have other : id ≠ w.nextItem := fun same => of_decide_eq_false stays same.symm
    refine ⟨item, ?_, rfl, .refl⟩
    unfold World.addItem
    rw [Table.get?_insert, if_neg other, there]
  | removeItem id' =>
    have other : id ≠ id' := fun same => of_decide_eq_false stays same.symm
    refine ⟨item, ?_, rfl, .refl⟩
    unfold World.removeItem
    rw [Table.get?_erase, if_neg other, there]
  | @move id' item' next found edge =>
    by_cases hid : id = id'
    · subst hid
      obtain rfl := Option.some.inj (there.symm.trans found)
      exact ⟨{ item with state := next }, by rw [Table.get?_insert, if_pos rfl], rfl, .single edge⟩
    · exact ⟨item, by rw [Table.get?_insert, if_neg hid, there], rfl, .refl⟩
  | _ => exact ⟨item, there, rfl, .refl⟩

/-- A swap along an edge is refused because the item is not in the state it was to leave. -/
theorem swap_refused {source target : StateId} (h : (w.swap id source target).1 = false)
    (there : w.items.get? id = some item)
    (edge : w.catalog.hasEdge item.machine source target = true) : item.state ≠ source := by
  rintro rfl
  simp [swap, there, edge] at h

end World

namespace Engine

variable {w w' : World} {d : Directory} {id : ItemId} {expected : Option StateId} {next : StateName}
  {found : Item} {seen : State} {e : Event} {log : Log}

/-- What an operation has seen of an item that stays. The states that it has read lead on to the
state of the item. Those that it has lost swaps from have an edge to the wanted one, and each of
them had been left before the item was read again. -/
inductive Watched (w : World) (id : ItemId) (next : StateName) (log : Log) : Prop
  | unread (unseen : ∀ found seen, ⟨.findItem id, .ok (some (found, seen))⟩ ∉ log)
      (unlost : log.losses = [])
  | live {now : Item} (there : w.items.get? id = some now)
      (reads : ∀ found seen, ⟨.findItem id, .ok (some (found, seen))⟩ ∈ log →
        found.machine = now.machine ∧
          ReflTransGen (w.catalog.Leads now.machine) seen.id now.state)
      (losses : ∀ s ∈ log.losses, w.catalog.Leads now.machine s next.id ∧
        TransGen (w.catalog.Leads now.machine) s now.state)
      (fresh : ∀ newer found seen, ∀ older : Log,
        log = newer ++ ⟨.findItem id, .ok (some (found, seen))⟩ :: older →
        ∀ s ∈ older.losses, TransGen (w.catalog.Leads now.machine) s seen.id)
      (ascending : log.losses.Pairwise fun s s' => TransGen (w.catalog.Leads now.machine) s' s)

namespace Watched

theorem nil : Watched w id next [] := .unread (fun _ _ h => nomatch h) rfl

/-- The item may have been moved on. -/
theorem moved (h : Watched w id next log) (effect : w.Effect e w') (stays : e.unmakes id = false) :
    Watched w' id next log := by
  cases h with
  | unread unseen unlost => exact .unread unseen unlost
  | @live now there reads losses fresh ascending =>
    obtain ⟨now', there', machine, onward⟩ := effect.item_onward there stays
    have same : w'.catalog.Leads now'.machine = w.catalog.Leads now.machine := by
      rw [effect.catalog_eq, machine]
    refine .live there' ?_ ?_ ?_ ?_
    · intro found seen read
      obtain ⟨machine_eq, reached⟩ := reads found seen read
      rw [same]
      exact ⟨machine_eq.trans machine.symm, reached.trans onward⟩
    · intro s hs
      rw [same]
      obtain ⟨leads, passed⟩ := losses s hs
      exact ⟨leads, passed.trans_left onward⟩
    · rw [same]
      exact fresh
    · rw [same]
      exact ascending

/-- Whenever the item is read, its machine is the same. -/
theorem machine_eq (h : Watched w id next log) {found found' : Item} {seen seen' : State}
    (read : ⟨.findItem id, .ok (some (found, seen))⟩ ∈ log)
    (read' : ⟨.findItem id, .ok (some (found', seen'))⟩ ∈ log) :
    found.machine = found'.machine := by
  cases h with
  | unread unseen => exact absurd read (unseen found seen)
  | live _ reads => exact (reads found seen read).1.trans (reads found' seen' read').1.symm

private theorem split_cons {newer older : Log} {e' : Event} (ne : e ≠ e')
    (h : e :: log = newer ++ e' :: older) : ∃ newer', log = newer' ++ e' :: older := by
  cases newer with
  | nil => exact absurd (List.cons.inj h).1 ne
  | cons _ newer' => exact ⟨newer', (List.cons.inj h).2⟩

/-- A call that neither reads the item nor loses a swap. -/
theorem plain (h : Watched w id next log) (unlost : e.lost? = none)
    (other : ∀ found seen, e ≠ ⟨.findItem id, .ok (some (found, seen))⟩) :
    Watched w id next (e :: log) := by
  have losses_eq : Log.losses (e :: log) = log.losses := Log.losses_cons_of_none unlost
  have mem_log {found : Item} {seen : State}
      (hm : ⟨.findItem id, .ok (some (found, seen))⟩ ∈ e :: log) :
      ⟨.findItem id, .ok (some (found, seen))⟩ ∈ log := by
    rcases List.mem_cons.1 hm with same | hm
    · exact absurd same.symm (other found seen)
    · exact hm
  cases h with
  | unread unseen unlost =>
    exact .unread (fun found seen hm => unseen found seen (mem_log hm)) (losses_eq.trans unlost)
  | live there reads losses fresh ascending =>
    refine .live there (fun found seen hm => reads found seen (mem_log hm)) ?_ ?_ ?_
    · rw [losses_eq]
      exact losses
    · intro newer found seen older h
      obtain ⟨newer', h'⟩ := split_cons (other found seen) h
      exact fresh newer' found seen older h'
    · rw [losses_eq]
      exact ascending

/-- The item is read. -/
theorem read (h : Watched w id next log) (there : w.item? id = some (found, seen)) :
    Watched w id next (⟨.findItem id, .ok (some (found, seen))⟩ :: log) := by
  obtain ⟨stored, known⟩ := World.item?_eq_some.1 there
  have state_eq : seen.id = found.state := (State.id_eq_of_ofId? known).1
  have losses_eq : Log.losses (⟨.findItem id, .ok (some (found, seen))⟩ :: log) = log.losses :=
    Log.losses_cons_of_none rfl
  cases h with
  | unread unseen unlost =>
    refine .live stored ?_ ?_ ?_ ?_
    · intro found' seen' hm
      rcases List.mem_cons.1 hm with same | hm
      · cases same
        rw [state_eq]
        exact ⟨rfl, .refl⟩
      · exact absurd hm (unseen found' seen')
    · rw [losses_eq, unlost]
      exact fun _ hs => nomatch hs
    · intro newer found' seen' older h s hs
      cases newer with
      | nil =>
        obtain ⟨-, rfl⟩ := List.cons.inj h
        rw [unlost] at hs
        cases hs
      | cons _ newer' =>
        obtain ⟨-, rfl⟩ := List.cons.inj h
        exact absurd (List.mem_append_right _ List.mem_cons_self) (unseen found' seen')
    · rw [losses_eq, unlost]
      exact .nil
  | live there' reads losses fresh ascending =>
    obtain rfl := Option.some.inj (there'.symm.trans stored)
    refine .live there' ?_ ?_ ?_ ?_
    · intro found' seen' hm
      rcases List.mem_cons.1 hm with same | hm
      · cases same
        rw [state_eq]
        exact ⟨rfl, .refl⟩
      · exact reads found' seen' hm
    · rw [losses_eq]
      exact losses
    · intro newer found' seen' older h
      cases newer with
      | nil =>
        obtain ⟨same, rfl⟩ := List.cons.inj h
        cases same
        rw [state_eq]
        exact fun s hs => (losses s hs).2
      | cons _ newer' => exact fresh newer' found' seen' older (List.cons.inj h).2
    · rw [losses_eq]
      exact ascending

end Watched

/-- The machine that was given for the item is the one of the item. -/
theorem Resolved.machine_eq {machine : Machine} {goal : State}
    (h : Resolved id next machine goal log) (honest : ∀ e ∈ log, World.Honest d w.catalog e)
    {m : MachineId} (reads : ∀ found seen, ⟨.findItem id, .ok (some (found, seen))⟩ ∈ log →
      found.machine = m) : machine.id = m := by
  obtain ⟨found, seen, read, given⟩ := h.machine_mem
  have there : some machine = w.catalog.machine? found.machine :=
    (honest _ given).answer_eq (f := fun _ k => k.machine? found.machine) fun _ _ => rfl
  exact (Catalog.id_of_machine? there.symm).trans (reads found seen read)

theorem Tries.goal_eq {source target : StateId} {machine : Machine} {goal : State} {older : Log}
    (h : Tries id expected next log source target machine goal found seen older)
    (honest : ∀ e ∈ log, World.Honest d w.catalog e) : goal = .ofName next := by
  refine (honest ⟨.findMachineState machine.id next, .ok (some goal)⟩ ?_).findMachineState
  rw [h.checked]
  exact List.mem_cons_of_mem _ h.resolved.goal_mem

/-- The edge of a swap that is tried is one of the item's machine. -/
theorem Tries.edge {source target : StateId} {machine : Machine} {goal : State} {older : Log}
    (h : Tries id expected next log source target machine goal found seen older)
    (honest : ∀ e ∈ log, World.Honest d w.catalog e) {m : MachineId}
    (reads : ∀ found seen, ⟨.findItem id, .ok (some (found, seen))⟩ ∈ log → found.machine = m) :
    w.catalog.Leads m source target := by
  have checked : ⟨.transitionExists machine.id seen.id goal.id, .ok true⟩ ∈ log := by
    rw [h.checked]
    exact List.mem_cons_self
  have edge : true = w.catalog.hasEdge machine.id seen.id goal.id :=
    (honest _ checked).answer_eq (f := fun _ k => k.hasEdge machine.id seen.id goal.id)
      fun _ _ => rfl
  have older_mem : ∀ e ∈ older, e ∈ log := by
    rw [h.checked]
    exact fun _ he => List.mem_cons_of_mem _ he
  have machine_eq : machine.id = m :=
    h.resolved.machine_eq (fun e he => honest e (older_mem e he))
      fun found seen hm => reads found seen (older_mem _ hm)
  rw [Catalog.Leads, h.source_eq, h.target_eq, ← machine_eq]
  exact edge.symm

namespace Watched

/-- A swap is lost. The state that it was to leave has been left since it was read, and it comes
after all states that swaps were lost from before. -/
theorem lose {source target : StateId} {machine : Machine} {goal : State} {older : Log}
    (h : Watched w id next log)
    (tries : Tries id expected next log source target machine goal found seen older)
    (honest : ∀ e ∈ log, World.Honest d w.catalog e)
    (lost : (w.swap id source target).1 = false) :
    Watched w id next (⟨.swapState id source target, .ok false⟩ :: log) := by
  have losses_eq : Log.losses (⟨.swapState id source target, .ok false⟩ :: log) =
      source :: log.losses := Log.losses_cons_of_some rfl
  obtain ⟨newer, oldest, older_eq, since⟩ := tries.last
  have log_eq : log = (⟨.transitionExists machine.id seen.id goal.id, .ok true⟩ :: newer) ++
      ⟨.findItem id, .ok (some (found, seen))⟩ :: oldest := by
    rw [tries.checked, older_eq]
    rfl
  have seen_mem : ⟨.findItem id, .ok (some (found, seen))⟩ ∈ log := by
    rw [log_eq]
    exact List.mem_append_right _ List.mem_cons_self
  -- No swap has been lost since the item was read last.
  have known : log.losses = Log.losses oldest := by
    have none_lost : newer.filterMap Event.lost? = [] :=
      List.filterMap_eq_nil_iff.2 fun e he => (since e he).1
    rw [log_eq, List.cons_append, Log.losses_cons_of_none rfl, Log.losses, List.filterMap_append,
      none_lost]
    exact Log.losses_cons_of_none (e := ⟨.findItem id, .ok (some (found, seen))⟩) rfl
  cases h with
  | unread unseen _ => exact absurd seen_mem (unseen found seen)
  | @live now there reads losses fresh ascending =>
    have edge := tries.edge honest fun found seen hm => (reads found seen hm).1
    have left : now.state ≠ source := World.swap_refused lost there edge
    have reached := (reads found seen seen_mem).2
    rw [← tries.source_eq] at reached
    have passed : TransGen (w.catalog.Leads now.machine) source now.state := by
      rcases Relation.reflTransGen_iff_eq_or_transGen.1 reached with same | passed
      · exact absurd same left
      · exact passed
    have leads : w.catalog.Leads now.machine source next.id := by
      rw [tries.target_eq, tries.goal_eq honest] at edge
      exact edge
    refine .live there ?_ ?_ ?_ ?_
    · intro found' seen' hm
      rcases List.mem_cons.1 hm with same | hm
      · cases same
      · exact reads found' seen' hm
    · rw [losses_eq]
      exact List.forall_mem_cons.2 ⟨⟨leads, passed⟩, losses⟩
    · intro newer' found' seen' older' h
      have other : (⟨.swapState id source target, .ok false⟩ : Event) ≠
          ⟨.findItem id, .ok (some (found', seen'))⟩ := nofun
      obtain ⟨newer'', h'⟩ := split_cons other h
      exact fresh newer'' found' seen' older' h'
    · rw [losses_eq]
      refine List.pairwise_cons.2 ⟨fun s hs => ?_, ascending⟩
      rw [known] at hs
      rw [tries.source_eq]
      exact fresh _ found seen oldest log_eq s hs

/-- A call of the operation itself. -/
theorem call (h : Watched w id next log) (allowed : (retryTerms id expected next).guar log e.call)
    (honest : ∀ e ∈ log, World.Honest d w.catalog e) (reacts : w.Reacts e.call e.reply w') :
    Watched w' id next (e :: log) := by
  have effect := reacts.effect
  obtain ⟨c, r⟩ := e
  cases c with
  | findItem i =>
    obtain rfl : i = id := allowed
    obtain _ | _ | ⟨found, seen⟩ := r
    · exact (h.moved effect rfl).plain rfl nofun
    · exact (h.moved effect rfl).plain rfl nofun
    · obtain ⟨there, rfl⟩ := reacts.answer_eq (f := (·.item? i)) fun _ _ => rfl
      exact h.read there
  | swapState i source target =>
    obtain ⟨rfl, machine, goal, found, seen, older, tries⟩ := allowed
    obtain _ | _ | _ := r
    · exact (h.moved effect rfl).plain rfl nofun
    · obtain ⟨meet, step⟩ := reacts.served_of_ok
      have lost : (w.swap i source target).1 = false :=
        Except.ok.inj (congrArg Prod.fst step)
      cases effect with
      | idle => exact h.lose tries honest lost
    · exact (h.moved effect rfl).plain rfl nofun
  | findMachine | findMachineState | transitionExists =>
    exact (h.moved effect rfl).plain rfl nofun
  | _ => exact allowed.elim

end Watched

end Engine

section Run

variable {operations : List Engine.Operation} {start w : World} {later trace : Trace} {i : Nat}
  {id : ItemId} {next : StateName}

/-- What an operation has seen of its item, if the item stays once the operation has begun. -/
theorem Run.watched (run : Run Engine.Operation.program operations start trace w)
    (request : operations[i]? = some (.apply id next))
    (stays : ∀ later e earlier, trace = later ++ e :: earlier → e.1 ≠ i →
      Trace.own i earlier ≠ [] → e.2.unmakes id = false) :
    Engine.Watched w id next (trace.own i) := by
  induction run with
  | start => exact .nil
  | @step trace w w' j o c rest reply before request' pending reacts ih =>
    have watched := ih fun later e earlier h => stays (_ :: later) e earlier (congrArg _ h)
    by_cases hj : j = i
    · subst hj
      obtain rfl := Option.some.inj (request'.symm.trans request)
      rw [Trace.own_cons_self]
      have honest := before.own_honest j
      rw [← before.catalog_eq] at honest
      have allowed : (Engine.retryTerms id none next).guar (trace.own j) c :=
        Program.After.guar (Q := Task.Ends (fun _ _ => True) (Engine.Failed id none next))
          pending (Engine.retry_meets id none next) fun _ _ => trivial
      exact watched.call (e := ⟨c, reply⟩) allowed honest reacts
    · rw [Trace.own_cons_of_ne hj]
      by_cases begun : Trace.own i trace = []
      · rw [begun]
        exact .nil
      · exact watched.moved reacts.effect (stays [] _ trace rfl hj begun)

end Run

/-! ## The default machines -/

/-- How far an item of a default machine has come. -/
def defaultHeight (s : StateId) : Nat :=
  if s = StateName.conflicted.id then 1
  else if s = StateName.approved.id then 2
  else lessonHeight s

/-- Every edge of a default machine leads upwards. -/
theorem defaultHeight_lt : ∀ b ∈ Blueprint.defaultCatalog, ∀ e ∈ b.edges,
    defaultHeight e.1.id < defaultHeight e.2.id := by
  decide

/-- In a default machine two edges at most lead to a state. -/
theorem sources_le : ∀ b ∈ Blueprint.defaultCatalog, ∀ n ∈ StateName.all,
    (b.edges.filter (·.2 = n)).length ≤ 2 := by
  decide

section Default

variable {machine : MachineId} {s t : StateId}

theorem defaultHeight_lt_of_leads
    (h : TransGen ((Catalog.ofBlueprints Blueprint.defaultCatalog).Leads machine) s t) :
    defaultHeight s < defaultHeight t := by
  have edge_lt {s t : StateId}
      (edge : (Catalog.ofBlueprints Blueprint.defaultCatalog).Leads machine s t) :
      defaultHeight s < defaultHeight t := by
    obtain ⟨b, k, hb, -, e, he, heq⟩ := Catalog.hasEdge_ofBlueprints.1 edge
    obtain ⟨rfl, rfl⟩ := Prod.mk.inj heq
    exact defaultHeight_lt b (List.fst_mem_of_mem_zipIdx hb) e he
  induction h with
  | single edge => exact edge_lt edge
  | tail _ edge ih => exact Nat.lt_trans ih (edge_lt edge)

/-- Nobody leaves a state of a default machine twice, so no more swaps are lost than edges lead to
the wanted state. -/
theorem Engine.Watched.losses_le {w : World} {id : ItemId} {next : StateName} {log : Log}
    (h : Watched w id next log) (shipped : w.catalog = .ofBlueprints Blueprint.defaultCatalog) :
    log.losses.length ≤ 2 := by
  cases h with
  | unread _ unlost =>
    rw [unlost]
    exact Nat.zero_le 2
  | @live now there reads losses fresh ascending =>
    rw [shipped] at losses ascending
    have nodup : log.losses.Nodup := ascending.imp fun later => by
      rintro rfl
      exact Nat.lt_irrefl _ (defaultHeight_lt_of_leads later)
    cases hl : log.losses with
    | nil => exact Nat.zero_le 2
    | cons s rest =>
      obtain ⟨b, k, hb, number, -⟩ := Catalog.hasEdge_ofBlueprints.1
        (losses s (by rw [hl]; exact List.mem_cons_self)).1
      have sources : log.losses ⊆ (b.edges.filter (·.2 = next)).map fun e => e.1.id := by
        intro s hs
        obtain ⟨b', k', hb', number', e, he, heq⟩ :=
          Catalog.hasEdge_ofBlueprints.1 (losses s hs).1
        obtain rfl := Blueprint.eq_of_number (by decide) hb' hb (number'.symm.trans number)
        obtain ⟨rfl, target⟩ := Prod.mk.inj heq
        refine List.mem_map.2 ⟨e, List.mem_filter.2 ⟨he, ?_⟩, rfl⟩
        exact decide_eq_true (StateName.id_injective target).symm
      have few := (nodup.subperm sources).length_le
      rw [List.length_map] at few
      rw [← hl]
      exact Nat.le_trans few
        (sources_le b (List.fst_mem_of_mem_zipIdx hb) next (StateName.mem_all next))

end Default

/-! ## Attempts that suffice -/

namespace Trace

variable {i : Nat} {trace : Trace}

/-- Between the calls of the operation at a place, the item of a number is neither removed nor
replaced. -/
def Keeps (i : Nat) (id : ItemId) (trace : Trace) : Prop :=
  ∀ later e earlier, trace = later ++ e :: earlier → Trace.own i later ≠ [] →
    Trace.own i earlier ≠ [] → e.2.unmakes id = false

theorem keeps_of_all {id : ItemId} (h : (trace.all fun e => !e.2.unmakes id) = true) :
    trace.Keeps i id := by
  rintro later e earlier rfl - -
  have kept := List.all_eq_true.1 h e (List.mem_append_right _ List.mem_cons_self)
  simpa using kept

end Trace

section Run

variable {operations : List Engine.Operation} {start w : World} {trace : Trace} {i : Nat}
  {id : ItemId} {next : StateName}

/-- What an operation has seen of an item that stays between its calls, at its latest call. -/
theorem Run.watched_between (run : Run Engine.Operation.program operations start trace w)
    (request : operations[i]? = some (.apply id next)) (kept : trace.Keeps i id) :
    ∃ w₁, w₁.catalog = start.catalog ∧ Engine.Watched w₁ id next (trace.own i) := by
  cases own_eq : Trace.own i trace with
  | nil => exact ⟨w, run.catalog_eq, .nil⟩
  | cons e log =>
    obtain ⟨later, earlier, rfl, later_eq, earlier_eq⟩ := Trace.split_own [] own_eq
    obtain ⟨w₁, upto⟩ := run.upto
    refine ⟨w₁, upto.catalog_eq, ?_⟩
    have watched := upto.watched request fun l e' l' split other begun => ?_
    · rw [Trace.own_cons_self, earlier_eq] at watched
      exact watched
    · refine kept (later ++ l) e' l' (by rw [split, List.append_assoc]) ?_ begun
      cases l with
      | nil =>
        obtain ⟨rfl, -⟩ := List.cons.inj split
        exact absurd rfl other
      | cons _ l =>
        obtain ⟨rfl, -⟩ := List.cons.inj split
        rw [Trace.own_append, Trace.own_cons_self]
        exact List.append_ne_nil_of_right_ne_nil _ (List.cons_ne_nil _ _)

end Run

/-- **Three attempts suffice** in the default machines, whatever else happens to an item that stays.
A transition loses two swaps at most. If it is refused, the item was in the state that is named when
it was read last, its machine does not declare the edge, and that was the latest answer. -/
theorem three_attempts_suffice {operations : List Engine.Operation} {start w : World}
    {trace : Trace} {i : Nat} {id : ItemId} {next : StateName}
    (run : Run Engine.Operation.program operations start trace w)
    (shipped : start.catalog = .ofBlueprints Blueprint.defaultCatalog)
    (request : operations[i]? = some (.apply id next)) (kept : trace.Keeps i id) :
    (trace.own i).losses.length ≤ 2 ∧
    ∀ current attempted,
      (Engine.apply id next).run.After (trace.own i)
        (.done (.error (.illegalTransition current attempted))) →
      attempted = next ∧ ∃ later earlier item w₁,
        trace = later ++ (i, ⟨.findItem id, .ok (some (item, .ofName current))⟩) :: earlier ∧
        (∀ e ∈ Trace.own i later, e.call ≠ .findItem id) ∧
        Run Engine.Operation.program operations start earlier w₁ ∧
        w₁.items.get? id = some item ∧ item.state = current.id ∧
        (Trace.own i later).head? =
          some ⟨.transitionExists item.machine current.id attempted.id, .ok false⟩ ∧
        ∀ b k, Blueprint.At Blueprint.defaultCatalog k b → item.machine = .ofInt k →
          b.allows current attempted = false := by
  obtain ⟨w₂, catalog_eq, watched⟩ := run.watched_between request kept
  have few := watched.losses_le (catalog_eq.trans shipped)
  refine ⟨few, fun current attempted ended => ?_⟩
  have honest := run.own_honest i
  rw [← catalog_eq] at honest
  have failed : Engine.Failed id none next (trace.own i) (.illegalTransition current attempted) :=
    Program.After.post (Q := Task.Ends (fun _ _ => True) (Engine.Failed id none next)) ended
      (Engine.retry_meets id none next) fun _ _ => trivial
  rcases failed with other | refused
  · exact absurd rfl (other current attempted)
  generalize own_eq : trace.own i = log at *
  cases refused with
  | unexpected _ hid => cases hid
  | exhausted spent =>
    rw [spent] at few
    exact absurd few (by decide)
  | @missing machine goal item seen older resolved last checked =>
    subst checked
    obtain ⟨newer, oldest, rfl, since⟩ := last
    obtain ⟨later, earlier, rfl, later_eq, earlier_eq⟩ :=
      Trace.split_own (⟨.transitionExists machine.id seen.id goal.id, .ok false⟩ :: newer) own_eq
    obtain ⟨w₃, upto⟩ := run.upto
    obtain ⟨there, before⟩ := upto.read_item
    obtain ⟨stored, known⟩ := World.item?_eq_some.1 there
    have state_eq := (State.id_eq_of_ofId? known).2
    have seen_eq := State.eq_ofName_of_ofId? known
    have goal_eq : goal = .ofName next :=
      (honest ⟨.findMachineState machine.id next, .ok (some goal)⟩
        (List.mem_cons_of_mem _ resolved.goal_mem)).findMachineState
    have machine_eq : machine.id = item.machine :=
      resolved.machine_eq (fun e he => honest e (List.mem_cons_of_mem _ he)) fun _ _ hm =>
        watched.machine_eq (List.mem_cons_of_mem _ hm)
          (List.mem_cons_of_mem _ (List.mem_append_right newer List.mem_cons_self))
    have absent : w₂.catalog.hasEdge machine.id seen.id goal.id = false :=
      ((honest _ List.mem_cons_self).answer_eq
        (f := fun _ k => k.hasEdge machine.id seen.id goal.id) fun _ _ => rfl).symm
    rw [catalog_eq, shipped, machine_eq, goal_eq, seen_eq] at absent
    rw [machine_eq, goal_eq] at later_eq
    refine ⟨rfl, later, earlier, item, w₃, ?_, ?_, before, stored, state_eq, ?_, ?_⟩
    · rw [← seen_eq]
    · rw [later_eq]
      exact List.forall_mem_cons.2 ⟨nofun, fun e he => (since e he).2⟩
    · rw [later_eq, seen_eq]
      rfl
    · intro b k hb number
      rw [number] at absent
      exact Catalog.allows_eq_false hb absent

/-- A lesson is to be cancelled while another request starts it and a third one finishes it. Both
swaps are lost, and the refusal names the state that the lesson has come to. -/
theorem three_attempts_suffice_race :
    ∃ trace w, Run Engine.Operation.program
        [.apply (.ofInt 1) .cancelled, .apply (.ofInt 1) .ongoing, .apply (.ofInt 1) .finished]
        .sample trace w ∧
      (trace.own 0).losses = [StateName.ongoing.id, StateName.planned.id] ∧
      (trace.own 0).losses.length ≤ 2 ∧
      (Engine.apply (.ofInt 1) .cancelled).run.After (trace.own 0)
        (.done (.error (.illegalTransition .finished .cancelled))) ∧
      ∃ later, ∃ item : Item, (Trace.own 0 later).head? = some
          ⟨.transitionExists item.machine StateName.finished.id StateName.cancelled.id, .ok false⟩ ∧
        ∀ b k, Blueprint.At Blueprint.defaultCatalog k b → item.machine = .ofInt k →
          b.allows .finished .cancelled = false := by
  have none_served : Run Engine.Operation.program
    [.apply (.ofInt 1) .cancelled, .apply (.ofInt 1) .ongoing, .apply (.ofInt 1) .finished]
    .sample [] .sample := .start
  obtain ⟨run₁, after₁⟩ := none_served.serve (i := 0) (r := .apply (.ofInt 1) .cancelled)
    (fun _ _ => .error (.unavailable "")) 4 rfl .start
  obtain ⟨run₂, _⟩ := run₁.serve (i := 1) (r := .apply (.ofInt 1) .ongoing)
    (fun _ _ => .error (.unavailable "")) 5 rfl .start
  obtain ⟨run₃, after₃⟩ := run₂.serve (i := 0) (r := .apply (.ofInt 1) .cancelled)
    (fun _ _ => .error (.unavailable "")) 3 rfl after₁
  obtain ⟨run₄, _⟩ := run₃.serve (i := 2) (r := .apply (.ofInt 1) .finished)
    (fun _ _ => .error (.unavailable "")) 5 rfl .start
  obtain ⟨run₅, after₅⟩ := run₄.serve (i := 0) (r := .apply (.ofInt 1) .cancelled)
    (fun _ _ => .error (.unavailable "")) 3 rfl after₃
  obtain ⟨few, refused⟩ := three_attempts_suffice (i := 0) run₅ rfl rfl (Trace.keeps_of_all rfl)
  obtain ⟨-, later, _, item, _, -, -, -, -, -, asked, undeclared⟩ := refused _ _ after₅
  exact ⟨_, _, run₅, rfl, few, after₅, later, item, asked, undeclared⟩

end Tutoring
