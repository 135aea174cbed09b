import Tutoring.Proofs.Book
import Tutoring.Proofs.Retry

/-!
# The engine and a store that cannot be trusted

The engine takes nothing for granted that a store answers: an item may be read in one state and then
in another one, an edge may come and go, and every call may fail. Whatever comes, the calls of a
transition follow a fixed pattern.

* `Log.Calm`: nothing has failed and nothing has moved. `Engine.calm_meets` says that all calls of a
  transition are made in calm, so the first failure and the first move end it.
* `Engine.Disciplined`: the pattern, at every point of a transition. What comes before a swap is
  taken from the contract of the attempts (`Engine.retry_meets`).
* `engine_disciplined`: no store can lead the engine away from it.
-/

namespace Tutoring

/-- The call asks for a swap. -/
def Call.swaps : Call → Bool
  | .swapState _ _ _ => true
  | _ => false

theorem Event.failed_of_failed? {e : Event} {f : Failure} (h : e.call.failed? f = some e.reply) :
    e.failed = true := by
  obtain ⟨c, r⟩ := e
  cases c with
  | issueCredential => cases h
  | _ =>
    obtain rfl := Option.some.inj h
    rfl

/-- No call of the log has failed, and none has moved an item. -/
def Log.Calm (log : Log) : Prop := ∀ e ∈ log, e.failed = false ∧ e.move? = none

namespace Log.Calm

variable {e : Event} {log : Log}

theorem nil : Log.Calm [] := fun _ he => nomatch he

theorem cons (h : log.Calm) (unfailed : e.failed = false) (unmoved : e.move? = none) :
    Log.Calm (e :: log) :=
  List.forall_mem_cons.2 ⟨⟨unfailed, unmoved⟩, h⟩

/-- A swap that neither fails nor moves the item is lost. -/
theorem countP_swaps (h : log.Calm) : log.countP (·.call.swaps) = log.losses.length := by
  induction log with
  | nil => rfl
  | cons e log ih =>
    obtain ⟨⟨unfailed, unmoved⟩, before⟩ := List.forall_mem_cons.1 h
    obtain ⟨c, r⟩ := e
    cases c with
    | swapState item source target =>
      match r, unfailed, unmoved with
      | .ok false, _, _ =>
        rw [List.countP_cons_of_pos rfl, ih before, Log.losses_cons_of_some rfl, List.length_cons]
    | _ => rw [List.countP_cons_of_neg Bool.false_ne_true, ih before, Log.losses_cons_of_none rfl]

end Log.Calm

namespace Engine

variable {item : ItemId} {expected : Option StateId} {next : StateName} {machine : Machine}
  {goal : State} {seen : State} {log : Log}

/-- Every call is made of the store of the machines, and in calm. -/
def calmTerms : Contract := ⟨fun _ => True, fun log c => log.Calm ∧ c.collaborator = .machines⟩

/-- The last call has moved the item to the state that the store gave for the wanted name. -/
def Arrived (item : ItemId) (next : StateName) (log : Log) (goal : State) : Prop :=
  ∃ machine source older, log = ⟨.swapState item source goal.id, .ok true⟩ :: older ∧
    Resolved item next machine goal older

/-- The last call has failed, and this is what the error tells; or nothing has failed. -/
def Halted (log : Log) (error : EngineError) : Prop :=
  log.Calm ∨ ∃ e older f, log = e :: older ∧ e.call.failed? f = some e.reply ∧ error = .store f

theorem Halted.of_failure {c : Call} {r : c.Reply} {f : Failure} (h : c.failed? f = some r) :
    Halted (⟨c, r⟩ :: log) (.store f) :=
  .inr ⟨⟨c, r⟩, log, f, rfl, h, rfl⟩

/-- Each attempt goes on in calm or is the last one. -/
theorem calm_swap_meets (attempts : Nat) (calm : log.Calm)
    (resolved : Resolved item next machine goal log) :
    Task.Meets calmTerms (swap item machine expected goal next attempts seen) (Arrived item next)
      Halted log := by
  induction attempts generalizing seen log with
  | zero => exact .inl calm
  | succ attempts ih =>
    simp only [swap, can, current, load, Task.meets_bind, Task.meets_ite, Task.meets_throw,
      Task.meets_pure, Task.meets_ask, Task.meets_demand]
    refine ⟨fun _ => .inl calm, fun _ => ⟨⟨calm, rfl⟩, fun edge _ => ⟨fun _ => ?_, fun _ => ?_⟩, ?_⟩⟩
    · have checked :=
        calm.cons (e := ⟨.transitionExists machine.id seen.id goal.id, .ok edge⟩) rfl rfl
      refine ⟨⟨checked, rfl⟩, fun moved _ => ⟨fun yes => ?_, fun no => ?_⟩, ?_⟩
      · obtain rfl : moved = true := yes
        exact ⟨machine, seen.id, _, rfl, resolved.cons⟩
      · obtain rfl : moved = false := by simpa using no
        have lost := checked.cons (e := ⟨.swapState item seen.id goal.id, .ok false⟩) rfl rfl
        refine ⟨⟨lost, rfl⟩, fun answer _ => ⟨?_, fun _ => .inl (lost.cons rfl rfl)⟩, ?_⟩
        · rintro ⟨found, state⟩ rfl
          exact ih (lost.cons rfl rfl) resolved.cons.cons.cons
        · exact fun f _ => .of_failure rfl
      · exact fun f _ => .of_failure rfl
    · exact .inl (calm.cons rfl rfl)
    · exact fun f _ => .of_failure rfl

/-- **All calls of a transition are made in calm**, whatever the store answers. -/
theorem calm_meets (item : ItemId) (expected : Option StateId) (next : StateName) :
    Task.Meets calmTerms (transition item expected next) (Arrived item next) Halted [] := by
  simp only [transition, load, machineOf, Task.meets_bind, Task.meets_ask, Task.meets_demand]
  refine ⟨⟨.nil, rfl⟩, fun answer _ => ⟨?_, fun _ => .inl (.cons .nil rfl rfl)⟩,
    fun f _ => .of_failure rfl⟩
  rintro ⟨found, seen⟩ rfl
  have read : Log.Calm [⟨.findItem item, .ok (some (found, seen))⟩] := .cons .nil rfl rfl
  refine ⟨⟨read, rfl⟩, fun answer _ => ⟨?_, fun _ => .inl (read.cons rfl rfl)⟩,
    fun f _ => .of_failure rfl⟩
  rintro machine rfl
  have known := read.cons (e := ⟨.findMachine found.machine, .ok (some machine)⟩) rfl rfl
  refine ⟨⟨known, rfl⟩, fun answer _ => ⟨?_, fun _ => .inl (known.cons rfl rfl)⟩,
    fun f _ => .of_failure rfl⟩
  rintro goal rfl
  refine calm_swap_meets maxAttempts (known.cons rfl rfl) ⟨⟨found, seen, ?_, ?_⟩, List.mem_cons_self⟩
  · simp
  · simp

/-! ## The pattern -/

/-- The pattern that the calls of a transition follow. `log` is what has been called so far, and `q`
is what is left of the transition. -/
structure Disciplined (item : ItemId) (expected : Option StateId) (next : StateName) (log : Log)
    (q : Program (Except EngineError State)) : Prop where
  /-- Only the store of the machines is called. -/
  stores : ∀ e ∈ log, e.call.collaborator = .machines
  /-- No more swaps are asked for than there are attempts. -/
  swaps_le : log.countP (·.call.swaps) ≤ 3
  /-- A swap comes right after the check of its edge, from the state that was read last, which is
  the expected one, to the state that was resolved. -/
  tries : ∀ newer older i source target r,
    log = newer ++ ⟨.swapState i source target, r⟩ :: older → i = item ∧
      ∃ machine goal found seen before,
        Tries item expected next older source target machine goal found seen before
  /-- A state is returned only when the last call has moved the item there. -/
  arrived : ∀ reached, q = .done (.ok reached) → Arrived item next log reached
  /-- A swap that is answered with yes is the last call, and its target is returned. -/
  moved : ∀ newer older i source target,
    log = newer ++ ⟨.swapState i source target, .ok true⟩ :: older →
      newer = [] ∧ ∃ reached, reached.id = target ∧ q = .done (.ok reached)
  /-- A call that fails is the last one, and its failure is what the error tells. -/
  failed : ∀ newer older e f, log = newer ++ e :: older → e.call.failed? f = some e.reply →
    newer = [] ∧ q = .done (.error (.store f))

section Transition

variable {q : Program (Except EngineError State)} {newer older : Log} {e : Event}

/-- Nothing is called after a failure or a move. -/
theorem newest_of_disturbed
    (h : (transition item expected next).run.After (newer ++ e :: older) q)
    (disturbed : ¬(e.failed = false ∧ e.move? = none)) : newer = [] := by
  cases newer with
  | nil => rfl
  | cons later newer =>
    have last : (transition item expected next).run.After ([] ++ later :: (newer ++ e :: older)) q :=
      h
    obtain ⟨_, pending⟩ := last.pending
    have calm : Log.Calm (newer ++ e :: older) :=
      (pending.guar (calm_meets item expected next) fun _ _ => trivial).1
    exact absurd (calm e (List.mem_append_right _ List.mem_cons_self)) disturbed

/-- A transition whose latest call has failed or has moved the item is over, and it ends
accordingly. -/
theorem over_of_disturbed (h : (transition item expected next).run.After (e :: older) q)
    (disturbed : ¬(e.failed = false ∧ e.move? = none)) :
    (∃ reached, q = .done (.ok reached) ∧ Arrived item next (e :: older) reached) ∨
      ∃ f, e.call.failed? f = some e.reply ∧ q = .done (.error (.store f)) := by
  have noisy : ¬Log.Calm (e :: older) := fun calm => disturbed (calm e List.mem_cons_self)
  have meets := h.meets (calm_meets item expected next) fun _ _ => trivial
  match q, meets with
  | .call c rest, ⟨⟨calm, _⟩, _⟩ => exact absurd calm noisy
  | .done (.ok reached), arrived => exact .inl ⟨reached, rfl, arrived⟩
  | .done (.error error), .inl calm => exact absurd calm noisy
  | .done (.error error), .inr ⟨e', older', f, same, failed, told⟩ =>
    obtain ⟨rfl, rfl⟩ := List.cons.inj same
    exact .inr ⟨f, failed, by rw [told]⟩

/-- **The discipline of a transition.** -/
theorem transition_disciplined (h : (transition item expected next).run.After log q) :
    Disciplined item expected next log q where
  stores := by
    intro e he
    obtain ⟨earlier, allowed⟩ := h.allowed (calm_meets item expected next) (fun _ _ => trivial) e he
    exact allowed.2
  swaps_le := by
    have meets := (retry_meets item expected next).both (calm_meets item expected next)
    refine h.invariant (I := fun log => log.countP (·.call.swaps) ≤ 3) meets
      (fun _ _ => ⟨trivial, trivial⟩) (Nat.zero_le 3) ?_
    rintro log e few ⟨attempt, calm, -⟩ -
    obtain ⟨c, r⟩ := e
    cases c with
    | swapState i source target =>
      obtain ⟨-, _, _, _, _, older, tries⟩ := attempt
      have spent : log.losses.length = older.losses.length := by
        rw [tries.checked, Log.losses_cons_of_none rfl]
      have left : older.losses.length < 3 := tries.left
      rw [List.countP_cons_of_pos rfl, calm.countP_swaps]
      omega
    | _ =>
      rw [List.countP_cons_of_neg Bool.false_ne_true]
      exact few
  tries := by
    rintro newer older i source target r rfl
    obtain ⟨_, pending⟩ := h.pending
    exact pending.guar (retry_meets item expected next) fun _ _ => trivial
  arrived := by
    rintro reached rfl
    exact h.post (calm_meets item expected next) fun _ _ => trivial
  moved := by
    rintro newer older i source target rfl
    obtain rfl := newest_of_disturbed h nofun
    refine ⟨rfl, ?_⟩
    rcases over_of_disturbed h nofun with ⟨reached, ended, _, _, _, same, _⟩ | ⟨f, failed, _⟩
    · obtain ⟨head, -⟩ := List.cons.inj same
      cases head
      exact ⟨reached, rfl, ended⟩
    · cases failed
  failed := by
    rintro newer older e f rfl failed
    have disturbed : ¬(e.failed = false ∧ e.move? = none) := by
      rw [Event.failed_of_failed? failed]
      exact nofun
    obtain rfl := newest_of_disturbed h disturbed
    refine ⟨rfl, ?_⟩
    rcases over_of_disturbed h disturbed with ⟨_, _, _, _, _, same, _⟩ | ⟨f', failed', ended⟩
    · obtain ⟨rfl, -⟩ := List.cons.inj same
      cases failed
    · rw [ended, Call.failed?_injective failed failed']

end Transition

/-- **The engine keeps its discipline with any store**, whatever it answers and whenever it fails:
an item is moved from whichever state it is in, or from the expected one only. -/
theorem engine_disciplined (item : ItemId) (next : StateName) (log : Log)
    (q : Program (Except EngineError State)) :
    ((apply item next).run.After log q → Disciplined item none next log q) ∧
    ∀ expected, (applyFrom item expected next).run.After log q →
      Disciplined item (some expected) next log q :=
  ⟨transition_disciplined, fun _ => transition_disciplined⟩

/-- A store refuses a swap. It shows the item where it was when it is asked again, and the second
swap is told to have moved it. To a transition that is pinned to the first state it shows another
state, and no second swap is tried. -/
theorem engine_disciplined_contradictory :
    (∃ log, (apply (.ofInt 1) .planned).run.After log (.done (.ok (.ofName .planned))) ∧
      log.map (·.call) =
        [.swapState (.ofInt 1) StateName.pending.id StateName.planned.id,
          .transitionExists (.ofInt 1) StateName.pending.id StateName.planned.id,
          .findItem (.ofInt 1),
          .swapState (.ofInt 1) StateName.pending.id StateName.planned.id,
          .transitionExists (.ofInt 1) StateName.pending.id StateName.planned.id,
          .findMachineState (.ofInt 1) .planned, .findMachine (.ofInt 1), .findItem (.ofInt 1)] ∧
      Disciplined (.ofInt 1) none .planned log (.done (.ok (.ofName .planned)))) ∧
    ∃ log, (applyFrom (.ofInt 1) StateName.pending.id .planned).run.After log
        (.done (.error (.illegalTransition .rejected .planned))) ∧
      log.countP (·.call.swaps) = 1 ∧
      Disciplined (.ofInt 1) (some StateName.pending.id) .planned log
        (.done (.error (.illegalTransition .rejected .planned))) := by
  constructor
  · have read := Program.After.start (p := (apply (.ofInt 1) .planned).run) |>.reply
      (.ok (some (⟨.ofInt 1, .ofInt 1, StateName.pending.id⟩, .ofName .pending)))
    have resolved := (read.reply (.ok (some ⟨.ofInt 1, .lesson, StateName.pending.id⟩))).reply
      (.ok (some (.ofName .planned)))
    have lost := (resolved.reply (.ok true)).reply (.ok false)
    have again := lost.reply
      (.ok (some (⟨.ofInt 1, .ofInt 1, StateName.pending.id⟩, .ofName .pending)))
    have moved := (again.reply (.ok true)).reply (.ok true)
    exact ⟨_, moved, rfl, (engine_disciplined _ _ _ _).1 moved⟩
  · have read := Program.After.start
        (p := (applyFrom (.ofInt 1) StateName.pending.id .planned).run) |>.reply
      (.ok (some (⟨.ofInt 1, .ofInt 1, StateName.pending.id⟩, .ofName .pending)))
    have resolved := (read.reply (.ok (some ⟨.ofInt 1, .lesson, StateName.pending.id⟩))).reply
      (.ok (some (.ofName .planned)))
    have lost := (resolved.reply (.ok true)).reply (.ok false)
    have again := lost.reply
      (.ok (some (⟨.ofInt 1, .ofInt 1, StateName.rejected.id⟩, .ofName .rejected)))
    exact ⟨_, again, rfl, (engine_disciplined _ _ _ _).2 _ again⟩

end Engine

end Tutoring
