import Tutoring.Machine.Engine
import Tutoring.Proofs.Run
import Tutoring.Request.Access

/-!
# One task alone

What becomes of a task when a world serves all its calls and nobody else calls anything.

* `World.attempt`: the result, and the world afterwards.
* `World.attempt_bind_ok`, `World.attempt_ask_ok` and the like: when a task succeeds, by the way it
  is put together. They turn a task into what it requires of the world, in either direction.
* `World.attempt_transition`: an item that nobody else moves is where it was seen, so the first swap
  decides. It can be moved if its machine has the edge (`World.attempt_transition_iff`).
-/

namespace Tutoring

theorem Program.interpret_bind {α β : Type} {m : Type → Type} [Monad m] [LawfulMonad m]
    (reply : (c : Call) → m c.Reply) (p : Program α) (f : α → Program β) :
    (p >>= f).interpret reply = p.interpret reply >>= fun a => (f a).interpret reply := by
  induction p with
  | done a =>
    rw [done_bind]
    exact (pure_bind a fun a => (f a).interpret reply).symm
  | call c next ih =>
    rw [call_bind]
    simp only [interpret, ih, bind_assoc]

namespace World

section Attempt

variable {ε ε' α β : Type} (meet : String → String → Except MeetingError Credential)

/-- Answers a call. -/
def answer (c : Call) : StateM World c.Reply := fun w => w.step meet c

/-- Carries out a task with nothing in between. -/
def attempt (w : World) (t : Task ε α) : Except ε α × World :=
  (t.run.interpret (World.answer meet)).run w

variable {meet} {w w' : World} {a : α} {b : β}

/-- What comes next is attempted in the world that is left, unless there was an error. -/
theorem attempt_bind (t : Task ε α) (f : α → Task ε β) : w.attempt meet (t >>= f) =
    match w.attempt meet t with
    | (.ok a, w₁) => w₁.attempt meet (f a)
    | (.error e, w₁) => (.error e, w₁) := by
  unfold attempt
  rw [ExceptT.run_bind, Program.interpret_bind]
  rw [StateT.run_bind]
  obtain ⟨e | a, w₁⟩ := (t.run.interpret (World.answer meet)).run w
  · rfl
  · rfl

theorem attempt_pure (w : World) (a : α) : w.attempt meet (pure a : Task ε α) = (.ok a, w) := rfl

theorem attempt_throw (w : World) (e : ε) :
    w.attempt meet (throw e : Task ε α) = (.error e, w) := rfl

theorem attempt_bind_of_ok {t : Task ε α} {w₁ : World} (h : w.attempt meet t = (.ok a, w₁))
    (f : α → Task ε β) : w.attempt meet (t >>= f) = w₁.attempt meet (f a) := by
  rw [attempt_bind, h]

theorem attempt_bind_of_error {t : Task ε α} {e : ε} {w₁ : World}
    (h : w.attempt meet t = (.error e, w₁)) (f : α → Task ε β) :
    w.attempt meet (t >>= f) = (.error e, w₁) := by
  rw [attempt_bind, h]

/-- One call, and its effect. -/
theorem attempt_ask (w : World) (c : Call) (wrap : c.Error → ε) :
    @attempt ε (no_index c.Answer) meet w (Task.ask c wrap) =
      ((w.step meet c).1.mapError wrap, (w.step meet c).2) := rfl

/-- What is found is gone on with. -/
theorem attempt_demand_found {t : Task ε (Option α)} (h : w.attempt meet t = (.ok (some a), w'))
    (e : ε) (f : α → Task ε β) :
    w.attempt meet (t >>= fun o => Task.demand e o >>= f) = w'.attempt meet (f a) := by
  rw [attempt_bind_of_ok h]
  rfl

/-- What is missing ends the task. -/
theorem attempt_demand_missing {t : Task ε (Option α)} (h : w.attempt meet t = (.ok none, w'))
    (e : ε) (f : α → Task ε β) :
    w.attempt meet (t >>= fun o => Task.demand e o >>= f) = (.error e, w') := by
  rw [attempt_bind_of_ok h]
  rfl

@[simp] theorem attempt_pure_ok {a' : α} :
    w.attempt meet (pure a : Task ε α) = (.ok a', w') ↔ a' = a ∧ w' = w := by
  rw [attempt_pure]
  simp [eq_comm]

@[simp] theorem attempt_throw_ok {e : ε} :
    w.attempt meet (throw e : Task ε α) = (.ok a, w') ↔ False := by
  rw [attempt_throw]
  simp

/-- Two tasks succeed one after the other. -/
@[simp] theorem attempt_bind_ok {t : Task ε α} {f : α → Task ε β} :
    w.attempt meet (t >>= f) = (.ok b, w') ↔
      ∃ a w₁, w.attempt meet t = (.ok a, w₁) ∧ w₁.attempt meet (f a) = (.ok b, w') := by
  rw [attempt_bind]
  obtain ⟨e | a, w₁⟩ := w.attempt meet t
  · simp
  · constructor
    · exact fun h => ⟨a, w₁, rfl, h⟩
    · rintro ⟨_, _, ⟨rfl⟩, h⟩
      exact h

@[simp] theorem attempt_map_ok {t : Task ε α} {f : α → β} :
    w.attempt meet (f <$> t) = (.ok b, w') ↔ ∃ a, w.attempt meet t = (.ok a, w') ∧ b = f a := by
  rw [map_eq_pure_bind, attempt_bind_ok]
  simp

/-- A call succeeds if its step does. -/
@[simp] theorem attempt_ask_ok {c : Call} {wrap : c.Error → ε} {a : c.Answer} :
    @attempt ε (no_index c.Answer) meet w (Task.ask c wrap) = (.ok a, w') ↔
      w.step meet c = (.ok a, w') := by
  rw [attempt_ask]
  obtain ⟨e | a₁, w₁⟩ := w.step meet c
  · show ((.error (wrap e), w₁) : Except ε c.Answer × World) = (.ok a, w') ↔
      ((.error e, w₁) : c.Reply × World) = (.ok a, w')
    simp
  · show ((.ok a₁, w₁) : Except ε c.Answer × World) = (.ok a, w') ↔
      ((.ok a₁, w₁) : c.Reply × World) = (.ok a, w')
    simp

@[simp] theorem attempt_demand_ok {e : ε} {o : Option α} :
    w.attempt meet (Task.demand e o) = (.ok a, w') ↔ o = some a ∧ w' = w := by
  cases o with
  | none => simp [Task.demand]
  | some a' =>
    rw [Task.demand, attempt_pure_ok, Option.some.injEq, eq_comm]

@[simp] theorem attempt_check_ok {r : Except ε α} :
    w.attempt meet (Task.check r) = (.ok a, w') ↔ r = .ok a ∧ w' = w := by
  show (r, w) = (.ok a, w') ↔ _
  simp [eq_comm]

@[simp] theorem attempt_ite_ok {c : Prop} [Decidable c] {t u : Task ε α} :
    w.attempt meet (if c then t else u) = (.ok a, w') ↔
      (c ∧ w.attempt meet t = (.ok a, w')) ∨ (¬c ∧ w.attempt meet u = (.ok a, w')) := by
  by_cases h : c <;> simp [h]

/-- Only the error is another one. -/
theorem attempt_adapt (f : ε → ε') (t : Task ε α) :
    w.attempt meet (ExceptT.adapt f t : Task ε' α) =
      ((w.attempt meet t).1.mapError f, (w.attempt meet t).2) := by
  have split : (ExceptT.adapt f t : Task ε' α).run = t.run >>= fun r => pure (r.mapError f) := rfl
  unfold attempt
  rw [split, Program.interpret_bind, StateT.run_bind]
  rfl

@[simp] theorem attempt_adapt_ok {f : ε → ε'} {t : Task ε α} :
    w.attempt meet (ExceptT.adapt f t : Task ε' α) = (.ok a, w') ↔
      w.attempt meet t = (.ok a, w') := by
  rw [attempt_adapt]
  obtain ⟨e | a₁, w₁⟩ := w.attempt meet t
  · show ((.error (f e), w₁) : Except ε' α × World) = (.ok a, w') ↔ _
    simp
  · show ((.ok a₁, w₁) : Except ε' α × World) = (.ok a, w') ↔ _
    simp

@[simp] theorem attempt_engine_ok {t : Engine.EngineTask α} :
    w.attempt meet (LessonTask.engine t) = (.ok a, w') ↔ w.attempt meet t = (.ok a, w') :=
  attempt_adapt_ok

end Attempt

/-! ## Looking at lessons and items -/

section Items

variable {meet : String → String → Except MeetingError Credential} {w w' : World} {user : UserId}
  {lesson : LessonId} {id : ItemId} {item : Item} {state : State}

/-- Access is given to an actor who is known, to a lesson that is stored. -/
theorem attempt_load_ok {a : Access} :
    w.attempt meet (Access.load user lesson) = (.ok a, w') ↔
      (∃ u, w.directory.users.get? user = some u) ∧ (∃ l, w.lessons.get? lesson = some l ∧
        a = ⟨l, user, w.directory.teacherOf? user⟩) ∧ w' = w := by
  simp only [Access.load, attempt_bind_ok, attempt_ask_ok, attempt_demand_ok, attempt_pure_ok, step,
    Prod.mk.injEq, Except.ok.injEq]
  constructor
  · rintro ⟨_, _, ⟨rfl, rfl⟩, u, _, ⟨known, rfl⟩, _, _, ⟨rfl, rfl⟩, l, _, ⟨stored, rfl⟩, _, _,
      ⟨rfl, rfl⟩, rfl, rfl⟩
    exact ⟨⟨u, known⟩, ⟨l, stored, rfl⟩, rfl⟩
  · rintro ⟨⟨u, known⟩, ⟨l, stored, rfl⟩, rfl⟩
    exact ⟨_, _, ⟨rfl, rfl⟩, u, _, ⟨known, rfl⟩, _, _, ⟨rfl, rfl⟩, l, _, ⟨stored, rfl⟩, _, _,
      ⟨rfl, rfl⟩, rfl, rfl⟩

theorem attempt_loadItem_ok {found : Item × State} :
    w.attempt meet (Engine.load id) = (.ok found, w') ↔ w.item? id = some found ∧ w' = w := by
  simp only [Engine.load, attempt_bind_ok, attempt_ask_ok, attempt_demand_ok, step, Prod.mk.injEq,
    Except.ok.injEq]
  constructor
  · rintro ⟨_, _, ⟨rfl, rfl⟩, there, rfl⟩
    exact ⟨there, rfl⟩
  · rintro ⟨there, rfl⟩
    exact ⟨_, _, ⟨rfl, rfl⟩, there, rfl⟩

/-- The state of an item is the one that it is in. -/
theorem attempt_current_ok :
    w.attempt meet (Engine.current id) = (.ok state, w') ↔
      (∃ item, w.item? id = some (item, state)) ∧ w' = w := by
  simp only [Engine.current, attempt_bind_ok, attempt_loadItem_ok, attempt_pure_ok]
  constructor
  · rintro ⟨⟨item, _⟩, _, ⟨there, rfl⟩, rfl, rfl⟩
    exact ⟨⟨item, there⟩, rfl⟩
  · rintro ⟨⟨item, there⟩, rfl⟩
    exact ⟨(item, state), _, ⟨there, rfl⟩, rfl, rfl⟩

/-- The states on offer are the next ones of the state that the item is in. -/
theorem attempt_available_ok {next : List State} :
    w.attempt meet (Engine.available id) = (.ok next, w') ↔
      (∃ item state, w.item? id = some (item, state) ∧
        next = w.catalog.nextStates item.machine state.id) ∧ w' = w := by
  simp only [Engine.available, attempt_bind_ok, attempt_loadItem_ok, attempt_ask_ok, step,
    Prod.mk.injEq, Except.ok.injEq]
  constructor
  · rintro ⟨⟨item, state⟩, _, ⟨there, rfl⟩, rfl, rfl⟩
    exact ⟨⟨item, state, there, rfl⟩, rfl⟩
  · rintro ⟨⟨item, state, there, rfl⟩, rfl⟩
    exact ⟨(item, state), _, ⟨there, rfl⟩, rfl, rfl⟩

/-- There is a way into a meeting if the provider answers. -/
theorem attempt_issueCredential_ok {room : LessonId → String} {started : Bool} {c : Credential} :
    w.attempt meet (issueCredential room lesson user started) = (.ok c, w') ↔
      meet (room lesson) user.toText = .ok c ∧ w' = w := by
  simp only [issueCredential, attempt_ask_ok, step, Prod.mk.injEq]
  exact and_congr_right fun _ => eq_comm

end Items

/-! ## Making an item -/

section Create

variable {meet : String → String → Except MeetingError Credential} {w : World} {name : MachineName}
  {m : Machine}

/-- A new item is in the start state of its machine. -/
theorem attempt_create_ok (h : w.catalog.machineNamed? name = some m) :
    w.attempt meet (Engine.create name) =
      (.ok ⟨w.nextItem, m.id, m.start⟩, (w.addItem m.id m.start).2) := by
  unfold Engine.create
  rw [attempt_demand_found (congrArg (fun o => (Except.ok o, w)) h)]
  rfl

theorem attempt_create_none (h : w.catalog.machineNamed? name = none) :
    w.attempt meet (Engine.create name) = (.error (.unknownMachine name), w) := by
  unfold Engine.create
  rw [attempt_demand_missing (congrArg (fun o => (Except.ok o, w)) h)]

end Create

/-! ## Moving an item -/

section Move

variable {meet : String → String → Except MeetingError Credential} {w w' : World} {id : ItemId}
  {item : Item} {state : State}

/-- An item that is not there is not found, and neither is one in no state of the catalog. -/
theorem attempt_loadItem_none (absent : w.item? id = none) :
    w.attempt meet (Engine.load id) = (.error (.itemNotFound id), w) := by
  have asked : w.step meet (.findItem id) = (.ok none, w) :=
    congrArg (fun o => (Except.ok o, w)) absent
  rw [Engine.load, attempt_bind_of_ok (attempt_ask_ok.2 asked)]
  rfl

/-- The swaps of a transition: the first one decides. -/
theorem attempt_swap {m : Machine} {expected : Option StateId} {target : State} {next : StateName}
    (there : w.item? id = some (item, state)) (machine : m.id = item.machine)
    (attempts : Nat) :
    w.attempt meet (Engine.swap id m expected target next (attempts + 1) state) =
      if (∀ s ∈ expected, s = state.id) ∧ w.catalog.hasEdge item.machine state.id target.id = true
      then (.ok target, { w with items := w.items.insert id { item with state := target.id } })
      else (.error (.illegalTransition state.name next), w) := by
  rw [Engine.swap]
  by_cases pinned : ∀ s ∈ expected, s = state.id
  · have unpinned : ¬(expected.any (· ≠ state.id) = true) := by
      rw [Option.any_eq_true]
      rintro ⟨s, hs, other⟩
      exact of_decide_eq_true other (pinned s hs)
    have looked : w.step meet (.transitionExists m.id state.id target.id) =
        (.ok (w.catalog.hasEdge item.machine state.id target.id), w) := by
      rw [← machine]
      rfl
    rw [if_neg unpinned, Engine.can, attempt_bind_of_ok (attempt_ask_ok.2 looked)]
    cases edge : w.catalog.hasEdge item.machine state.id target.id with
    | false => simp [attempt_throw]
    | true =>
      obtain ⟨found, known⟩ := item?_eq_some.1 there
      have same : item.state = state.id := (State.id_eq_of_ofId? known).1.symm
      have swapped : w.step meet (.swapState id state.id target.id) =
          (.ok true, { w with items := w.items.insert id { item with state := target.id } }) := by
        simp only [step, swap, found, same, edge]
        rfl
      refine (attempt_bind_of_ok (attempt_ask_ok.2 swapped) _).trans ?_
      exact (if_pos ⟨pinned, rfl⟩).symm
  · have other : expected.any (· ≠ state.id) = true := by
      refine (Option.any_eq_true _ _).2 ?_
      obtain ⟨s, hs⟩ := Classical.not_forall.1 pinned
      obtain ⟨hs, ne⟩ := Classical.not_imp.1 hs
      exact ⟨s, hs, decide_eq_true ne⟩
    rw [if_pos other, if_neg fun h => pinned h.1]
    rfl

/-- A transition that nobody interferes with. -/
theorem attempt_transition {expected : Option StateId} {next : StateName}
    (there : w.item? id = some (item, state)) :
    w.attempt meet (Engine.transition id expected next) =
      match w.catalog.machine? item.machine with
      | none => (.error (Engine.danglingItem item), w)
      | some m =>
        match w.catalog.stateOf? item.machine next with
        | none => (.error (.unknownState m.name next), w)
        | some target =>
          if (∀ s ∈ expected, s = state.id) ∧
            w.catalog.hasEdge item.machine state.id target.id = true
          then (.ok target, { w with items := w.items.insert id { item with state := target.id } })
          else (.error (.illegalTransition state.name next), w) := by
  rw [Engine.transition, attempt_bind_of_ok (attempt_loadItem_ok.2 ⟨there, rfl⟩)]
  simp only [Engine.machineOf]
  cases found : w.catalog.machine? item.machine with
  | none =>
    have given : w.step meet (.findMachine item.machine) = (.ok none, w) :=
      congrArg (fun o => (Except.ok o, w)) found
    refine attempt_bind_of_error ?_ _
    rw [attempt_bind_of_ok (attempt_ask_ok.2 given)]
    rfl
  | some m =>
    have machine := Catalog.id_of_machine? found
    have given : w.step meet (.findMachine item.machine) = (.ok (some m), w) :=
      congrArg (fun o => (Except.ok o, w)) found
    have named : w.step meet (.findMachineState m.id next) =
        (.ok (w.catalog.stateOf? item.machine next), w) := by
      rw [← machine]
      rfl
    have known : w.attempt meet (Engine.machineOf item) = (.ok m, w) := by
      rw [Engine.machineOf, attempt_bind_of_ok (attempt_ask_ok.2 given)]
      rfl
    refine (attempt_bind_of_ok known _).trans ?_
    rw [attempt_bind_of_ok (attempt_ask_ok.2 named)]
    cases w.catalog.stateOf? item.machine next with
    | none => rfl
    | some target =>
      rw [attempt_bind_of_ok (attempt_demand_ok.2 ⟨rfl, rfl⟩)]
      exact attempt_swap there machine 2

/-- An item can be moved if its machine has the edge. -/
theorem attempt_transition_iff {expected : Option StateId} {next : StateName}
    (there : w.item? id = some (item, state)) (pinned : ∀ s ∈ expected, s = state.id) :
    (∃ reached w', w.attempt meet (Engine.transition id expected next) = (.ok reached, w')) ↔
      (∃ m, w.catalog.machine? item.machine = some m) ∧
        w.catalog.hasEdge item.machine state.id next.id = true := by
  rw [attempt_transition there]
  cases found : w.catalog.machine? item.machine with
  | none => simp
  | some m =>
    cases named : w.catalog.stateOf? item.machine next with
    | none =>
      have absent : ¬(w.catalog.hasEdge item.machine state.id next.id = true) :=
        fun edge => nomatch (Catalog.stateOf?_of_hasEdge found edge).symm.trans named
      simp [absent]
    | some target =>
      obtain rfl := Catalog.eq_of_stateOf? named
      dsimp only
      constructor
      · intro h
        obtain ⟨_, _, moved⟩ := h
        split at moved
        · next h => exact ⟨⟨m, rfl⟩, h.2⟩
        · cases moved
      · intro h
        exact ⟨_, _, if_pos ⟨pinned, h.2⟩⟩

end Move

end World

end Tutoring
