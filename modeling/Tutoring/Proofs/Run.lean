import Tutoring.Proofs.Catalog
import Tutoring.Proofs.Contract
import Tutoring.World

/-!
# Many requests over one world

Any number of requests are under way at once. A step of a run is one call of one of them: the world
serves the call, or the call fails and the world stays as it is. The meeting provider answers as it
likes.

* `World.Effect`: all that a call can do to the world. `World.Reacts.effect` says that there is
  nothing else, so an invariant has one case for each kind of change.
* `Run`: the runs of a list of requests, with the calls made so far, each with the place of the
  request that made it, the latest one first.
* `Run.after`: what a request has seen of a run is a log of its own program, so a contract of the
  program holds within every run (`Program.After.guar`, `Program.After.post`).
* `Run.serve`: a run may go on with one request alone.
-/

namespace Tutoring

/-! ## What a call does -/

/-- The event changes a store. -/
def Event.changes : Event → Bool
  | ⟨.reserveSlot _, .ok true⟩ | ⟨.releaseSlot _, .ok _⟩ | ⟨.insertLesson _, .ok _⟩
  | ⟨.insertItem _ _, .ok _⟩ | ⟨.deleteItem _, .ok _⟩ | ⟨.swapState _ _ _, .ok true⟩ => true
  | _ => false

namespace World

/-- What may come of a call: it is served, with any provider of meetings, or it fails. -/
inductive Reacts (w : World) (c : Call) : c.Reply → World → Prop
  | served (meet : String → String → Except MeetingError Credential) :
      Reacts w c (w.step meet c).1 (w.step meet c).2
  | failed (e : c.Error) : Reacts w c (.error e) w

/-- What an event does to a world in which it happens. -/
inductive Effect (w : World) : Event → World → Prop
  | reserve {id : SlotId} {slot : Slot} (found : w.slots.get? id = some slot)
      (free : slot.available = true) :
      Effect w ⟨.reserveSlot id, .ok true⟩
        { w with slots := w.slots.insert id { slot with available := false } }
  | release (id : SlotId) : Effect w ⟨.releaseSlot id, .ok ()⟩ (w.release id)
  | addLesson (draft : LessonDraft) :
      Effect w ⟨.insertLesson draft, .ok (draft.numbered w.nextLesson)⟩ (w.addLesson draft).2
  | addItem (machine : MachineId) (state : StateId) :
      Effect w ⟨.insertItem machine state, .ok ⟨w.nextItem, machine, state⟩⟩
        (w.addItem machine state).2
  | removeItem (id : ItemId) : Effect w ⟨.deleteItem id, .ok ()⟩ (w.removeItem id)
  | move {id : ItemId} {item : Item} {next : StateId} (found : w.items.get? id = some item)
      (edge : w.catalog.hasEdge item.machine item.state next = true) :
      Effect w ⟨.swapState id item.state next, .ok true⟩
        { w with items := w.items.insert id { item with state := next } }
  | idle {e : Event} (h : e.changes = false) : Effect w e w

variable {w w' : World} {c : Call} {r : c.Reply} {e : Event}

private theorem reserve_effect (w : World) (id : SlotId) :
    w.Effect ⟨.reserveSlot id, .ok (w.reserve id).1⟩ (w.reserve id).2 := by
  unfold reserve
  cases found : w.slots.get? id with
  | none => exact .idle rfl
  | some slot =>
    by_cases free : slot.available
    · simp only [free, if_true]
      exact .reserve found free
    · simp only [free]
      exact .idle rfl

private theorem swap_effect (w : World) (id : ItemId) (expected next : StateId) :
    w.Effect ⟨.swapState id expected next, .ok (w.swap id expected next).1⟩
      (w.swap id expected next).2 := by
  unfold swap
  cases found : w.items.get? id with
  | none => exact .idle rfl
  | some item =>
    by_cases h : item.state = expected ∧ w.catalog.hasEdge item.machine expected next
    · obtain ⟨rfl, edge⟩ := h
      simp only [edge, and_self, if_true]
      exact .move found edge
    · simp only [h, if_false]
      exact .idle rfl

/-- There is nothing else that a call can do. -/
theorem Reacts.effect (h : w.Reacts c r w') : w.Effect ⟨c, r⟩ w' := by
  cases h with
  | failed e => exact .idle (by cases c <;> rfl)
  | served meet =>
    cases c with
    | reserveSlot id => exact reserve_effect w id
    | releaseSlot id => exact .release id
    | insertLesson draft => exact .addLesson draft
    | insertItem machine state => exact .addItem machine state
    | deleteItem id => exact .removeItem id
    | swapState id expected next => exact swap_effect w id expected next
    | _ => exact .idle rfl

theorem Effect.directory_eq (h : w.Effect e w') : w'.directory = w.directory := by
  cases h <;> rfl

theorem Effect.catalog_eq (h : w.Effect e w') : w'.catalog = w.catalog := by
  cases h <;> rfl

theorem Effect.moved {id : ItemId} {source target : StateId}
    (h : w.Effect ⟨.swapState id source target, .ok true⟩ w') :
    ∃ item, w.items.get? id = some item ∧ item.state = source ∧
      w.catalog.hasEdge item.machine source target = true ∧
      w' = { w with items := w.items.insert id { item with state := target } } := by
  cases h with
  | move found edge => exact ⟨_, found, rfl, edge, rfl⟩
  | idle h => cases h

theorem Effect.lesson_kept {lesson : LessonId} {l : Lesson} (h : w.Effect e w')
    (stored : w.lessons.get? lesson = some l)
    (kept : ∀ draft, e ≠ ⟨.insertLesson draft, .ok (draft.numbered lesson)⟩) :
    w'.lessons.get? lesson = some l := by
  cases h with
  | addLesson draft =>
    have other : lesson ≠ w.nextLesson := by
      rintro rfl
      exact kept draft rfl
    show (w.lessons.insert w.nextLesson _).get? lesson = some l
    rw [Table.get?_insert, if_neg other, stored]
  | _ => exact stored

theorem Reacts.served_of_ok {a : c.Answer} (h : w.Reacts c (.ok a) w') :
    ∃ meet, w.step meet c = (.ok a, w') := by
  generalize hr : (Except.ok a : c.Reply) = r at h
  cases h with
  | served meet => exact ⟨meet, rfl⟩
  | failed e => cases hr

/-- A call that only looks something up is answered with what is there, and nothing changes. -/
theorem Reacts.answer_eq {a : c.Answer} {f : World → c.Answer} (h : w.Reacts c (.ok a) w')
    (looks_up : ∀ meet (w : World), w.step meet c = (.ok (f w), w)) : f w = a ∧ w' = w := by
  obtain ⟨meet, step⟩ := h.served_of_ok
  obtain ⟨answer, same⟩ := Prod.mk.inj ((looks_up meet w).symm.trans step)
  exact ⟨Except.ok.inj answer, same.symm⟩

/-! ## Honest replies -/

/-- A reply that some world with this directory and these machines may give. -/
def Honest (d : Directory) (k : Catalog) (e : Event) : Prop :=
  ∃ w w' : World, w.directory = d ∧ w.catalog = k ∧ w.Reacts e.call e.reply w'

variable {d : Directory} {k : Catalog}

theorem Honest.served_of_ok {c : Call} {a : c.Answer} (h : Honest d k ⟨c, .ok a⟩) :
    ∃ w w' : World, w.directory = d ∧ w.catalog = k ∧ ∃ meet, w.step meet c = (.ok a, w') := by
  obtain ⟨w, w', hd, hk, reacts⟩ := h
  exact ⟨w, w', hd, hk, reacts.served_of_ok⟩

/-- What depends on the directory and the machines alone is answered accordingly. -/
theorem Honest.answer_eq {c : Call} {a : c.Answer} (h : Honest d k ⟨c, .ok a⟩)
    {f : Directory → Catalog → c.Answer}
    (hf : ∀ meet (w : World), (w.step meet c).1 = .ok (f w.directory w.catalog)) : a = f d k := by
  obtain ⟨w, w', rfl, rfl, meet, step⟩ := h.served_of_ok
  have answer : (w.step meet c).1 = .ok a := congrArg Prod.fst step
  exact Except.ok.inj (answer.symm.trans (hf meet w))

end World

namespace World

variable {d : Directory} {k : Catalog}

theorem item?_eq_some {w : World} {id : ItemId} {item : Item} {state : State} :
    w.item? id = some (item, state) ↔
      w.items.get? id = some item ∧ State.ofId? item.state = some state := by
  unfold item?
  simp only [Option.bind_eq_bind, Option.bind_eq_some_iff, Option.pure_def, Option.some.injEq,
    Prod.mk.injEq]
  constructor
  · rintro ⟨_, there, _, known, rfl, rfl⟩
    exact ⟨there, known⟩
  · rintro ⟨there, known⟩
    exact ⟨_, there, _, known, rfl, rfl⟩

/-- An item is seen in a state that goes by the number of its name. -/
theorem Honest.findItem {id : ItemId} {item : Item} {state : State}
    (h : Honest d k ⟨.findItem id, .ok (some (item, state))⟩) : state.id = state.name.id := by
  obtain ⟨w, w', rfl, rfl, meet, step⟩ := h.served_of_ok
  have found : w.item? id = some (item, state) := Except.ok.inj (congrArg Prod.fst step)
  obtain ⟨-, known⟩ := item?_eq_some.1 found
  obtain ⟨id_eq, name_eq⟩ := State.id_eq_of_ofId? known
  rw [id_eq, ← name_eq]

theorem Honest.findMachineState {machine : MachineId} {name : StateName} {state : State}
    (h : Honest d k ⟨.findMachineState machine name, .ok (some state)⟩) :
    state = .ofName name := by
  have found : some state = k.stateOf? machine name :=
    h.answer_eq (f := fun _ k => k.stateOf? machine name) fun _ _ => rfl
  exact Catalog.eq_of_stateOf? found.symm

end World

/-! ## Runs -/

/-- The calls of a run, each with the place of the request that made it, the latest one first. -/
abbrev Trace := List (Nat × Event)

namespace Trace

/-- What the request at a place has seen of a run. -/
def own (i : Nat) (trace : Trace) : Log :=
  trace.filterMap fun e => if e.1 = i then some e.2 else none

variable {i j : Nat} {e : Event} {later earlier trace : Trace} {log' : Log}

@[simp] theorem own_nil : own i [] = [] := rfl

@[simp] theorem own_cons_self : own i ((i, e) :: trace) = e :: own i trace := by
  simp [own]

theorem own_cons_of_ne (h : j ≠ i) : own i ((j, e) :: trace) = own i trace := by
  simp [own, h]

theorem mem_own : e ∈ own i trace ↔ (i, e) ∈ trace := by
  simp [own]

theorem own_append : own i (later ++ earlier) = own i later ++ own i earlier :=
  List.filterMap_append

/-- A call in what a request has seen is a call of the run. -/
theorem split_own (log : Log) (h : own i trace = log ++ e :: log') :
    ∃ later earlier, trace = later ++ (i, e) :: earlier ∧ own i later = log ∧
      own i earlier = log' := by
  obtain ⟨l₁, l₂, rfl, rfl, h₂⟩ := List.filterMap_eq_append_iff.1 h
  obtain ⟨between, ⟨j, e'⟩, earlier, rfl, others, own_eq, rfl⟩ := List.filterMap_eq_cons_iff.1 h₂
  have mine : j = i ∧ e' = e := by simpa using own_eq
  obtain ⟨rfl, rfl⟩ := mine
  refine ⟨l₁ ++ between, earlier, by simp, ?_, rfl⟩
  rw [own_append]
  have nothing : own j between = [] := List.filterMap_eq_nil_iff.2 others
  rw [nothing, List.append_nil]
  rfl

end Trace

section Run

variable {ρ : Type} {β : ρ → Type} (program : (r : ρ) → Program (β r))

/-- The runs of a list of requests from a world. -/
inductive Run (requests : List ρ) (start : World) : Trace → World → Prop
  | start : Run requests start [] start
  | step {trace : Trace} {w w' : World} {i : Nat} {r : ρ} {c : Call}
      {next : c.Reply → Program (β r)} {reply : c.Reply} (before : Run requests start trace w)
      (request : requests[i]? = some r)
      (pending : (program r).After (trace.own i) (.call c next)) (reacts : w.Reacts c reply w') :
      Run requests start ((i, ⟨c, reply⟩) :: trace) w'

namespace Run

variable {program} {requests : List ρ} {start w w' : World} {trace : Trace} {i : Nat} {r : ρ}
  {e : Event} {K : Contract} {Q : Log → β r → Prop}

/-- Before the latest call there was a run in which the request was about to make it. -/
theorem last (h : Run program requests start ((i, e) :: trace) w') :
    ∃ w r, ∃ next : e.call.Reply → Program (β r), Run program requests start trace w ∧
      requests[i]? = some r ∧ (program r).After (trace.own i) (.call e.call next) ∧
      w.Reacts e.call e.reply w' := by
  cases h with
  | step before request pending reacts => exact ⟨_, _, _, before, request, pending, reacts⟩

theorem directory_eq (h : Run program requests start trace w) :
    w.directory = start.directory := by
  induction h with
  | start => rfl
  | step _ _ _ reacts ih => rw [reacts.effect.directory_eq, ih]

theorem catalog_eq (h : Run program requests start trace w) : w.catalog = start.catalog := by
  induction h with
  | start => rfl
  | step _ _ _ reacts ih => rw [reacts.effect.catalog_eq, ih]

/-- Every reply of a run is one of a world with the same directory and machines. -/
theorem honest (h : Run program requests start trace w) :
    ∀ e ∈ trace, World.Honest start.directory start.catalog e.2 := by
  induction h with
  | start => exact fun _ h => nomatch h
  | step before _ _ reacts ih =>
    refine List.forall_mem_cons.2 ⟨?_, ih⟩
    exact ⟨_, _, before.directory_eq, before.catalog_eq, reacts⟩

/-- What a request has seen of a run is a log of its program. -/
theorem after (h : Run program requests start trace w) (request : requests[i]? = some r) :
    ∃ q, (program r).After (trace.own i) q := by
  induction h with
  | start => exact ⟨_, .start⟩
  | @step trace _ _ j r' c next reply _ request' pending _ ih =>
    by_cases hj : j = i
    · subst hj
      obtain rfl : r' = r := Option.some.inj (request'.symm.trans request)
      rw [Trace.own_cons_self]
      exact ⟨_, pending.reply reply⟩
    · rw [Trace.own_cons_of_ne hj]
      exact ih

/-- Every call of a run was the latest one once. -/
theorem occurred (h : Run program requests start trace w) (he : (i, e) ∈ trace) :
    ∃ later earlier w₁, trace = later ++ (i, e) :: earlier ∧
      Run program requests start ((i, e) :: earlier) w₁ := by
  induction h with
  | start => cases he
  | @step trace _ _ j _ c _ reply before request pending reacts ih =>
    rcases List.mem_cons.1 he with heq | he
    · obtain ⟨rfl, rfl⟩ := Prod.mk.inj heq
      exact ⟨[], trace, _, rfl, before.step request pending reacts⟩
    · obtain ⟨later, earlier, w₁, rfl, run⟩ := ih he
      exact ⟨(j, ⟨c, reply⟩) :: later, earlier, w₁, rfl, run⟩

/-- A run up to an earlier call. -/
theorem upto {later : Trace} (h : Run program requests start (later ++ trace) w) :
    ∃ w₁, Run program requests start trace w₁ := by
  induction later generalizing w with
  | nil => exact ⟨w, h⟩
  | cons e later ih =>
    obtain ⟨_, _, _, before, _⟩ := h.last
    exact ih before

/-- What the latest reading of an item tells: the item is in that state. -/
theorem read_item {id : ItemId} {item : Item} {seen : State}
    (h : Run program requests start ((i, ⟨.findItem id, .ok (some (item, seen))⟩) :: trace) w) :
    w.item? id = some (item, seen) ∧ Run program requests start trace w := by
  obtain ⟨_, _, _, before, _, _, reacts⟩ := h.last
  obtain ⟨there, rfl⟩ := reacts.answer_eq (f := (·.item? id)) fun _ _ => rfl
  exact ⟨there, before⟩

/-- A lesson that was found is still stored, unless its number has been given out since. -/
theorem lesson_kept {later earlier : Trace} {lesson : LessonId} {l : Lesson}
    (h : Run program requests start
      (later ++ (i, ⟨.findLesson lesson, .ok (some l)⟩) :: earlier) w)
    (kept : ∀ j draft, (j, ⟨.insertLesson draft, .ok (draft.numbered lesson)⟩) ∉ later) :
    w.lessons.get? lesson = some l := by
  induction later generalizing w with
  | nil =>
    obtain ⟨w₀, _, _, _, _, _, reacts⟩ := h.last
    obtain ⟨stored, rfl⟩ := reacts.answer_eq (f := (·.lessons.get? lesson)) fun _ _ => rfl
    exact stored
  | cons e later ih =>
    obtain ⟨w₀, _, _, before, _, _, reacts⟩ := h.last
    have stored := ih before fun j draft hm => kept j draft (List.mem_cons_of_mem _ hm)
    refine reacts.effect.lesson_kept stored fun draft he => kept e.1 draft ?_
    have same : e = (e.1, ⟨.insertLesson draft, .ok (draft.numbered lesson)⟩) :=
      Prod.ext rfl he
    rw [same]
    exact List.mem_cons_self

theorem own_honest (h : Run program requests start trace w) (i : Nat) :
    ∀ e ∈ trace.own i, World.Honest start.directory start.catalog e :=
  fun _ he => h.honest _ (Trace.mem_own.1 he)

end Run

end Run

/-! ## One request at a time -/

/-- Serves a number of calls of the request at a place, with nothing in between: the calls with what
came before them, the world and the program that is left. -/
def Program.serve {α : Type} (meet : String → String → Except MeetingError Credential) (i : Nat) :
    Nat → Trace → World → Program α → Trace × World × Program α
  | 0, trace, w, p => (trace, w, p)
  | _ + 1, trace, w, .done a => (trace, w, .done a)
  | n + 1, trace, w, .call c next =>
    (next (w.step meet c).1).serve meet i n ((i, ⟨c, (w.step meet c).1⟩) :: trace)
      (w.step meet c).2

theorem Run.serve {ρ : Type} {β : ρ → Type} {program : (r : ρ) → Program (β r)}
    {requests : List ρ} {start w : World} {trace : Trace} {i : Nat} {r : ρ} {p : Program (β r)}
    (meet : String → String → Except MeetingError Credential) (n : Nat)
    (h : Run program requests start trace w) (request : requests[i]? = some r)
    (after : (program r).After (trace.own i) p) :
    Run program requests start (p.serve meet i n trace w).1 (p.serve meet i n trace w).2.1 ∧
      (program r).After ((p.serve meet i n trace w).1.own i) (p.serve meet i n trace w).2.2 := by
  induction n generalizing trace w p with
  | zero => exact ⟨h, after⟩
  | succ n ih =>
    cases p with
    | done a => exact ⟨h, after⟩
    | call c next =>
      refine ih (h.step request after (.served meet)) ?_
      rw [Trace.own_cons_self]
      exact after.reply _

/-- A small world: user 1 has booked a lesson with user 2 that has been planned, and the teacher has
another slot that is open. -/
def World.sample : World where
  directory :=
    ((((Directory.empty.addUser ⟨.ofInt 1, "student"⟩).addUser ⟨.ofInt 2, "teacher"⟩).addTeacher
      ⟨.ofInt 1, .ofInt 2⟩).addCategory ⟨.ofInt 1, "algebra", true⟩).addSkill
      ⟨.ofInt 1, .ofInt 1, true⟩
  slots :=
    (Table.empty.insert (.ofInt 1) ⟨.ofInt 1, .ofInt 1, .epoch, .epoch, false⟩).insert (.ofInt 2)
      ⟨.ofInt 2, .ofInt 1, .epoch, .epoch, true⟩
  catalog := .ofBlueprints Blueprint.defaultCatalog
  items := Table.empty.insert (.ofInt 1) ⟨.ofInt 1, .ofInt 1, StateName.planned.id⟩
  nextItem := .ofInt 2
  lessons := Table.empty.insert (.ofInt 1)
    ⟨⟨.ofInt 1, .ofInt 1, .ofInt 1, .ofInt 1, .ofInt 1, .epoch⟩, .ofInt 1⟩
  nextLesson := .ofInt 2

end Tutoring
