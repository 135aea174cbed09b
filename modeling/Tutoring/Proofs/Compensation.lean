import Tutoring.Proofs.Contention
import Tutoring.Proofs.History

/-!
# What a failed booking leaves behind

A booking takes a slot, makes an item and stores a lesson, and each of these calls may fail, as may
the calls that undo them.

* `Booking.stop?`: the error that ends a booking at a call. `Booking.BrokenOff` says that an error
  is the one of the first call at which the booking had to stop, and that only undoing came after it.
* `Booking.Compensated`: a failed booking has stored no lesson, it has asked for the release of just
  the slot that it took and for the removal of just the item that it made.
* `bookLesson_compensates`: this holds whatever is answered.
* `Booking.Footprint`: what a booking has done to the world so far, read off its log.
* `failed_booking_undone`: if no call of the undoing fails, the world is as it was before.
-/

namespace Tutoring

/-! ## What a log has made and what it has asked to undo -/

/-- The slot that a call is to release. -/
def Call.releases? : Call → Option SlotId
  | .releaseSlot id => some id
  | _ => none

/-- The item that a call is to remove. -/
def Call.removes? : Call → Option ItemId
  | .deleteItem id => some id
  | _ => none

/-- The call undoes a step of a booking. -/
def Call.undoes (c : Call) : Bool := c.releases?.isSome || c.removes?.isSome

namespace Event

/-- The lesson that a call has stored. -/
def stored? : Event → Option Lesson
  | ⟨.insertLesson _, .ok l⟩ => some l
  | _ => none

/-- The item that a call has removed. -/
def removed? : Event → Option ItemId
  | ⟨.deleteItem id, .ok _⟩ => some id
  | _ => none

theorem unmade_of_idle {e : Event} (h : e.changes = false) :
    e.made? = none ∧ e.stored? = none ∧ e.removed? = none := by
  obtain ⟨c, r⟩ := e
  cases c with
  | insertItem | insertLesson | deleteItem =>
    obtain _ | _ := r
    · exact ⟨rfl, rfl, rfl⟩
    · cases h
  | _ => exact ⟨rfl, rfl, rfl⟩

end Event

namespace Log

/-- The items that a log has made. -/
def made (log : Log) : List ItemId := log.filterMap fun e => e.made?.map (·.id)

/-- The lessons that a log has stored. -/
def stored (log : Log) : List Lesson := log.filterMap Event.stored?

/-- The slots that a log has asked to release, whatever was answered. -/
def releases (log : Log) : List SlotId := log.filterMap (·.call.releases?)

/-- The items that a log has asked to remove, whatever was answered. -/
def removals (log : Log) : List ItemId := log.filterMap (·.call.removes?)

/-- The item that was made last, unless it has been removed since. -/
def kept : Log → Option ItemId
  | [] => none
  | e :: log =>
    match e.made? with
    | some item => some item.id
    | none => if e.removed? = kept log then none else kept log

variable {e : Event} {log : Log} {id : ItemId} {item : Item}

theorem made_cons_of_none (h : e.made? = none) : made (e :: log) = made log :=
  List.filterMap_cons_none (by rw [h]; rfl)

theorem made_cons_of_some (h : e.made? = some item) : made (e :: log) = item.id :: made log :=
  List.filterMap_cons_some (by rw [h]; rfl)

theorem stored_cons_of_none (h : e.stored? = none) : stored (e :: log) = stored log :=
  List.filterMap_cons_none h

theorem stored_cons_of_some {l : Lesson} (h : e.stored? = some l) :
    stored (e :: log) = l :: stored log :=
  List.filterMap_cons_some h

theorem releases_cons_of_none (h : e.call.releases? = none) : releases (e :: log) = releases log :=
  List.filterMap_cons_none h

theorem removals_cons_of_none (h : e.call.removes? = none) : removals (e :: log) = removals log :=
  List.filterMap_cons_none h

theorem kept_cons_of_made (h : e.made? = some item) : kept (e :: log) = some item.id := by
  simp [kept, h]

/-- An item is no longer kept once it is removed. -/
theorem kept_cons_of_removed (h : e.removed? = some id) (hk : kept log = some id)
    (hm : e.made? = none) : kept (e :: log) = none := by
  simp [kept, h, hk, hm]

theorem kept_cons_of_none (hm : e.made? = none) (hr : e.removed? = none) :
    kept (e :: log) = kept log := by
  cases h : kept log <;> simp [kept, hm, hr, h]

/-- Who has made nothing keeps nothing. -/
theorem kept_of_unmade (h : log.made = []) : log.kept = none := by
  induction log with
  | nil => rfl
  | cons e log ih =>
    cases he : e.made? with
    | none =>
      rw [made_cons_of_none he] at h
      simp [kept, he, ih h]
    | some item =>
      exact nomatch (made_cons_of_some he).symm.trans h

end Log

/-! ## How far a log has come -/

/-- The slot, if there is one, is held, the item, if there is one, has been made, and no lesson has
been stored. Nothing has been undone. -/
structure Log.Holds (slot? : Option SlotId) (item? : Option ItemId) (log : Log) : Prop where
  taken_eq : log.taken = slot?.toList
  held_eq : log.held = slot?
  made_eq : log.made = item?.toList
  kept_eq : log.kept = item?
  stored_eq : log.stored = []
  forward : ∀ u ∈ log, u.call.undoes = false

namespace Log.Holds

variable {log : Log} {e : Event} {slot? : Option SlotId} {item? : Option ItemId}

theorem start : Holds none none [] := ⟨rfl, rfl, rfl, rfl, rfl, fun _ h => nomatch h⟩

theorem releases_eq (h : Holds slot? item? log) : log.releases = [] := by
  refine List.filterMap_eq_nil_iff.2 fun u hu => ?_
  have plain := h.forward u hu
  unfold Call.undoes at plain
  rw [Bool.or_eq_false_iff] at plain
  simpa using plain.1

theorem removals_eq (h : Holds slot? item? log) : log.removals = [] := by
  refine List.filterMap_eq_nil_iff.2 fun u hu => ?_
  have plain := h.forward u hu
  unfold Call.undoes at plain
  rw [Bool.or_eq_false_iff] at plain
  simpa using plain.2

/-- A call that changes nothing leaves what is held as it is. -/
theorem idle (h : Holds slot? item? log) (idle : e.changes = false)
    (plain : e.call.undoes = false) : Holds slot? item? (e :: log) := by
  obtain ⟨taken, booked, released⟩ := Event.slotless_of_idle idle
  obtain ⟨made, stored, removed⟩ := Event.unmade_of_idle idle
  refine ⟨?_, ?_, ?_, ?_, ?_, List.forall_mem_cons.2 ⟨plain, h.forward⟩⟩
  · rw [taken_cons_of_none taken, h.taken_eq]
  · rw [held_cons_of_idle taken booked released, h.held_eq]
  · rw [made_cons_of_none made, h.made_eq]
  · rw [kept_cons_of_none made removed, h.kept_eq]
  · rw [stored_cons_of_none stored, h.stored_eq]

theorem take (h : Holds none none log) (id : SlotId) :
    Holds (some id) none (⟨.reserveSlot id, .ok true⟩ :: log) where
  taken_eq := congrArg (id :: ·) h.taken_eq
  held_eq := held_cons_of_taken rfl
  made_eq := (made_cons_of_none rfl).trans h.made_eq
  kept_eq := (kept_cons_of_none rfl rfl).trans h.kept_eq
  stored_eq := (stored_cons_of_none rfl).trans h.stored_eq
  forward := List.forall_mem_cons.2 ⟨rfl, h.forward⟩

theorem make (h : Holds slot? none log) (machine : MachineId) (state : StateId) (item : Item) :
    Holds slot? (some item.id) (⟨.insertItem machine state, .ok item⟩ :: log) where
  taken_eq := (taken_cons_of_none rfl).trans h.taken_eq
  held_eq := (held_cons_of_idle rfl rfl rfl).trans h.held_eq
  made_eq := congrArg (item.id :: ·) h.made_eq
  kept_eq := kept_cons_of_made rfl
  stored_eq := (stored_cons_of_none rfl).trans h.stored_eq
  forward := List.forall_mem_cons.2 ⟨rfl, h.forward⟩

end Log.Holds

/-! ## Why a booking stops -/

/-- The teacher that a call has found. -/
def Event.teacher? : Event → Option Teacher
  | ⟨.findTeacher _, .ok t⟩ => t
  | _ => none

namespace Booking

/-- The error that ends a booking at a call: the call failed, or its answer rules the booking out.
`log` is what came before the call. -/
def stop? (b : Booking) (log : Log) : Event → Option LessonError
  | ⟨.findUser user, .ok none⟩ => some (.actorNotFound user)
  | ⟨.findTeacher teacher, .ok none⟩ => some (.teacherNotFound teacher)
  | ⟨.findTeacher _, .ok (some t)⟩ => if t.user = b.student then some .selfBooking else none
  | ⟨.findCategory category, .ok none⟩ => some (.categoryNotFound category)
  | ⟨.findCategory _, .ok (some c)⟩ => if c.active then none else some (.categoryInactive c.id)
  | ⟨.findSkill teacher category, .ok skill⟩ =>
    if skill.any (·.active) then none else some (.skillInactive teacher category)
  | ⟨.findSlot slot, .ok none⟩ => some (.slotNotFound slot)
  | ⟨.findSlot _, .ok (some s)⟩ =>
    match log.findSome? Event.teacher? with
    | some t =>
      if s.teacher ≠ t.id then some (.slotNotOwned s.id t.id)
      else if s.available then none else some (.slotUnavailable s.id)
    | none => none
  | ⟨.reserveSlot slot, .ok taken⟩ => if taken then none else some (.slotUnavailable slot)
  | ⟨.findMachineByName name, .ok none⟩ => some (.transition (.unknownMachine name))
  | ⟨.findUser _, .error f⟩ | ⟨.findTeacher _, .error f⟩ | ⟨.findCategory _, .error f⟩
  | ⟨.findSkill _ _, .error f⟩ | ⟨.findSlot _, .error f⟩ | ⟨.reserveSlot _, .error f⟩
  | ⟨.insertLesson _, .error f⟩ | ⟨.releaseSlot _, .error f⟩ => some (.store f)
  | ⟨.findMachineByName _, .error f⟩ | ⟨.insertItem _ _, .error f⟩ | ⟨.deleteItem _, .error f⟩ =>
    some (.transition (.store f))
  | _ => none

/-- The error of the first call at which a booking had to stop. A call of the undoing that fails is
counted as well. -/
def stopped? (b : Booking) : Log → Option LessonError
  | [] => none
  | e :: log => (b.stopped? log).or (b.stop? log e)

/-- The error is the one of the first call at which the booking had to stop, and all that came after
that call was undoing. -/
def BrokenOff (b : Booking) (log : Log) (error : LessonError) : Prop :=
  ∃ undone e before, log = undone ++ e :: before ∧ b.stopped? before = none ∧
    b.stop? before e = some error ∧ (∀ u ∈ undone, u.call.undoes = true) ∧
    ∀ u ∈ e :: before, u.call.undoes = false

/-- How a booking fails. -/
structure Compensated (b : Booking) (log : Log) (error : LessonError) : Prop where
  cause : b.BrokenOff log error
  stored_eq : log.stored = []
  releases_eq : log.releases = log.taken
  removals_eq : log.removals = log.made
  settled : (∀ e ∈ log, e.call.undoes = true → e.failed = false) → log.held = none ∧ log.kept = none

variable {b : Booking} {log : Log} {e : Event} {error : LessonError} {slot : SlotId}
  {item? : Option ItemId}

theorem stopped?_cons_eq_none (h : b.stopped? log = none) (pass : b.stop? log e = none) :
    b.stopped? (e :: log) = none := by
  simp [stopped?, h, pass]

/-- A booking goes no further when it has lost the slot. -/
theorem not_lost_of_stopped? (h : b.stopped? log = none) (x : SlotId) :
    ⟨.reserveSlot x, .ok false⟩ ∉ log := by
  induction log with
  | nil => exact List.not_mem_nil
  | cons e log ih =>
    obtain ⟨before, pass⟩ := Option.or_eq_none_iff.1 h
    rintro hm
    rcases List.mem_cons.1 hm with rfl | hm
    · cases pass
    · exact ih before hm

/-- Everything has passed so far; what the booking holds is to be undone if it stops. -/
structure Underway (b : Booking) (slot? : Option SlotId) (item? : Option ItemId) (log : Log) :
    Prop extends log.Holds slot? item? where
  unstopped : b.stopped? log = none

/-- The undoing does not change why a booking was broken off. -/
theorem BrokenOff.cons {u : Event} (h : b.BrokenOff log error) (undoes : u.call.undoes = true) :
    b.BrokenOff (u :: log) error := by
  obtain ⟨undone, e, before, rfl, unstopped, stop, undoing, forward⟩ := h
  exact ⟨u :: undone, e, before, rfl, unstopped, stop, List.forall_mem_cons.2 ⟨undoes, undoing⟩,
    forward⟩

namespace Underway

theorem start : b.Underway none none [] := ⟨.start, rfl⟩

theorem pass (h : b.Underway slot? item? log) (idle : e.changes = false)
    (plain : e.call.undoes = false) (pass : b.stop? log e = none) :
    b.Underway slot? item? (e :: log) :=
  ⟨h.idle idle plain, stopped?_cons_eq_none h.unstopped pass⟩

theorem take (h : b.Underway none none log) (id : SlotId) :
    b.Underway (some id) none (⟨.reserveSlot id, .ok true⟩ :: log) :=
  ⟨h.toHolds.take id, stopped?_cons_eq_none h.unstopped rfl⟩

theorem make (h : b.Underway slot? none log) (machine : MachineId) (state : StateId)
    (item : Item) :
    b.Underway slot? (some item.id) (⟨.insertItem machine state, .ok item⟩ :: log) :=
  ⟨h.toHolds.make machine state item, stopped?_cons_eq_none h.unstopped rfl⟩

/-- The first call that stops a booking breaks it off, with its error. -/
theorem brokenOff (h : b.Underway slot? item? log) (plain : e.call.undoes = false)
    (stop : b.stop? log e = some error) : b.BrokenOff (e :: log) error :=
  ⟨[], e, log, rfl, h.unstopped, stop, fun _ hu => (nomatch hu),
    List.forall_mem_cons.2 ⟨plain, h.forward⟩⟩

/-- Nothing has to be undone when nothing is held. -/
theorem halt (h : b.Underway none none log) (idle : e.changes = false)
    (plain : e.call.undoes = false) (stop : b.stop? log e = some error) :
    b.Compensated (e :: log) error := by
  have holds := h.idle idle plain
  exact {
    cause := h.brokenOff plain stop
    stored_eq := holds.stored_eq
    releases_eq := holds.releases_eq.trans holds.taken_eq.symm
    removals_eq := holds.removals_eq.trans holds.made_eq.symm
    settled := fun _ => ⟨holds.held_eq, holds.kept_eq⟩ }

end Underway

/-- The release comes last. -/
theorem compensated_of_release {r : (Call.releaseSlot slot).Reply} (cause : b.BrokenOff log error)
    (taken : log.taken = [slot]) (held : log.held = some slot) (stored : log.stored = [])
    (releases : log.releases = []) (removals : log.removals = log.made)
    (cleared : (∀ e ∈ log, e.call.undoes = true → e.failed = false) → log.kept = none) :
    b.Compensated (⟨.releaseSlot slot, r⟩ :: log) error where
  cause := cause.cons rfl
  stored_eq := (Log.stored_cons_of_none rfl).trans stored
  releases_eq := by
    have request : Log.releases (⟨.releaseSlot slot, r⟩ :: log) = slot :: log.releases := rfl
    rw [request, Log.taken_cons_of_none rfl, releases, taken]
  removals_eq := by
    rw [Log.removals_cons_of_none rfl, Log.made_cons_of_none rfl, removals]
  settled h := by
    obtain ⟨latest, before⟩ := List.forall_mem_cons.1 h
    cases r with
    | error f => cases latest rfl
    | ok u =>
      refine ⟨Log.held_cons_of_released held rfl rfl, ?_⟩
      rw [Log.kept_cons_of_none rfl rfl, cleared before]

/-! ## The contract -/

/-- The calls of a booking, with what has to have happened before each of them. -/
def terms (R : Event → Prop) (b : Booking) : Contract where
  rely := R
  guar log
    | .findUser _ | .findTeacher _ | .findCategory _ | .findSkill _ _ | .findSlot _
    | .reserveSlot _ => b.Underway none none log
    | .findMachineByName _ => ∃ slot, b.Underway (some slot) none log
    | .insertItem machine _ => (∃ slot, b.Underway (some slot) none log) ∧
      ∃ m, ⟨.findMachineByName .lesson, .ok (some m)⟩ ∈ log ∧ m.id = machine
    | .insertLesson draft => b.Underway (some draft.slot) (some draft.item) log ∧
      draft.student = b.student ∧ ∃ t, ⟨.findTeacher b.teacher, .ok (some t)⟩ ∈ log ∧
        t.id = draft.teacher ∧ t.user ≠ b.student
    | .deleteItem id => log.kept = some id ∧ log.made = [id] ∧ log.stored = [] ∧ log.removals = []
    | .releaseSlot id => log.held = some id ∧ ∀ x, ⟨.reserveSlot x, .ok false⟩ ∉ log
    | _ => False

variable {R : Event → Prop}

/-- The undoing after a call at which the booking had to stop. -/
theorem Underway.undo (h : b.Underway (some slot) item? log) (idle : e.changes = false)
    (plain : e.call.undoes = false) (stop : b.stop? log e = some error)
    (other : ∀ x, e ≠ ⟨.reserveSlot x, .ok false⟩) :
    Program.Meets (terms R b) (fun log' _ => b.Compensated log' error) (Booking.undo slot item?)
      (e :: log) := by
  have holds := h.idle idle plain
  have cause := h.brokenOff plain stop
  have won : ∀ x, (⟨.reserveSlot x, .ok false⟩ : Event) ∉ e :: log := by
    intro x hm
    rcases List.mem_cons.1 hm with heq | hm
    · exact other x heq.symm
    · exact not_lost_of_stopped? h.unstopped x hm
  cases item? with
  | none =>
    refine ⟨⟨holds.held_eq, won⟩, fun r _ => ?_⟩
    exact compensated_of_release cause holds.taken_eq holds.held_eq holds.stored_eq
      holds.releases_eq (holds.removals_eq.trans holds.made_eq.symm) fun _ => holds.kept_eq
  | some item =>
    refine ⟨⟨holds.kept_eq, holds.made_eq, holds.stored_eq, holds.removals_eq⟩, fun r _ => ?_⟩
    have held : Log.held (⟨.deleteItem item, r⟩ :: e :: log) = some slot :=
      (Log.held_cons_of_idle rfl rfl rfl).trans holds.held_eq
    -- The slot is released whatever became of the item.
    refine ⟨⟨held, fun x hm => ?_⟩, fun r' _ => ?_⟩
    · rcases List.mem_cons.1 hm with heq | hm
      · cases heq
      · exact won x hm
    refine compensated_of_release (cause.cons rfl)
      ((Log.taken_cons_of_none rfl).trans holds.taken_eq) held
      ((Log.stored_cons_of_none rfl).trans holds.stored_eq)
      ((Log.releases_cons_of_none rfl).trans holds.releases_eq) ?_ fun unfailed => ?_
    · have request : Log.removals (⟨.deleteItem item, r⟩ :: e :: log) =
          item :: Log.removals (e :: log) := rfl
      rw [request, Log.made_cons_of_none rfl, holds.removals_eq, holds.made_eq]
      rfl
    · cases r with
      | error f => cases unfailed _ List.mem_cons_self rfl
      | ok u => exact Log.kept_cons_of_removed rfl holds.kept_eq rfl

/-- The checks of a booking come before it holds anything. -/
theorem verify_underway :
    Task.Meets (terms R b) b.verify (fun log _ => b.Underway none none log) b.Compensated [] := by
  simp only [verify, Task.meets_bind, Task.meets_ask, Task.meets_demand, Task.meets_ite,
    Task.meets_throw, Task.meets_pure]
  have start : b.Underway none none [] := .start
  refine ⟨start, fun user _ => ⟨?_, ?_⟩, fun f _ => start.halt rfl rfl rfl⟩
  rotate_left
  · rintro rfl
    exact start.halt rfl rfl rfl
  rintro u rfl
  have found_user := start.pass (e := ⟨.findUser b.student, .ok (some u)⟩) rfl rfl rfl
  refine ⟨found_user, fun teacher _ => ⟨?_, ?_⟩, fun f _ => found_user.halt rfl rfl rfl⟩
  rotate_left
  · rintro rfl
    exact found_user.halt rfl rfl rfl
  rintro t rfl
  refine ⟨fun same => found_user.halt rfl rfl (if_pos same), fun user_ne => ?_⟩
  have found_teacher := found_user.pass (e := ⟨.findTeacher b.teacher, .ok (some t)⟩) rfl rfl
    (if_neg user_ne)
  refine ⟨found_teacher, fun category _ => ⟨?_, ?_⟩, fun f _ => found_teacher.halt rfl rfl rfl⟩
  rotate_left
  · rintro rfl
    exact found_teacher.halt rfl rfl rfl
  rintro c rfl
  refine ⟨fun active => ?_, fun inactive => found_teacher.halt rfl rfl (if_neg inactive)⟩
  have found_category := found_teacher.pass (e := ⟨.findCategory b.category, .ok (some c)⟩) rfl rfl
    (if_pos active)
  refine ⟨found_category, fun skill _ => ⟨fun active => ?_, fun inactive => ?_⟩,
    fun f _ => found_category.halt rfl rfl rfl⟩
  rotate_left
  · exact found_category.halt rfl rfl (if_neg inactive)
  have found_skill := found_category.pass (e := ⟨.findSkill t.id c.id, .ok skill⟩) rfl rfl
    (if_pos active)
  refine ⟨found_skill, fun slot _ => ⟨?_, ?_⟩, fun f _ => found_skill.halt rfl rfl rfl⟩
  rotate_left
  · rintro rfl
    exact found_skill.halt rfl rfl rfl
  rintro s rfl
  refine ⟨fun other => found_skill.halt rfl rfl (if_pos other), fun owned => ?_⟩
  refine ⟨fun free => ?_, fun taken => ?_⟩
  · exact found_skill.pass rfl rfl ((if_neg owned).trans (if_pos free))
  · exact found_skill.halt rfl rfl ((if_neg owned).trans (if_neg taken))

end Booking

/-- **The contract of a booking that fails.** Whatever is answered, it has undone what it did, or
has asked for it at least, and it reports the first call at which it had to stop. -/
theorem bookLesson_compensates (R : Event → Prop) (now : Timestamp) (b : Booking) :
    Task.Meets (b.terms R) (bookLesson now b)
      (fun log made => log.stored = [made.lesson] ∧ log.releases = [] ∧ log.removals = [])
      b.Compensated [] := by
  unfold bookLesson
  rw [Task.meets_bind]
  have verifies := (Booking.verify_underway (R := R) (b := b)).both
    (Booking.verify_meets (R := R) (b := b))
  refine verifies.mono (fun _ he => ⟨he, he⟩) (fun _ _ hc => hc.1) ?_ (fun _ _ h => h.1)
  rintro log ⟨t, c, s⟩ ⟨clear, -, verified⟩
  simp only [Engine.create, Task.meets_bind, Task.meets_ask, Task.meets_demand, Task.meets_ite,
    Task.meets_throw, Task.meets_pure, Booking.meets_orUndo, LessonTask.meets_engine]
  refine ⟨clear, ?_, fun f _ => clear.halt rfl rfl rfl⟩
  rintro (_ | _) _
  · exact ⟨fun h => absurd h (by decide), fun _ => clear.halt rfl rfl rfl⟩
  refine ⟨fun _ => ?_, fun h => absurd rfl h⟩
  have taken := clear.take s.id
  refine ⟨⟨s.id, taken⟩, fun machine _ => ⟨?_, ?_⟩, fun f _ => ?_⟩
  rotate_left
  · rintro rfl
    exact taken.undo rfl rfl rfl fun _ h => by cases h
  · exact taken.undo rfl rfl rfl fun _ h => by cases h
  rintro m rfl
  have found := taken.pass (e := ⟨.findMachineByName .lesson, .ok (some m)⟩) rfl rfl rfl
  refine ⟨⟨⟨s.id, found⟩, m, List.mem_cons_self, rfl⟩, fun item _ => ?_, fun f _ => ?_⟩
  rotate_left
  · exact found.undo rfl rfl rfl fun _ h => by cases h
  have made := found.make m.id m.start item
  refine ⟨⟨made, rfl, t, ?_, rfl, verified.user_ne⟩, fun lesson _ => ?_, fun f _ => ?_⟩
  · exact (verified.mono ⟨[_, _, _], rfl⟩).teacher_mem
  · refine ⟨?_, ?_, ?_⟩
    · exact congrArg (lesson :: ·) made.stored_eq
    · exact (Log.releases_cons_of_none rfl).trans made.releases_eq
    · exact (Log.removals_cons_of_none rfl).trans made.removals_eq
  · exact made.undo rfl rfl rfl fun _ h => by cases h

/-- A booking that has lost the slot releases nothing. -/
theorem bookLesson_lost {now : Timestamp} {b : Booking} {log : Log}
    {q : Program (Except LessonError BookedLesson)} (h : (bookLesson now b).run.After log q)
    (lost : ∃ x, ⟨.reserveSlot x, .ok false⟩ ∈ log) : log.releases = [] := by
  refine h.invariant (I := fun log => (∃ x, ⟨.reserveSlot x, .ok false⟩ ∈ log) → log.releases = [])
    (bookLesson_compensates (fun _ => True) now b) (fun _ _ => trivial) (fun _ => rfl) ?_ lost
  rintro log ⟨c, r⟩ ih allowed - ⟨x, hm⟩
  cases c with
  | reserveSlot id =>
    -- Nothing has been undone yet when a slot is asked for.
    have clear : b.Underway none none log := allowed
    exact (Log.releases_cons_of_none rfl).trans clear.releases_eq
  | releaseSlot id =>
    rcases List.mem_cons.1 hm with heq | hm
    · cases heq
    · exact absurd hm (allowed.2 x)
  | _ =>
    rcases List.mem_cons.1 hm with heq | hm
    · cases heq
    · exact (Log.releases_cons_of_none rfl).trans (ih ⟨x, hm⟩)

/-! ## The world after a failed booking -/

/-- The number of the next item is not in use. -/
def World.Fresh (w : World) : Prop := w.items.get? w.nextItem = none

/-- The stores hold the same; only the number of the next item may be another one. -/
structure World.Restored (start w : World) : Prop where
  directory_eq : w.directory = start.directory
  catalog_eq : w.catalog = start.catalog
  lessons_eq : w.lessons = start.lessons
  nextLesson_eq : w.nextLesson = start.nextLesson
  slots : ∀ x, w.slots.get? x = start.slots.get? x
  items : ∀ id, w.items.get? id = start.items.get? id

/-- What a booking that has stored no lesson has done to the world: the slot that it holds is
closed, the item that it keeps is there, and nothing else has changed. -/
structure World.Marked (start : World) (slot? : Option SlotId) (item? : Option ItemId) (w : World) :
    Prop where
  lessons_eq : w.lessons = start.lessons
  nextLesson_eq : w.nextLesson = start.nextLesson
  slots : ∀ x, slot? ≠ some x → w.slots.get? x = start.slots.get? x
  taken : ∀ x, slot? = some x → ∃ s, start.slots.get? x = some s ∧ s.available = true ∧
    w.slots.get? x = some { s with available := false }
  items : ∀ id, item? ≠ some id → w.items.get? id = start.items.get? id
  made : ∀ id, item? = some id → start.items.get? id = none

namespace World.Marked

variable {start w : World} {slot? : Option SlotId} {item? : Option ItemId}

theorem refl : Marked start none none start :=
  ⟨rfl, rfl, fun _ _ => rfl, fun _ h => (nomatch h), fun _ _ => rfl, fun _ h => nomatch h⟩

theorem reserve {id : SlotId} {slot : Slot} (h : Marked start none item? w)
    (found : w.slots.get? id = some slot) (free : slot.available = true) :
    Marked start (some id) item?
      { w with slots := w.slots.insert id { slot with available := false } } := by
  refine { h with slots := fun x hx => ?_, taken := fun x hx => ?_ }
  · rw [Table.get?_insert, if_neg fun heq => hx (congrArg some heq.symm), h.slots x nofun]
  · obtain rfl := Option.some.inj hx
    refine ⟨slot, (h.slots id nofun).symm.trans found, free, ?_⟩
    rw [Table.get?_insert, if_pos rfl]

/-- A slot that is released is as it was. -/
theorem release {id : SlotId} (h : Marked start (some id) item? w) :
    Marked start none item? (w.release id) := by
  refine { h with slots := fun x _ => ?_, taken := fun _ hx => (nomatch hx) }
  show (w.slots.modify id _).get? x = _
  rw [Table.get?_modify]
  split
  · rename_i hx
    subst hx
    obtain ⟨s, before, free, now⟩ := h.taken x rfl
    rw [before, now, ← free]
    rfl
  · rename_i hx
    exact h.slots x fun heq => hx (Option.some.inj heq).symm

theorem addItem (h : Marked start slot? none w) (fresh : start.items.get? w.nextItem = none)
    (machine : MachineId) (state : StateId) :
    Marked start slot? (some w.nextItem) (w.addItem machine state).2 := by
  refine { h with items := fun id hid => ?_, made := fun id hid => ?_ }
  · show (w.items.insert w.nextItem _).get? id = _
    rw [Table.get?_insert, if_neg fun heq => hid (congrArg some heq.symm), h.items id nofun]
  · obtain rfl := Option.some.inj hid
    exact fresh

/-- Without the item that was made, the items are as they were. -/
theorem removeItem {id : ItemId} (h : Marked start slot? (some id) w) :
    Marked start slot? none (w.removeItem id) := by
  refine { h with items := fun i _ => ?_, made := fun _ hid => (nomatch hid) }
  show (w.items.erase id).get? i = _
  rw [Table.get?_erase]
  split
  · rename_i hi
    rw [hi, h.made id rfl]
  · rename_i hi
    exact h.items i fun heq => hi (Option.some.inj heq).symm

end World.Marked

/-- The world as a booking has left it so far, read off its log. -/
structure Booking.Footprint (start : World) (log : Log) (w : World) : Prop where
  marked : start.Marked log.held log.kept w
  nextItem_eq : log.made = [] → w.nextItem = start.nextItem

/-- Every call of a booking keeps the account of what it has done, unless it stores a lesson. -/
theorem Booking.Footprint.step {start w w' : World} {b : Booking} {log : Log} {e : Event}
    {R : Event → Prop} (h : Footprint start log w) (fresh : start.Fresh)
    (allowed : (b.terms R).guar log e.call) (unstored : e.stored? = none)
    (effect : w.Effect e w') : Footprint start (e :: log) w' := by
  obtain ⟨marked, nextItem_eq⟩ := h
  cases effect with
  | @reserve id slot found free =>
    have clear : b.Underway none none log := allowed
    rw [clear.held_eq] at marked
    refine ⟨?_, nextItem_eq⟩
    rw [Log.held_cons_of_taken rfl, Log.kept_cons_of_none rfl rfl]
    exact marked.reserve found free
  | release id =>
    have held : log.held = some id := allowed.1
    rw [held] at marked
    refine ⟨?_, nextItem_eq⟩
    rw [Log.held_cons_of_released held rfl rfl, Log.kept_cons_of_none rfl rfl]
    exact marked.release
  | addLesson draft => cases unstored
  | addItem machine state =>
    obtain ⟨⟨_, held⟩, _⟩ := allowed
    have unused : start.items.get? w.nextItem = none := by
      rw [nextItem_eq held.made_eq]
      exact fresh
    rw [held.kept_eq] at marked
    have makes : Event.made? ⟨.insertItem machine state, .ok ⟨w.nextItem, machine, state⟩⟩ =
      some ⟨w.nextItem, machine, state⟩ := rfl
    refine ⟨?_, fun made => nomatch made⟩
    rw [Log.held_cons_of_idle rfl rfl rfl, Log.kept_cons_of_made makes]
    exact marked.addItem unused machine state
  | removeItem id =>
    have kept : log.kept = some id := allowed.1
    rw [kept] at marked
    refine ⟨?_, nextItem_eq⟩
    rw [Log.held_cons_of_idle rfl rfl rfl, Log.kept_cons_of_removed rfl kept rfl]
    exact marked.removeItem
  | move => exact allowed.elim
  | idle idle =>
    obtain ⟨taken, booked, released⟩ := Event.slotless_of_idle idle
    obtain ⟨made, _, removed⟩ := Event.unmade_of_idle idle
    refine ⟨?_, fun unmade => nextItem_eq ?_⟩
    · rw [Log.held_cons_of_idle taken booked released, Log.kept_cons_of_none made removed]
      exact marked
    · rwa [Log.made_cons_of_none made] at unmade

section Alone

variable {room : LessonId → String} {now : Timestamp} {b : Booking} {start w : World}
  {trace : Trace}

/-- A booking with nothing in between has done to the world what its log tells. -/
theorem Run.footprint (run : Run (LessonRequest.program room) [.book now b] start trace w)
    (fresh : start.Fresh) (unstored : (trace.own 0).stored = []) :
    Booking.Footprint start (trace.own 0) w := by
  induction run with
  | start => exact ⟨.refl, fun _ => rfl⟩
  | @step trace w w' i r c next reply _ request pending reacts ih =>
    -- There is only one request.
    obtain rfl : i = 0 := by
      have lt := (List.getElem?_eq_some_iff.1 request).1
      simpa using lt
    obtain rfl := Option.some.inj request
    rw [Trace.own_cons_self] at unstored ⊢
    have latest : Event.stored? ⟨c, reply⟩ = none := by
      cases hs : Event.stored? ⟨c, reply⟩ with
      | none => rfl
      | some l => exact nomatch (Log.stored_cons_of_some hs).symm.trans unstored
    have before : (trace.own 0).stored = [] :=
      (Log.stored_cons_of_none latest).symm.trans unstored
    have allowed : (b.terms fun _ => True).guar (trace.own 0) c :=
      pending.guar (bookLesson_compensates (fun _ => True) now b) fun _ _ => trivial
    exact (ih before).step fresh allowed latest reacts.effect

/-- If no call of the undoing has failed, the world is as it was. -/
theorem Run.restored (run : Run (LessonRequest.program room) [.book now b] start trace w)
    (fresh : start.Fresh) {error : LessonError} (h : b.Compensated (trace.own 0) error)
    (unfailed : ∀ e ∈ trace.own 0, e.call.undoes = true → e.failed = false) : start.Restored w := by
  obtain ⟨held, kept⟩ := h.settled unfailed
  obtain ⟨marked, _⟩ := run.footprint fresh h.stored_eq
  rw [held, kept] at marked
  exact {
    directory_eq := run.directory_eq
    catalog_eq := run.catalog_eq
    lessons_eq := marked.lessons_eq
    nextLesson_eq := marked.nextLesson_eq
    slots := fun x => marked.slots x nofun
    items := fun id => marked.items id nofun }

end Alone

/-- **A booking that fails is undone**, whatever is answered. It has stored no lesson; it has asked
for the release of just the slots that it took and for the removal of just the items that it made,
whatever became of these calls; it reports the first call at which it had to stop. It releases
nothing if it has lost the slot, and neither does it when it succeeds. If it runs alone and no call
of the undoing fails, the stores hold what they held before. -/
theorem failed_booking_undone {now : Timestamp} {b : Booking} {log : Log}
    {q : Program (Except LessonError BookedLesson)} (h : (bookLesson now b).run.After log q) :
    (∀ error, q = .done (.error error) →
      log.stored = [] ∧ log.releases = log.taken ∧ log.removals = log.made ∧
      b.BrokenOff log error ∧
      ∀ room start w trace, Run (LessonRequest.program room) [.book now b] start trace w →
        trace.own 0 = log → start.Fresh →
        (∀ e ∈ log, e.call.undoes = true → e.failed = false) → start.Restored w) ∧
    (∀ made, q = .done (.ok made) →
      log.stored = [made.lesson] ∧ log.releases = [] ∧ log.removals = []) ∧
    ((∃ x, ⟨.reserveSlot x, .ok false⟩ ∈ log) → log.releases = []) := by
  have meets := h.meets (bookLesson_compensates (fun _ => True) now b) fun _ _ => trivial
  refine ⟨?_, ?_, bookLesson_lost h⟩
  · rintro error rfl
    have undone : b.Compensated log error := meets
    refine ⟨undone.stored_eq, undone.releases_eq, undone.removals_eq, undone.cause, ?_⟩
    rintro room start w trace run rfl fresh unfailed
    exact run.restored fresh undone unfailed
  · rintro made rfl
    exact meets

/-- The lesson cannot be stored: the item is removed and the slot is open again. -/
theorem failed_booking_undone_unstored :
    ∃ trace w, Run (LessonRequest.program fun _ => "") [.book .epoch .sample] .sample trace w ∧
      (bookLesson .epoch .sample).run.After (trace.own 0)
        (.done (.error (.store (.database "full")))) ∧
      (trace.own 0).releases = [.ofInt 2] ∧ (trace.own 0).removals = [.ofInt 2] ∧
      World.sample.Restored w := by
  have none_served : Run (LessonRequest.program fun _ => "") [.book .epoch .sample] .sample []
    .sample := .start
  obtain ⟨run₁, after₁⟩ := none_served.serve (i := 0) (r := .book .epoch .sample)
    (fun _ _ => .error (.unavailable "")) 8 rfl .start
  have run₂ := run₁.step (i := 0) (r := .book .epoch .sample) rfl after₁
    (.failed (Failure.database "full"))
  obtain ⟨run₃, after₃⟩ := run₂.serve (i := 0) (r := .book .epoch .sample)
    (fun _ _ => .error (.unavailable "")) 2 rfl (after₁.reply (.error (Failure.database "full")))
  obtain ⟨failed, _⟩ := failed_booking_undone after₃
  obtain ⟨_, releases, removals, _, restored⟩ := failed _ rfl
  refine ⟨_, _, run₃, after₃, releases, removals, restored _ _ _ _ run₃ rfl rfl ?_⟩
  decide

end Tutoring
