import Tutoring.Proofs.Access
import Tutoring.Request.Book

/-!
# The contract of a booking

A booking takes a slot and gives it back, or stores a lesson for it. `Log.taken` lists the slots
that a log has taken, and `Log.held` is the one that it has not yet disposed of.

* `Booking.verify_meets`: the records of a booking are borne out by the log when they pass
  (`Booking.Verified`), and so is the reason when they do not (`Booking.Refused`).
* `bookLesson_meets`: whatever is answered, a booking takes a slot only once, stores a lesson only
  for the slot that it holds and releases no other one. When nothing fails, it ends with a lesson or
  without having taken anything (`Booking.Missed`).
-/

namespace Tutoring

/-! ## The slot that a log holds -/

namespace Event

/-- The slot that a call has taken. -/
def taken? : Event → Option SlotId
  | ⟨.reserveSlot id, .ok true⟩ => some id
  | _ => none

/-- The slot that a call has stored a lesson for. -/
def booked? : Event → Option SlotId
  | ⟨.insertLesson draft, .ok _⟩ => some draft.slot
  | _ => none

/-- The slot that a call has released. -/
def released? : Event → Option SlotId
  | ⟨.releaseSlot id, .ok _⟩ => some id
  | _ => none

/-- A call that changes nothing has nothing to do with a slot. -/
theorem slotless_of_idle {e : Event} (h : e.changes = false) :
    e.taken? = none ∧ e.booked? = none ∧ e.released? = none := by
  obtain ⟨c, r⟩ := e
  cases c with
  | reserveSlot id =>
    obtain _ | _ | _ := r
    · exact ⟨rfl, rfl, rfl⟩
    · exact ⟨rfl, rfl, rfl⟩
    · cases h
  | releaseSlot id | insertLesson draft =>
    obtain _ | _ := r
    · exact ⟨rfl, rfl, rfl⟩
    · cases h
  | _ => exact ⟨rfl, rfl, rfl⟩

end Event

/-- The slots that a log has taken, the latest one first. -/
def Log.taken (log : Log) : List SlotId := log.filterMap Event.taken?

/-- The slot that was taken last, unless it has been released since or has got a lesson. -/
def Log.held : Log → Option SlotId
  | [] => none
  | e :: log =>
    match e.taken? with
    | some id => some id
    | none =>
      match held log with
      | none => none
      | some id => if e.booked? = some id ∨ e.released? = some id then none else some id

namespace Log

variable {e : Event} {id : SlotId} {log : Log}

@[simp] theorem held_nil : held [] = none := rfl

theorem held_cons_of_taken (h : e.taken? = some id) : held (e :: log) = some id := by
  simp [held, h]

theorem taken_cons_of_none (h : e.taken? = none) : taken (e :: log) = taken log :=
  List.filterMap_cons_none h

/-- Who has taken nothing holds nothing. -/
theorem held_of_untaken (h : log.taken = []) : log.held = none := by
  induction log with
  | nil => rfl
  | cons e log ih =>
    cases he : e.taken? with
    | none =>
      rw [taken_cons_of_none he] at h
      simp [held, he, ih h]
    | some id =>
      have h' : taken (e :: log) = id :: taken log := List.filterMap_cons_some he
      exact nomatch h'.symm.trans h

theorem held_cons_of_idle (ht : e.taken? = none) (hb : e.booked? = none)
    (hr : e.released? = none) : held (e :: log) = held log := by
  cases h : held log <;> simp [held, ht, hb, hr, h]

/-- A slot is no longer held once its lesson is stored. -/
theorem held_cons_of_booked (h : held log = some id) (hb : e.booked? = some id)
    (ht : e.taken? = none) : held (e :: log) = none := by
  simp [held, h, ht, hb]

/-- A slot is no longer held once it is released. -/
theorem held_cons_of_released (h : held log = some id) (hr : e.released? = some id)
    (ht : e.taken? = none) : held (e :: log) = none := by
  simp [held, h, ht, hr]

end Log

/-! ## How the records of a booking are checked -/

/-- The call failed. -/
def Event.failed (e : Event) : Bool := !e.reply.isOk

namespace Booking

/-- The records of a booking stand in the log and pass every check. -/
structure Verified (b : Booking) (log : Log) (t : Teacher) (c : Category) (s : Slot) : Prop where
  teacher_mem : ⟨.findTeacher b.teacher, .ok (some t)⟩ ∈ log
  user_ne : t.user ≠ b.student
  category_mem : ⟨.findCategory b.category, .ok (some c)⟩ ∈ log
  slot_mem : ⟨.findSlot b.slot, .ok (some s)⟩ ∈ log
  teacher_eq : s.teacher = t.id
  free : s.available = true

/-- Why the records of a booking do not pass: each reason stands in the log. -/
inductive Refused (b : Booking) (log : Log) : LessonError → Prop
  | failed {e : Event} (h : e ∈ log) (failed : e.failed = true) (error : LessonError) :
      Refused b log error
  | noUser (h : ⟨.findUser b.student, .ok none⟩ ∈ log) : Refused b log (.actorNotFound b.student)
  | noTeacher (h : ⟨.findTeacher b.teacher, .ok none⟩ ∈ log) :
      Refused b log (.teacherNotFound b.teacher)
  | self {t : Teacher} (h : ⟨.findTeacher b.teacher, .ok (some t)⟩ ∈ log)
      (same : t.user = b.student) : Refused b log .selfBooking
  | noCategory (h : ⟨.findCategory b.category, .ok none⟩ ∈ log) :
      Refused b log (.categoryNotFound b.category)
  | inactive {c : Category} (h : ⟨.findCategory b.category, .ok (some c)⟩ ∈ log)
      (inactive : c.active = false) : Refused b log (.categoryInactive c.id)
  | noSkill {t : Teacher} {c : Category} {skill : Option TeacherSkill}
      (teacher : ⟨.findTeacher b.teacher, .ok (some t)⟩ ∈ log)
      (category : ⟨.findCategory b.category, .ok (some c)⟩ ∈ log)
      (h : ⟨.findSkill t.id c.id, .ok skill⟩ ∈ log) (inactive : skill.any (·.active) = false) :
      Refused b log (.skillInactive t.id c.id)
  | noSlot (h : ⟨.findSlot b.slot, .ok none⟩ ∈ log) : Refused b log (.slotNotFound b.slot)
  | notOwned {t : Teacher} {s : Slot} (teacher : ⟨.findTeacher b.teacher, .ok (some t)⟩ ∈ log)
      (h : ⟨.findSlot b.slot, .ok (some s)⟩ ∈ log) (other : s.teacher ≠ t.id) :
      Refused b log (.slotNotOwned s.id t.id)
  | unavailable {s : Slot} (h : ⟨.findSlot b.slot, .ok (some s)⟩ ∈ log)
      (taken : s.available = false) : Refused b log (.slotUnavailable s.id)

/-- How a booking may end with an error: it was refused, it lost the slot to another booking, or it
was broken off after it had taken the slot. -/
inductive Missed (b : Booking) (log : Log) : LessonError → Prop
  | refused {e : LessonError} (untaken : log.taken = []) (h : b.Refused log e) : Missed b log e
  | lost {s : Slot} (untaken : log.taken = []) (found : ⟨.findSlot b.slot, .ok (some s)⟩ ∈ log)
      (h : ⟨.reserveSlot s.id, .ok false⟩ ∈ log) : Missed b log (.slotUnavailable s.id)
  | failed {e : Event} (h : e ∈ log) (failed : e.failed = true) (error : LessonError) :
      Missed b log error
  | noMachine (h : ⟨.findMachineByName .lesson, .ok none⟩ ∈ log) (error : LessonError) :
      Missed b log error

/-- The records have passed, the slot has been taken and a lesson has been stored for it. -/
def Made (b : Booking) (log : Log) (made : BookedLesson) : Prop :=
  ∃ t c s draft, b.Verified log t c s ∧ log.taken = [s.id] ∧ draft.slot = s.id ∧
    ⟨.insertLesson draft, .ok made.lesson⟩ ∈ log

theorem Verified.mono {b : Booking} {log log' : Log} {t : Teacher} {c : Category} {s : Slot}
    (h : b.Verified log t c s) (old : log <:+ log') : b.Verified log' t c s :=
  { h with
    teacher_mem := old.subset h.teacher_mem
    category_mem := old.subset h.category_mem
    slot_mem := old.subset h.slot_mem }

end Booking

/-! ## The contract -/

/-- The calls of a booking. A slot is taken only if none has been taken before, and what comes after
that is about the slot that is held. -/
def bookTerms (R : Event → Prop) (b : Booking) : Contract where
  rely := R
  guar log
    | .findUser _ | .findTeacher _ | .findCategory _ | .findSkill _ _ | .findSlot _ =>
      log.taken = []
    | .reserveSlot id => log.taken = [] ∧
      ∃ slot, ⟨.findSlot b.slot, .ok (some slot)⟩ ∈ log ∧ slot.id = id
    | .findMachineByName _ | .insertItem _ _ | .deleteItem _ => log.held.isSome = true
    | .insertLesson draft => log.held = some draft.slot
    | .releaseSlot id => log.held = some id
    | _ => False

namespace Booking

variable {K : Contract} {R : Event → Prop} {b : Booking} {log : Log}

/-- Nothing is taken while the records of a booking are looked up. -/
theorem verify_meets :
    Task.Meets (bookTerms R b) b.verify
      (fun log found => log.taken = [] ∧ b.Verified log found.1 found.2.1 found.2.2)
      (fun log e => log.taken = [] ∧ b.Refused log e) [] := by
  simp only [verify, Task.meets_bind, Task.meets_ask, Task.meets_demand, Task.meets_ite,
    Task.meets_throw, Task.meets_pure]
  refine ⟨rfl, fun user _ => ⟨fun u found => ?_, ?_⟩,
    fun e _ => ⟨rfl, .failed List.mem_cons_self rfl _⟩⟩
  rotate_left
  · rintro rfl
    exact ⟨rfl, .noUser List.mem_cons_self⟩
  refine ⟨rfl, fun teacher _ => ⟨?_, ?_⟩, fun e _ => ⟨rfl, .failed List.mem_cons_self rfl _⟩⟩
  rotate_left
  · rintro rfl
    exact ⟨rfl, .noTeacher List.mem_cons_self⟩
  rintro t rfl
  refine ⟨fun same => ⟨rfl, .self List.mem_cons_self same⟩, fun user_ne => ?_⟩
  refine ⟨rfl, fun category _ => ⟨?_, ?_⟩, fun e _ => ⟨rfl, .failed List.mem_cons_self rfl _⟩⟩
  rotate_left
  · rintro rfl
    exact ⟨rfl, .noCategory List.mem_cons_self⟩
  rintro c rfl
  refine ⟨fun _ => ?_,
    fun inactive => ⟨rfl, .inactive List.mem_cons_self (eq_false_of_ne_true inactive)⟩⟩
  refine ⟨rfl, fun skill _ => ⟨fun _ => ?_, fun inactive => ⟨rfl, ?_⟩⟩,
    fun e _ => ⟨rfl, .failed List.mem_cons_self rfl _⟩⟩
  rotate_left
  · exact .noSkill (by simp) (by simp) List.mem_cons_self (eq_false_of_ne_true inactive)
  refine ⟨rfl, fun slot _ => ⟨?_, ?_⟩, fun e _ => ⟨rfl, .failed List.mem_cons_self rfl _⟩⟩
  rotate_left
  · rintro rfl
    exact ⟨rfl, .noSlot List.mem_cons_self⟩
  rintro s rfl
  refine ⟨fun other => ⟨rfl, .notOwned (by simp) List.mem_cons_self other⟩, fun owned => ?_⟩
  refine ⟨fun free => ⟨rfl, ?_⟩,
    fun taken => ⟨rfl, .unavailable List.mem_cons_self (eq_false_of_ne_true taken)⟩⟩
  exact ⟨by simp, user_ne, by simp, List.mem_cons_self, Decidable.not_not.1 owned, free⟩

/-- A step that is undone keeps to what the step keeps to and then to what the undoing does. -/
theorem meets_orUndo {α : Type} {step : LessonTask α} {slot : SlotId}
    {item : Option ItemId} {Q : Log → α → Prop} {E : Log → LessonError → Prop} :
    Task.Meets K (orUndo step slot item) Q E log ↔
      Task.Meets K step Q
        (fun log e => Program.Meets K (fun log _ => E log e) (undo slot item) log) log := by
  show Program.Meets K _ (step.run >>= _) log ↔ _
  rw [Program.meets_bind]
  refine Program.meets_congr fun log r => ?_
  cases r with
  | ok a => rfl
  | error e =>
    show Program.Meets K _ (undo slot item >>= _) log ↔ _
    rw [Program.meets_bind]
    rfl

/-- The undoing gives up the slot that is held and no other one. -/
theorem undo_meets {slot : SlotId} {item : Option ItemId} {E : Log → Prop}
    (held : log.held = some slot) (h : ∀ log', log <:+ log' → E log') :
    Program.Meets (bookTerms R b) (fun log' _ => E log') (undo slot item) log := by
  cases item with
  | none => exact ⟨held, fun r _ => h _ (List.suffix_cons _ log)⟩
  | some item =>
    refine ⟨by simp [bookTerms, held], fun r _ => ⟨?_, fun r' _ => h _ ?_⟩⟩
    · exact (Log.held_cons_of_idle rfl rfl rfl).trans held
    · exact (List.suffix_cons _ log).trans (List.suffix_cons _ _)

/-- What is held when a call fails is given back. -/
theorem undo_failed {slot : SlotId} {item : Option ItemId} {c : Call} {e : c.Error}
    {error : LessonError} (held : Log.held (⟨c, .error e⟩ :: log) = some slot) :
    Program.Meets (bookTerms R b) (fun log' _ => b.Missed log' error) (undo slot item)
      (⟨c, .error e⟩ :: log) :=
  undo_meets held fun _ old => .failed (old.subset List.mem_cons_self) rfl error

end Booking

/-- **The contract of a booking.** Whatever is answered, it takes one slot at most, and it stores a
lesson for that slot or gives it up. -/
theorem bookLesson_meets (R : Event → Prop) (now : Timestamp) (b : Booking) :
    Task.Meets (bookTerms R b) (bookLesson now b) b.Made b.Missed [] := by
  unfold bookLesson
  rw [Task.meets_bind]
  refine Booking.verify_meets.mono (fun _ h => h) (fun _ _ h => h) ?_
    (fun log e h => .refused h.1 h.2)
  rintro log ⟨t, c, s⟩ ⟨untaken, verified⟩
  have found := verified.slot_mem
  simp only [Engine.create, Task.meets_bind, Task.meets_ask, Task.meets_demand, Task.meets_ite,
    Task.meets_throw, Task.meets_pure, Booking.meets_orUndo, LessonTask.meets_engine]
  refine ⟨⟨untaken, s, found, rfl⟩, ?_, fun e _ => .failed List.mem_cons_self rfl _⟩
  rintro (_ | _) _
  · refine ⟨fun h => absurd h (by decide), fun _ => ?_⟩
    exact .lost untaken (List.mem_cons_of_mem _ found) List.mem_cons_self
  refine ⟨fun _ => ?_, fun h => absurd rfl h⟩
  -- From here on the slot is held until a lesson is stored for it.
  have held : Log.held (⟨.reserveSlot s.id, .ok true⟩ :: log) = some s.id :=
    Log.held_cons_of_taken rfl
  refine ⟨congrArg Option.isSome held, fun machine _ => ⟨?_, ?_⟩, fun e _ => ?_⟩
  rotate_left
  · rintro rfl
    exact Booking.undo_meets held fun _ old => .noMachine (old.subset List.mem_cons_self) _
  · exact Booking.undo_failed held
  rintro m rfl
  refine ⟨congrArg Option.isSome held, fun item _ => ?_, fun e _ => Booking.undo_failed held⟩
  refine ⟨held, fun lesson _ => ?_, fun e _ => Booking.undo_failed held⟩
  refine ⟨t, c, s, _, verified.mono ⟨[_, _, _, _], rfl⟩, ?_, rfl, List.mem_cons_self⟩
  exact congrArg (s.id :: ·) untaken

/-! ## For whom and when -/

/-- A call of a booking names nobody but its student as the one who acts, and the lesson that it
stores is the student's, booked at the time of the booking. -/
def Call.OfBooking (now : Timestamp) (b : Booking) : Call → Prop
  | findUser id => id = b.student
  | insertLesson draft => draft.student = b.student ∧ draft.createdAt = now
  | findTeacherByUser _ | issueCredential _ _ => False
  | _ => True

/-- All calls are those of a booking. -/
def bookingTerms (now : Timestamp) (b : Booking) : Contract :=
  ⟨fun _ => True, fun _ c => c.OfBooking now b⟩

section Booking

variable {now : Timestamp} {b : Booking} {log : Log}

@[simp] theorem rely_bookingTerms (e : Event) : (bookingTerms now b).rely e ↔ True := Iff.rfl

@[simp] theorem guar_bookingTerms (c : Call) :
    (bookingTerms now b).guar log c ↔ c.OfBooking now b := Iff.rfl

/-- A booking acts for its student, at its time. -/
theorem bookLesson_calls (now : Timestamp) (b : Booking) :
    Task.Meets (bookingTerms now b) (bookLesson now b) (fun _ _ => True) (fun _ _ => True) [] := by
  have undone (slot : SlotId) (item : Option ItemId) (log : Log) :
      Program.Meets (bookingTerms now b) (fun _ _ => True) (Booking.undo slot item) log := by
    cases item with
    | none => exact ⟨trivial, fun _ _ => trivial⟩
    | some item => exact ⟨trivial, fun _ _ => ⟨trivial, fun _ _ => trivial⟩⟩
  have verified : Task.Meets (bookingTerms now b) b.verify (fun _ _ => True) (fun _ _ => True)
      [] := by
    simp [Booking.verify, Call.OfBooking]
  unfold bookLesson
  rw [Task.meets_bind]
  refine verified.mono (fun _ h => h) (fun _ _ h => h) ?_ fun _ _ h => h
  rintro log ⟨teacher, category, slot⟩ -
  simp [Engine.create, Booking.meets_orUndo, undone, Call.OfBooking]

end Booking

end Tutoring
