import Tutoring.Proofs.Attempt
import Tutoring.Proofs.Numbers

/-!
# What a booking requires, and in which order

A booking that nobody interferes with is accepted if and only if ten conditions hold. They count in
a fixed order: whatever holds of the later ones, the first one that does not hold is reported, and
then nothing has changed, although the last one is only found out after the slot has been taken.

* `Booking.Condition`, `Booking.unmet?`: the conditions, and the first one that does not hold.
* `World.Filed`: records are kept under their own numbers, below the next one. Every state that
  requests come to from empty stores is such (`Run.filed`).
* `Booking.attempt_verify`, `Booking.attempt_create`: the checks before the slot is taken, and the
  one afterwards.
* `bookings_accepted_exactly`: the answer of a booking, and what has changed.
-/

namespace Tutoring

namespace Booking

/-- What a booking requires. -/
inductive Condition where
  | studentExists
  | teacherExists
  /-- The student is not the teacher. -/
  | notSelf
  | categoryExists
  | categoryActive
  /-- The teacher may teach the category. -/
  | skillActive
  | slotExists
  /-- The slot is one of the teacher's. -/
  | slotOwned
  | slotAvailable
  /-- There is a machine for lessons. -/
  | machineProvisioned
  deriving DecidableEq

namespace Condition

/-- All conditions, in the order in which they count. -/
def all : List Condition :=
  [studentExists, teacherExists, notSelf, categoryExists, categoryActive, skillActive, slotExists,
    slotOwned, slotAvailable, machineProvisioned]

theorem mem_all (c : Condition) : c ∈ all := by cases c <;> decide

/-- The condition holds in a world. -/
def holds (w : World) (b : Booking) : Condition → Bool
  | studentExists => (w.directory.users.get? b.student).isSome
  | teacherExists => (w.directory.teachers.get? b.teacher).isSome
  | notSelf => (w.directory.teachers.get? b.teacher).any (·.user ≠ b.student)
  | categoryExists => (w.directory.categories.get? b.category).isSome
  | categoryActive => (w.directory.categories.get? b.category).any (·.active)
  | skillActive => (w.directory.skills.get? (b.teacher, b.category)).any (·.active)
  | slotExists => (w.slots.get? b.slot).isSome
  | slotOwned => (w.slots.get? b.slot).any (·.teacher = b.teacher)
  | slotAvailable => (w.slots.get? b.slot).any (·.available)
  | machineProvisioned => (w.catalog.machineNamed? .lesson).isSome

/-- What is reported when the condition does not hold. -/
def error (b : Booking) : Condition → LessonError
  | studentExists => .actorNotFound b.student
  | teacherExists => .teacherNotFound b.teacher
  | notSelf => .selfBooking
  | categoryExists => .categoryNotFound b.category
  | categoryActive => .categoryInactive b.category
  | skillActive => .skillInactive b.teacher b.category
  | slotExists => .slotNotFound b.slot
  | slotOwned => .slotNotOwned b.slot b.teacher
  | slotAvailable => .slotUnavailable b.slot
  | machineProvisioned => .transition (.unknownMachine .lesson)

end Condition

/-- The first condition that does not hold. -/
def unmet? (w : World) (b : Booking) : Option Condition :=
  Condition.all.find? fun c => !c.holds w b

theorem unmet?_eq_none_iff {w : World} {b : Booking} :
    b.unmet? w = none ↔ ∀ c : Condition, c.holds w b = true := by
  unfold unmet?
  rw [List.find?_eq_none]
  constructor
  · intro met c
    simpa using met c (Condition.mem_all c)
  · intro met c _
    simp [met c]

end Booking

/-! ## Worlds whose records are filed -/

/-- Records are kept under their own numbers, and the numbers in use come before the next one. -/
structure World.Filed (w : World) : Prop where
  teachers : w.directory.TeachersKeyed
  categories : ∀ k c, w.directory.categories.get? k = some c → c.id = k
  slots : w.SlotsKeyed
  item_lt : ∀ k item, w.items.get? k = some item → k.value < w.nextItem.value
  lesson_lt : ∀ k l, w.lessons.get? k = some l → k.value < w.nextLesson.value

namespace World.Filed

variable {w : World}

theorem fresh (filed : w.Filed) : w.Fresh := by
  cases found : w.items.get? w.nextItem with
  | none => exact found
  | some item => exact (Int64.lt_irrefl (filed.item_lt _ item found)).elim

theorem lesson_fresh (filed : w.Filed) : w.lessons.get? w.nextLesson = none := by
  cases found : w.lessons.get? w.nextLesson with
  | none => rfl
  | some l => exact (Int64.lt_irrefl (filed.lesson_lt _ l found)).elim

end World.Filed

/-- Requests keep records filed. -/
theorem Run.filed {room : LessonId → String} {requests : List LessonRequest} {d : Directory}
    {slots : Table SlotId Slot} {catalog : Catalog} {trace : Trace} {w : World}
    (run : Run (LessonRequest.program room) requests (.start d slots catalog) trace w)
    (few : requests.length + 1 < Id.limit) (teachers : d.TeachersKeyed)
    (categories : ∀ k c, d.categories.get? k = some c → c.id = k)
    (keyed : ∀ x s, slots.get? x = some s → s.id = x) : w.Filed where
  teachers := by
    rw [run.directory_eq]
    exact teachers
  categories := by
    rw [run.directory_eq]
    exact categories
  slots := by
    intro x s found
    have kept := run.slot_kept x
    rw [found] at kept
    obtain ⟨s₀, there, same⟩ := Option.map_eq_some_iff.1 kept.symm
    have id_eq : s₀.closed.id = s.closed.id := congrArg Slot.id same
    exact id_eq.symm.trans (keyed x s₀ there)
  item_lt := by
    intro k item found
    obtain ⟨made, stored⟩ := run.records_le
    have owns := run.ownership (by omega) (by omega)
    obtain ⟨i, kept⟩ := owns.owned k item found
    exact owns.items.lt (by omega) (Trace.mem_made_of_own ((owns.tidy i).kept_made k kept))
  lesson_lt := (run.orderly few).lesson_lt

/-! ## Taking a slot and giving it up again -/

namespace World

variable {meet : String → String → Except MeetingError Credential} {w : World} {x : SlotId}
  {s : Slot}

/-- The world after a slot has been taken. -/
def taken (w : World) (x : SlotId) (s : Slot) : World :=
  { w with slots := w.slots.insert x s.closed }

section Taken

variable (found : w.slots.get? x = some s) (free : s.available = true)

include found free

theorem step_reserveSlot : w.step meet (.reserveSlot x) = (.ok true, w.taken x s) := by
  simp only [step, reserve, found, free]
  rfl

/-- A slot that was taken and is given up again is as it was. -/
theorem release_taken : (w.taken x s).release x = w := by
  have reopened : ({ s.closed with available := true } : Slot) = s := by
    obtain ⟨id, teacher, starts, ends, available⟩ := s
    obtain rfl : available = true := free
    rfl
  rw [release, taken, Table.modify_insert, reopened, Table.insert_of_get? found]

end Taken

end World

namespace Booking

variable {meet : String → String → Except MeetingError Credential} {w : World} {b : Booking}

/-! ## The checks before the slot is taken -/

/-- What the checks come to: the first condition that does not hold is reported, or the records are
found and only the machine may be missing. -/
inductive Checked (w : World) (b : Booking) :
    Except LessonError (Teacher × Category × Slot) × World → Prop
  | refused (c : Condition) (first : b.unmet? w = some c) : Checked w b (.error (c.error b), w)
  | passed {t : Teacher} {c : Category} {s : Slot} (teacher : t.id = b.teacher)
      (category : c.id = b.category) (slot : w.slots.get? b.slot = some s) (id_eq : s.id = b.slot)
      (free : s.available = true)
      (rest : b.unmet? w = [Condition.machineProvisioned].find? fun c => !c.holds w b) :
      Checked w b (.ok (t, c, s), w)

/-- **The checks are made in the order of the conditions.** `unmet` says which of them are left. -/
theorem attempt_verify (filed : w.Filed) : Checked w b (w.attempt meet b.verify) := by
  have unmet : b.unmet? w = Condition.all.find? fun c => !c.holds w b := rfl
  unfold verify
  rcases student : w.directory.users.get? b.student with _ | u
  · rw [World.attempt_demand_missing (congrArg (fun o => (Except.ok o, w)) student)]
    have first := unmet.trans (List.find?_cons_of_pos (by simp [Condition.holds, student]))
    exact .refused .studentExists first
  rw [World.attempt_demand_found (congrArg (fun o => (Except.ok o, w)) student)]
  rw [Condition.all, List.find?_cons_of_neg (by simp [Condition.holds, student])] at unmet
  rcases teacher : w.directory.teachers.get? b.teacher with _ | t
  · rw [World.attempt_demand_missing (congrArg (fun o => (Except.ok o, w)) teacher)]
    have first := unmet.trans (List.find?_cons_of_pos (by simp [Condition.holds, teacher]))
    exact .refused .teacherExists first
  rw [World.attempt_demand_found (congrArg (fun o => (Except.ok o, w)) teacher)]
  rw [List.find?_cons_of_neg (by simp [Condition.holds, teacher])] at unmet
  by_cases self : t.user = b.student
  · rw [if_pos self, World.attempt_bind_of_error (World.attempt_throw w _)]
    have first := unmet.trans (List.find?_cons_of_pos (by simp [Condition.holds, teacher, self]))
    exact .refused .notSelf first
  rw [if_neg self]
  rw [List.find?_cons_of_neg (by simp [Condition.holds, teacher, self])] at unmet
  rcases category : w.directory.categories.get? b.category with _ | c
  · rw [World.attempt_demand_missing (congrArg (fun o => (Except.ok o, w)) category)]
    have first := unmet.trans (List.find?_cons_of_pos (by simp [Condition.holds, category]))
    exact .refused .categoryExists first
  rw [World.attempt_demand_found (congrArg (fun o => (Except.ok o, w)) category)]
  rw [List.find?_cons_of_neg (by simp [Condition.holds, category])] at unmet
  have teacher_id := filed.teachers _ t teacher
  have category_id := filed.categories _ c category
  rw [teacher_id, category_id]
  by_cases active : c.active = true
  swap
  · rw [if_neg active, World.attempt_bind_of_error (World.attempt_throw w _)]
    have first := unmet.trans (List.find?_cons_of_pos (by simp [Condition.holds, category, active]))
    exact .refused .categoryActive first
  rw [if_pos active]
  rw [List.find?_cons_of_neg (by simp [Condition.holds, category, active])] at unmet
  have looked : w.step meet (.findSkill b.teacher b.category) =
      (.ok (w.directory.skills.get? (b.teacher, b.category)), w) := rfl
  rw [World.attempt_bind_of_ok (World.attempt_ask_ok.2 looked)]
  by_cases skill : (w.directory.skills.get? (b.teacher, b.category)).any (·.active) = true
  swap
  · rw [if_neg skill, World.attempt_bind_of_error (World.attempt_throw w _)]
    have first := unmet.trans (List.find?_cons_of_pos (by simp [Condition.holds, skill]))
    exact .refused .skillActive first
  rw [if_pos skill]
  rw [List.find?_cons_of_neg (by simp [Condition.holds, skill])] at unmet
  rcases slot : w.slots.get? b.slot with _ | s
  · rw [World.attempt_demand_missing (congrArg (fun o => (Except.ok o, w)) slot)]
    have first := unmet.trans (List.find?_cons_of_pos (by simp [Condition.holds, slot]))
    exact .refused .slotExists first
  rw [World.attempt_demand_found (congrArg (fun o => (Except.ok o, w)) slot)]
  rw [List.find?_cons_of_neg (by simp [Condition.holds, slot])] at unmet
  have slot_id := filed.slots _ s slot
  by_cases owned : s.teacher = b.teacher
  swap
  · rw [if_pos owned, World.attempt_bind_of_error (World.attempt_throw w _), slot_id]
    have first := unmet.trans (List.find?_cons_of_pos (by simp [Condition.holds, slot, owned]))
    exact .refused .slotOwned first
  rw [if_neg (not_not_intro owned)]
  rw [List.find?_cons_of_neg (by simp [Condition.holds, slot, owned])] at unmet
  by_cases free : s.available = true
  swap
  · rw [if_neg free, World.attempt_bind_of_error (World.attempt_throw w _), slot_id]
    have first := unmet.trans (List.find?_cons_of_pos (by simp [Condition.holds, slot, free]))
    exact .refused .slotAvailable first
  rw [if_pos free]
  rw [List.find?_cons_of_neg (by simp [Condition.holds, slot, free])] at unmet
  exact .passed teacher_id category_id slot slot_id free unmet

/-! ## The steps that are undone -/

section Undo

variable {α : Type} {step : LessonTask α} {slot : SlotId} {w' : World}

/-- A step that succeeds is not undone. -/
theorem attempt_orUndo_ok {a : α} (h : w.attempt meet step = (.ok a, w')) (item : Option ItemId) :
    w.attempt meet (orUndo step slot item) = (.ok a, w') := by
  unfold World.attempt at h ⊢
  show StateT.run ((step.run >>= _).interpret _) w = _
  rw [Program.interpret_bind, StateT.run_bind, h]
  rfl

/-- Before there is an item, only the slot is given up. -/
theorem attempt_orUndo_error {e : LessonError} (h : w.attempt meet step = (.error e, w')) :
    w.attempt meet (orUndo step slot none) = (.error e, w'.release slot) := by
  unfold World.attempt at h ⊢
  show StateT.run ((step.run >>= _).interpret _) w = _
  rw [Program.interpret_bind, StateT.run_bind, h]
  rfl

end Undo

/-- The lesson that a booking stores. -/
def lesson (w : World) (now : Timestamp) (b : Booking) : Lesson where
  student := b.student
  teacher := b.teacher
  category := b.category
  slot := b.slot
  item := w.nextItem
  createdAt := now
  id := w.nextLesson

/-- The world after a booking. -/
def booked (w : World) (now : Timestamp) (b : Booking) (s : Slot) (m : Machine) : World :=
  { w with
    slots := w.slots.insert b.slot s.closed
    items := w.items.insert w.nextItem ⟨w.nextItem, m.id, m.start⟩
    nextItem := w.nextItem.succ
    lessons := w.lessons.insert w.nextLesson (b.lesson w now)
    nextLesson := w.nextLesson.succ }

/-- What a booking comes to. -/
inductive Answered (w : World) (now : Timestamp) (b : Booking) :
    Except LessonError BookedLesson × World → Prop
  | refused (c : Condition) (first : b.unmet? w = some c) : Answered w now b (.error (c.error b), w)
  | accepted {s : Slot} {m : Machine} (met : b.unmet? w = none)
      (slot : w.slots.get? b.slot = some s) (free : s.available = true)
      (machine : w.catalog.machineNamed? .lesson = some m) :
      Answered w now b (.ok ⟨b.lesson w now, .pending⟩, b.booked w now s m)

theorem attempt_bookLesson (filed : w.Filed) (now : Timestamp) :
    Answered w now b (w.attempt meet (bookLesson now b)) := by
  have checked : Checked w b (w.attempt meet b.verify) := attempt_verify filed
  generalize verified : w.attempt meet b.verify = r at checked
  cases checked with
  | refused c first =>
    rw [bookLesson, World.attempt_bind_of_error verified]
    exact .refused c first
  | @passed t c s teacher category slot id_eq free unmet =>
    have reserved : w.step meet (.reserveSlot s.id) = (.ok true, w.taken b.slot s) := by
      rw [id_eq]
      exact World.step_reserveSlot slot free
    rw [bookLesson, World.attempt_bind_of_ok verified]
    dsimp only
    rw [World.attempt_bind_of_ok (World.attempt_ask_ok.2 reserved), if_pos rfl]
    rcases machine : w.catalog.machineNamed? .lesson with _ | m
    · have failed : (w.taken b.slot s).attempt meet (LessonTask.engine (Engine.create .lesson)) =
          (.error (.transition (.unknownMachine .lesson)), w.taken b.slot s) := by
        rw [LessonTask.engine, World.attempt_adapt,
          World.attempt_create_none (w := w.taken b.slot s) machine]
        rfl
      rw [World.attempt_bind_of_error (attempt_orUndo_error failed), id_eq,
        World.release_taken slot free]
      have first := unmet.trans (List.find?_cons_of_pos (by simp [Condition.holds, machine]))
      exact .refused .machineProvisioned first
    · rw [List.find?_cons_of_neg (by simp [Condition.holds, machine])] at unmet
      have made : (w.taken b.slot s).attempt meet (LessonTask.engine (Engine.create .lesson)) =
          (.ok ⟨w.nextItem, m.id, m.start⟩, ((w.taken b.slot s).addItem m.id m.start).2) :=
        World.attempt_engine_ok.2 (World.attempt_create_ok machine)
      rw [World.attempt_bind_of_ok (attempt_orUndo_ok made none)]
      -- Storing the lesson does not fail.
      rw [World.attempt_bind_of_ok (attempt_orUndo_ok rfl _), teacher, category, id_eq]
      exact .accepted unmet slot free machine

/-! ## The answer and what has changed -/

/-- What has changed after a booking: one slot is taken, one item and one lesson are new. -/
structure Recorded (w : World) (now : Timestamp) (b : Booking) (made : BookedLesson) (w' : World) :
    Prop where
  /-- The slot was available, and it is the only one that has changed. -/
  slot : ∃ s, w.slots.get? b.slot = some s ∧ s.available = true ∧
    ∀ x, w'.slots.get? x =
      if x = b.slot then some { s with available := false } else w.slots.get? x
  /-- The new item has a number that was not in use, and is in the start state of its machine. -/
  item : ∃ m, w.catalog.machineNamed? .lesson = some m ∧ w.items.get? w.nextItem = none ∧
    ∀ id, w'.items.get? id =
      if id = w.nextItem then some ⟨w.nextItem, m.id, m.start⟩ else w.items.get? id
  /-- The new lesson has a number that was not in use, and is the one that is answered. -/
  lesson : w.lessons.get? w.nextLesson = none ∧ made = ⟨b.lesson w now, .pending⟩ ∧
    ∀ id, w'.lessons.get? id = if id = w.nextLesson then some made.lesson else w.lessons.get? id
  rest : w' = { w with
    slots := w'.slots, items := w'.items, nextItem := w.nextItem.succ, lessons := w'.lessons,
    nextLesson := w.nextLesson.succ }

theorem recorded_booked {s : Slot} {m : Machine} (filed : w.Filed) (now : Timestamp)
    (slot : w.slots.get? b.slot = some s) (free : s.available = true)
    (machine : w.catalog.machineNamed? .lesson = some m) :
    b.Recorded w now ⟨b.lesson w now, .pending⟩ (b.booked w now s m) where
  slot := ⟨s, slot, free, fun _ => Table.get?_insert ..⟩
  item := ⟨m, machine, filed.fresh, fun _ => Table.get?_insert ..⟩
  lesson := ⟨filed.lesson_fresh, rfl, fun _ => Table.get?_insert ..⟩
  rest := rfl

end Booking

/-- **A booking that nobody interferes with is accepted if and only if all conditions hold.**
Otherwise the first one that does not hold is reported, and nothing has changed. -/
theorem bookings_accepted_exactly (meet : String → String → Except MeetingError Credential)
    {w : World} (filed : w.Filed) (now : Timestamp) (b : Booking) :
    ((∃ made w', w.attempt meet (bookLesson now b) = (.ok made, w')) ↔
      ∀ c : Booking.Condition, c.holds w b = true) ∧
    (∀ c, b.unmet? w = some c → w.attempt meet (bookLesson now b) = (.error (c.error b), w)) ∧
    ∀ made w', w.attempt meet (bookLesson now b) = (.ok made, w') → b.Recorded w now made w' := by
  have answered : b.Answered w now (w.attempt meet (bookLesson now b)) :=
    Booking.attempt_bookLesson filed now
  rw [← Booking.unmet?_eq_none_iff]
  generalize w.attempt meet (bookLesson now b) = r at answered
  cases answered with
  | refused c first =>
    rw [first]
    refine ⟨⟨?_, ?_⟩, ?_, ?_⟩
    · intro ⟨_, _, same⟩
      cases same
    · intro met
      cases met
    · intro c' same
      rw [Option.some.inj same]
    · intro made w' same
      cases same
  | accepted met slot free machine =>
    rw [met]
    refine ⟨⟨fun _ => rfl, fun _ => ⟨_, _, rfl⟩⟩, ?_, ?_⟩
    · intro c first
      cases first
    · intro made w' same
      obtain ⟨⟨⟩, rfl⟩ := Prod.mk.inj same
      exact Booking.recorded_booked filed now slot free machine

theorem World.sample_filed : World.sample.Filed where
  teachers := Directory.teachersKeyed_empty.addTeacher _
  categories := by
    intro k c found
    have found : (Table.empty.insert (.ofInt 1) _).get? k = some c := found
    rw [Table.get?_insert] at found
    split at found
    · obtain rfl := Option.some.inj found
      exact Eq.symm ‹_›
    · cases found
  slots := World.sample_keyed
  item_lt := by
    intro k item found
    have found : (Table.empty.insert (.ofInt 1) _).get? k = some item := found
    rw [Table.get?_insert] at found
    split at found
    · obtain rfl : k = .ofInt 1 := ‹_›
      decide
    · cases found
  lesson_lt := World.sample_orderly.lesson_lt

/-- The student's booking is accepted. The teacher's own booking of a slot that is taken is reported
as their own, and where lessons have no machine, that is reported and the slot stays open. -/
theorem bookings_accepted_exactly_sample :
    let meet (_ _ : String) : Except MeetingError Credential := .error (.unavailable "")
    let unprovisioned : World := { World.sample with catalog := .ofBlueprints [.skill] }
    (∃ made w', World.sample.attempt meet (bookLesson .epoch .sample) = (.ok made, w') ∧
      Booking.Recorded .sample .epoch .sample made w') ∧
    World.sample.attempt meet (bookLesson .epoch ⟨.ofInt 2, .ofInt 1, .ofInt 1, .ofInt 1⟩) =
      (.error .selfBooking, .sample) ∧
    unprovisioned.attempt meet (bookLesson .epoch .sample) =
      (.error (.transition (.unknownMachine .lesson)), unprovisioned) := by
  intro meet unprovisioned
  have filed := World.sample_filed
  have refiled : unprovisioned.Filed :=
    ⟨filed.teachers, filed.categories, filed.slots, filed.item_lt, filed.lesson_lt⟩
  obtain ⟨accepted, -, recorded⟩ := bookings_accepted_exactly meet filed .epoch .sample
  obtain ⟨made, w', booked⟩ := accepted.2 fun c => by cases c <;> rfl
  refine ⟨⟨made, w', booked, recorded made w' booked⟩, ?_, ?_⟩
  · have first : Booking.unmet? .sample ⟨.ofInt 2, .ofInt 1, .ofInt 1, .ofInt 1⟩ =
        some .notSelf := by decide
    exact (bookings_accepted_exactly meet filed .epoch _).2.1 _ first
  · have first : Booking.unmet? unprovisioned .sample = some .machineProvisioned := by decide
    exact (bookings_accepted_exactly meet refiled .epoch _).2.1 _ first

end Tutoring
