import Tutoring.Proofs.Reservation

/-!
# Bookings of one slot

Several requests may want the same open slot. If their bookings are valid and no call fails, one of
them gets the slot and all others are told that it is not available.

* `Run.missed_of_valid`: a valid booking that does not get the slot has taken nothing, and it was
  shown that the slot was taken.
* `Run.open_kept`: a slot that nobody takes stays open.
* `no_double_booking`: together with the invariant of slots.
-/

namespace Tutoring

/-! ## What stays the same of a slot -/

/-- The slot as it is when it is taken. -/
def Slot.closed (s : Slot) : Slot := { s with available := false }

/-- Every slot is kept under its own number. -/
def World.SlotsKeyed (w : World) : Prop := ∀ x s, w.slots.get? x = some s → s.id = x

/-- Slots that were put in under their own numbers are found under them. -/
theorem World.slotsKeyed_of_calendar {w : World} (calendar : List Slot)
    (h : w.slots = .ofList (calendar.map fun s => (s.id, s))) : w.SlotsKeyed := by
  unfold World.SlotsKeyed
  rw [h, Table.ofList, List.foldl_map]
  refine List.foldlRecOn (motive := fun t : Table SlotId Slot => ∀ x s, t.get? x = some s → s.id = x)
    _ _ ?_ ?_
  · intro x s found
    cases found
  · intro t keyed slot _ x s found
    rw [Table.get?_insert] at found
    split at found
    · obtain rfl : slot = s := Option.some.inj found
      exact Eq.symm ‹_›
    · exact keyed x s found

/-- The reply shows that the slot cannot be taken. -/
def Event.ShowsClosed (x : SlotId) (e : Event) : Prop :=
  (∃ s, e = ⟨.findSlot x, .ok (some s)⟩ ∧ s.available = false) ∨ e = ⟨.reserveSlot x, .ok false⟩

namespace World

variable {w w' : World} {e : Event} {x : SlotId}

/-- Only the availability of a slot changes. -/
theorem Effect.slot_kept (h : w.Effect e w') (x : SlotId) :
    (w'.slots.get? x).map Slot.closed = (w.slots.get? x).map Slot.closed := by
  cases h with
  | @reserve id slot found free =>
    show ((w.slots.insert id _).get? x).map Slot.closed = _
    rw [Table.get?_insert]
    split
    · rename_i hx
      rw [hx, found]
      rfl
    · rfl
  | release id =>
    show ((w.slots.modify id _).get? x).map Slot.closed = _
    rw [Table.get?_modify]
    split
    · rename_i hx
      rw [hx]
      cases w.slots.get? id <;> rfl
    · rfl
  | _ => rfl

theorem Effect.open_kept (h : w.Effect e w') (opened : w.Open x) (untaken : e.taken? ≠ some x) :
    w'.Open x := by
  obtain ⟨s, found, free⟩ := opened
  cases h with
  | @reserve id slot found' free' =>
    have other : x ≠ id := by
      rintro rfl
      exact untaken rfl
    refine ⟨s, ?_, free⟩
    rw [Table.get?_insert, if_neg other, found]
  | release id =>
    by_cases hx : x = id
    · subst hx
      refine ⟨{ s with available := true }, ?_, rfl⟩
      show (w.slots.modify x _).get? x = _
      rw [Table.get?_modify, if_pos rfl, found]
      rfl
    · refine ⟨s, ?_, free⟩
      show (w.slots.modify id _).get? x = _
      rw [Table.get?_modify, if_neg hx, found]
  | _ => exact ⟨s, found, free⟩

/-- No reply shows that an open slot cannot be taken. -/
theorem Open.not_showsClosed (opened : w.Open x) (reacts : w.Reacts e.call e.reply w') :
    ¬e.ShowsClosed x := by
  obtain ⟨s, found, free⟩ := opened
  rintro (⟨s', rfl, taken⟩ | rfl)
  · obtain ⟨found', -⟩ := reacts.answer_eq (f := (·.slots.get? x)) fun _ _ => rfl
    obtain rfl : s = s' := Option.some.inj (found.symm.trans found')
    rw [free] at taken
    cases taken
  · obtain ⟨meet, step⟩ := reacts.served_of_ok
    have refused : (w.reserve x).1 = false := Except.ok.inj (congrArg Prod.fst step)
    simp [reserve, found, free] at refused

end World

section Run

variable {ρ : Type} {β : ρ → Type} {program : (r : ρ) → Program (β r)} {requests : List ρ}
  {start w : World} {trace : Trace} {i : Nat} {x : SlotId} {s : Slot}

theorem Run.slot_kept (run : Run program requests start trace w) (x : SlotId) :
    (w.slots.get? x).map Slot.closed = (start.slots.get? x).map Slot.closed := by
  induction run with
  | start => rfl
  | step _ _ _ reacts ih => rw [reacts.effect.slot_kept, ih]

/-- A slot that is found is the one that was there from the start, apart from its availability. -/
theorem Run.found_slot (run : Run program requests start trace w) {found : Option Slot}
    (h : (i, ⟨.findSlot x, .ok found⟩) ∈ trace) :
    found.map Slot.closed = (start.slots.get? x).map Slot.closed := by
  obtain ⟨_, _, _, _, upto⟩ := run.occurred h
  obtain ⟨w₀, _, _, earlier, _, _, reacts⟩ := upto.last
  obtain ⟨served, -⟩ := reacts.answer_eq (f := (·.slots.get? x)) fun _ _ => rfl
  rw [← served, earlier.slot_kept]

theorem Run.found_slot_eq (run : Run program requests start trace w) {found : Slot}
    (h : (i, ⟨.findSlot x, .ok (some found)⟩) ∈ trace) (there : start.slots.get? x = some s) :
    found.id = s.id ∧ found.teacher = s.teacher := by
  have kept := run.found_slot h
  rw [there] at kept
  have same : found.closed = s.closed := Option.some.inj kept
  have id_eq : found.closed.id = s.closed.id := congrArg Slot.id same
  have teacher_eq : found.closed.teacher = s.closed.teacher := congrArg Slot.teacher same
  exact ⟨id_eq, teacher_eq⟩

theorem Run.found_slot_id (run : Run program requests start trace w) (keyed : start.SlotsKeyed)
    {found : Slot} (h : (i, ⟨.findSlot x, .ok (some found)⟩) ∈ trace) : found.id = x := by
  obtain ⟨s, there, _⟩ := Option.map_eq_some_iff.1 (run.found_slot h).symm
  exact (run.found_slot_eq h there).1.trans (keyed x s there)

theorem Run.open_kept (run : Run program requests start trace w) (opened : start.Open x)
    (untaken : ∀ e ∈ trace, e.2.taken? ≠ some x) : w.Open x := by
  induction run with
  | start => exact opened
  | step _ _ _ reacts ih =>
    obtain ⟨last, before⟩ := List.forall_mem_cons.1 untaken
    exact reacts.effect.open_kept (ih before) last

/-- Where nobody takes an open slot, no reply shows that it cannot be taken. -/
theorem Run.not_showsClosed (run : Run program requests start trace w) (opened : start.Open x)
    (untaken : ∀ e ∈ trace, e.2.taken? ≠ some x) : ∀ e ∈ trace, ¬e.2.ShowsClosed x := by
  intro e he
  obtain ⟨later, earlier, _, rfl, upto⟩ := run.occurred he
  obtain ⟨w₀, _, _, before, _, _, reacts⟩ := upto.last
  have opened₀ := before.open_kept opened fun e he =>
    untaken e (List.mem_append_right later (List.mem_cons_of_mem _ he))
  exact opened₀.not_showsClosed reacts

end Run

/-! ## Valid bookings -/

/-- The records of a booking are there and pass every check, apart from whether the slot can be
taken; and lessons have a state machine. -/
structure Booking.Valid (b : Booking) (w : World) (t : Teacher) (c : Category) (s : Slot) :
    Prop where
  student : (w.directory.users.get? b.student).isSome = true
  teacher : w.directory.teachers.get? b.teacher = some t
  user_ne : t.user ≠ b.student
  category : w.directory.categories.get? b.category = some c
  active : c.active = true
  skill : (w.directory.skills.get? (t.id, c.id)).any (·.active) = true
  slot : w.slots.get? b.slot = some s
  owned : s.teacher = t.id
  machine : (w.catalog.machineNamed? .lesson).isSome = true

namespace Booking.Valid

variable {start : World} {b : Booking} {t : Teacher} {c : Category} {s : Slot}

theorem student_found (valid : b.Valid start t c s) {found : Option User}
    (h : World.Honest start.directory start.catalog ⟨.findUser b.student, .ok found⟩) :
    found.isSome = true := by
  rw [h.answer_eq (f := fun d _ => d.users.get? b.student) fun _ _ => rfl]
  exact valid.student

theorem teacher_found (valid : b.Valid start t c s) {found : Option Teacher}
    (h : World.Honest start.directory start.catalog ⟨.findTeacher b.teacher, .ok found⟩) :
    found = some t := by
  rw [h.answer_eq (f := fun d _ => d.teachers.get? b.teacher) fun _ _ => rfl]
  exact valid.teacher

theorem category_found (valid : b.Valid start t c s) {found : Option Category}
    (h : World.Honest start.directory start.catalog ⟨.findCategory b.category, .ok found⟩) :
    found = some c := by
  rw [h.answer_eq (f := fun d _ => d.categories.get? b.category) fun _ _ => rfl]
  exact valid.category

theorem skill_found (valid : b.Valid start t c s) {found : Option TeacherSkill}
    (h : World.Honest start.directory start.catalog ⟨.findSkill t.id c.id, .ok found⟩) :
    found.any (·.active) = true := by
  rw [h.answer_eq (f := fun d _ => d.skills.get? (t.id, c.id)) fun _ _ => rfl]
  exact valid.skill

theorem machine_found (valid : b.Valid start t c s) {found : Option Machine}
    (h : World.Honest start.directory start.catalog ⟨.findMachineByName .lesson, .ok found⟩) :
    found.isSome = true := by
  rw [h.answer_eq (f := fun _ k => k.machineNamed? .lesson) fun _ _ => rfl]
  exact valid.machine

end Booking.Valid

section Valid

variable {ρ : Type} {β : ρ → Type} {program : (r : ρ) → Program (β r)} {requests : List ρ}
  {start w : World} {trace : Trace} {i : Nat} {b : Booking} {t : Teacher} {c : Category} {s : Slot}
  {error : LessonError}

/-- The records of a valid booking are refused only because the slot cannot be taken. -/
theorem Run.refused_of_valid (run : Run program requests start trace w) (keyed : start.SlotsKeyed)
    (valid : b.Valid start t c s) (unfailed : ∀ e ∈ trace.own i, e.failed = false)
    (h : b.Refused (trace.own i) error) :
    error = .slotUnavailable b.slot ∧ ∃ e ∈ trace.own i, e.ShowsClosed b.slot := by
  have honest := run.own_honest i
  cases h with
  | failed he failed => exact nomatch (unfailed _ he).symm.trans failed
  | noUser hm => exact nomatch valid.student_found (honest _ hm)
  | noTeacher hm => exact nomatch valid.teacher_found (honest _ hm)
  | self hm same =>
    obtain rfl := Option.some.inj (valid.teacher_found (honest _ hm))
    exact absurd same valid.user_ne
  | noCategory hm => exact nomatch valid.category_found (honest _ hm)
  | inactive hm inactive =>
    obtain rfl := Option.some.inj (valid.category_found (honest _ hm))
    exact nomatch valid.active.symm.trans inactive
  | noSkill ht hc hm inactive =>
    obtain rfl := Option.some.inj (valid.teacher_found (honest _ ht))
    obtain rfl := Option.some.inj (valid.category_found (honest _ hc))
    exact nomatch (valid.skill_found (honest _ hm)).symm.trans inactive
  | noSlot hm =>
    have kept := run.found_slot (Trace.mem_own.1 hm)
    rw [valid.slot] at kept
    cases kept
  | notOwned ht hs other =>
    obtain rfl := Option.some.inj (valid.teacher_found (honest _ ht))
    rw [(run.found_slot_eq (Trace.mem_own.1 hs) valid.slot).2] at other
    exact absurd valid.owned other
  | unavailable hs taken =>
    rw [run.found_slot_id keyed (Trace.mem_own.1 hs)]
    exact ⟨rfl, _, hs, .inl ⟨_, rfl, taken⟩⟩

/-- A valid booking that ends with an error, without a call that failed, has taken nothing and was
shown that the slot cannot be taken. -/
theorem Run.missed_of_valid (run : Run program requests start trace w) (keyed : start.SlotsKeyed)
    (valid : b.Valid start t c s) (unfailed : ∀ e ∈ trace.own i, e.failed = false)
    (h : b.Missed (trace.own i) error) :
    (trace.own i).taken = [] ∧ error = .slotUnavailable b.slot ∧
      ∃ e ∈ trace.own i, e.ShowsClosed b.slot := by
  cases h with
  | refused untaken h => exact ⟨untaken, run.refused_of_valid keyed valid unfailed h⟩
  | @lost s' untaken hs hm =>
    rw [run.found_slot_id keyed (Trace.mem_own.1 hs)] at hm ⊢
    exact ⟨untaken, rfl, _, hm, .inr rfl⟩
  | failed he failed => exact nomatch (unfailed _ he).symm.trans failed
  | noMachine hm => exact nomatch valid.machine_found (run.own_honest i _ hm)

end Valid

/-- The open slot of the small world as its student books it. -/
def Booking.sample : Booking := ⟨.ofInt 1, .ofInt 1, .ofInt 1, .ofInt 2⟩

theorem Booking.sample_valid : Booking.sample.Valid .sample ⟨.ofInt 1, .ofInt 2⟩
    ⟨.ofInt 1, "algebra", true⟩ ⟨.ofInt 2, .ofInt 1, .epoch, .epoch, true⟩ where
  student := rfl
  teacher := rfl
  user_ne := by decide
  category := rfl
  active := rfl
  skill := rfl
  slot := rfl
  owned := rfl
  machine := rfl

theorem World.sample_unbooked (x : SlotId) (opened : World.sample.Open x) :
    World.sample.Unbooked x := by
  obtain ⟨s, found, free⟩ := opened
  rintro id l stored rfl
  simp only [World.sample, Table.get?_insert, Table.get?_empty] at found stored
  split at stored
  · obtain rfl := Option.some.inj stored
    obtain rfl := Option.some.inj found
    cases free
  · cases stored

theorem World.sample_keyed : World.sample.SlotsKeyed :=
  World.slotsKeyed_of_calendar [⟨.ofInt 1, .ofInt 1, .epoch, .epoch, false⟩,
    ⟨.ofInt 2, .ofInt 1, .epoch, .epoch, true⟩] rfl

theorem Log.unfailed_of_all {log : Log} (h : (log.all fun e => !e.failed) = true) :
    ∀ e ∈ log, e.failed = false := by
  simpa using h

/-! ## Who gets the slot -/

/-- A valid booking has come to its end, and none of its calls has failed. -/
structure Booking.Settled (b : Booking) (start : World) (now : Timestamp) (log : Log) : Prop where
  valid : ∃ t c s, b.Valid start t c s
  unfailed : ∀ e ∈ log, e.failed = false
  ended : ∃ result, (bookLesson now b).run.After log (.done result)

/-- The request at a place is a booking of the slot. -/
def Books (requests : List LessonRequest) (x : SlotId) (i : Nat) (now : Timestamp) (b : Booking) :
    Prop :=
  requests[i]? = some (.book now b) ∧ b.slot = x

theorem Event.eq_of_taken {e : Event} {x : SlotId} (h : e.taken? = some x) :
    e = ⟨.reserveSlot x, .ok true⟩ := by
  obtain ⟨c, r⟩ := e
  cases c with
  | reserveSlot id =>
    obtain _ | _ | _ := r
    · cases h
    · cases h
    · obtain rfl : id = x := Option.some.inj h
      rfl
  | _ => cases h

private theorem two_le_countP {α : Type} {p : α → Bool} {a a' : α} {l : List α} (ha : a ∈ l)
    (ha' : a' ∈ l) (ne : a ≠ a') (hp : p a = true) (hp' : p a' = true) : 2 ≤ l.countP p := by
  obtain ⟨s, t, rfl⟩ := List.append_of_mem ha
  rw [List.countP_append, List.countP_cons_of_pos hp]
  rcases List.mem_append.1 ha' with hs | ht
  · have pos : 0 < s.countP p := List.countP_pos_iff.2 ⟨a', hs, hp'⟩
    omega
  · rcases List.mem_cons.1 ht with heq | ht
    · exact absurd heq.symm ne
    · have pos : 0 < t.countP p := List.countP_pos_iff.2 ⟨a', ht, hp'⟩
      omega

section Contention

variable {room : LessonId → String} {requests : List LessonRequest} {start w : World}
  {trace : Trace} {i j : Nat} {x : SlotId} {now : Timestamp} {b : Booking}

/-- Only a booking of a slot takes it. -/
theorem Run.taken_by_booking (run : Run (LessonRequest.program room) requests start trace w)
    (keyed : start.SlotsKeyed) {e : Event} (he : (i, e) ∈ trace) (taken : e.taken? = some x) :
    ∃ now b, Books requests x i now b := by
  obtain rfl := Event.eq_of_taken taken
  obtain ⟨_, _, _, _, upto⟩ := run.occurred he
  obtain ⟨_, r, _, before, request, pending, _⟩ := upto.last
  obtain ⟨_, now, b, slot, rfl, found, id_eq⟩ :=
    pending.guar (r.meets_terms room) fun _ _ => trivial
  exact ⟨now, b, request, (before.found_slot_id keyed (Trace.mem_own.1 found)).symm.trans id_eq⟩

/-- A booking that is settled has got its slot and a lesson for it, or it has taken nothing and was
shown that the slot cannot be taken. -/
theorem Run.settled_cases (run : Run (LessonRequest.program room) requests start trace w)
    (keyed : start.SlotsKeyed) (settled : b.Settled start now (trace.own i)) :
    (∃ made, (bookLesson now b).run.After (trace.own i) (.done (.ok made)) ∧
      ∃ e, (i, e) ∈ trace ∧ e.booked? = some b.slot) ∨
    ((bookLesson now b).run.After (trace.own i) (.done (.error (.slotUnavailable b.slot))) ∧
      (trace.own i).taken = [] ∧ ∃ e, (i, e) ∈ trace ∧ e.ShowsClosed b.slot) := by
  obtain ⟨⟨t, c, s, valid⟩, unfailed, result, ended⟩ := settled
  have outcome := ended.post (bookLesson_meets (fun _ => True) now b) fun _ _ => trivial
  cases result with
  | ok made =>
    obtain ⟨_, _, s', draft, verified, _, draft_slot, inserted⟩ :=
      (show b.Made (trace.own i) made from outcome)
    have found_id := run.found_slot_id keyed (Trace.mem_own.1 verified.slot_mem)
    refine .inl ⟨made, ended, _, Trace.mem_own.1 inserted, ?_⟩
    exact congrArg some (draft_slot.trans found_id)
  | error e =>
    obtain ⟨untaken, rfl, shown, hm, closed⟩ := run.missed_of_valid keyed valid unfailed outcome
    exact .inr ⟨ended, untaken, shown, Trace.mem_own.1 hm, closed⟩

/-- Of all bookings of an open slot, once they are settled, one at least has got it. -/
theorem Run.some_booked (run : Run (LessonRequest.program room) requests start trace w)
    (keyed : start.SlotsKeyed) (opened : start.Open x)
    (booked : ∃ i now b, Books requests x i now b)
    (settled : ∀ i now b, Books requests x i now b → b.Settled start now (trace.own i)) :
    ∃ i now b made, Books requests x i now b ∧
      (bookLesson now b).run.After (trace.own i) (.done (.ok made)) := by
  refine Classical.byContradiction fun none_made => ?_
  have missed : ∀ i now b, Books requests x i now b →
      (trace.own i).taken = [] ∧ ∃ e, (i, e) ∈ trace ∧ e.ShowsClosed x := by
    rintro i now b ⟨request, rfl⟩
    rcases run.settled_cases keyed (settled i now b ⟨request, rfl⟩) with
      ⟨made, ended, _⟩ | ⟨_, untaken, shown⟩
    · exact absurd ⟨i, now, b, made, ⟨request, rfl⟩, ended⟩ none_made
    · exact ⟨untaken, shown⟩
  have untaken : ∀ e ∈ trace, e.2.taken? ≠ some x := by
    rintro ⟨j, e⟩ he taken
    obtain ⟨now, b, books⟩ := run.taken_by_booking keyed he taken
    have not_taken :=
      List.filterMap_eq_nil_iff.1 (missed j now b books).1 e (Trace.mem_own.2 he)
    exact nomatch not_taken.symm.trans taken
  obtain ⟨i, now, b, books⟩ := booked
  obtain ⟨_, e, he, shown⟩ := missed i now b books
  exact run.not_showsClosed opened untaken _ he shown

/-- **No slot is booked twice.** In every state that a run may come to, a slot has one lesson or one
holder at most, and it is closed while it has one; no lesson refers to an open slot. Of all bookings
of an open slot, if they are valid and have come to their end without a call that failed, exactly
one has got it and all others were told that it is not available. -/
theorem no_double_booking (run : Run (LessonRequest.program room) requests start trace w)
    (unbooked : ∀ x, start.Open x → start.Unbooked x) :
    (∀ x, trace.lessons x + trace.holders x requests.length ≤ 1 ∧
      (trace.lessons x + trace.holders x requests.length = 1 → w.Closed x) ∧
      (w.Open x → w.Unbooked x)) ∧
    (start.SlotsKeyed → ∀ x, start.Open x → (∃ i now b, Books requests x i now b) →
      (∀ i now b, Books requests x i now b → b.Settled start now (trace.own i)) →
      ∃ i now b made, Books requests x i now b ∧
        (bookLesson now b).run.After (trace.own i) (.done (.ok made)) ∧
        ∀ j now' b', j ≠ i → Books requests x j now' b' →
          (bookLesson now' b').run.After (trace.own j)
            (.done (.error (.slotUnavailable x)))) := by
  refine ⟨fun x => ?_, fun keyed x opened booked settled => ?_⟩
  · have inv := run.slotInvariant (unbooked x)
    exact ⟨inv.once, inv.closed, inv.open_unbooked⟩
  obtain ⟨i, now, b, made, ⟨request, rfl⟩, ended⟩ := run.some_booked keyed opened booked settled
  refine ⟨i, now, b, made, ⟨request, rfl⟩, ended, fun j now' b' ne books => ?_⟩
  rcases run.settled_cases keyed (settled i now b ⟨request, rfl⟩) with
    ⟨_, _, e, he, lesson⟩ | ⟨ended', _⟩
  · rcases run.settled_cases keyed (settled j now' b' books) with
      ⟨_, _, e', he', lesson'⟩ | ⟨ended', _⟩
    · -- Both have stored a lesson for the slot.
      rw [books.2] at lesson'
      have two : 2 ≤ trace.lessons b.slot :=
        two_le_countP he he' (fun heq => ne (congrArg Prod.fst heq).symm) (by simpa using lesson)
          (by simpa using lesson')
      have once := (run.slotInvariant (unbooked b.slot)).once
      omega
    · rw [← books.2]
      exact ended'
  · exact nomatch Program.done.inj (ended.unique ended')

end Contention

/-- Two requests find the slot open, and one of them takes it before the other one tries. -/
theorem no_double_booking_race :
    ∃ trace w, Run (LessonRequest.program fun _ => "")
        [.book .epoch .sample, .book .epoch .sample] .sample trace w ∧
      ∃ i now b made, Books [.book .epoch .sample, .book .epoch .sample] (.ofInt 2) i now b ∧
        (bookLesson now b).run.After (trace.own i) (.done (.ok made)) ∧
        ∀ j now' b', j ≠ i →
          Books [.book .epoch .sample, .book .epoch .sample] (.ofInt 2) j now' b' →
          (bookLesson now' b').run.After (trace.own j)
            (.done (.error (.slotUnavailable (.ofInt 2)))) := by
  have none_served : Run (LessonRequest.program fun _ => "")
    [.book .epoch .sample, .book .epoch .sample] .sample [] .sample := .start
  obtain ⟨run₁, after₁⟩ := none_served.serve (i := 1) (r := .book .epoch .sample)
    (fun _ _ => .error (.unavailable "")) 5 rfl .start
  obtain ⟨run₂, after₂⟩ := run₁.serve (i := 0) (r := .book .epoch .sample)
    (fun _ _ => .error (.unavailable "")) 9 rfl .start
  obtain ⟨run₃, after₃⟩ := run₂.serve (i := 1) (r := .book .epoch .sample)
    (fun _ _ => .error (.unavailable "")) 1 rfl after₁
  refine ⟨_, _, run₃, (no_double_booking run₃ World.sample_unbooked).2 World.sample_keyed (.ofInt 2)
    ⟨_, rfl, rfl⟩ ⟨0, _, _, rfl, rfl⟩ ?_⟩
  rintro (_ | _ | i) now b ⟨request, -⟩
  · obtain ⟨rfl, rfl⟩ := LessonRequest.book.inj (Option.some.inj request)
    exact ⟨⟨_, _, _, Booking.sample_valid⟩, Log.unfailed_of_all rfl, _, after₂⟩
  · obtain ⟨rfl, rfl⟩ := LessonRequest.book.inj (Option.some.inj request)
    exact ⟨⟨_, _, _, Booking.sample_valid⟩, Log.unfailed_of_all rfl, _, after₃⟩
  · cases request

end Tutoring
