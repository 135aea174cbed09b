import Tutoring.Proofs.Requests

/-!
# No slot is booked twice

The number of lessons that a run has created for a slot, together with the number of requests that
hold the slot, is one at most, and when it is one, the slot is not available. A request that failed
to release its slot counts as holding it for good.

* `SlotInvariant`: the invariant of one slot.
* `SlotInvariant.step`: every call keeps it, with one case for each change that a call can make.
* `Run.slotInvariant`: it holds in every state that a run may come to.
-/

namespace Tutoring

/-! ## Lessons and holders -/

namespace Trace

/-- The number of lessons that a run has created for a slot. -/
def lessons (x : SlotId) (trace : Trace) : Nat :=
  trace.countP fun e => e.2.booked? = some x

/-- The number of requests, of so many, that hold a slot. -/
def holders (x : SlotId) (n : Nat) (trace : Trace) : Nat :=
  (List.range n).countP fun i => (trace.own i).held = some x

variable {x : SlotId} {n i : Nat} {e : Event} {trace : Trace}

private theorem countP_range_add {p q : Nat → Bool} (hi : i < n) (h : ∀ j, j ≠ i → p j = q j) :
    (List.range n).countP q + (p i).toNat = (List.range n).countP p + (q i).toNat := by
  induction n with
  | zero => exact absurd hi (Nat.not_lt_zero i)
  | succ n ih =>
    simp only [List.range_succ, List.countP_append, List.countP_singleton]
    by_cases hn : i = n
    · subst hn
      have below : (List.range i).countP p = (List.range i).countP q := by
        refine List.countP_congr fun j hj => ?_
        rw [h j (Nat.ne_of_lt (List.mem_range.1 hj))]
      cases p i <;> cases q i <;> simp [below]
    · have ih := ih (by omega)
      rw [h n (Ne.symm hn)]
      omega

/-- A call changes at most what its own request holds. -/
theorem holders_cons (x : SlotId) (e : Event) (trace : Trace) (hi : i < n) :
    holders x n ((i, e) :: trace) + (decide ((trace.own i).held = some x)).toNat =
      holders x n trace + (decide (Log.held (e :: trace.own i) = some x)).toNat := by
  unfold holders
  have h := countP_range_add (p := fun j => decide ((trace.own j).held = some x))
    (q := fun j => decide ((own j ((i, e) :: trace)).held = some x)) hi
    fun j hj => by rw [own_cons_of_ne (Ne.symm hj)]
  simpa using h

theorem lessons_cons_of_booked (h : e.booked? = some x) :
    lessons x ((i, e) :: trace) = lessons x trace + 1 :=
  List.countP_cons_of_pos (by simpa using h)

theorem lessons_cons_of_not_booked (h : e.booked? ≠ some x) :
    lessons x ((i, e) :: trace) = lessons x trace :=
  List.countP_cons_of_neg (by simpa using h)

theorem holders_cons_of_eq (hi : i < n)
    (h : (trace.own i).held = some x ↔ Log.held (e :: trace.own i) = some x) :
    holders x n ((i, e) :: trace) = holders x n trace := by
  have add := holders_cons x e trace hi
  rw [decide_eq_decide.2 h] at add
  omega

theorem holders_cons_of_taken (hi : i < n) (before : (trace.own i).held ≠ some x)
    (after : Log.held (e :: trace.own i) = some x) :
    holders x n ((i, e) :: trace) = holders x n trace + 1 := by
  have add := holders_cons x e trace hi
  simpa [before, after] using add

theorem holders_of_cons_of_left (hi : i < n) (before : (trace.own i).held = some x)
    (after : Log.held (e :: trace.own i) ≠ some x) :
    holders x n trace = holders x n ((i, e) :: trace) + 1 := by
  have add := holders_cons x e trace hi
  simpa [before, after] using add.symm

end Trace

/-! ## The invariant of a slot -/

/-- No lesson refers to the slot. -/
def World.Unbooked (w : World) (x : SlotId) : Prop :=
  ∀ id l, w.lessons.get? id = some l → l.slot ≠ x

/-- The slot is there and can be taken. -/
def World.Open (w : World) (x : SlotId) : Prop :=
  ∃ s, w.slots.get? x = some s ∧ s.available = true

/-- The slot is there and cannot be taken. -/
def World.Closed (w : World) (x : SlotId) : Prop :=
  ∃ s, w.slots.get? x = some s ∧ s.available = false

theorem World.Open.not_closed {w : World} {x : SlotId} (h : w.Open x) : ¬w.Closed x := by
  obtain ⟨s, found, free⟩ := h
  rintro ⟨s', found', taken⟩
  obtain rfl : s = s' := Option.some.inj (found.symm.trans found')
  rw [free] at taken
  cases taken

/-- What holds of a slot in every reachable state. -/
structure SlotInvariant (x : SlotId) (n : Nat) (trace : Trace) (w : World) : Prop where
  once : trace.lessons x + trace.holders x n ≤ 1
  closed : trace.lessons x + trace.holders x n = 1 → w.Closed x
  open_unbooked : w.Open x → w.Unbooked x
  /-- This is what keeps a release from opening a slot that has got a lesson. -/
  held_unbooked : trace.holders x n = 1 → w.Unbooked x

namespace SlotInvariant

variable {x id : SlotId} {n i : Nat} {e : Event} {trace trace' : Trace} {w w' : World}
  {draft : LessonDraft} {slot : Slot}

/-- A call that is not about the slot leaves it as it was. -/
theorem frame (inv : SlotInvariant x n trace w) (lessons : trace'.lessons x = trace.lessons x)
    (holders : trace'.holders x n = trace.holders x n)
    (slots : w'.slots.get? x = w.slots.get? x) (unbooked : w.Unbooked x → w'.Unbooked x) :
    SlotInvariant x n trace' w' where
  once := by
    rw [lessons, holders]
    exact inv.once
  closed h := by
    rw [lessons, holders] at h
    unfold World.Closed
    rw [slots]
    exact inv.closed h
  open_unbooked h := by
    unfold World.Open at h
    rw [slots] at h
    exact unbooked (inv.open_unbooked h)
  held_unbooked h := by
    rw [holders] at h
    exact unbooked (inv.held_unbooked h)

/-- An open slot has neither a lesson nor a holder. -/
theorem none_of_open (inv : SlotInvariant x n trace w) (h : w.Open x) :
    trace.lessons x = 0 ∧ trace.holders x n = 0 := by
  have once := inv.once
  have not_one : trace.lessons x + trace.holders x n ≠ 1 := fun one => h.not_closed (inv.closed one)
  omega

theorem reserve (inv : SlotInvariant x n trace w) (hi : i < n)
    (unheld : (trace.own i).held = none) (found : w.slots.get? id = some slot)
    (free : slot.available = true) :
    SlotInvariant x n ((i, ⟨.reserveSlot id, .ok true⟩) :: trace)
      { w with slots := w.slots.insert id { slot with available := false } } := by
  have held : Log.held (⟨.reserveSlot id, .ok true⟩ :: trace.own i) = some id :=
    Log.held_cons_of_taken rfl
  have lessons : Trace.lessons x ((i, ⟨.reserveSlot id, .ok true⟩) :: trace) = trace.lessons x :=
    Trace.lessons_cons_of_not_booked fun h => nomatch h
  by_cases hx : x = id
  · subst hx
    have opened : w.Open x := ⟨slot, found, free⟩
    obtain ⟨no_lesson, no_holder⟩ := inv.none_of_open opened
    have holders := Trace.holders_cons_of_taken hi (by simp [unheld]) held
    have closed : World.Closed
        { w with slots := w.slots.insert x { slot with available := false } } x :=
      ⟨_, by rw [Table.get?_insert, if_pos rfl], rfl⟩
    exact {
      once := by omega
      closed := fun _ => closed
      open_unbooked := fun h => absurd closed h.not_closed
      held_unbooked := fun _ => inv.open_unbooked opened }
  · refine inv.frame lessons (Trace.holders_cons_of_eq hi ?_) ?_ fun h => h
    · rw [unheld, held]
      simp [Ne.symm hx]
    · rw [Table.get?_insert, if_neg hx]

theorem release (inv : SlotInvariant x n trace w) (hi : i < n)
    (held : (trace.own i).held = some id) :
    SlotInvariant x n ((i, ⟨.releaseSlot id, .ok ()⟩) :: trace) (w.release id) := by
  have unheld : Log.held (⟨.releaseSlot id, .ok ()⟩ :: trace.own i) = none :=
    Log.held_cons_of_released held rfl rfl
  have lessons : Trace.lessons x ((i, ⟨.releaseSlot id, .ok ()⟩) :: trace) = trace.lessons x :=
    Trace.lessons_cons_of_not_booked fun h => nomatch h
  by_cases hx : x = id
  · subst hx
    have holders := Trace.holders_of_cons_of_left hi held fun h => nomatch unheld.symm.trans h
    have once := inv.once
    have unbooked : w.Unbooked x := inv.held_unbooked (by omega)
    exact {
      once := by omega
      closed := by omega
      open_unbooked := fun _ => unbooked
      held_unbooked := fun _ => unbooked }
  · refine inv.frame lessons (Trace.holders_cons_of_eq hi ?_) ?_ fun h => h
    · rw [unheld, held]
      simp [Ne.symm hx]
    · unfold World.release
      rw [Table.get?_modify, if_neg hx]

theorem addLesson (inv : SlotInvariant x n trace w) (hi : i < n)
    (held : (trace.own i).held = some draft.slot) (l : Lesson) :
    SlotInvariant x n ((i, ⟨.insertLesson draft, .ok l⟩) :: trace) (w.addLesson draft).2 := by
  have unheld : Log.held (⟨.insertLesson draft, .ok l⟩ :: trace.own i) = none :=
    Log.held_cons_of_booked held rfl rfl
  by_cases hx : x = draft.slot
  · subst hx
    have lessons : Trace.lessons draft.slot ((i, ⟨.insertLesson draft, .ok l⟩) :: trace) =
        trace.lessons draft.slot + 1 := Trace.lessons_cons_of_booked rfl
    have holders := Trace.holders_of_cons_of_left hi held fun h => nomatch unheld.symm.trans h
    have once := inv.once
    have closed : w.Closed draft.slot := inv.closed (by omega)
    exact {
      once := by omega
      closed := fun _ => closed
      open_unbooked := fun h => absurd closed h.not_closed
      held_unbooked := by omega }
  · have not_booked : (⟨.insertLesson draft, .ok l⟩ : Event).booked? ≠ some x :=
      fun h => hx (Option.some.inj h).symm
    refine inv.frame (Trace.lessons_cons_of_not_booked not_booked)
      (Trace.holders_cons_of_eq hi ?_) rfl fun unbooked k l' found => ?_
    · rw [unheld, held]
      simp [Ne.symm hx]
    · unfold World.addLesson at found
      rw [Table.get?_insert] at found
      split at found
      · obtain rfl := Option.some.inj found
        exact Ne.symm hx
      · exact unbooked k l' found

/-- A call that neither takes, releases nor books a slot. -/
theorem other (inv : SlotInvariant x n trace w) (hi : i < n) (taken : e.taken? = none)
    (booked : e.booked? = none) (released : e.released? = none) (slots : w'.slots = w.slots)
    (lessons : w'.lessons = w.lessons) : SlotInvariant x n ((i, e) :: trace) w' := by
  refine inv.frame (Trace.lessons_cons_of_not_booked (by simp [booked]))
    (Trace.holders_cons_of_eq hi ?_) (by rw [slots]) fun h => ?_
  · rw [Log.held_cons_of_idle taken booked released]
  · unfold World.Unbooked
    rw [lessons]
    exact h

/-- Every call of a request keeps the invariant. -/
theorem step {r : LessonRequest} (inv : SlotInvariant x n trace w) (hi : i < n)
    (allowed : r.terms.guar (trace.own i) e.call) (effect : w.Effect e w') :
    SlotInvariant x n ((i, e) :: trace) w' := by
  cases effect with
  | reserve found free => exact inv.reserve hi (Log.held_of_untaken allowed.1) found free
  | release id => exact inv.release hi allowed
  | addLesson draft => exact inv.addLesson hi allowed _
  | addItem | removeItem | move => exact inv.other hi rfl rfl rfl rfl rfl
  | idle h =>
    obtain ⟨taken, booked, released⟩ := Event.slotless_of_idle h
    exact inv.other hi taken booked released rfl rfl

/-- Where no request has made a call yet. -/
theorem start (h : w.Open x → w.Unbooked x) : SlotInvariant x n [] w := by
  have no_holder : Trace.holders x n [] = 0 := by simp [Trace.holders]
  exact {
    once := by rw [no_holder]; exact Nat.zero_le 1
    closed := fun one => by rw [no_holder] at one; cases one
    open_unbooked := h
    held_unbooked := fun one => by rw [no_holder] at one; cases one }

end SlotInvariant

/-- The invariant holds in every state that any number of requests may come to. -/
theorem Run.slotInvariant {room : LessonId → String} {requests : List LessonRequest}
    {start w : World} {trace : Trace} (run : Run (LessonRequest.program room) requests start trace w)
    {x : SlotId} (h : start.Open x → start.Unbooked x) :
    SlotInvariant x requests.length trace w := by
  induction run with
  | start => exact .start h
  | @step _ _ _ _ r _ _ _ _ request pending reacts ih =>
    have hi := (List.getElem?_eq_some_iff.1 request).1
    exact ih.step hi (pending.guar (r.meets_terms room) fun _ _ => trivial) reacts.effect

end Tutoring
