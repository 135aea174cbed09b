import Mathlib.Data.List.Nodup
import Mathlib.Data.List.Perm.Subperm
import Tutoring.Proofs.Ownership

/-!
# Numbers that bookings give out

A booking makes one item and stores one lesson at most, so there are no more new numbers than
requests.

* `Run.calls_le`: what no request does twice is not done more often than there are requests.
* `Run.records_le`: the new items and lessons of a run.
* `World.Orderly`: no two lessons have the same item, and all numbers in use come before the next
  one. Every state that requests come to from empty stores is such (`Run.orderly`).
-/

namespace Tutoring

/-! ## How many records are made -/

section Count

variable {ρ : Type} {β : ρ → Type} {program : (r : ρ) → Program (β r)} {requests : List ρ}
  {start w : World} {trace : Trace} {α : Type}

/-- The requests that have made a call of a kind, each as often as it has done so. -/
def Trace.callers (f : Event → Option α) (trace : Trace) : List Nat :=
  trace.filterMap fun e => (f e.2).map fun _ => e.1

theorem Trace.length_callers (f : Event → Option α) (trace : Trace) :
    (trace.callers f).length = (trace.calls.filterMap f).length := by
  induction trace with
  | nil => rfl
  | cons e trace ih =>
    unfold callers calls at ih ⊢
    cases h : f e.2 <;> simp [h, ih]

/-- A request is among the callers as often as its own calls are counted. -/
theorem Trace.count_callers (f : Event → Option α) (i : Nat) (trace : Trace) :
    (trace.callers f).count i = ((trace.own i).filterMap f).length := by
  induction trace with
  | nil => rfl
  | cons e trace ih =>
    obtain ⟨j, e⟩ := e
    unfold callers at ih ⊢
    by_cases hj : j = i
    · subst hj
      rw [own_cons_self]
      cases h : f e <;> simp [h, ih]
    · rw [own_cons_of_ne hj]
      cases h : f e <;> simp [h, ih, List.count_cons_of_ne hj]

/-- There are no more calls of a kind than requests, if no request makes two of them. -/
theorem Run.calls_le (run : Run program requests start trace w) (f : Event → Option α)
    (once : ∀ i, ((trace.own i).filterMap f).length ≤ 1) :
    (trace.calls.filterMap f).length ≤ requests.length := by
  have nodup : (trace.callers f).Nodup :=
    List.nodup_iff_count_le_one.2 fun i => (Trace.count_callers f i trace).symm ▸ once i
  have known : trace.callers f ⊆ List.range requests.length := by
    intro i hi
    obtain ⟨⟨j, e⟩, he, called⟩ := List.mem_filterMap.1 hi
    obtain ⟨_, _, rfl⟩ := Option.map_eq_some_iff.1 called
    obtain ⟨_, _, _, _, upto⟩ := run.occurred he
    obtain ⟨_, _, _, _, request, _⟩ := upto.last
    exact List.mem_range.2 (List.getElem?_eq_some_iff.1 request).1
  have few := (nodup.subperm known).length_le
  rwa [Trace.length_callers, List.length_range] at few

end Count

/-! ## Numbers that are given out -/

theorem Id.toInt_succ {entity : Entity} {id : Id entity} (few : id.value.toInt + 1 < Id.limit) :
    id.succ.value.toInt = id.value.toInt + 1 := by
  have lower := Int64.le_toInt id.value
  unfold Id.limit at few
  show (id.value + 1).toInt = _
  rw [Int64.toInt_add, Int64.toInt_one]
  exact Int.bmod_eq_of_le (by omega) (by omega)

/-- A request makes one item and stores one lesson at most. -/
theorem LessonRequest.records_le {room : LessonId → String} {r : LessonRequest} {log : Log} {q}
    (h : (r.program room).After log q) (faithful : ∀ e ∈ log, e.Faithful) :
    log.made.length ≤ 1 ∧ log.stored.length ≤ 1 := by
  refine h.invariant (I := fun log => log.made.length ≤ 1 ∧ log.stored.length ≤ 1)
    (r.meets_recordTerms room) faithful ⟨Nat.zero_le 1, Nat.zero_le 1⟩ ?_
  rintro log ⟨c, reply⟩ ⟨made, stored⟩ allowed -
  cases c with
  | insertItem machine state =>
    obtain ⟨_, _, _, ⟨_, underway⟩, _⟩ := allowed
    rw [Log.stored_cons_of_none rfl]
    cases reply with
    | error f =>
      rw [Log.made_cons_of_none rfl]
      exact ⟨made, stored⟩
    | ok item =>
      rw [Log.made_cons_of_some rfl, underway.made_eq]
      exact ⟨Nat.le_refl 1, stored⟩
  | insertLesson draft =>
    obtain ⟨_, _, _, underway, _⟩ := allowed
    rw [Log.made_cons_of_none rfl]
    cases reply with
    | error f =>
      rw [Log.stored_cons_of_none rfl]
      exact ⟨made, stored⟩
    | ok l =>
      rw [Log.stored_cons_of_some rfl, underway.stored_eq]
      exact ⟨made, Nat.le_refl 1⟩
  | _ =>
    rw [Log.made_cons_of_none rfl, Log.stored_cons_of_none rfl]
    exact ⟨made, stored⟩

section Records

variable {room : LessonId → String} {requests : List LessonRequest} {start w : World}
  {trace : Trace} {i : Nat}

theorem Run.own_records_le (run : Run (LessonRequest.program room) requests start trace w)
    (i : Nat) : (trace.own i).made.length ≤ 1 ∧ (trace.own i).stored.length ≤ 1 := by
  cases request : requests[i]? with
  | some r =>
    obtain ⟨_, after⟩ := run.after request
    exact LessonRequest.records_le after fun e he => (run.own_honest i e he).faithful
  | none =>
    have silent : trace.own i = [] := by
      refine List.eq_nil_iff_forall_not_mem.2 fun e he => ?_
      obtain ⟨_, _, _, _, upto⟩ := run.occurred (Trace.mem_own.1 he)
      obtain ⟨_, _, _, _, known, _⟩ := upto.last
      exact nomatch request.symm.trans known
    rw [silent]
    exact ⟨Nat.zero_le 1, Nat.zero_le 1⟩

/-- There are no more new items and lessons than requests. -/
theorem Run.records_le (run : Run (LessonRequest.program room) requests start trace w) :
    trace.calls.made.length ≤ requests.length ∧ trace.calls.stored.length ≤ requests.length := by
  constructor
  · exact run.calls_le _ fun i => (run.own_records_le i).1
  · exact run.calls_le _ fun i => (run.own_records_le i).2

end Records

/-! ## Worlds in order -/

/-- No two lessons have the same item, and the numbers of lessons and of their items have been given
out before. -/
structure World.Orderly (w : World) : Prop where
  distinct : ∀ k l k' l', w.lessons.get? k = some l → w.lessons.get? k' = some l' →
    l.item = l'.item → k = k'
  item_lt : ∀ k l, w.lessons.get? k = some l → l.item.value < w.nextItem.value
  lesson_lt : ∀ k l, w.lessons.get? k = some l → k.value < w.nextLesson.value

theorem Numbered.lt {entity : Entity} {given : List (Id entity)} {next id : Id entity}
    (h : Numbered given next) (few : given.length + 1 < Id.limit) (hid : id ∈ given) :
    id.value < next.value := by
  obtain ⟨n, below, rfl⟩ := h.given_eq id hid
  rw [h.next_eq, Int64.lt_iff_toInt_lt]
  unfold Id.limit at few
  show (Int64.ofInt _).toInt < (Int64.ofInt _).toInt
  rw [Int64.toInt_ofInt_of_le (by omega) (by omega), Int64.toInt_ofInt_of_le (by omega) (by omega)]
  omega

/-- Requests keep a world in order that has no lessons to begin with. -/
theorem Run.orderly {room : LessonId → String} {requests : List LessonRequest} {d : Directory}
    {slots : Table SlotId Slot} {catalog : Catalog} {trace : Trace} {w : World}
    (run : Run (LessonRequest.program room) requests (.start d slots catalog) trace w)
    (few : requests.length + 1 < Id.limit) : w.Orderly := by
  obtain ⟨made, stored⟩ := run.records_le
  have owns := run.ownership (by omega) (by omega)
  refine ⟨fun k l k' l' there there' same => ?_, fun k l there => ?_, fun k l there => ?_⟩
  · obtain ⟨rfl, i, hl⟩ := (owns.stored_iff k l).1 there
    obtain ⟨rfl, i', hl'⟩ := (owns.stored_iff k' l').1 there'
    rw [owns.stored_unique hl hl' same]
  · obtain ⟨-, i, hl⟩ := (owns.stored_iff k l).1 there
    have own := (owns.tidy i).kept_made _ (owns.stored_item hl)
    exact owns.items.lt (by omega) (Trace.mem_made_of_own own)
  · obtain ⟨rfl, i, hl⟩ := (owns.stored_iff k l).1 there
    refine owns.lessons.lt ?_ (List.mem_map_of_mem (Trace.mem_stored_of_own hl))
    rw [List.length_map]
    omega

theorem World.sample_orderly : World.sample.Orderly := by
  have only (k l) (there : World.sample.lessons.get? k = some l) :
      k = .ofInt 1 ∧ l.item = .ofInt 1 := by
    have there : (Table.empty.insert (.ofInt 1) _).get? k = some l := there
    rw [Table.get?_insert] at there
    split at there
    · obtain rfl := Option.some.inj there
      exact ⟨‹_›, rfl⟩
    · cases there
  refine ⟨fun k l k' l' there there' _ => ?_, fun k l there => ?_, fun k l there => ?_⟩
  · rw [(only k l there).1, (only k' l' there').1]
  · rw [(only k l there).2]
    decide
  · rw [(only k l there).1]
    decide

end Tutoring
