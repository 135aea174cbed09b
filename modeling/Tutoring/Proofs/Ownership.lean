import Tutoring.Proofs.Compensation
import Tutoring.Proofs.Provision

/-!
# Lessons and their items

From empty stores of lessons and items, every lesson that bookings store has an item of its own, and
when all requests have come to an end, there is no other item.

* `Log.Tidy`: what holds of the log of every single request. It stores one lesson at most, for the
  item that it keeps, and it never asks for the removal of an item that it has stored a lesson for.
* `Numbered`: numbers are given out one after the other, so the next one is new.
* `Ownership`: the items in the store are those that requests keep, the lessons are those that they
  have stored, and no item is made by two requests. Every call keeps this (`Ownership.step`).
* `lessons_own_items`: what follows for lessons and items.
-/

namespace Tutoring

/-! ## The log of one request -/

/-- A lesson is stored as it was drafted. -/
def Event.Faithful : Event → Prop
  | ⟨.insertLesson draft, .ok l⟩ => l.toLessonDraft = draft
  | _ => True

theorem World.Honest.faithful {d : Directory} {k : Catalog} {e : Event} (h : World.Honest d k e) :
    e.Faithful := by
  obtain ⟨w, w', -, -, reacts⟩ := h
  have effect : w.Effect e w' := reacts.effect
  cases effect with
  | addLesson draft => rfl
  | idle idle =>
    obtain ⟨c, r⟩ := e
    cases c with
    | insertLesson draft =>
      cases r with
      | error f => trivial
      | ok l => cases idle
    | _ => trivial
  | _ => trivial

theorem Event.unremoved_of_forward {e : Event} (h : e.call.removes? = none) :
    e.removed? = none := by
  obtain ⟨c, r⟩ := e
  cases c with
  | deleteItem => cases h
  | _ => rfl

namespace LessonRequest

/-- Items and lessons are the business of bookings. -/
def recordTerms (r : LessonRequest) : Contract where
  rely := Event.Faithful
  guar log
    | .insertItem machine state => ∃ now b, r = .book now b ∧
      (b.terms Event.Faithful).guar log (.insertItem machine state)
    | .insertLesson draft => ∃ now b, r = .book now b ∧
      (b.terms Event.Faithful).guar log (.insertLesson draft)
    | .deleteItem id => ∃ now b, r = .book now b ∧
      (b.terms Event.Faithful).guar log (.deleteItem id)
    | _ => True

theorem meets_recordTerms (room : LessonId → String) (r : LessonRequest) :
    (r.program room).Meets r.recordTerms (fun _ _ => True) [] := by
  cases r with
  | book now b =>
    refine (bookLesson_compensates Event.Faithful now b).calls (fun _ h => h) fun log c hc => ?_
    cases c with
    | insertItem | insertLesson | deleteItem => exact ⟨now, b, rfl, hc⟩
    | _ => trivial
  | get user lesson =>
    refine (getLesson_meets Event.Faithful user lesson).calls (fun _ h => h) fun log c hc => ?_
    cases c with
    | insertItem | insertLesson | deleteItem => exact hc.elim
    | _ => trivial
  | join user lesson =>
    refine (joinLesson_meets Event.Faithful room user lesson).calls (fun _ h => h)
      fun log c hc => ?_
    cases c with
    | insertItem | insertLesson | deleteItem => exact hc.elim
    | _ => trivial
  | move user lesson name =>
    refine (moveLesson_meets Event.Faithful room user lesson name).calls (fun _ h => h)
      fun log c hc => ?_
    cases c with
    | insertItem | insertLesson | deleteItem => exact hc.elim
    | _ => trivial

end LessonRequest

/-- What holds of the log of every request. -/
structure Log.Tidy (log : Log) : Prop where
  kept_made : ∀ id, log.kept = some id → id ∈ log.made
  stored : ∀ l ∈ log.stored, log.stored = [l] ∧ log.kept = some l.item ∧ log.removals = []
  removed : ∀ id ∈ log.removals, id ∈ log.made
  parties : ∀ l ∈ log.stored, ∃ key t, ⟨.findTeacher key, .ok (some t)⟩ ∈ log ∧ t.id = l.teacher ∧
    t.user ≠ l.student

namespace Log.Tidy

variable {log : Log} {e : Event}

theorem nil : Tidy [] :=
  ⟨nofun, fun _ h => (nomatch h), fun _ h => (nomatch h), fun _ h => nomatch h⟩

/-- A call that neither makes nor removes an item and stores no lesson. -/
theorem other (h : Tidy log) (made : e.made? = none) (stored : e.stored? = none)
    (removes : e.call.removes? = none) : Tidy (e :: log) := by
  have removed := Event.unremoved_of_forward removes
  refine ⟨?_, ?_, ?_, ?_⟩
  · rw [kept_cons_of_none made removed, made_cons_of_none made]
    exact h.kept_made
  · rw [stored_cons_of_none stored, kept_cons_of_none made removed, removals_cons_of_none removes]
    exact h.stored
  · rw [removals_cons_of_none removes, made_cons_of_none made]
    exact h.removed
  · rw [stored_cons_of_none stored]
    intro l hl
    obtain ⟨key, t, found, rest⟩ := h.parties l hl
    exact ⟨key, t, List.mem_cons_of_mem e found, rest⟩

theorem make {machine : MachineId} {state : StateId} {item : Item} (stored : log.stored = [])
    (removals : log.removals = []) : Tidy (⟨.insertItem machine state, .ok item⟩ :: log) := by
  have unstored : Log.stored (⟨.insertItem machine state, .ok item⟩ :: log) = [] :=
    (stored_cons_of_none rfl).trans stored
  have unremoved : Log.removals (⟨.insertItem machine state, .ok item⟩ :: log) = [] :=
    (removals_cons_of_none rfl).trans removals
  refine ⟨fun id kept => ?_, fun l hl => ?_, fun id hid => ?_, fun l hl => ?_⟩
  · have latest : Log.kept (⟨.insertItem machine state, .ok item⟩ :: log) = some item.id :=
      kept_cons_of_made rfl
    obtain rfl := Option.some.inj (latest.symm.trans kept)
    exact List.mem_cons_self
  · rw [unstored] at hl
    cases hl
  · rw [unremoved] at hid
    cases hid
  · rw [unstored] at hl
    cases hl

theorem store {draft : LessonDraft} {l : Lesson} {key : TeacherId} {t : Teacher} (h : Tidy log)
    (drafted : l.toLessonDraft = draft) (stored : log.stored = [])
    (kept : log.kept = some draft.item) (removals : log.removals = [])
    (found : ⟨.findTeacher key, .ok (some t)⟩ ∈ log) (teacher : t.id = draft.teacher)
    (other : t.user ≠ draft.student) : Tidy (⟨.insertLesson draft, .ok l⟩ :: log) := by
  subst drafted
  have once : Log.stored (⟨.insertLesson l.toLessonDraft, .ok l⟩ :: log) = [l] :=
    congrArg (l :: ·) stored
  refine ⟨?_, fun l' hl => ?_, ?_, fun l' hl => ?_⟩
  · rw [kept_cons_of_none rfl rfl, made_cons_of_none rfl]
    exact h.kept_made
  · rw [once] at hl
    obtain rfl := List.mem_singleton.1 hl
    refine ⟨once, ?_, ?_⟩
    · rw [kept_cons_of_none rfl rfl, kept]
    · rw [removals_cons_of_none rfl, removals]
  · rw [removals_cons_of_none rfl, made_cons_of_none rfl]
    exact h.removed
  · rw [once] at hl
    obtain rfl := List.mem_singleton.1 hl
    exact ⟨key, t, List.mem_cons_of_mem _ found, teacher, other⟩

theorem remove {id : ItemId} {r : (Call.deleteItem id).Reply} (h : Tidy log)
    (made : id ∈ log.made) (stored : log.stored = []) : Tidy (⟨.deleteItem id, r⟩ :: log) := by
  have unstored : Log.stored (⟨.deleteItem id, r⟩ :: log) = [] :=
    (stored_cons_of_none rfl).trans stored
  have same : Log.made (⟨.deleteItem id, r⟩ :: log) = log.made := made_cons_of_none rfl
  refine ⟨fun i kept => ?_, fun l hl => ?_, fun i hi => ?_, fun l hl => ?_⟩
  · rw [same]
    refine h.kept_made i ?_
    unfold Log.kept at kept
    dsimp only [Event.made?] at kept
    split at kept
    · cases kept
    · exact kept
  · rw [unstored] at hl
    cases hl
  · rw [same]
    rcases List.mem_cons.1 (show i ∈ id :: log.removals from hi) with rfl | hi
    · exact made
    · exact h.removed i hi
  · rw [unstored] at hl
    cases hl

theorem step {r : LessonRequest} (h : Tidy log) (allowed : r.recordTerms.guar log e.call)
    (faithful : e.Faithful) : Tidy (e :: log) := by
  obtain ⟨c, reply⟩ := e
  cases c with
  | insertItem machine state =>
    obtain ⟨_, _, _, ⟨_, held⟩, _⟩ := allowed
    cases reply with
    | error f => exact h.other rfl rfl rfl
    | ok item => exact make held.stored_eq held.removals_eq
  | insertLesson draft =>
    obtain ⟨_, b, _, held, student, t, found, teacher, other⟩ := allowed
    cases reply with
    | error f => exact h.other rfl rfl rfl
    | ok l =>
      rw [← student] at other
      exact h.store faithful held.stored_eq held.kept_eq held.removals_eq found teacher other
  | deleteItem id =>
    obtain ⟨_, _, _, kept, _, stored, _⟩ := allowed
    exact h.remove (h.kept_made id kept) stored
  | _ => exact h.other rfl rfl rfl

end Log.Tidy

/-! ## Numbers -/

/-- The numbers from 1 on have been given out in their order. -/
structure Numbered {entity : Entity} (given : List (Id entity)) (next : Id entity) : Prop where
  next_eq : next = .ofInt ((given.length + 1 : Nat) : Int)
  given_eq : ∀ id ∈ given, ∃ n, n < given.length ∧ id = .ofInt ((n + 1 : Nat) : Int)

namespace Numbered

variable {entity : Entity} {given : List (Id entity)} {next : Id entity}

theorem start : Numbered [] (.ofInt 1 : Id entity) := ⟨rfl, nofun⟩

theorem fresh (h : Numbered given next) (few : given.length + 1 < Id.limit) : next ∉ given := by
  intro hm
  obtain ⟨n, below, heq⟩ := h.given_eq next hm
  rw [h.next_eq] at heq
  have same := Id.ofInt_injective few (by omega) heq
  omega

theorem give (h : Numbered given next) : Numbered (next :: given) next.succ := by
  constructor
  · rw [h.next_eq]
    unfold Id.succ Id.ofInt
    rw [List.length_cons, Int.natCast_add (given.length + 1) 1, Int64.ofInt_add]
    rfl
  · intro id hid
    rw [List.length_cons]
    rcases List.mem_cons.1 hid with rfl | hid
    · exact ⟨given.length, Nat.lt_succ_self _, h.next_eq⟩
    · obtain ⟨n, below, heq⟩ := h.given_eq id hid
      exact ⟨n, Nat.lt_succ_of_lt below, heq⟩

end Numbered

/-! ## The items and lessons of all requests -/

/-- The calls of all requests. -/
def Trace.calls (trace : Trace) : Log := trace.map (·.2)

namespace Trace

variable {i j : Nat} {e : Event} {trace : Trace} {α : Type}

theorem mem_calls_of_own (h : e ∈ trace.own i) : e ∈ trace.calls :=
  List.mem_map.2 ⟨(i, e), mem_own.1 h, rfl⟩

theorem mem_made_of_own {id : ItemId} (h : id ∈ (trace.own i).made) : id ∈ trace.calls.made := by
  obtain ⟨e, he, hid⟩ := List.mem_filterMap.1 h
  exact List.mem_filterMap.2 ⟨e, mem_calls_of_own he, hid⟩

theorem mem_stored_of_own {l : Lesson} (h : l ∈ (trace.own i).stored) : l ∈ trace.calls.stored := by
  obtain ⟨e, he, hl⟩ := List.mem_filterMap.1 h
  exact List.mem_filterMap.2 ⟨e, mem_calls_of_own he, hl⟩

/-- What a call does not touch in any log, it does not touch in those of the requests. -/
theorem own_cons_congr {f : Log → α} (h : ∀ log, f (e :: log) = f log) (j : Nat) :
    f (own j ((i, e) :: trace)) = f (own j trace) := by
  by_cases hj : i = j
  · subst hj
    rw [own_cons_self, h]
  · rw [own_cons_of_ne hj]

theorem kept_own_cons (made : e.made? = none) (removed : e.removed? = none) (j : Nat) :
    (own j ((i, e) :: trace)).kept = (own j trace).kept :=
  own_cons_congr (fun _ => Log.kept_cons_of_none made removed) j

theorem made_own_cons (made : e.made? = none) (j : Nat) :
    (own j ((i, e) :: trace)).made = (own j trace).made :=
  own_cons_congr (fun _ => Log.made_cons_of_none made) j

theorem stored_own_cons (stored : e.stored? = none) (j : Nat) :
    (own j ((i, e) :: trace)).stored = (own j trace).stored :=
  own_cons_congr (fun _ => Log.stored_cons_of_none stored) j

end Trace

/-- Who owns what: the items in the store are those that requests keep, the lessons are those that
they have stored. -/
structure Ownership (trace : Trace) (w : World) : Prop where
  tidy : ∀ i, (trace.own i).Tidy
  items : Numbered trace.calls.made w.nextItem
  lessons : Numbered (trace.calls.stored.map (·.id)) w.nextLesson
  live : ∀ i id, (trace.own i).kept = some id → ∃ item m, w.items.get? id = some item ∧
    w.catalog.machineNamed? .lesson = some m ∧ item.machine = m.id
  owned : ∀ id item, w.items.get? id = some item → ∃ i, (trace.own i).kept = some id
  maker : ∀ i j id, id ∈ (trace.own i).made → id ∈ (trace.own j).made → i = j
  stored_iff : ∀ k l, w.lessons.get? k = some l ↔ l.id = k ∧ ∃ i, l ∈ (trace.own i).stored

namespace Ownership

variable {trace : Trace} {w w' : World} {i : Nat} {e : Event} {r : LessonRequest}

theorem start {directory : Directory} {slots : Table SlotId Slot} {catalog : Catalog} :
    Ownership [] (.start directory slots catalog) where
  tidy _ := .nil
  items := .start
  lessons := .start
  live _ _ h := nomatch h
  owned _ _ h := nomatch h
  maker _ _ _ h := nomatch h
  stored_iff _ _ := ⟨fun h => (nomatch h), fun ⟨_, _, h⟩ => nomatch h⟩

theorem tidy_cons (h : Ownership trace w) (allowed : r.recordTerms.guar (trace.own i) e.call)
    (faithful : e.Faithful) (j : Nat) : (Trace.own j ((i, e) :: trace)).Tidy := by
  by_cases hj : i = j
  · subst hj
    rw [Trace.own_cons_self]
    exact (h.tidy i).step allowed faithful
  · rw [Trace.own_cons_of_ne hj]
    exact h.tidy j

/-- A call that neither makes nor removes an item and stores no lesson; it may move an item. -/
theorem frame (h : Ownership trace w) (tidy : ∀ j, (Trace.own j ((i, e) :: trace)).Tidy)
    (made : e.made? = none) (stored : e.stored? = none) (removed : e.removed? = none)
    (nextItem : w'.nextItem = w.nextItem) (nextLesson : w'.nextLesson = w.nextLesson)
    (catalog : w'.catalog = w.catalog) (lessons : w'.lessons = w.lessons)
    (kept : ∀ id item, w.items.get? id = some item →
      ∃ item', w'.items.get? id = some item' ∧ item'.machine = item.machine)
    (known : ∀ id item', w'.items.get? id = some item' → ∃ item, w.items.get? id = some item) :
    Ownership ((i, e) :: trace) w' := by
  refine ⟨tidy, ?_, ?_, fun j id hk => ?_, fun id item found => ?_, fun j j' id hj hj' => ?_,
    fun k l => ?_⟩
  · show Numbered (Log.made (e :: trace.calls)) _
    rw [Log.made_cons_of_none made, nextItem]
    exact h.items
  · show Numbered (List.map _ (Log.stored (e :: trace.calls))) _
    rw [Log.stored_cons_of_none stored, nextLesson]
    exact h.lessons
  · rw [Trace.kept_own_cons made removed] at hk
    obtain ⟨item, m, found, named, machine⟩ := h.live j id hk
    obtain ⟨item', found', same⟩ := kept id item found
    rw [catalog]
    exact ⟨item', m, found', named, same.trans machine⟩
  · obtain ⟨item₀, found₀⟩ := known id item found
    obtain ⟨j, hk⟩ := h.owned id item₀ found₀
    exact ⟨j, (Trace.kept_own_cons made removed j).trans hk⟩
  · rw [Trace.made_own_cons made] at hj hj'
    exact h.maker j j' id hj hj'
  · simp only [lessons, Trace.stored_own_cons stored]
    exact h.stored_iff k l

/-- A new item is under a number that no request has been given before. -/
theorem addItem (h : Ownership trace w) {m : Machine} {state : StateId}
    (tidy : ∀ j, (Trace.own j ((i, ⟨.insertItem m.id state, .ok ⟨w.nextItem, m.id, state⟩⟩) ::
      trace)).Tidy)
    (unmade : (trace.own i).made = []) (named : w.catalog.machineNamed? .lesson = some m)
    (few : trace.calls.made.length + 1 < Id.limit) :
    Ownership ((i, ⟨.insertItem m.id state, .ok ⟨w.nextItem, m.id, state⟩⟩) :: trace)
      (w.addItem m.id state).2 := by
  generalize he : (⟨.insertItem m.id state, .ok ⟨w.nextItem, m.id, state⟩⟩ : Event) = e at tidy ⊢
  have makes : e.made? = some ⟨w.nextItem, m.id, state⟩ := by
    rw [← he]
    rfl
  have unstored : e.stored? = none := by
    rw [← he]
    rfl
  have unused (j : Nat) : w.nextItem ∉ (trace.own j).made := fun hm =>
    h.items.fresh few (Trace.mem_made_of_own hm)
  have kept_self : (Trace.own i ((i, e) :: trace)).kept = some w.nextItem := by
    rw [Trace.own_cons_self, Log.kept_cons_of_made makes]
  have made_cases (j : Nat) (id : ItemId) (hid : id ∈ (Trace.own j ((i, e) :: trace)).made) :
      (i = j ∧ id = w.nextItem) ∨ id ∈ (trace.own j).made := by
    by_cases hj : i = j
    · subst hj
      rw [Trace.own_cons_self, Log.made_cons_of_some makes, unmade] at hid
      exact .inl ⟨rfl, List.mem_singleton.1 hid⟩
    · rw [Trace.own_cons_of_ne hj] at hid
      exact .inr hid
  have items (id : ItemId) : (w.addItem m.id state).2.items.get? id =
      if id = w.nextItem then some ⟨w.nextItem, m.id, state⟩ else w.items.get? id :=
    Table.get?_insert _ _ _ _
  refine ⟨tidy, ?_, ?_, fun j id hk => ?_, fun id item found => ?_, fun j j' id hj hj' => ?_,
    fun k l => ?_⟩
  · show Numbered (Log.made (e :: trace.calls)) _
    rw [Log.made_cons_of_some makes]
    exact h.items.give
  · show Numbered (List.map _ (Log.stored (e :: trace.calls))) _
    rw [Log.stored_cons_of_none unstored]
    exact h.lessons
  · by_cases hj : i = j
    · subst hj
      obtain rfl := Option.some.inj (kept_self.symm.trans hk)
      exact ⟨_, m, (items _).trans (if_pos rfl), named, rfl⟩
    -- What another request keeps it has made, so it goes by another number.
    · rw [Trace.own_cons_of_ne hj] at hk
      have other : id ≠ w.nextItem := by
        rintro rfl
        exact unused j ((h.tidy j).kept_made _ hk)
      obtain ⟨item, m', found, named', machine⟩ := h.live j id hk
      exact ⟨item, m', (items id).trans ((if_neg other).trans found), named', machine⟩
  · rw [items] at found
    split at found
    · rename_i hid
      exact ⟨i, hid ▸ kept_self⟩
    · obtain ⟨j, hk⟩ := h.owned id item found
      -- The request itself has kept nothing so far.
      have hj : i ≠ j := by
        rintro rfl
        rw [Log.kept_of_unmade unmade] at hk
        cases hk
      exact ⟨j, (congrArg Log.kept (Trace.own_cons_of_ne hj)).trans hk⟩
  · rcases made_cases j id hj with ⟨rfl, rfl⟩ | old
    · rcases made_cases j' _ hj' with ⟨rfl, -⟩ | old'
      · rfl
      · exact absurd old' (unused j')
    · rcases made_cases j' id hj' with ⟨rfl, rfl⟩ | old'
      · exact absurd old (unused j)
      · exact h.maker j j' id old old'
  · simp only [Trace.stored_own_cons unstored]
    exact h.stored_iff k l

theorem removeItem (h : Ownership trace w) {id : ItemId}
    (tidy : ∀ j, (Trace.own j ((i, ⟨.deleteItem id, .ok ()⟩) :: trace)).Tidy)
    (kept : (trace.own i).kept = some id) :
    Ownership ((i, ⟨.deleteItem id, .ok ()⟩) :: trace) (w.removeItem id) := by
  have unkept : (Trace.own i ((i, ⟨.deleteItem id, .ok ()⟩) :: trace)).kept = none := by
    rw [Trace.own_cons_self, Log.kept_cons_of_removed rfl kept rfl]
  have items (id' : ItemId) : (w.removeItem id).items.get? id' =
      if id' = id then none else w.items.get? id' := Table.get?_erase _ _ _
  refine ⟨tidy, h.items, h.lessons, fun j id' hk => ?_, fun id' item found => ?_,
    fun j j' id' hj hj' => ?_, fun k l => ?_⟩
  · have hj : i ≠ j := by
      rintro rfl
      exact nomatch unkept.symm.trans hk
    rw [Trace.own_cons_of_ne hj] at hk
    -- Another request would have made the item as well.
    have other : id' ≠ id := by
      rintro rfl
      exact hj (h.maker i j _ ((h.tidy i).kept_made _ kept) ((h.tidy j).kept_made _ hk))
    obtain ⟨item, m, found, rest⟩ := h.live j id' hk
    exact ⟨item, m, (items id').trans ((if_neg other).trans found), rest⟩
  · rw [items] at found
    split at found
    · cases found
    · rename_i other
      obtain ⟨j, hk⟩ := h.owned id' item found
      have hj : i ≠ j := by
        rintro rfl
        exact other (Option.some.inj (hk.symm.trans kept))
      exact ⟨j, (congrArg Log.kept (Trace.own_cons_of_ne hj)).trans hk⟩
  · rw [Trace.made_own_cons rfl] at hj hj'
    exact h.maker j j' id' hj hj'
  · simp only [Trace.stored_own_cons (e := ⟨.deleteItem id, .ok ()⟩) rfl]
    exact h.stored_iff k l

theorem addLesson (h : Ownership trace w) {draft : LessonDraft}
    (tidy : ∀ j, (Trace.own j
      ((i, ⟨.insertLesson draft, .ok (draft.numbered w.nextLesson)⟩) :: trace)).Tidy)
    (few : trace.calls.stored.length + 1 < Id.limit) :
    Ownership ((i, ⟨.insertLesson draft, .ok (draft.numbered w.nextLesson)⟩) :: trace)
      (w.addLesson draft).2 := by
  generalize he : (⟨.insertLesson draft, .ok (draft.numbered w.nextLesson)⟩ : Event) = e
    at tidy ⊢
  generalize hl₀ : draft.numbered w.nextLesson = l₀ at he
  have number : l₀.id = w.nextLesson := by
    rw [← hl₀]
    rfl
  have stores : e.stored? = some l₀ := by
    rw [← he]
    rfl
  have unmade : e.made? = none := by
    rw [← he]
    rfl
  have unremoved : e.removed? = none := by
    rw [← he]
    rfl
  have stored_cases (j : Nat) (l : Lesson) : l ∈ (Trace.own j ((i, e) :: trace)).stored ↔
      (i = j ∧ l = l₀) ∨ l ∈ (trace.own j).stored := by
    by_cases hj : i = j
    · subst hj
      rw [Trace.own_cons_self, Log.stored_cons_of_some stores, List.mem_cons]
      simp
    · rw [Trace.own_cons_of_ne hj]
      simp [hj]
  have lessons (k : LessonId) : (w.addLesson draft).2.lessons.get? k =
      if k = w.nextLesson then some l₀ else w.lessons.get? k := by
    rw [← number, ← hl₀]
    exact Table.get?_insert _ _ _ _
  refine ⟨tidy, ?_, ?_, fun j id hk => ?_, fun id item found => ?_, fun j j' id hj hj' => ?_,
    fun k l => ?_⟩
  · show Numbered (Log.made (e :: trace.calls)) _
    rw [Log.made_cons_of_none unmade]
    exact h.items
  · show Numbered (List.map _ (Log.stored (e :: trace.calls))) _
    rw [Log.stored_cons_of_some stores, List.map_cons, number]
    exact h.lessons.give
  · rw [Trace.kept_own_cons unmade unremoved] at hk
    exact h.live j id hk
  · obtain ⟨j, hk⟩ := h.owned id item found
    exact ⟨j, (Trace.kept_own_cons unmade unremoved j).trans hk⟩
  · rw [Trace.made_own_cons unmade] at hj hj'
    exact h.maker j j' id hj hj'
  · have fresh : w.nextLesson ∉ trace.calls.stored.map (·.id) :=
      h.lessons.fresh (by rwa [List.length_map])
    have old (j : Nat) (hl : l ∈ (trace.own j).stored) : l.id ≠ w.nextLesson := fun heq =>
      fresh (heq ▸ List.mem_map_of_mem (Trace.mem_stored_of_own hl))
    rw [lessons]
    constructor
    · intro found
      split at found
      · rename_i hk
        obtain rfl := Option.some.inj found
        exact ⟨number.trans hk.symm, i, (stored_cases i l₀).2 (.inl ⟨rfl, rfl⟩)⟩
      · obtain ⟨hk, j, hl⟩ := (h.stored_iff k l).1 found
        exact ⟨hk, j, (stored_cases j l).2 (.inr hl)⟩
    · rintro ⟨rfl, j, hl⟩
      rcases (stored_cases j l).1 hl with ⟨-, rfl⟩ | hl
      · rw [if_pos number]
      · rw [if_neg (old j hl)]
        exact (h.stored_iff _ l).2 ⟨rfl, j, hl⟩

/-- Every call of a request keeps the order of ownership. -/
theorem step {d : Directory} (h : Ownership trace w)
    (allowed : r.recordTerms.guar (trace.own i) e.call)
    (honest : ∀ e ∈ trace.own i, World.Honest d w.catalog e) (faithful : e.Faithful)
    (effect : w.Effect e w')
    (items : (Trace.calls ((i, e) :: trace)).made.length < Id.limit)
    (lessons : (Trace.calls ((i, e) :: trace)).stored.length < Id.limit) :
    Ownership ((i, e) :: trace) w' := by
  have tidy := h.tidy_cons allowed faithful
  cases effect with
  | addLesson draft => exact h.addLesson tidy lessons
  | addItem machine state =>
    obtain ⟨_, _, rfl, ⟨_, held⟩, m, hm, rfl⟩ := allowed
    have named : some m = w.catalog.machineNamed? .lesson :=
      (honest _ hm).answer_eq (f := fun _ k => k.machineNamed? .lesson) fun _ _ => rfl
    exact h.addItem tidy held.made_eq named.symm items
  | removeItem id =>
    obtain ⟨_, _, rfl, kept, _⟩ := allowed
    exact h.removeItem tidy kept
  | @move id item next found edge =>
    refine h.frame tidy rfl rfl rfl rfl rfl rfl rfl (fun id' item' found' => ?_)
      fun id' item' found' => ?_
    · rw [Table.get?_insert]
      split
      · rename_i hid
        obtain rfl := Option.some.inj (found'.symm.trans (hid ▸ found))
        exact ⟨_, rfl, rfl⟩
      · exact ⟨item', found', rfl⟩
    · rw [Table.get?_insert] at found'
      split at found'
      · rename_i hid
        exact ⟨item, hid ▸ found⟩
      · exact ⟨item', found'⟩
  | idle idle =>
    obtain ⟨made, stored, removed⟩ := Event.unmade_of_idle idle
    exact h.frame tidy made stored removed rfl rfl rfl rfl (fun _ item found => ⟨item, found, rfl⟩)
      fun _ item found => ⟨item, found⟩
  | _ =>
    exact h.frame tidy rfl rfl rfl rfl rfl rfl rfl (fun _ item found => ⟨item, found, rfl⟩)
      fun _ item found => ⟨item, found⟩

theorem fresh (h : Ownership trace w) (few : trace.calls.made.length + 1 < Id.limit) : w.Fresh := by
  cases found : w.items.get? w.nextItem with
  | none => exact found
  | some item =>
    obtain ⟨j, kept⟩ := h.owned _ item found
    have used := Trace.mem_made_of_own ((h.tidy j).kept_made _ kept)
    exact absurd used (h.items.fresh few)

/-- A lesson has the item that its request keeps. -/
theorem stored_item (h : Ownership trace w) {j : Nat} {l : Lesson} (hl : l ∈ (trace.own j).stored) :
    (trace.own j).kept = some l.item :=
  ((h.tidy j).stored l hl).2.1

/-- Two lessons of one item are one lesson. -/
theorem stored_unique (h : Ownership trace w) {j j' : Nat} {l l' : Lesson}
    (hl : l ∈ (trace.own j).stored) (hl' : l' ∈ (trace.own j').stored) (same : l.item = l'.item) :
    l = l' := by
  have made := (h.tidy j).kept_made _ (h.stored_item hl)
  have made' := (h.tidy j').kept_made _ (h.stored_item hl')
  -- Both requests have made the item, so they are one request, which stores one lesson only.
  rw [← same] at made'
  obtain rfl := h.maker j j' _ made made'
  have once := ((h.tidy j).stored l hl).1
  rw [once] at hl'
  exact (List.mem_singleton.1 hl').symm

/-- No request asks for the removal of an item that has a lesson. -/
theorem item_of_removal (h : Ownership trace w) {j : Nat} {l : Lesson} {id : ItemId}
    (removal : id ∈ (trace.own i).removals) (hl : l ∈ (trace.own j).stored) : l.item ≠ id := by
  rintro rfl
  have made := (h.tidy j).kept_made _ (h.stored_item hl)
  obtain rfl := h.maker i j _ ((h.tidy i).removed _ removal) made
  rw [((h.tidy i).stored l hl).2.2] at removal
  cases removal

end Ownership

/-! ## What holds of every run -/

/-- Every profile is kept under its own number. -/
def Directory.TeachersKeyed (d : Directory) : Prop := ∀ k t, d.teachers.get? k = some t → t.id = k

theorem Directory.teachersKeyed_empty : Directory.empty.TeachersKeyed := fun _ _ h => nomatch h

/-- Profiles are entered under their own numbers, and nothing else that is entered matters. -/
theorem Directory.TeachersKeyed.addTeacher {d : Directory} (h : d.TeachersKeyed) (t : Teacher) :
    (d.addTeacher t).TeachersKeyed := by
  intro k t' found
  rw [Directory.addTeacher, Table.get?_insert] at found
  split at found
  · obtain rfl := Option.some.inj found
    exact Eq.symm ‹_›
  · exact h k t' found

section Run

variable {room : LessonId → String} {requests : List LessonRequest} {d : Directory}
  {slots : Table SlotId Slot} {catalog : Catalog} {trace : Trace} {w : World} {i : Nat}

/-- Who owns what, in every state that a run from empty stores may come to. -/
theorem Run.ownership
    (run : Run (LessonRequest.program room) requests (.start d slots catalog) trace w)
    (items : trace.calls.made.length < Id.limit) (lessons : trace.calls.stored.length < Id.limit) :
    Ownership trace w := by
  induction run with
  | start => exact .start
  | @step trace w w' i r c next reply before request pending reacts ih =>
    have earlier : trace.calls.Sublist (Trace.calls ((i, ⟨c, reply⟩) :: trace)) :=
      List.sublist_cons_self _ _
    have owns := ih (Nat.lt_of_le_of_lt (earlier.filterMap _).length_le items)
      (Nat.lt_of_le_of_lt (earlier.filterMap _).length_le lessons)
    have honest : ∀ e ∈ trace.own i, World.Honest d w.catalog e := by
      rw [before.catalog_eq]
      exact before.own_honest i
    have allowed : r.recordTerms.guar (trace.own i) c :=
      pending.guar (r.meets_recordTerms room) fun e he => (honest e he).faithful
    have latest : World.Honest w.directory w.catalog ⟨c, reply⟩ := ⟨w, w', rfl, rfl, reacts⟩
    exact owns.step allowed honest latest.faithful reacts.effect items lessons

/-- The number of the next item is not in use. -/
theorem Run.fresh (run : Run (LessonRequest.program room) requests (.start d slots catalog) trace w)
    (items : trace.calls.made.length + 1 < Id.limit)
    (lessons : trace.calls.stored.length < Id.limit) : w.Fresh :=
  (run.ownership (Nat.lt_of_succ_lt items) lessons).fresh items

/-- The student of a lesson is not the one who teaches it. -/
theorem Run.parties
    (run : Run (LessonRequest.program room) requests (.start d slots catalog) trace w)
    (owns : Ownership trace w) (keyed : d.TeachersKeyed) {l : Lesson}
    (hl : l ∈ (trace.own i).stored) :
    ∃ t, d.teachers.get? l.teacher = some t ∧ t.user ≠ l.student := by
  obtain ⟨key, t, found, id_eq, other⟩ := (owns.tidy i).parties l hl
  have entered : some t = d.teachers.get? key :=
    (run.own_honest i _ found).answer_eq (f := fun d _ => d.teachers.get? key) fun _ _ => rfl
  obtain rfl : t.id = key := keyed key t entered.symm
  rw [← id_eq]
  exact ⟨t, entered.symm, other⟩

end Run

/-- No request is under way: each of them has come to its end or has not begun. -/
def Trace.Quiet (trace : Trace) (room : LessonId → String) (requests : List LessonRequest) : Prop :=
  ∀ i r, requests[i]? = some r →
    trace.own i = [] ∨ ∃ result, (r.program room).After (trace.own i) (.done result)

section Quiet

variable {room : LessonId → String} {requests : List LessonRequest} {start : World} {trace : Trace}
  {w : World} {i : Nat} {id : ItemId}

theorem Trace.quiet_of_ended {r : LessonRequest} {result}
    (ended : (r.program room).After (trace.own 0) (.done result)) : trace.Quiet room [r] := by
  intro i r' request
  obtain rfl : i = 0 := by simpa using (List.getElem?_eq_some_iff.1 request).1
  obtain rfl := Option.some.inj request
  exact .inr ⟨result, ended⟩

/-- A request that keeps an item when it has come to its end has stored the lesson of the item. -/
theorem LessonRequest.stored_of_kept {r : LessonRequest} {log : Log} {result}
    (ended : (r.program room).After log (.done result)) (tidy : log.Tidy)
    (faithful : ∀ e ∈ log, e.Faithful)
    (undone : ∀ e ∈ log, e.call.undoes = true → e.failed = false) (kept : log.kept = some id) :
    ∃ l ∈ log.stored, l.item = id := by
  obtain ⟨e, he, makes⟩ := List.mem_filterMap.1 (tidy.kept_made id kept)
  obtain ⟨_, allowed⟩ := ended.allowed (r.meets_recordTerms room) faithful e he
  obtain ⟨c, reply⟩ := e
  cases c with
  | insertItem machine state =>
    obtain ⟨now, b, rfl, _⟩ := allowed
    have outcome := ended.post (bookLesson_compensates (fun _ => True) now b) fun _ _ => trivial
    cases result with
    | error error =>
      have compensated : b.Compensated log error := outcome
      exact nomatch (compensated.settled undone).2.symm.trans kept
    | ok made =>
      have stored : made.lesson ∈ log.stored := by
        rw [outcome.1]
        exact List.mem_singleton_self _
      have same := (tidy.stored _ stored).2.1.symm.trans kept
      exact ⟨made.lesson, stored, Option.some.inj same⟩
  | _ => cases makes

/-- When no request is under way and all undoing has succeeded, every item that a request keeps has
a lesson. -/
theorem Run.stored_of_kept (run : Run (LessonRequest.program room) requests start trace w)
    (tidy : (trace.own i).Tidy) (quiet : trace.Quiet room requests)
    (undone : ∀ e ∈ trace, e.2.call.undoes = true → e.2.failed = false)
    (kept : (trace.own i).kept = some id) : ∃ l ∈ (trace.own i).stored, l.item = id := by
  obtain ⟨e, he, -⟩ := List.mem_filterMap.1 (tidy.kept_made id kept)
  obtain ⟨_, _, _, _, upto⟩ := run.occurred (Trace.mem_own.1 he)
  obtain ⟨_, r, _, _, request, _⟩ := upto.last
  rcases quiet i r request with unbegun | ⟨result, ended⟩
  · rw [unbegun] at he
    cases he
  · exact LessonRequest.stored_of_kept ended tidy (fun e he => (run.own_honest i e he).faithful)
      (fun e he => undone _ (Trace.mem_own.1 he)) kept

end Quiet

/-- **Every lesson owns one item.** In every state that a run from empty stores may come to, every
lesson refers to an item of the machine of lessons, no two lessons have the same number or the same
item, nobody takes a lesson with themselves, and no removal is ever asked for of an item that a
lesson refers to. When no request is under way and no call that undoes a step has failed, every item
is the one of exactly one lesson. -/
theorem lessons_own_items {room : LessonId → String} {requests : List LessonRequest}
    {d : Directory} {slots : Table SlotId Slot} {catalog : Catalog} {trace : Trace} {w : World}
    (run : Run (LessonRequest.program room) requests (.start d slots catalog) trace w)
    (items : trace.calls.made.length < Id.limit) (lessons : trace.calls.stored.length < Id.limit) :
    (∀ k l, w.lessons.get? k = some l → l.id = k ∧
      (∃ item m, w.items.get? l.item = some item ∧ catalog.machineNamed? .lesson = some m ∧
        item.machine = m.id) ∧
      (d.TeachersKeyed → ∃ t, d.teachers.get? l.teacher = some t ∧ t.user ≠ l.student) ∧
      ∀ i id r, (i, ⟨.deleteItem id, r⟩) ∈ trace → l.item ≠ id) ∧
    (∀ k l k' l', w.lessons.get? k = some l → w.lessons.get? k' = some l' → l.item = l'.item →
      k = k') ∧
    (trace.Quiet room requests →
      (∀ e ∈ trace, e.2.call.undoes = true → e.2.failed = false) →
      ∀ id item, w.items.get? id = some item → ∃ k l, w.lessons.get? k = some l ∧ l.item = id ∧
        ∀ k' l', w.lessons.get? k' = some l' → l'.item = id → k' = k ∧ l' = l) := by
  have owns := run.ownership items lessons
  have same_item (k l k' l') (found : w.lessons.get? k = some l)
      (found' : w.lessons.get? k' = some l') (same : l.item = l'.item) : l = l' := by
    obtain ⟨_, i, hl⟩ := (owns.stored_iff k l).1 found
    obtain ⟨_, i', hl'⟩ := (owns.stored_iff k' l').1 found'
    exact owns.stored_unique hl hl' same
  have number (k l) (found : w.lessons.get? k = some l) : l.id = k :=
    ((owns.stored_iff k l).1 found).1
  refine ⟨fun k l found => ?_, fun k l k' l' found found' same => ?_,
    fun quiet undone id item there => ?_⟩
  · obtain ⟨id_eq, i, hl⟩ := (owns.stored_iff k l).1 found
    obtain ⟨item, m, there, named, machine⟩ := owns.live i _ (owns.stored_item hl)
    rw [run.catalog_eq] at named
    refine ⟨id_eq, ⟨item, m, there, named, machine⟩, fun keyed => run.parties owns keyed hl, ?_⟩
    intro j id r removal
    refine owns.item_of_removal (i := j) (List.mem_filterMap.2 ⟨_, Trace.mem_own.2 removal, ?_⟩) hl
    rfl
  · rw [← number k l found, ← number k' l' found', same_item k l k' l' found found' same]
  · obtain ⟨i, kept⟩ := owns.owned id item there
    obtain ⟨l, hl, rfl⟩ := run.stored_of_kept (owns.tidy i) quiet undone kept
    have found : w.lessons.get? l.id = some l := (owns.stored_iff _ l).2 ⟨rfl, i, hl⟩
    refine ⟨l.id, l, found, rfl, fun k' l' found' same => ?_⟩
    obtain rfl := same_item _ _ _ _ found' found same
    exact ⟨(number k' _ found').symm, rfl⟩

/-- A booking has been carried out: the item that it made is the one of its lesson. -/
theorem lessons_own_items_booked :
    ∃ trace w, Run (LessonRequest.program fun _ => "") [.book .epoch .sample]
        (.start World.sample.directory World.sample.slots World.sample.catalog) trace w ∧
      (∃ item, w.items.get? (.ofInt 1) = some item) ∧
      ∃ k l, w.lessons.get? k = some l ∧ l.item = .ofInt 1 ∧
        ∃ t, World.sample.directory.teachers.get? l.teacher = some t ∧ t.user ≠ l.student := by
  have none_served : Run (LessonRequest.program fun _ => "") [.book .epoch .sample]
    (.start World.sample.directory World.sample.slots World.sample.catalog) []
    (.start World.sample.directory World.sample.slots World.sample.catalog) := .start
  obtain ⟨run, after⟩ := none_served.serve (i := 0) (r := .book .epoch .sample)
    (fun _ _ => .error (.unavailable "")) 9 rfl .start
  obtain ⟨owned, -, unowned⟩ := lessons_own_items run (by decide) (by decide)
  have keyed : World.sample.directory.TeachersKeyed := Directory.teachersKeyed_empty.addTeacher _
  refine ⟨_, _, run, ⟨_, rfl⟩, ?_⟩
  have quiet := Trace.quiet_of_ended after
  obtain ⟨k, l, found, item, -⟩ := unowned quiet (by decide) (.ofInt 1) _ rfl
  exact ⟨k, l, found, item, (owned k l found).2.2.1 keyed⟩

end Tutoring
