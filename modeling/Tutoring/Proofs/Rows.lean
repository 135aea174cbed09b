import Tutoring.Proofs.Likeness
import Tutoring.Proofs.Scripts

/-!
# Answers as rows

What stores in memory answer can be written as rows of a database, and what is read back from them
is the same, but for times: a database keeps whole microseconds.

* `Timestamp.kept`: a time as a database keeps it.
* `Database.Encodes`: the outcome that stands for an answer.
* `World.Dated`: what is said of the times in a world still holds after every call.
* `Database.answer_encoded`: what is read back is like the answer.
-/

namespace Tutoring

/-! ## Times -/

namespace Timestamp

/-- The time can be kept in a database: the calendar has the time at that many whole microseconds.
It has not for a leap second at its very end. -/
def Storable (t : Timestamp) : Prop := (ofMicros? t.micros).isSome = true

/-- The time as a database keeps it, in whole microseconds. -/
def kept (t : Timestamp) : Timestamp := (ofMicros? t.micros).getD t

theorem ofMicros?_of_storable {t : Timestamp} (h : t.Storable) :
    ofMicros? t.micros = some t.kept := by
  obtain ⟨u, hu⟩ := Option.isSome_iff_exists.1 h
  rw [kept, hu]
  rfl

theorem storable_iff_bounds (t : Timestamp) :
    t.Storable ↔ least ≤ t.micros / 1000000 ∧ t.micros / 1000000 ≤ greatest := by
  have fraction : (t.micros % 1000000).toNat * 1000 < 1000000000 := by omega
  rw [Storable, Option.isSome_iff_ne_none, ofMicros?, Ne, make?_eq_none_iff fraction,
    Classical.not_not]

/-- The microseconds of a time of the calendar fit into a cell. -/
theorem toInt_micros {t : Timestamp} (h : t.Storable) :
    (Int64.ofInt t.micros).toInt = t.micros := by
  obtain ⟨lower, upper⟩ := t.storable_iff_bounds.1 h
  simp only [least, greatest] at lower upper
  exact Int64.toInt_ofInt_of_le (by omega) (by omega)

/-- All times can be kept but those of the leap second at the end of the calendar. -/
theorem storable_iff (t : Timestamp) :
    t.Storable ↔ t.seconds < greatest ∨ t.nanos < 1000000000 := by
  have lower := t.least_le
  have upper := t.le_greatest
  have fraction := t.nanos_lt
  rw [storable_iff_bounds]
  unfold micros millennium
  simp only [least, greatest] at *
  rcases Int.le_total 0 ((t.seconds - 946684800) * 1000000000 + t.nanos) with h | h
  · rw [Int.tdiv_eq_ediv_of_nonneg h]
    omega
  · obtain ⟨back, hback⟩ := Int.eq_ofNat_of_zero_le (Int.neg_nonneg.2 h)
    have cut : ((t.seconds - 946684800) * 1000000000 + t.nanos).tdiv 1000 = -((back : Int) / 1000) := by
      rw [← Int.neg_neg ((t.seconds - 946684800) * 1000000000 + t.nanos), hback, Int.neg_tdiv]
      rfl
    rw [cut]
    omega

/-- A time at a whole microsecond, outside leap seconds. -/
def Whole (t : Timestamp) : Prop := t.nanos % 1000 = 0 ∧ t.nanos < 1000000000

theorem Whole.storable {t : Timestamp} (h : t.Whole) : t.Storable := t.storable_iff.2 (.inr h.2)

/-- Whole microseconds are kept as they are. -/
theorem Whole.kept_eq {t : Timestamp} (h : t.Whole) : t.kept = t := by
  obtain ⟨whole, plain⟩ := h
  have micros_eq : t.micros = t.seconds * 1000000 + (t.nanos / 1000 : Nat) := by
    have cut : (t.seconds - millennium) * 1000000000 + t.nanos =
        1000 * ((t.seconds - millennium) * 1000000 + (t.nanos / 1000 : Nat)) := by
      omega
    rw [micros, cut, Int.mul_tdiv_cancel_left _ (by decide)]
    unfold millennium
    omega
  have seconds_eq : t.micros / 1000000 = t.seconds := by omega
  have nanos_eq : (t.micros % 1000000).toNat * 1000 = t.nanos := by omega
  have read : ofMicros? t.micros = some t := by
    rw [ofMicros?, seconds_eq, nanos_eq]
    exact t.make?_self
  rw [kept, read]
  rfl

end Timestamp

/-! ## Rows -/

namespace Database

/-- The number of a record as a cell. -/
def Cell.ofId {entity : Entity} (id : Id entity) : Cell := .int id.value

/-- A time as a cell. -/
def Cell.ofTime (t : Timestamp) : Cell := .int (.ofInt t.micros)

/-- One row, or none if nothing was found. -/
def Outcome.found {α : Type} (row : α → Row) (a : Option α) : Outcome := .rows (a.map row).toList

/-- A user as the row that is read of it. -/
def userRow (u : User) : Row := [.ofId u.id, .text u.name]

/-- A profile of a teacher as a row: its number and its user. -/
def teacherRow (t : Teacher) : Row := [.ofId t.id, .ofId t.user]

/-- A category as a row. -/
def categoryRow (c : Category) : Row := [.ofId c.id, .text c.name, .bool c.active]

/-- A skill as a row, which only tells whether it has been approved. -/
def skillRow (s : TeacherSkill) : Row := [.bool s.active]

/-- A slot as a row, with its times in microseconds. -/
def slotRow (s : Slot) : Row :=
  [.ofId s.id, .ofId s.teacher, .ofTime s.starts, .ofTime s.ends, .bool s.available]

/-- A lesson as a row, which also names its item. -/
def lessonRow (l : Lesson) : Row :=
  [.ofId l.id, .ofId l.student, .ofId l.teacher, .ofId l.category, .ofId l.slot, .ofId l.item,
    .ofTime l.createdAt]

/-- A machine as a row, with the number of its start state. -/
def machineRow (m : Machine) : Row := [.ofId m.id, .text m.name.toText, .ofId m.start]

/-- A state as a row. -/
def stateRow (s : State) : Row := [.ofId s.id, .text s.name.toText]

/-- An item as a row, joined with the name of the state that it is in. -/
def itemRow (x : Item × State) : Row :=
  [.ofId x.1.id, .ofId x.1.machine, .ofId x.1.state, .text x.2.name.toText]

/-- The outcome of the statement of a call that stands for an answer. What is missing is no row, and
a change that was made is one changed row. -/
def Encodes : (c : Call) → c.Answer → Outcome → Prop
  | .findUser _, a, o => o = .found userRow a
  | .findTeacher _, a, o | .findTeacherByUser _, a, o => o = .found teacherRow a
  | .findCategory _, a, o => o = .found categoryRow a
  | .findSkill _ _, a, o => o = .found skillRow a
  | .findSlot _, a, o => o = .found slotRow a
  | .findLesson _, a, o => o = .found lessonRow a
  | .findMachineByName _, a, o | .findMachine _, a, o => o = .found machineRow a
  | .findMachineState _ _, a, o => o = .found stateRow a
  | .nextStates _ _, a, o => o = .rows (a.map stateRow)
  | .findItem _, a, o => o = .found itemRow a
  | .transitionExists _ _ _, a, o => o = .rows [[.bool a]]
  | .insertLesson _, a, o => o = .rows [[.ofId a.id]]
  | .insertItem _ _, a, o => o = .rows [[.ofId a.id]]
  | .reserveSlot _, a, o | .swapState _ _ _, a, o => o = .affected (if a then 1 else 0)
  | .releaseSlot _, _, o | .deleteItem _, _, o => ∃ count, o = .affected count
  | .issueCredential _ _, _, _ => False

/-- A database that keeps whole microseconds, and does not fail. Of the times at which lessons were
booked more may be known. -/
def stored (P : Timestamp → Prop) : Likeness where
  time t t' := P t ∧ t' = t.kept
  failure _ _ := False

section Read

variable {α : Type}

/-- What was found is read back, if its row is. -/
theorem find?_found (row : α → Row) (read : Row → Reading α) {Q : α → α → Prop} {a : Option α}
    (reads : ∀ x, a = some x → ∃ y, read (row x) = .ok y ∧ Q x y) :
    ∃ b, (Outcome.found row a).find? read = .ok b ∧ Option.Rel Q a b := by
  cases a with
  | none => exact ⟨none, rfl, .none⟩
  | some x =>
    obtain ⟨y, hy, related⟩ := reads x rfl
    refine ⟨some y, ?_, .some related⟩
    show (do return some (← read (row x)) : Reading (Option α)) = _
    rw [hy]
    rfl

/-- A machine is read back from its row. -/
theorem readMachine_machineRow (m : Machine) : readMachine (machineRow m) = .ok m := by
  show (do
    let name ← readMachineName m.name.toText
    return { id := m.id, name, start := m.start } : Reading Machine) = _
  unfold readMachineName MachineName.read
  rw [MachineName.ofText?_toText]
  rfl

theorem readStateName_toText (n : StateName) : readStateName n.toText = .ok n := by
  unfold readStateName StateName.read
  rw [StateName.ofText?_toText]
  rfl

theorem time_cell {t : Timestamp} {row : Row} {n : Nat} {column : String} (storable : t.Storable)
    (cell : row[n]? = some (.ofTime t)) : row.time n column = .ok t.kept := by
  have number : row.int n column = .ok (.ofInt t.micros) := by
    unfold Row.int Row.cell
    rw [cell]
    rfl
  have known : Timestamp.ofMicros? (Int64.ofInt t.micros).toInt = some t.kept := by
    rw [Timestamp.toInt_micros storable, Timestamp.ofMicros?_of_storable storable]
  simp only [Row.time, number, bind, Except.bind, known]
  rfl

/-- A slot is read back from its row, with its times as the database keeps them. -/
theorem readSlot_slotRow {x : Slot} (starts : x.starts.Storable) (ends : x.ends.Storable) :
    readSlot (slotRow x) = .ok { x with starts := x.starts.kept, ends := x.ends.kept } := by
  show (do
    let starts ← (slotRow x).time 2 (named "starts_at")
    let ends ← (slotRow x).time 3 (named "ends_at")
    return ⟨x.id, x.teacher, starts, ends, x.available⟩ : Reading Slot) = _
  rw [time_cell starts rfl, time_cell ends rfl]
  rfl

/-- A lesson is read back from its row, with its time as the database keeps it. -/
theorem readLesson_lessonRow {l : Lesson} (booked : l.createdAt.Storable) :
    readLesson (lessonRow l) = .ok { l with createdAt := l.createdAt.kept } := by
  show (do
    let createdAt ← (lessonRow l).time 6 (named "created_at")
    return { l with createdAt } : Reading Lesson) = _
  rw [time_cell booked rfl]
  rfl

theorem readState_stateRow (x : State) :
    (readStateRow (stateRow x) >>= readState) = .ok x := by
  show (do
    let name ← readStateName x.name.toText
    return { id := x.id, name } : Reading State) = _
  rw [readStateName_toText]
  rfl

/-- An item is read back from its row, with the state that it is in. -/
theorem readItem_itemRow {item : Item} {state : State} (at_state : state.id = item.state) :
    readItem (itemRow (item, state)) = .ok (item, state) := by
  show (do
    let name ← readStateName state.name.toText
    return (item, { id := item.state, name }) : Reading (Item × State)) = _
  rw [readStateName_toText, ← at_state]
  rfl

theorem readStates_stateRows (states : List State) : (do
      let rows ← (states.map stateRow).mapM readStateRow
      rows.mapM readState : Reading (List State)) = .ok states := by
  have cells : (states.map stateRow).mapM readStateRow =
      .ok (states.map fun x => (x.id, x.name.toText)) := by
    rw [List.mapM_map]
    exact List.mapM_pure
  have names (x : State) : readState (x.id, x.name.toText) = .ok x := by
    rw [readState, readStateName_toText]
    rfl
  rw [cells]
  show (states.map fun x => (x.id, x.name.toText)).mapM readState = _
  rw [List.mapM_map]
  show states.mapM (fun x => readState (x.id, x.name.toText)) = _
  simp only [names]
  exact List.mapM_pure.trans (congrArg Except.ok (List.map_id states))

end Read

end Database

/-! ## The times in a world -/

/-- The times of slots can be kept, and this holds of the times at which lessons were booked. -/
structure World.Dated (P : Timestamp → Prop) (w : World) : Prop where
  slot : ∀ id s, w.slots.get? id = some s → s.starts.Storable ∧ s.ends.Storable
  lesson : ∀ id l, w.lessons.get? id = some l → P l.createdAt

/-- This holds of the time of a lesson that is stored. -/
def Call.Dated (P : Timestamp → Prop) : Call → Prop
  | .insertLesson draft => P draft.createdAt
  | _ => True

theorem World.Dated.effect {P : Timestamp → Prop} {w w' : World} {e : Event} (h : w.Dated P)
    (effect : w.Effect e w') (dated : e.call.Dated P) : w'.Dated P := by
  cases effect with
  | @reserve id slot found free =>
    refine ⟨fun id' s hs => ?_, h.lesson⟩
    rw [Table.get?_insert] at hs
    split at hs
    · obtain rfl := Option.some.inj hs
      exact h.slot id slot found
    · exact h.slot id' s hs
  | release id =>
    refine ⟨fun id' s hs => ?_, h.lesson⟩
    rw [release, Table.get?_modify] at hs
    split at hs
    · obtain ⟨slot, found, rfl⟩ := Option.map_eq_some_iff.1 hs
      exact h.slot id slot found
    · exact h.slot id' s hs
  | addLesson draft =>
    refine ⟨h.slot, fun id l hl => ?_⟩
    rw [World.addLesson, Table.get?_insert] at hl
    split at hl
    · obtain rfl := Option.some.inj hl
      exact dated
    · exact h.lesson id l hl
  | _ => exact ⟨h.slot, h.lesson⟩

namespace Database

/-- **What is read back from the rows of an answer is like the answer**, for every answer of stores
in memory. -/
theorem answer_encoded {P : Timestamp → Prop} {w : World}
    {meet : String → String → Except MeetingError Credential} {c : Call} {a : c.Answer} {o : Outcome}
    (storable : ∀ t, P t → t.Storable) (dated : w.Dated P) (answers : (w.step meet c).1 = .ok a)
    (encoded : Encodes c a o) :
    ∃ b, answer c o = some (.ok b) ∧ (stored P).Answers c a b := by
  have found {α : Type} {row : α → Row} {read : Row → Reading α} {a : Option α}
      (reads : ∀ x, a = some x → read (row x) = .ok x) :
      some ((Outcome.found row a).find? read) = some (.ok a) := by
    obtain ⟨b, hb, same⟩ := find?_found row read (Q := Eq) fun x hx => ⟨x, reads x hx, rfl⟩
    rw [hb]
    cases same with
    | none => rfl
    | some h => rw [h]
  cases c with
  | findUser | findTeacher | findTeacherByUser | findCategory =>
    obtain rfl := encoded
    exact ⟨a, found fun x _ => rfl, rfl⟩
  | findSkill teacher category =>
    obtain rfl := encoded
    cases a with
    | none => exact ⟨none, rfl, rfl⟩
    | some x => exact ⟨some { teacher, category, active := x.active }, rfl, rfl⟩
  | findSlot id =>
    obtain rfl := encoded
    have stands : w.slots.get? id = a := Except.ok.inj answers
    obtain ⟨b, hb, same⟩ := find?_found slotRow readSlot (a := a)
      (Q := fun x y => Likeness.place x = Likeness.place y) fun x hx => by
        obtain ⟨starts, ends⟩ := dated.slot id x (stands.trans hx)
        exact ⟨_, readSlot_slotRow starts ends, rfl⟩
    refine ⟨b, congrArg some hb, ?_⟩
    cases same with
    | none => rfl
    | some h => exact congrArg some h
  | findLesson id =>
    obtain rfl := encoded
    have stands : w.lessons.get? id = a := Except.ok.inj answers
    obtain ⟨b, hb, same⟩ := find?_found lessonRow readLesson (a := a)
      (Q := (stored P).Lessons) fun x hx => by
        have booked := dated.lesson id x (stands.trans hx)
        exact ⟨_, readLesson_lessonRow (storable _ booked), _, ⟨booked, rfl⟩, rfl⟩
    exact ⟨b, congrArg some hb, same⟩
  | findMachineByName | findMachine =>
    obtain rfl := encoded
    exact ⟨a, found fun x _ => readMachine_machineRow x, rfl⟩
  | findMachineState =>
    obtain rfl := encoded
    exact ⟨a, found fun x _ => readState_stateRow x, rfl⟩
  | findItem id =>
    obtain rfl := encoded
    have stands : w.item? id = a := Except.ok.inj answers
    refine ⟨a, found fun x hx => ?_, rfl⟩
    obtain ⟨item, state⟩ := x
    obtain ⟨-, known⟩ := World.item?_eq_some.1 (stands.trans hx)
    exact readItem_itemRow (State.id_eq_of_ofId? known).1
  | nextStates =>
    obtain rfl := encoded
    exact ⟨a, congrArg some (readStates_stateRows a), rfl⟩
  | transitionExists =>
    obtain rfl := encoded
    exact ⟨a, rfl, rfl⟩
  | insertLesson draft =>
    obtain rfl := encoded
    obtain rfl : draft.numbered w.nextLesson = a := Except.ok.inj answers
    exact ⟨_, rfl, rfl⟩
  | insertItem machine state =>
    obtain rfl := encoded
    obtain rfl : (⟨w.nextItem, machine, state⟩ : Item) = a := Except.ok.inj answers
    exact ⟨_, rfl, rfl⟩
  | reserveSlot | swapState =>
    obtain rfl := encoded
    cases a with
    | false => exact ⟨false, rfl, rfl⟩
    | true => exact ⟨true, rfl, rfl⟩
  | releaseSlot | deleteItem =>
    obtain ⟨count, rfl⟩ := encoded
    exact ⟨(), rfl, rfl⟩
  | issueCredential => exact encoded.elim

end Database

end Tutoring
