import Tutoring.Proofs.Operation

/-!
# The history of an item

Since it was made, an item has walked along edges of its machine, from the start state of the
machine to the state it is in. The steps of the walk are the swaps of the item that were answered
with yes, and each was made by an operation of its own that returned.

* `Walk`: a walk along edges, with its steps, the latest one first.
* `Trace.life`: what has happened since the item of a number was made last; `Trace.moves` are the
  moves of an item, each with the place of the operation that made it.
* `History`: what has become of an item; every call keeps it (`History.step`), so it holds
  throughout a run (`Run.history`).
* `Run.mem_movers_iff`: the operations that have moved an item are those that have returned.
-/

namespace Tutoring

/-! ## Walks -/

/-- A walk along edges, with its steps, the latest one first. -/
inductive Walk (edge : StateId → StateId → Prop) (start : StateId) :
    List (StateId × StateId) → StateId → Prop
  | nil : Walk edge start [] start
  | step {steps : List (StateId × StateId)} {s t : StateId} (before : Walk edge start steps s)
      (next : edge s t) : Walk edge start ((s, t) :: steps) t

namespace Walk

variable {edge edge' : StateId → StateId → Prop} {start s : StateId}
  {steps : List (StateId × StateId)}

/-- Every step of a walk is an edge. -/
theorem edge_of_mem (h : Walk edge start steps s) : ∀ e ∈ steps, edge e.1 e.2 := by
  induction h with
  | nil => exact fun _ he => nomatch he
  | step _ next ih => exact List.forall_mem_cons.2 ⟨next, ih⟩

/-- A walk along edges that lead upwards is no longer than it is high. -/
theorem length_le (h : Walk edge start steps s) (height : StateId → Nat)
    (up : ∀ s t, edge s t → height s < height t) : height start + steps.length ≤ height s := by
  induction h with
  | nil => exact Nat.le_refl _
  | @step steps s t _ next ih =>
    have higher := up s t next
    rw [List.length_cons]
    omega

end Walk

/-! ## The life of an item -/

/-- The item that a call has made. -/
def Event.made? : Event → Option Item
  | ⟨.insertItem _ _, .ok item⟩ => some item
  | _ => none

/-- The call has made the item of a number. -/
def Event.makes (id : ItemId) (e : Event) : Bool := e.made?.any (·.id = id)

/-- How a call has moved an item: the state that was left and the one that was reached. -/
def Event.moveOf? (id : ItemId) (e : Event) : Option (StateId × StateId) :=
  e.move?.bind fun m => if m.1 = id then some m.2 else none

/-- A call that changes nothing neither makes nor moves an item. -/
theorem Event.itemless_of_idle {id : ItemId} {e : Event} (h : e.changes = false) :
    e.makes id = false ∧ e.moveOf? id = none := by
  obtain ⟨c, r⟩ := e
  cases c with
  | insertItem machine state =>
    obtain _ | _ := r
    · exact ⟨rfl, rfl⟩
    · cases h
  | swapState item source target =>
    obtain _ | _ | _ := r
    · exact ⟨rfl, rfl⟩
    · exact ⟨rfl, rfl⟩
    · cases h
  | _ => exact ⟨rfl, rfl⟩

namespace Trace

/-- The item of a number as it was made last. -/
def made? (id : ItemId) (trace : Trace) : Option Item :=
  (trace.find? fun e => e.2.makes id).bind fun e => e.2.made?

/-- What has happened since the item of a number was made last. -/
def life (id : ItemId) (trace : Trace) : Trace := trace.takeWhile fun e => !e.2.makes id

/-- The moves of an item, each with the place of the operation that made it. -/
def moves (id : ItemId) (trace : Trace) : List (Nat × StateId × StateId) :=
  trace.filterMap fun e => (e.2.moveOf? id).map (e.1, ·)

/-- The steps that an item has taken since it was made. -/
def steps (id : ItemId) (trace : Trace) : List (StateId × StateId) :=
  ((trace.life id).moves id).map (·.2)

/-- The operations that have moved an item. -/
def movers (id : ItemId) (trace : Trace) : List Nat := (trace.moves id).map (·.1)

variable {id : ItemId} {i : Nat} {e : Event} {item : Item} {trace : Trace}

theorem made?_cons_of_makes (h : e.makes id = true) : made? id ((i, e) :: trace) = e.made? := by
  simp [made?, h]

theorem made?_cons_of_not_makes (h : e.makes id = false) :
    made? id ((i, e) :: trace) = made? id trace := by
  simp [made?, h]

theorem steps_cons_of_makes (h : e.makes id = true) : steps id ((i, e) :: trace) = [] := by
  simp [steps, life, moves, h]

theorem moves_cons_of_move {m : StateId × StateId} (h : e.moveOf? id = some m) :
    moves id ((i, e) :: trace) = (i, m) :: moves id trace := by
  simp [moves, h]

theorem moves_cons_of_not_move (h : e.moveOf? id = none) :
    moves id ((i, e) :: trace) = moves id trace := by
  simp [moves, h]

theorem steps_cons_of_move {m : StateId × StateId} (h : e.moveOf? id = some m)
    (h' : e.makes id = false) : steps id ((i, e) :: trace) = m :: steps id trace := by
  simp [steps, life, h', moves_cons_of_move h]

theorem steps_cons_of_not_move (h : e.moveOf? id = none) (h' : e.makes id = false) :
    steps id ((i, e) :: trace) = steps id trace := by
  simp [steps, life, h', moves_cons_of_not_move h]

/-- An item that was never moved has taken no steps. -/
theorem steps_eq_nil (h : moves id trace = []) : steps id trace = [] := by
  have sub : List.Sublist ((trace.life id).moves id) (trace.moves id) :=
    (List.takeWhile_sublist _).filterMap _
  rw [h] at sub
  unfold steps
  rw [List.sublist_nil.1 sub, List.map_nil]

/-- How often an item of the number was made. -/
def timesMade (id : ItemId) (trace : Trace) : Nat := trace.countP fun e => e.2.makes id

theorem timesMade_pos (h : made? id trace = some item) : 0 < timesMade id trace := by
  obtain ⟨e, found, _⟩ := Option.bind_eq_some_iff.1 h
  have makes : e.2.makes id = true := by simpa using List.find?_some found
  exact List.countP_pos_iff.2 ⟨e, List.mem_of_find?_eq_some found, makes⟩

theorem timesMade_cons_of_makes (h : e.makes id = true) :
    timesMade id ((i, e) :: trace) = timesMade id trace + 1 :=
  List.countP_cons_of_pos h

theorem timesMade_cons_of_not_makes (h : e.makes id = false) :
    timesMade id ((i, e) :: trace) = timesMade id trace :=
  List.countP_cons_of_neg (by simp [h])

end Trace

/-! ## What every call keeps -/

/-- What has become of the item of a number: it was never made, or it has walked from the start
state of its machine, and if it is live, it is at the end of its walk. -/
inductive History (w : World) (trace : Trace) (id : ItemId) : Prop
  | unmade (never : trace.made? id = none) (absent : w.items.get? id = none)
      (unmoved : trace.moves id = [])
  | made {m : Machine} {s : StateId} (known : m ∈ w.catalog.machines)
      (made : trace.made? id = some ⟨id, m.id, m.start⟩)
      (walk : Walk (fun s t => w.catalog.hasEdge m.id s t = true) m.start (trace.steps id) s)
      (live : ∀ item, w.items.get? id = some item → item = ⟨id, m.id, s⟩)
      (all : trace.timesMade id = 1 → trace.steps id = (trace.moves id).map (·.2))

namespace History

variable {w w' : World} {trace : Trace} {id : ItemId} {i : Nat} {e : Event}

/-- A call that neither makes nor moves the item. -/
theorem frame (h : History w trace id) (made : e.makes id = false) (moved : e.moveOf? id = none)
    (catalog : w'.catalog = w.catalog)
    (items : ∀ item, w'.items.get? id = some item → w.items.get? id = some item) :
    History w' ((i, e) :: trace) id := by
  cases h with
  | unmade never absent unmoved =>
    refine .unmade ?_ ?_ ?_
    · rw [Trace.made?_cons_of_not_makes made, never]
    · cases found : w'.items.get? id with
      | none => rfl
      | some item => exact nomatch absent.symm.trans (items item found)
    · rw [Trace.moves_cons_of_not_move moved, unmoved]
  | @made m s known made' walk live all =>
    refine .made (m := m) (s := s) ?_ ?_ ?_ (fun item found => live item (items item found)) ?_
    · rw [catalog]
      exact known
    · rw [Trace.made?_cons_of_not_makes made, made']
    · rw [catalog, Trace.steps_cons_of_not_move moved made]
      exact walk
    · rw [Trace.timesMade_cons_of_not_makes made, Trace.steps_cons_of_not_move moved made,
        Trace.moves_cons_of_not_move moved]
      exact all

/-- A new item starts a history of its own. -/
theorem make (h : History w trace w.nextItem) {m : Machine} (known : m ∈ w.catalog.machines) :
    History (w.addItem m.id m.start).2
      ((i, ⟨.insertItem m.id m.start, .ok ⟨w.nextItem, m.id, m.start⟩⟩) :: trace) w.nextItem := by
  have makes : Event.makes w.nextItem
      ⟨.insertItem m.id m.start, .ok ⟨w.nextItem, m.id, m.start⟩⟩ = true := decide_eq_true rfl
  refine .made (m := m) (s := m.start) known ?_ ?_ ?_ ?_
  · rw [Trace.made?_cons_of_makes makes]
    rfl
  · rw [Trace.steps_cons_of_makes makes]
    exact .nil
  · intro item found
    unfold World.addItem at found
    rw [Table.get?_insert, if_pos rfl] at found
    exact (Option.some.inj found).symm
  · rw [Trace.timesMade_cons_of_makes makes, Trace.steps_cons_of_makes makes,
      Trace.moves_cons_of_not_move rfl]
    intro once
    cases h with
    | unmade _ _ unmoved => rw [unmoved]; rfl
    | made _ made =>
      have pos := Trace.timesMade_pos made
      omega

/-- A move is one more step of the walk. -/
theorem move (h : History w trace id) {item : Item} {next : StateId}
    (found : w.items.get? id = some item)
    (edge : w.catalog.hasEdge item.machine item.state next = true) :
    History { w with items := w.items.insert id { item with state := next } }
      ((i, ⟨.swapState id item.state next, .ok true⟩) :: trace) id := by
  have moved : Event.moveOf? id ⟨.swapState id item.state next, .ok true⟩ =
      some (item.state, next) := if_pos rfl
  cases h with
  | unmade _ absent _ => exact nomatch absent.symm.trans found
  | @made m s known made walk live all =>
    obtain rfl := live item found
    refine .made (m := m) (s := next) known ?_ ?_ ?_ ?_
    · rw [Trace.made?_cons_of_not_makes rfl, made]
    · rw [Trace.steps_cons_of_move moved rfl]
      exact walk.step edge
    · intro item' found'
      rw [Table.get?_insert, if_pos rfl] at found'
      exact (Option.some.inj found').symm
    · rw [Trace.timesMade_cons_of_not_makes rfl, Trace.steps_cons_of_move moved rfl,
        Trace.moves_cons_of_move moved]
      exact fun once => congrArg _ (all once)

/-- Every call of an operation keeps the history of every item. -/
theorem step {o : Engine.Operation} {d : Directory} (h : ∀ id, History w trace id)
    (allowed : o.terms.guar (trace.own i) e.call)
    (honest : ∀ e ∈ trace.own i, World.Honest d w.catalog e) (effect : w.Effect e w')
    (id : ItemId) : History w' ((i, e) :: trace) id := by
  cases effect with
  | addItem machine state =>
    obtain ⟨_, name, m, hm, rfl, rfl⟩ := allowed
    have named : some m = w.catalog.machineNamed? name :=
      (honest _ hm).answer_eq (f := fun _ k => k.machineNamed? name) fun _ _ => rfl
    have known : m ∈ w.catalog.machines := List.mem_of_find?_eq_some named.symm
    by_cases hid : id = w.nextItem
    · subst hid
      exact (h w.nextItem).make known
    · refine (h id).frame (decide_eq_false (Ne.symm hid)) rfl rfl fun item found => ?_
      unfold World.addItem at found
      rw [Table.get?_insert, if_neg hid] at found
      exact found
  | removeItem id' =>
    refine (h id).frame rfl rfl rfl fun item found => ?_
    unfold World.removeItem at found
    rw [Table.get?_erase] at found
    split at found
    · cases found
    · exact found
  | @move id' item next found edge =>
    by_cases hid : id = id'
    · subst hid
      exact (h id).move found edge
    · refine (h id).frame rfl (if_neg (Ne.symm hid)) rfl fun item found => ?_
      rw [Table.get?_insert, if_neg hid] at found
      exact found
  | idle idle =>
    obtain ⟨made, moved⟩ := Event.itemless_of_idle idle
    exact (h id).frame made moved rfl fun _ found => found
  | _ => exact (h id).frame rfl rfl rfl fun _ found => found

end History

section Run

variable {operations : List Engine.Operation} {start w : World} {trace : Trace} {id : ItemId}
  {i : Nat}

/-- From a world without items, every item has a history. -/
theorem Run.history (run : Run Engine.Operation.program operations start trace w)
    (empty : ∀ id, start.items.get? id = none) (id : ItemId) : History w trace id := by
  induction run generalizing id with
  | start => exact .unmade rfl (empty id) rfl
  | @step trace w w' i o c _ _ before _ pending reacts ih =>
    have honest := before.own_honest i
    rw [← before.catalog_eq] at honest
    exact .step ih (pending.guar o.meets fun _ _ => trivial) honest reacts.effect id

theorem Event.moveOf?_eq_some {e : Event} {m : StateId × StateId} :
    e.moveOf? id = some m ↔ e.move? = some (id, m) := by
  unfold Event.moveOf?
  cases e.move? with
  | none => simp
  | some m' =>
    obtain ⟨id', m'⟩ := m'
    by_cases hid : id' = id <;> simp [hid]

/-- An operation has moved an item if one of its own calls has. -/
theorem Trace.mem_movers : i ∈ trace.movers id ↔ ∃ m, (id, m) ∈ (trace.own i).moves := by
  unfold Trace.movers Trace.moves Log.moves
  constructor
  · intro h
    obtain ⟨⟨_, m⟩, hm, rfl⟩ := List.mem_map.1 h
    obtain ⟨⟨j, e⟩, he, hme⟩ := List.mem_filterMap.1 hm
    obtain ⟨m', hm', heq⟩ := Option.map_eq_some_iff.1 hme
    obtain ⟨rfl, rfl⟩ := Prod.mk.inj heq
    exact ⟨m', List.mem_filterMap.2 ⟨e, Trace.mem_own.2 he, Event.moveOf?_eq_some.1 hm'⟩⟩
  · rintro ⟨m, hm⟩
    obtain ⟨e, he, hme⟩ := List.mem_filterMap.1 hm
    refine List.mem_map.2 ⟨(i, m), List.mem_filterMap.2 ⟨(i, e), Trace.mem_own.1 he, ?_⟩, rfl⟩
    rw [Event.moveOf?_eq_some.2 hme]
    rfl

/-- No operation moves an item twice. -/
theorem Run.movers_nodup (run : Run Engine.Operation.program operations start trace w)
    (id : ItemId) : (trace.movers id).Nodup := by
  induction run with
  | start => exact List.nodup_nil
  | @step trace _ _ i o c next reply before _ pending _ ih =>
    have unmoved : (trace.own i).moves = [] :=
      Engine.Operation.unmoved_of_guar (pending.guar o.meets fun _ _ => trivial)
    have new : i ∉ trace.movers id := by
      rw [Trace.mem_movers, unmoved]
      rintro ⟨_, h⟩
      cases h
    unfold Trace.movers at *
    cases hm : Event.moveOf? id ⟨c, reply⟩ with
    | none =>
      rw [Trace.moves_cons_of_not_move hm]
      exact ih
    | some m =>
      rw [Trace.moves_cons_of_move hm]
      exact List.nodup_cons.2 ⟨new, ih⟩

/-- The operations that have moved an item are those on the item that have returned. -/
theorem Run.mem_movers_iff (run : Run Engine.Operation.program operations start trace w) :
    i ∈ trace.movers id ↔ ∃ o, operations[i]? = some o ∧ o.item? = some id ∧
      ∃ a, o.program.After (trace.own i) (.done (.ok a)) := by
  rw [Trace.mem_movers]
  constructor
  · rintro ⟨m, hm⟩
    obtain ⟨e, he, _⟩ := List.mem_filterMap.1 hm
    obtain ⟨_, _, _, _, upto⟩ := run.occurred (Trace.mem_own.1 he)
    obtain ⟨_, o, _, _, request, _, _⟩ := upto.last
    obtain ⟨q, after⟩ := run.after request
    obtain ⟨id', s, t, item_eq, moves_eq, a, rfl⟩ :=
      Engine.Operation.ok_of_moves after (List.ne_nil_of_mem hm)
    rw [moves_eq] at hm
    obtain ⟨rfl, _⟩ := Prod.mk.inj (List.mem_singleton.1 hm)
    exact ⟨o, request, item_eq, a, after⟩
  · rintro ⟨o, request, item_eq, a, after⟩
    obtain ⟨s, t, moves_eq⟩ := Engine.Operation.moves_eq_of_ok after item_eq
    exact ⟨(s, t), by simp [moves_eq]⟩

end Run

end Tutoring
