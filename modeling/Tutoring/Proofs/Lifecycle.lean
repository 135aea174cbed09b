import Tutoring.Proofs.History
import Tutoring.Proofs.Provision

/-!
# The life of items in provisioned machines

In a store that was provisioned from blueprints, an item starts in the start state of its blueprint
and walks along the edges that the blueprint declares. The machine of lessons has no way back, so a
lesson moves three times at most, and not at all once it is rejected, cancelled or finished.

* `Run.walk_of_made`: the walk of an item that was made, live or not.
* `lesson_walk`: walks in the machine of lessons.
* `item_histories`: the history of the items of any blueprints, and of the default ones.
-/

namespace Tutoring

section Provisioned

variable {directory : Directory} {slots : Table SlotId Slot} {blueprints : List Blueprint}
  {operations : List Engine.Operation} {trace : Trace} {w : World} {id : ItemId}

/-- An item that was made has walked from the start state of its blueprint; if it is live, it is at
the end of its walk. -/
theorem Run.walk_of_made
    (run : Run Engine.Operation.program operations
      (.start directory slots (.ofBlueprints blueprints)) trace w)
    {made : Item} (h : trace.made? id = some made) :
    ∃ b k s, Blueprint.At blueprints k b ∧ made = ⟨id, .ofInt k, b.start.id⟩ ∧
      Walk (fun s t => (Catalog.ofBlueprints blueprints).hasEdge (.ofInt k) s t = true) b.start.id
        (trace.steps id) s ∧
      ∀ item, w.items.get? id = some item → item = ⟨id, .ofInt k, s⟩ := by
  have history := run.history (fun _ => rfl) id
  cases history with
  | unmade never => exact nomatch never.symm.trans h
  | @made m s known made' walk live =>
    rw [run.catalog_eq] at known walk
    obtain ⟨b, k, hb, rfl⟩ := Catalog.mem_machines_ofBlueprints.1 known
    exact ⟨b, k, s, hb, Option.some.inj (h.symm.trans made'), walk, live⟩

theorem declared_of_walk {b : Blueprint} {k : Nat} {start s : StateId}
    {steps : List (StateId × StateId)} (few : blueprints.length < Id.limit)
    (hb : Blueprint.At blueprints k b)
    (walk : Walk (fun s t => (Catalog.ofBlueprints blueprints).hasEdge (.ofInt k) s t = true) start
      steps s) : ∀ step ∈ steps, ∃ e ∈ b.edges, step = (e.1.id, e.2.id) := by
  intro step hstep
  obtain ⟨b', k', hb', number, e, he, step_eq⟩ :=
    Catalog.hasEdge_ofBlueprints.1 (walk.edge_of_mem step hstep)
  obtain rfl := Blueprint.eq_of_number few hb hb' number
  exact ⟨e, he, step_eq⟩

end Provisioned

/-! ## Lessons -/

/-- How far a lesson has come: the number of moves that may lead to a state. -/
def lessonHeight (s : StateId) : Nat :=
  if s = StateName.pending.id then 0
  else if s = StateName.planned.id then 1
  else if s = StateName.ongoing.id then 2
  else 3

theorem lessonHeight_le (s : StateId) : lessonHeight s ≤ 3 := by
  unfold lessonHeight
  split
  · omega
  · split
    · omega
    · split <;> omega

/-- Every edge of a lesson leads upwards. -/
theorem lessonHeight_lt : ∀ e ∈ Blueprint.lesson.edges, lessonHeight e.1.id < lessonHeight e.2.id := by
  decide

theorem source_not_terminal : ∀ e ∈ Blueprint.lesson.edges,
    e.1.id ∉ Blueprint.lesson.terminalStates.map StateName.id := by
  decide

/-- A walk in the machine of lessons takes three steps at most and leaves no terminal state. -/
theorem lesson_walk {start s : StateId} {steps : List (StateId × StateId)}
    (walk : Walk
      (fun s t => (Catalog.ofBlueprints Blueprint.defaultCatalog).hasEdge (.ofInt 1) s t = true)
      start steps s) :
    steps.length ≤ 3 ∧
      ∀ step ∈ steps, step.1 ∉ Blueprint.lesson.terminalStates.map StateName.id := by
  have lesson_at : Blueprint.At Blueprint.defaultCatalog 1 .lesson := List.mem_cons_self
  have declared {s t : StateId}
      (h : (Catalog.ofBlueprints Blueprint.defaultCatalog).hasEdge (.ofInt 1) s t = true) :
      ∃ e ∈ Blueprint.lesson.edges, s = e.1.id ∧ t = e.2.id := by
    obtain ⟨b, k, hb, number, e, he, step_eq⟩ := Catalog.hasEdge_ofBlueprints.1 h
    obtain rfl := Blueprint.eq_of_number (by decide) lesson_at hb number
    exact ⟨e, he, Prod.mk.inj step_eq⟩
  constructor
  · have high := walk.length_le lessonHeight fun s t h => by
      obtain ⟨e, he, rfl, rfl⟩ := declared h
      exact lessonHeight_lt e he
    have le := lessonHeight_le s
    omega
  · intro step hstep
    obtain ⟨e, he, source_eq, _⟩ := declared (walk.edge_of_mem step hstep)
    rw [source_eq]
    exact source_not_terminal e he

/-! ## All items -/

/-- **The history of items.** A live item is at the end of a walk along declared edges of its own
machine, from the machine's start state, in which it was made. The steps of the walk are all its
swaps that were answered with yes, and these belong one by one to the operations on it that have
returned. An item of the default machine of lessons takes three steps at most and leaves no terminal
state. -/
theorem item_histories {directory : Directory} {slots : Table SlotId Slot}
    {blueprints : List Blueprint} {operations : List Engine.Operation} {trace : Trace} {w : World}
    (run : Run Engine.Operation.program operations
      (.start directory slots (.ofBlueprints blueprints)) trace w) :
    (∀ id item, w.items.get? id = some item →
      ∃ b k, Blueprint.At blueprints k b ∧ item.machine = .ofInt k ∧
        trace.made? id = some ⟨id, item.machine, b.start.id⟩ ∧
        Walk (fun s t => w.catalog.hasEdge item.machine s t = true) b.start.id (trace.steps id)
          item.state ∧
        (blueprints.length < Id.limit →
          ∀ step ∈ trace.steps id, ∃ e ∈ b.edges, step = (e.1.id, e.2.id))) ∧
    (∀ id, trace.timesMade id ≤ 1 → trace.steps id = (trace.moves id).map (·.2)) ∧
    (∀ id, (trace.movers id).Nodup ∧
      ∀ i, i ∈ trace.movers id ↔ ∃ o, operations[i]? = some o ∧ o.item? = some id ∧
        ∃ a, o.program.After (trace.own i) (.done (.ok a))) ∧
    (blueprints = Blueprint.defaultCatalog → ∀ id made m, trace.made? id = some made →
      w.catalog.machineNamed? .lesson = some m → made.machine = m.id →
      (trace.steps id).length ≤ 3 ∧ ∀ step ∈ trace.steps id,
        step.1 ∉ [StateName.rejected, .cancelled, .finished].map StateName.id) := by
  have catalog_eq : w.catalog = .ofBlueprints blueprints := run.catalog_eq
  refine ⟨fun id item found => ?_, fun id once => ?_,
    fun id => ⟨run.movers_nodup id, fun i => run.mem_movers_iff⟩, ?_⟩
  · rw [catalog_eq]
    cases run.history (fun _ => rfl) id with
    | unmade _ absent => exact nomatch absent.symm.trans found
    | @made m s _ made =>
      obtain ⟨b, k, s, hb, made_eq, walk, live⟩ := run.walk_of_made made
      obtain rfl := live item found
      rw [made_eq] at made
      exact ⟨b, k, hb, rfl, made, walk, fun few => declared_of_walk few hb walk⟩
  · cases run.history (fun _ => rfl) id with
    | unmade _ _ unmoved => rw [unmoved, Trace.steps_eq_nil unmoved, List.map_nil]
    | made _ made _ _ all =>
      have pos := Trace.timesMade_pos made
      exact all (by omega)
  · rintro rfl id made m hmade lesson machine
    rw [catalog_eq] at lesson
    obtain rfl := Option.some.inj lesson
    obtain ⟨b, k, s, hb, rfl, walk, _⟩ := run.walk_of_made hmade
    have number : (Id.ofInt k : MachineId) = .ofInt 1 := machine
    rw [number] at walk
    exact lesson_walk walk

/-- Two operations see a new lesson pending; the second one moves it, and the first one does not. -/
theorem item_histories_race :
    ∃ trace w, Run Engine.Operation.program
        [.create .lesson, .apply (.ofInt 1) .planned, .applyFrom (.ofInt 1) StateName.pending.id
          .rejected]
        (.start .empty .empty (.ofBlueprints Blueprint.defaultCatalog)) trace w ∧
      (trace.movers (.ofInt 1)).Nodup ∧ trace.movers (.ofInt 1) = [2] ∧
      ∃ b, Walk (fun s t => w.catalog.hasEdge (.ofInt 1) s t = true) b
        (trace.steps (.ofInt 1)) StateName.rejected.id := by
  have none_served : Run Engine.Operation.program
    [.create .lesson, .apply (.ofInt 1) .planned, .applyFrom (.ofInt 1) StateName.pending.id
      .rejected]
    (.start .empty .empty (.ofBlueprints Blueprint.defaultCatalog)) [] _ := .start
  obtain ⟨run₁, _⟩ := none_served.serve (i := 0) (r := .create .lesson)
    (fun _ _ => .error (.unavailable "")) 2 rfl .start
  obtain ⟨run₂, after₂⟩ := run₁.serve (i := 1) (r := .apply (.ofInt 1) .planned)
    (fun _ _ => .error (.unavailable "")) 4 rfl .start
  obtain ⟨run₃, _⟩ := run₂.serve (i := 2)
    (r := .applyFrom (.ofInt 1) StateName.pending.id .rejected)
    (fun _ _ => .error (.unavailable "")) 5 rfl .start
  obtain ⟨run₄, _⟩ := run₃.serve (i := 1) (r := .apply (.ofInt 1) .planned)
    (fun _ _ => .error (.unavailable "")) 3 rfl after₂
  obtain ⟨lives, _, movers, _⟩ := item_histories run₄
  obtain ⟨b, k, _, _, _, walk, _⟩ := lives (.ofInt 1) ⟨.ofInt 1, .ofInt 1, StateName.rejected.id⟩ rfl
  exact ⟨_, _, run₄, (movers (.ofInt 1)).1, rfl, b.start.id, walk⟩

end Tutoring
