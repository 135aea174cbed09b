import Tutoring.Proofs.Attempt
import Tutoring.Proofs.Provision

/-!
# What a transition comes to when nobody interferes

An item that nobody else moves is where it was seen, so a transition does just what the blueprint of
the machine says.

* `Engine.Decides`: it succeeds if and only if it is allowed; then the item has moved, and otherwise
  nothing has changed.
* `transitions_follow_blueprints`: what is allowed are the declared edges, and a refusal says what
  is missing.
-/

namespace Tutoring

namespace Engine

/-- A move of an item to a state, as one decision: it is carried out if and only if it is allowed,
and else refused. -/
structure Decides (w : World) (id : ItemId) (item : Item) (next : StateName) (allowed : Prop)
    (refusal : EngineError) (r : Except EngineError State × World) : Prop where
  /-- The wanted state is returned just when the move is allowed. -/
  ok_iff : (∃ w', r = (.ok (.ofName next), w')) ↔ allowed
  /-- Only the item has changed, and only in its state. -/
  moves : allowed → ∃ w', r = (.ok (.ofName next), w') ∧ w' = { w with items := w'.items } ∧
    ∀ id', w'.items.get? id' =
      if id' = id then some { item with state := next.id } else w.items.get? id'
  /-- Nothing has changed. -/
  refuses : ¬allowed → r = (.error refusal, w)

/-- Why a blueprint does not let an item go on to a state. -/
def refusal (b : Blueprint) (current next : StateName) : EngineError :=
  if b.hasState next then .illegalTransition current next else .unknownState b.name next

section Decide

variable {w : World} {id : ItemId} {item : Item} {next : StateName} {allowed : Prop}
  {refusal : EngineError}

theorem decides_of_allowed (h : allowed) : Decides w id item next allowed refusal
    (.ok (.ofName next), { w with items := w.items.insert id { item with state := next.id } }) where
  ok_iff := ⟨fun _ => h, fun _ => ⟨_, rfl⟩⟩
  moves _ := ⟨_, rfl, rfl, fun _ => Table.get?_insert ..⟩
  refuses forbidden := absurd h forbidden

theorem decides_of_not_allowed (h : ¬allowed) :
    Decides w id item next allowed refusal (.error refusal, w) where
  ok_iff := ⟨nofun, fun yes => absurd yes h⟩
  moves yes := absurd yes h
  refuses _ := rfl

end Decide

section Blueprints

variable {meet : String → String → Except MeetingError Credential} {blueprints : List Blueprint}
  {w : World} {id : ItemId} {item : Item} {b : Blueprint} {k : Nat} {current next : StateName}
  {expected : Option StateId}

theorem transition_decides (provisioned : w.catalog = .ofBlueprints blueprints)
    (few : blueprints.length < Id.limit) (there : w.items.get? id = some item)
    (at_k : Blueprint.At blueprints k b) (machine : item.machine = .ofInt k)
    (state : item.state = current.id) :
    Decides w id item next (b.allows current next = true ∧ ∀ s ∈ expected, s = current.id)
      (refusal b current next) (w.attempt meet (transition id expected next)) := by
  have seen : w.item? id = some (item, .ofName current) := by
    refine World.item?_eq_some.2 ⟨there, ?_⟩
    rw [state]
    exact State.ofId?_id current
  have found : w.catalog.machine? item.machine = some ⟨.ofInt k, b.name, b.start.id⟩ := by
    rw [provisioned, machine]
    exact Catalog.machine?_ofBlueprints few at_k
  have edge : w.catalog.hasEdge item.machine current.id next.id = true ↔
      b.allows current next = true := by
    rw [provisioned, machine]
    exact Catalog.hasEdge_iff_allows few at_k
  have named : w.catalog.stateOf? item.machine next =
      if b.hasState next then some (.ofName next) else none := by
    rw [provisioned, machine]
    exact Catalog.stateOf?_ofBlueprints few at_k
  rw [World.attempt_transition seen, found, named, refusal]
  cases known : b.hasState next with
  | false =>
    have undeclared : ¬(b.allows current next = true ∧ ∀ s ∈ expected, s = current.id) :=
      fun h => absurd (Blueprint.hasState_of_allows h.1) (Bool.eq_false_iff.1 known)
    exact decides_of_not_allowed undeclared
  | true =>
    simp only [if_true]
    split
    · next h =>
      exact decides_of_allowed ⟨edge.1 h.2, h.1⟩
    · next h =>
      exact decides_of_not_allowed fun allowed => h ⟨allowed.2, edge.2 allowed.1⟩

end Blueprints

/-- **A transition is a check and a move.** Machines are made from any blueprints (a list in memory
is shorter than `Id.limit`). An item of one of them is moved if and only if its blueprint declares
the edge from the state it is in, whichever that is, and if a state is expected, it has to be that
one. -/
theorem transitions_follow_blueprints (meet : String → String → Except MeetingError Credential)
    {blueprints : List Blueprint} {w : World} (provisioned : w.catalog = .ofBlueprints blueprints)
    (few : blueprints.length < Id.limit) (id : ItemId) (next : StateName) :
    (∀ item b k current, w.items.get? id = some item → Blueprint.At blueprints k b →
      item.machine = .ofInt k → item.state = current.id →
      Decides w id item next (b.allows current next = true) (refusal b current next)
        (w.attempt meet (apply id next)) ∧
      ∀ expected, Decides w id item next (b.allows current next = true ∧ expected = current.id)
        (refusal b current next) (w.attempt meet (applyFrom id expected next))) ∧
    (w.items.get? id = none →
      w.attempt meet (apply id next) = (.error (.itemNotFound id), w) ∧
      ∀ expected, w.attempt meet (applyFrom id expected next) =
        (.error (.itemNotFound id), w)) := by
  constructor
  · intro item b k current there at_k machine state
    constructor
    · have decided : Decides w id item next
          (b.allows current next = true ∧ ∀ s ∈ (none : Option StateId), s = current.id)
          (refusal b current next) (w.attempt meet (apply id next)) :=
        transition_decides provisioned few there at_k machine state
      simpa using decided
    · intro expected
      have decided : Decides w id item next
          (b.allows current next = true ∧ ∀ s ∈ some expected, s = current.id)
          (refusal b current next) (w.attempt meet (applyFrom id expected next)) :=
        transition_decides provisioned few there at_k machine state
      simpa using decided
  · intro absent
    have unseen : w.item? id = none := by
      rw [World.item?, absent]
      rfl
    have refused (expected : Option StateId) :
        w.attempt meet (transition id expected next) = (.error (.itemNotFound id), w) :=
      World.attempt_bind_of_error (World.attempt_loadItem_none unseen) _
    exact ⟨refused none, fun expected => refused (some expected)⟩

/-- A planned lesson goes on to `ongoing`, but not if it is expected to be pending. It does not go
back, `approved` is no state of lessons, and there is no ninth item. -/
theorem transitions_follow_blueprints_planned :
    let attempt (t : EngineTask State) :=
      World.sample.attempt (fun _ _ => .error (.unavailable "")) t
    (∃ w', attempt (apply (.ofInt 1) .ongoing) = (.ok (.ofName .ongoing), w') ∧
      w'.items.get? (.ofInt 1) = some ⟨.ofInt 1, .ofInt 1, StateName.ongoing.id⟩) ∧
    attempt (applyFrom (.ofInt 1) StateName.pending.id .ongoing) =
      (.error (.illegalTransition .planned .ongoing), .sample) ∧
    attempt (apply (.ofInt 1) .pending) =
      (.error (.illegalTransition .planned .pending), .sample) ∧
    attempt (apply (.ofInt 1) .approved) = (.error (.unknownState .lesson .approved), .sample) ∧
    attempt (apply (.ofInt 9) .ongoing) = (.error (.itemNotFound (.ofInt 9)), .sample) := by
  intro attempt
  have decided (id next) := transitions_follow_blueprints (fun _ _ => .error (.unavailable ""))
    (w := .sample) rfl (by decide) id next
  have planned (next) :=
    (decided (.ofInt 1) next).1 _ .lesson 1 .planned rfl List.mem_cons_self rfl rfl
  refine ⟨?_, (planned _).2 _ |>.refuses (by decide), (planned _).1.refuses (by decide),
    (planned _).1.refuses (by decide), ((decided _ _).2 rfl).1⟩
  obtain ⟨w', moved, -, items⟩ := (planned .ongoing).1.moves rfl
  exact ⟨w', moved, items _⟩

end Engine

end Tutoring
