import Tutoring.Machine.Catalog

/-!
# Looking things up in a catalog

States are shown by their names and stored by their numbers, and a machine is asked about its edges
in several ways. They agree.

* `State.id_eq_of_ofId?`, `State.ofId?_id`: the number of a state and its name.
* `Catalog.stateOf?_of_hasEdge`: what an edge leads to is a state of the machine.
* `Catalog.mem_nextStates_iff`: the names that a machine shows are the ends of its edges.
-/

namespace Tutoring

variable {c : Catalog} {machine : MachineId} {m : Machine} {source : StateId} {n : StateName}
  {state : State}

/-- States with one number have one name. -/
theorem StateName.id_injective {m n : StateName} (h : m.id = n.id) : m = n := by
  revert h
  cases m <;> cases n <;> decide

/-- A state of the catalog has the number of its name. -/
theorem State.id_eq_of_ofId? {id : StateId} (h : State.ofId? id = some state) :
    state.id = id ∧ id = state.name.id := by
  unfold State.ofId? at h
  have hid : state.id = id := by simpa using List.find?_some h
  obtain ⟨n, -, rfl⟩ := List.mem_map.1 (List.mem_of_find?_eq_some h)
  exact ⟨hid, hid.symm⟩

theorem State.eq_ofName_of_ofId? {id : StateId} (h : State.ofId? id = some state) :
    state = .ofName state.name := by
  obtain ⟨id_eq, name_eq⟩ := State.id_eq_of_ofId? h
  exact congrArg (State.mk · state.name) (id_eq.trans name_eq)

theorem State.ofId?_id (n : StateName) : State.ofId? n.id = some (.ofName n) := by
  cases n <;> rfl

namespace Catalog

theorem id_of_machine? (h : c.machine? machine = some m) : m.id = machine := by
  simpa using List.find?_some h

/-- A machine has a state by its own name only. -/
theorem eq_of_stateOf? (h : c.stateOf? machine n = some state) : state = .ofName n := by
  unfold stateOf? at h
  cases hm : c.machine? machine with
  | none => simp [hm] at h
  | some m =>
    simp only [hm, Option.bind_eq_bind, Option.bind_some] at h
    split at h
    · exact (Option.some.inj h).symm
    · cases h

/-- An edge of the machine has an end at a state. -/
theorem any_touches_iff {id : StateId} :
    (c.transitions.any fun t => decide (t.machine = machine) &&
      (decide (t.source = id) || decide (t.target = id))) = true ↔
      ∃ s t, c.hasEdge machine s t = true ∧ (s = id ∨ t = id) := by
  unfold hasEdge
  simp only [List.any_eq_true, Bool.and_eq_true, Bool.or_eq_true, decide_eq_true_eq]
  constructor
  · rintro ⟨t, declared, own, touches⟩
    exact ⟨t.source, t.target, ⟨t, declared, ⟨own, rfl⟩, rfl⟩, touches⟩
  · rintro ⟨_, _, ⟨t, declared, ⟨own, rfl⟩, rfl⟩, touches⟩
    exact ⟨t, declared, own, touches⟩

/-- What an edge leads to is a state of the machine. -/
theorem stateOf?_of_hasEdge (found : c.machine? machine = some m)
    (edge : c.hasEdge machine source n.id = true) : c.stateOf? machine n = some (.ofName n) := by
  have touches := any_touches_iff.2 ⟨source, n.id, edge, .inr rfl⟩
  simp [stateOf?, found, touches]

/-- The next states are those that an edge leads to. -/
theorem mem_nextStates_iff :
    n ∈ (c.nextStates machine source).map (·.name) ↔ c.hasEdge machine source n.id = true := by
  unfold nextStates hasEdge
  rw [List.any_eq_true]
  constructor
  · intro h
    obtain ⟨state, hs, rfl⟩ := List.mem_map.1 h
    obtain ⟨t, ht, known⟩ := List.mem_filterMap.1 hs
    obtain ⟨declared, leads⟩ := List.mem_filter.1 ht
    have target := (State.id_eq_of_ofId? known).2
    exact ⟨t, declared, by simpa [target] using leads⟩
  · rintro ⟨t, declared, h⟩
    simp only [Bool.and_eq_true, decide_eq_true_eq] at h
    obtain ⟨leads, target⟩ := h
    refine List.mem_map.2 ⟨.ofName n, List.mem_filterMap.2 ⟨t, ?_, ?_⟩, rfl⟩
    · exact List.mem_filter.2 ⟨declared, by simpa using leads⟩
    · rw [target]
      exact State.ofId?_id n

end Catalog

end Tutoring
