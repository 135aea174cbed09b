import Tutoring.Proofs.Catalog

/-!
# Provisioned machines and their blueprints

The machines and edges of a catalog are those of the blueprints that it was made from.

* `Catalog.mem_machines_ofBlueprints`, `Catalog.hasEdge_ofBlueprints`: the machines and the edges,
  each with a blueprint and its place.
* `Blueprint.eq_of_number`: fewer than `Id.limit` blueprints have different numbers. Then a machine
  has the edges and the states of its blueprint and no others (`Catalog.hasEdge_iff_allows`,
  `Catalog.stateOf?_ofBlueprints`).
-/

namespace Tutoring

namespace Id

variable {entity : Entity}

/-- Natural numbers below this one have record numbers of their own. -/
def limit : Nat := 9223372036854775808

theorem ofInt_injective {m n : Nat} (hm : m < limit) (hn : n < limit)
    (h : (ofInt m : Id entity) = ofInt n) : m = n := by
  unfold limit at hm hn
  have value : Int64.ofInt m = Int64.ofInt n := congrArg Id.value h
  have same : (Int64.ofInt m).toInt = (Int64.ofInt n).toInt := congrArg Int64.toInt value
  rw [Int64.toInt_ofInt_of_le (by omega) (by omega),
    Int64.toInt_ofInt_of_le (by omega) (by omega)] at same
  omega

end Id

variable {blueprints : List Blueprint}

/-- The blueprint stands at a place, counted from 1. -/
def Blueprint.At (blueprints : List Blueprint) (k : Nat) (b : Blueprint) : Prop :=
  (b, k) ∈ blueprints.zipIdx 1

/-- An edge leads to a state of the machine. -/
theorem Blueprint.hasState_of_allows {b : Blueprint} {s t : StateName}
    (h : b.allows s t = true) : b.hasState t = true := by
  have declared : (s, t) ∈ b.edges := of_decide_eq_true h
  simp only [hasState, Bool.or_eq_true, List.any_eq_true, decide_eq_true_eq]
  exact .inr ⟨_, declared, .inr rfl⟩

/-- The number of a machine tells its blueprint. -/
theorem Blueprint.eq_of_number {b b' : Blueprint} {k k' : Nat}
    (few : blueprints.length < Id.limit) (h : Blueprint.At blueprints k b)
    (h' : Blueprint.At blueprints k' b') (number : (Id.ofInt k : MachineId) = .ofInt k') : b = b' := by
  have small : ∀ x ∈ blueprints.zipIdx 1, x.2 < Id.limit := by
    intro x hx
    have lt := List.snd_lt_of_mem_zipIdx hx
    omega
  obtain rfl : k = k' := Id.ofInt_injective (small _ h) (small _ h') number
  have there := (List.mk_mem_zipIdx_iff_le_and_getElem?_sub.1 h).2
  have there' := (List.mk_mem_zipIdx_iff_le_and_getElem?_sub.1 h').2
  exact Option.some.inj (there.symm.trans there')

namespace Catalog

theorem mem_machines_ofBlueprints {m : Machine} :
    m ∈ (ofBlueprints blueprints).machines ↔
      ∃ b k, Blueprint.At blueprints k b ∧ m = ⟨.ofInt k, b.name, b.start.id⟩ := by
  unfold ofBlueprints Blueprint.At
  constructor
  · intro h
    obtain ⟨⟨b, k⟩, hb, rfl⟩ := List.mem_map.1 h
    exact ⟨b, k, hb, rfl⟩
  · rintro ⟨b, k, hb, rfl⟩
    exact List.mem_map.2 ⟨(b, k), hb, rfl⟩

theorem mem_edgesOf {machine : MachineId} {e : StateName × StateName} :
    (machine, e) ∈ edgesOf blueprints ↔
      ∃ b k, Blueprint.At blueprints k b ∧ machine = .ofInt k ∧ e ∈ b.edges := by
  unfold edgesOf Blueprint.At
  constructor
  · intro h
    obtain ⟨⟨b, k⟩, hb, he⟩ := List.mem_flatMap.1 h
    obtain ⟨e', he', heq⟩ := List.mem_map.1 he
    obtain ⟨rfl, rfl⟩ := Prod.mk.inj heq
    exact ⟨b, k, hb, rfl, he'⟩
  · rintro ⟨b, k, hb, rfl, he⟩
    exact List.mem_flatMap.2 ⟨(b, k), hb, List.mem_map.2 ⟨e, he, rfl⟩⟩

/-- The edges of a machine are those of the blueprints with its number. -/
theorem hasEdge_ofBlueprints {machine : MachineId} {s t : StateId} :
    (ofBlueprints blueprints).hasEdge machine s t = true ↔
      ∃ b k, Blueprint.At blueprints k b ∧ machine = .ofInt k ∧
        ∃ e ∈ b.edges, (s, t) = (e.1.id, e.2.id) := by
  unfold hasEdge ofBlueprints
  constructor
  · intro h
    obtain ⟨t', ht, found⟩ := List.any_eq_true.1 h
    obtain ⟨⟨⟨machine', e⟩, n⟩, hn, rfl⟩ := List.mem_map.1 ht
    obtain ⟨b, k, hb, rfl, he⟩ := mem_edgesOf.1 (List.fst_mem_of_mem_zipIdx hn)
    simp only [Bool.and_eq_true, decide_eq_true_eq] at found
    obtain ⟨⟨rfl, rfl⟩, rfl⟩ := found
    exact ⟨b, k, hb, rfl, e, he, rfl⟩
  · rintro ⟨b, k, hb, rfl, e, he, heq⟩
    obtain ⟨rfl, rfl⟩ := Prod.mk.inj heq
    have declared : ((.ofInt k, e) : MachineId × StateName × StateName) ∈ edgesOf blueprints :=
      mem_edgesOf.2 ⟨b, k, hb, rfl, he⟩
    obtain ⟨n, hn⟩ := List.mem_iff_getElem?.1 declared
    have numbered := List.mk_add_mem_zipIdx_iff_getElem? (k := 1).2 hn
    refine List.any_eq_true.2 ⟨_, List.mem_map.2 ⟨_, numbered, rfl⟩, ?_⟩
    simp

/-- A blueprint declares no edge that the machine of its number does not have. -/
theorem allows_eq_false {b : Blueprint} {k : Nat} {s t : StateName}
    (at_k : Blueprint.At blueprints k b)
    (absent : (ofBlueprints blueprints).hasEdge (.ofInt k) s.id t.id = false) :
    b.allows s t = false := by
  refine Bool.eq_false_iff.2 fun allowed => ?_
  have declared : (ofBlueprints blueprints).hasEdge (.ofInt k) s.id t.id = true :=
    hasEdge_ofBlueprints.2 ⟨b, k, at_k, rfl, _, of_decide_eq_true allowed, rfl⟩
  exact nomatch declared.symm.trans absent

/-- A machine that has an edge is there. -/
theorem machine?_of_hasEdge {machine : MachineId} {s t : StateId}
    (edge : (ofBlueprints blueprints).hasEdge machine s t = true) :
    ∃ m, (ofBlueprints blueprints).machine? machine = some m := by
  obtain ⟨b, k, at_k, rfl, -⟩ := hasEdge_ofBlueprints.1 edge
  refine Option.isSome_iff_exists.1 (List.find?_isSome.2 ⟨⟨.ofInt k, b.name, b.start.id⟩, ?_, ?_⟩)
  · exact mem_machines_ofBlueprints.2 ⟨b, k, at_k, rfl⟩
  · simp

section Numbered

variable {b : Blueprint} {k : Nat} {s t n : StateName} (few : blueprints.length < Id.limit)
  (at_k : Blueprint.At blueprints k b)

include few at_k

/-- The machine of a number is that of the blueprint in its place. -/
theorem machine?_ofBlueprints :
    (ofBlueprints blueprints).machine? (.ofInt k) = some ⟨.ofInt k, b.name, b.start.id⟩ := by
  have there : ((ofBlueprints blueprints).machines.find? (·.id = .ofInt k)).isSome = true := by
    refine List.find?_isSome.2 ⟨_, mem_machines_ofBlueprints.2 ⟨b, k, at_k, rfl⟩, ?_⟩
    simp
  obtain ⟨m, found⟩ := Option.isSome_iff_exists.1 there
  obtain ⟨b', k', at_k', rfl⟩ := mem_machines_ofBlueprints.1 (List.mem_of_find?_eq_some found)
  have number : (Id.ofInt k' : MachineId) = .ofInt k := by simpa using List.find?_some found
  obtain rfl := Blueprint.eq_of_number few at_k at_k' number.symm
  rw [← number]
  rw [← number] at found
  exact found

/-- The machine has the edges that its blueprint declares. -/
theorem hasEdge_iff_allows :
    (ofBlueprints blueprints).hasEdge (.ofInt k) s.id t.id = true ↔ b.allows s t = true := by
  constructor
  · intro edge
    obtain ⟨b', k', at_k', number, e, declared, ends⟩ := hasEdge_ofBlueprints.1 edge
    obtain rfl := Blueprint.eq_of_number few at_k at_k' number
    obtain ⟨source, target⟩ := Prod.mk.inj ends
    rw [StateName.id_injective source, StateName.id_injective target]
    exact decide_eq_true declared
  · intro allowed
    exact hasEdge_ofBlueprints.2 ⟨b, k, at_k, rfl, _, of_decide_eq_true allowed, rfl⟩

/-- The machine has the states that its blueprint names. -/
theorem stateOf?_ofBlueprints :
    (ofBlueprints blueprints).stateOf? (.ofInt k) n =
      if b.hasState n then some (.ofName n) else none := by
  have touched : (∃ s t, (ofBlueprints blueprints).hasEdge (.ofInt k) s t = true ∧
      (s = n.id ∨ t = n.id)) ↔ ∃ e ∈ b.edges, n = e.1 ∨ n = e.2 := by
    constructor
    · rintro ⟨s, t, edge, touches⟩
      obtain ⟨b', k', at_k', number, e, declared, ends⟩ := hasEdge_ofBlueprints.1 edge
      obtain rfl := Blueprint.eq_of_number few at_k at_k' number
      obtain ⟨rfl, rfl⟩ := Prod.mk.inj ends
      refine ⟨e, declared, touches.imp ?_ ?_⟩
      · exact fun h => (StateName.id_injective h).symm
      · exact fun h => (StateName.id_injective h).symm
    · rintro ⟨e, declared, touches⟩
      refine ⟨e.1.id, e.2.id, hasEdge_ofBlueprints.2 ⟨b, k, at_k, rfl, e, declared, rfl⟩, ?_⟩
      exact touches.imp (fun h => congrArg StateName.id h.symm) fun h => congrArg StateName.id h.symm
  have start : b.start.id = n.id ↔ n = b.start :=
    ⟨fun h => (StateName.id_injective h).symm, fun h => congrArg StateName.id h.symm⟩
  have known : (decide (b.start.id = n.id) || (ofBlueprints blueprints).transitions.any fun t =>
      decide (t.machine = .ofInt k) && (decide (t.source = n.id) || decide (t.target = n.id))) =
        b.hasState n := by
    rw [Bool.eq_iff_iff, Bool.or_eq_true, any_touches_iff, touched]
    simp [Blueprint.hasState, start]
  simp only [stateOf?, machine?_ofBlueprints few at_k, Option.bind_eq_bind, Option.bind_some, known]

end Numbered

end Catalog

end Tutoring
