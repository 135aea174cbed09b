import Mathlib.Data.List.Nodup
import Tutoring.Proofs.Provision

/-!
# Provisioning preserves blueprints

A blueprint gives its edges by the names of their states. Provisioned machines share one table of
edges by numbers. Nothing is lost on the way, and machines do not mix: the rows of a machine are the
edges of its blueprint, in their order.

* `Catalog.edgesOf_own`: the rows of one machine.
* `Catalog.Presents`: a machine answers as its blueprint says.
* `provisioning_preserves_blueprints`: every machine does so, whatever the other blueprints are.
-/

namespace Tutoring

variable {blueprints : List Blueprint} {b b' : Blueprint} {i j : Nat}

namespace Blueprint

/-- The ends of the edges that lead out of a state, in the order of their declaration. -/
def targets (b : Blueprint) (source : StateName) : List StateName :=
  (b.edges.filter fun e => e.1 = source).map (·.2)

theorem at_succ_iff : Blueprint.At blueprints (i + 1) b ↔ blueprints[i]? = some b := by
  rw [Blueprint.At, Nat.add_comm]
  exact List.mk_add_mem_zipIdx_iff_getElem?

theorem at_iff {k : Nat} :
    Blueprint.At blueprints k b ↔ ∃ i, k = i + 1 ∧ blueprints[i]? = some b := by
  cases k with
  | zero =>
    refine ⟨fun h => ?_, nofun⟩
    exact absurd (List.mk_mem_zipIdx_iff_le_and_getElem?_sub.1 h).1 (by decide)
  | succ i =>
    rw [at_succ_iff]
    refine ⟨fun h => ⟨i, rfl, h⟩, ?_⟩
    rintro ⟨_, same, h⟩
    rwa [Nat.succ.inj same]

theorem mem_states_iff {n : StateName} : n ∈ b.states ↔ b.hasState n = true := by
  simp [states, StateName.mem_all]

/-- No edge is declared twice in what `make` accepts. -/
theorem nodup_edges_of_make (h : make b.name b.start b.edges = .ok b) : b.edges.Nodup := by
  have fresh {seen edges : List (StateName × StateName)} (h : firstRepeated? seen edges = none) :
      edges.Nodup ∧ ∀ e ∈ edges, e ∉ seen := by
    induction edges generalizing seen with
    | nil => exact ⟨List.nodup_nil, nofun⟩
    | cons e edges ih =>
      unfold firstRepeated? at h
      split at h
      · cases h
      · rename_i new
        obtain ⟨nodup, unseen⟩ := ih h
        refine ⟨List.nodup_cons.2 ⟨fun again => ?_, nodup⟩, List.forall_mem_cons.2 ⟨new, ?_⟩⟩
        · exact unseen e again List.mem_cons_self
        · exact fun d hd old => unseen d hd (List.mem_cons_of_mem e old)
  unfold make at h
  split at h
  · cases h
  · rename_i none_repeated
    exact (fresh none_repeated).1

theorem nodup_targets (h : b.edges.Nodup) (n : StateName) : (b.targets n).Nodup := by
  refine List.Nodup.map_on ?_ (h.filter _)
  intro e he d hd same
  have source : e.1 = n := of_decide_eq_true (List.mem_filter.1 he).2
  have source' : d.1 = n := of_decide_eq_true (List.mem_filter.1 hd).2
  exact Prod.ext (source.trans source'.symm) same

/-- No edge leads out of the terminal states, and out of all others one does. -/
theorem targets_eq_nil_iff {n : StateName} (known : n ∈ b.states) :
    b.targets n = [] ↔ n ∈ b.terminalStates := by
  unfold targets terminalStates
  simp [List.mem_filter, known]

end Blueprint

namespace Catalog

/-- The rows of blueprints that are numbered from `n` on. -/
def rowsFrom (n : Nat) (blueprints : List Blueprint) : List (MachineId × StateName × StateName) :=
  (blueprints.zipIdx n).flatMap fun (b, k) => b.edges.map fun e => (.ofInt k, e)

theorem rowsFrom_append (n : Nat) (before after : List Blueprint) :
    rowsFrom n (before ++ b :: after) = rowsFrom n before ++
      (b.edges.map fun e => (.ofInt ↑(n + before.length), e)) ++
        rowsFrom (n + before.length + 1) after := by
  simp [rowsFrom, List.zipIdx_append, List.zipIdx_cons]

/-- A machine has no rows among those of blueprints with other numbers. -/
theorem filter_rowsFrom_eq_nil {n k : Nat} (few : n + blueprints.length ≤ Id.limit)
    (small : k < Id.limit) (other : k < n ∨ n + blueprints.length ≤ k) :
    (rowsFrom n blueprints).filter (fun row => row.1 = .ofInt k) = [] := by
  refine List.filter_eq_nil_iff.2 fun row hrow same => ?_
  obtain ⟨⟨b', k'⟩, hk, hrow⟩ := List.mem_flatMap.1 hrow
  obtain ⟨e, -, rfl⟩ := List.mem_map.1 hrow
  have lower : n ≤ k' := List.le_snd_of_mem_zipIdx hk
  have upper : k' < blueprints.length + n := List.snd_lt_of_mem_zipIdx hk
  obtain rfl := Id.ofInt_injective (by omega) small (of_decide_eq_true same)
  omega

/-- The rows of a machine are the edges of its blueprint. -/
theorem edgesOf_own (few : blueprints.length < Id.limit) (there : blueprints[i]? = some b) :
    (edgesOf blueprints).filter (fun row => row.1 = .ofInt ↑(i + 1)) =
      b.edges.map fun e => (.ofInt ↑(i + 1), e) := by
  obtain ⟨inside, rfl⟩ := List.getElem?_eq_some_iff.1 there
  have split : blueprints =
      blueprints.take i ++ blueprints[i] :: blueprints.drop (i + 1) := by simp
  have place : (blueprints.take i).length = i := List.length_take_of_le (Nat.le_of_lt inside)
  have rows := rowsFrom_append (b := blueprints[i]) 1 (blueprints.take i) (blueprints.drop (i + 1))
  rw [← split, place, Nat.add_comm 1 i] at rows
  calc (edgesOf blueprints).filter (fun row => row.1 = .ofInt ↑(i + 1))
      = (blueprints[i].edges.map fun e => (Id.ofInt ↑(i + 1), e)).filter
          (fun row => row.1 = .ofInt ↑(i + 1)) := by
        show (rowsFrom 1 blueprints).filter _ = _
        rw [rows, List.filter_append, List.filter_append, filter_rowsFrom_eq_nil,
          filter_rowsFrom_eq_nil, List.nil_append, List.append_nil]
        all_goals simp only [List.length_take, List.length_drop] at *; omega
    _ = blueprints[i].edges.map fun e => (.ofInt ↑(i + 1), e) :=
      List.filter_eq_self.2 fun row hrow => by
        obtain ⟨e, -, rfl⟩ := List.mem_map.1 hrow
        exact decide_eq_true rfl

/-- The states that edges lead on to, read off the rows of all blueprints. -/
theorem nextStates_ofBlueprints (machine : MachineId) (source : StateId) :
    (ofBlueprints blueprints).nextStates machine source =
      (((edgesOf blueprints).filter fun row => row.1 = machine).filter
        fun row => row.2.1.id = source).map fun row => .ofName row.2.2 := by
  -- The numbers of the edges do not matter.
  have each (rows : List (MachineId × StateName × StateName)) (n : Nat) :
      (((rows.zipIdx n).map fun x =>
        (⟨.ofInt x.2, x.1.1, x.1.2.1.id, x.1.2.2.id⟩ : Transition)).filter fun t =>
          t.machine = machine && t.source = source).filterMap (fun t => State.ofId? t.target) =
      ((rows.filter fun row => row.1 = machine).filter fun row => row.2.1.id = source).map
        fun row => .ofName row.2.2 := by
    induction rows generalizing n with
    | nil => rfl
    | cons row rows ih =>
      rw [List.zipIdx_cons, List.map_cons]
      by_cases own : row.1 = machine <;> by_cases leads : row.2.1.id = source <;>
        simp [own, leads, ih, State.ofId?_id]
  exact each _ 1

/-- The states that a machine leads on to are the targets in its blueprint. -/
theorem nextStates_own (few : blueprints.length < Id.limit) (there : blueprints[i]? = some b)
    (source : StateId) :
    (ofBlueprints blueprints).nextStates (.ofInt ↑(i + 1)) source =
      (b.edges.filter fun e => e.1.id = source).map fun e => .ofName e.2 := by
  rw [nextStates_ofBlueprints, edgesOf_own few there, List.filter_map, List.map_map]
  rfl

theorem nextStates_eq_targets (few : blueprints.length < Id.limit)
    (there : blueprints[i]? = some b) (source : StateName) :
    (ofBlueprints blueprints).nextStates (.ofInt ↑(i + 1)) source.id =
      (b.targets source).map .ofName := by
  rw [nextStates_own few there, Blueprint.targets, List.map_map]
  have same (e : StateName × StateName) : e.1.id = source.id ↔ e.1 = source :=
    ⟨fun h => StateName.id_injective h, fun h => congrArg StateName.id h⟩
  simp only [same]
  rfl

/-- The edges of a machine are those of its blueprint. -/
theorem hasEdge_own (few : blueprints.length < Id.limit) (there : blueprints[i]? = some b)
    (s t : StateId) :
    (ofBlueprints blueprints).hasEdge (.ofInt ↑(i + 1)) s t =
      b.edges.any fun e => e.1.id = s && e.2.id = t := by
  have at_i := Blueprint.at_succ_iff.2 there
  rw [Bool.eq_iff_iff, hasEdge_ofBlueprints, List.any_eq_true]
  constructor
  · rintro ⟨b', k, at_k, number, e, declared, ends⟩
    obtain rfl := Blueprint.eq_of_number few at_i at_k number
    obtain ⟨rfl, rfl⟩ := Prod.mk.inj ends
    exact ⟨e, declared, by simp⟩
  · rintro ⟨e, declared, ends⟩
    simp only [Bool.and_eq_true, decide_eq_true_eq] at ends
    obtain ⟨rfl, rfl⟩ := ends
    exact ⟨b, i + 1, at_i, rfl, e, declared, rfl⟩

/-! ## One machine -/

/-- A machine of a catalog answers as its blueprint says. -/
structure Presents (c : Catalog) (machine : MachineId) (b : Blueprint) : Prop where
  record : c.machine? machine = some ⟨machine, b.name, b.start.id⟩
  edge : ∀ s t : StateName, c.hasEdge machine s.id t.id = b.allows s t
  state : ∀ n : StateName, c.stateOf? machine n = if n ∈ b.states then some ⟨n.id, n⟩ else none
  next : ∀ n : StateName, c.nextStates machine n.id = (b.targets n).map .ofName
  next_nodup : Blueprint.make b.name b.start b.edges = .ok b →
    ∀ n : StateName, (c.nextStates machine n.id).Nodup
  next_nil : ∀ n ∈ b.states, c.nextStates machine n.id = [] ↔ n ∈ b.terminalStates

theorem presents_ofBlueprints (few : blueprints.length < Id.limit)
    (there : blueprints[i]? = some b) :
    (ofBlueprints blueprints).Presents (.ofInt ↑(i + 1)) b := by
  have at_i := Blueprint.at_succ_iff.2 there
  have next := nextStates_eq_targets few there
  refine ⟨machine?_ofBlueprints few at_i, fun s t => ?_, fun n => ?_, next, fun made n => ?_,
    fun n known => ?_⟩
  · exact Bool.eq_iff_iff.2 (hasEdge_iff_allows few at_i)
  · rw [stateOf?_ofBlueprints few at_i]
    simp only [Blueprint.mem_states_iff]
    rfl
  · rw [next]
    refine (Blueprint.nodup_targets (Blueprint.nodup_edges_of_make made) n).map ?_
    exact fun s t same => congrArg State.name same
  · rw [next, List.map_eq_nil_iff]
    exact Blueprint.targets_eq_nil_iff known

/-! ## Two catalogs -/

/-- An edge is still there if it is not the one that its blueprint has lost. -/
theorem hasEdge_of_hasEdge_set (b' : Blueprint) {e : StateName × StateName} {machine : MachineId}
    {s t : StateId} (there : blueprints[i]? = some b) (kept : ∀ d ∈ b'.edges, d ≠ e → d ∈ b.edges)
    (other : (machine, s, t) ≠ (.ofInt ↑(i + 1), e.1.id, e.2.id))
    (h : (ofBlueprints (blueprints.set i b')).hasEdge machine s t = true) :
    (ofBlueprints blueprints).hasEdge machine s t = true := by
  obtain ⟨c, k, at_k, rfl, d, declared, ends⟩ := hasEdge_ofBlueprints.1 h
  obtain ⟨j, rfl, there'⟩ := Blueprint.at_iff.1 at_k
  by_cases same : i = j
  · subst same
    rw [List.getElem?_set_self (List.getElem?_eq_some_iff.1 there).1] at there'
    obtain rfl := Option.some.inj there'
    have differs : d ≠ e := by
      rintro rfl
      exact other (congrArg (Prod.mk _) ends)
    exact hasEdge_ofBlueprints.2
      ⟨b, i + 1, Blueprint.at_succ_iff.2 there, rfl, d, kept d declared differs, ends⟩
  · rw [List.getElem?_set_ne same] at there'
    exact hasEdge_ofBlueprints.2
      ⟨c, j + 1, Blueprint.at_succ_iff.2 there', rfl, d, declared, ends⟩

/-- Blueprints that differ in one edge make catalogs that differ in one edge. -/
theorem hasEdge_set {e : StateName × StateName} {machine : MachineId} {s t : StateId}
    (there : blueprints[i]? = some b) (agree : ∀ d, d ≠ e → (d ∈ b'.edges ↔ d ∈ b.edges))
    (other : (machine, s, t) ≠ (.ofInt ↑(i + 1), e.1.id, e.2.id)) :
    (ofBlueprints (blueprints.set i b')).hasEdge machine s t =
      (ofBlueprints blueprints).hasEdge machine s t := by
  obtain ⟨inside, rfl⟩ := List.getElem?_eq_some_iff.1 there
  refine Bool.eq_iff_iff.2 ⟨?_, fun h => ?_⟩
  · exact hasEdge_of_hasEdge_set b' there
      (fun d declared differs => (agree d differs).1 declared) other
  · have there' : (blueprints.set i b')[i]? = some b' := List.getElem?_set_self inside
    refine hasEdge_of_hasEdge_set blueprints[i] there'
      (fun d declared differs => (agree d differs).2 declared) other ?_
    rwa [List.set_set, List.set_getElem_self]

/-- The answers of a machine depend on its own blueprint only. -/
structure Alike (c c' : Catalog) (machine : MachineId) : Prop where
  record : c'.machine? machine = c.machine? machine
  edge : ∀ s t, c'.hasEdge machine s t = c.hasEdge machine s t
  state : ∀ n, c'.stateOf? machine n = c.stateOf? machine n
  next : ∀ s, c'.nextStates machine s = c.nextStates machine s

theorem alike_ofBlueprints {blueprints' : List Blueprint} (few : blueprints.length < Id.limit)
    (few' : blueprints'.length < Id.limit) (there : blueprints[i]? = some b)
    (there' : blueprints'[i]? = some b) :
    (ofBlueprints blueprints).Alike (ofBlueprints blueprints') (.ofInt ↑(i + 1)) := by
  have at_i := Blueprint.at_succ_iff.2 there
  have at_i' := Blueprint.at_succ_iff.2 there'
  refine ⟨?_, fun s t => ?_, fun n => ?_, fun s => ?_⟩
  · rw [machine?_ofBlueprints few at_i, machine?_ofBlueprints few' at_i']
  · rw [hasEdge_own few there, hasEdge_own few' there']
  · rw [stateOf?_ofBlueprints few at_i, stateOf?_ofBlueprints few' at_i']
  · rw [nextStates_own few there, nextStates_own few' there']

end Catalog

open Catalog in
/-- **Provisioning preserves blueprints.** In the catalog of any blueprints (a list in memory is
shorter than `Id.limit`) each one is the machine of its place, which answers as the blueprint says.
If the blueprint is replaced by one that has an edge more or less, only the answer for this edge may
become another one; and what stands in other places is never seen through the machine. -/
theorem provisioning_preserves_blueprints (few : blueprints.length < Id.limit)
    (there : blueprints[i]? = some b) :
    (ofBlueprints blueprints).Presents (.ofInt ↑(i + 1)) b ∧
    (∀ b' e, (∀ d, d ≠ e → (d ∈ b'.edges ↔ d ∈ b.edges)) →
      (ofBlueprints (blueprints.set i b')).hasEdge (.ofInt ↑(i + 1)) e.1.id e.2.id =
        b'.allows e.1 e.2 ∧
      ∀ machine s t, (machine, s, t) ≠ (.ofInt ↑(i + 1), e.1.id, e.2.id) →
        (ofBlueprints (blueprints.set i b')).hasEdge machine s t =
          (ofBlueprints blueprints).hasEdge machine s t) ∧
    (∀ blueprints' : List Blueprint, blueprints'.length < Id.limit → blueprints'[i]? = some b →
      (ofBlueprints blueprints).Alike (ofBlueprints blueprints') (.ofInt ↑(i + 1))) := by
  refine ⟨presents_ofBlueprints few there, fun b' e agree => ⟨?_, fun machine s t other => ?_⟩,
    fun blueprints' few' there' => alike_ofBlueprints few few' there there'⟩
  · have inside := (List.getElem?_eq_some_iff.1 there).1
    exact (presents_ofBlueprints (by rwa [List.length_set])
      (List.getElem?_set_self inside)).edge e.1 e.2
  · exact hasEdge_set there agree other

open Catalog in
/-- The second machine has the name and the states of the first one and declares an edge twice. It
leads on to `ongoing` twice, and does not have the edge to `cancelled` of the first. -/
theorem provisioning_preserves_blueprints_twice :
    let again : Blueprint := ⟨.lesson, .planned, [(.planned, .ongoing), (.planned, .ongoing)]⟩
    let more : Blueprint := ⟨.lesson, .planned, (.planned, .cancelled) :: again.edges⟩
    let both := [Blueprint.lesson, again]
    both.length < Id.limit ∧ both[1]? = some again ∧
    (ofBlueprints both).nextStates (.ofInt 2) StateName.planned.id =
      [.ofName .ongoing, .ofName .ongoing] ∧
    (ofBlueprints both).hasEdge (.ofInt 2) StateName.planned.id StateName.cancelled.id = false ∧
    (∀ d, d ≠ (.planned, .cancelled) → (d ∈ more.edges ↔ d ∈ again.edges)) ∧
    (ofBlueprints (both.set 1 more)).hasEdge (.ofInt 2) StateName.planned.id
      StateName.cancelled.id = true ∧
    (ofBlueprints (both.set 1 more)).hasEdge (.ofInt 1) StateName.pending.id StateName.planned.id =
      (ofBlueprints both).hasEdge (.ofInt 1) StateName.pending.id StateName.planned.id := by
  intro again more both
  have few : both.length < Id.limit := by decide
  have there : both[1]? = some again := rfl
  have agree : ∀ d, d ≠ (.planned, .cancelled) → (d ∈ more.edges ↔ d ∈ again.edges) := by
    intro d differs
    exact List.mem_cons.trans (or_iff_right differs)
  obtain ⟨presents, edited, -⟩ := provisioning_preserves_blueprints few there
  obtain ⟨added, kept⟩ := edited more (.planned, .cancelled) agree
  exact ⟨few, there, presents.next .planned, presents.edge .planned .cancelled, agree, added,
    kept _ _ _ (by decide)⟩

end Tutoring
