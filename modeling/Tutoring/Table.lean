/-!
# Tables

Rows under keys, no key twice, in the order in which the keys came first. Each operation is
described by what it does to the row that a key finds.
-/

namespace Tutoring

/-- Rows under different keys. -/
structure Table (κ α : Type) where
  rows : List (κ × α)
  /-- No key comes twice. -/
  nodup : (rows.map (·.1)).Nodup

namespace Table

variable {κ α : Type} [DecidableEq κ]

/-- No rows. -/
def empty : Table κ α := ⟨[], List.nodup_nil⟩

/-- The row under a key. -/
def get? (t : Table κ α) (k : κ) : Option α := t.rows.lookup k

/-- The keys with the given row under one of them. -/
private def setRows (k : κ) (a : α) : List (κ × α) → List (κ × α)
  | [] => [(k, a)]
  | (k', a') :: rows => if k' = k then (k, a) :: rows else (k', a') :: setRows k a rows

private theorem keys_setRows (k : κ) (a : α) (rows : List (κ × α)) :
    (setRows k a rows).map (·.1) =
      if k ∈ rows.map (·.1) then rows.map (·.1) else rows.map (·.1) ++ [k] := by
  induction rows with
  | nil => simp [setRows]
  | cons r rows ih =>
    obtain ⟨k', a'⟩ := r
    by_cases h : k' = k
    · simp [setRows, h]
    · have h' : ¬k = k' := fun e => h e.symm
      by_cases hm : k ∈ rows.map (·.1) <;> simp_all [setRows]

/-- The table with a row under a key, in the place of the row that was there. -/
def insert (t : Table κ α) (k : κ) (a : α) : Table κ α where
  rows := setRows k a t.rows
  nodup := by
    rw [keys_setRows]
    split
    · exact t.nodup
    · rename_i h
      exact List.nodup_append.2 ⟨t.nodup, by simp, by rintro x hx _ hy rfl; simp_all⟩

/-- The table without the row under a key. -/
def erase (t : Table κ α) (k : κ) : Table κ α where
  rows := t.rows.filter (·.1 ≠ k)
  nodup := (t.nodup.sublist (List.filter_sublist.map _))

/-- The table with the row under a key changed, if there is one. -/
def modify (t : Table κ α) (k : κ) (f : α → α) : Table κ α :=
  match t.get? k with
  | some a => t.insert k (f a)
  | none => t

/-- The first row that a test accepts. -/
def find? (t : Table κ α) (p : α → Bool) : Option α := (t.rows.map (·.2)).find? p

/-- The number of rows. -/
def size (t : Table κ α) : Nat := t.rows.length

/-- The table of a list of rows; of rows under one key the last one is kept. -/
def ofList (rows : List (κ × α)) : Table κ α := rows.foldl (fun t r => t.insert r.1 r.2) empty

@[simp] theorem get?_empty (k : κ) : (empty : Table κ α).get? k = none := rfl

private theorem lookup_cons_if (j k : κ) (a : α) (rows : List (κ × α)) :
    ((k, a) :: rows).lookup j = if j = k then some a else rows.lookup j := by
  rw [List.lookup_cons]
  by_cases h : j = k
  · simp [h]
  · rw [beq_false_of_ne h, if_neg h]

private theorem lookup_setRows (k j : κ) (a : α) (rows : List (κ × α)) :
    (setRows k a rows).lookup j = if j = k then some a else rows.lookup j := by
  induction rows with
  | nil => simp [setRows, lookup_cons_if]
  | cons r rows ih =>
    obtain ⟨k', a'⟩ := r
    by_cases h : k' = k
    · subst h
      by_cases hj : j = k' <;> simp [setRows, lookup_cons_if, hj]
    · by_cases hj : j = k
      · subst hj
        have h' : ¬j = k' := fun e => h e.symm
        simp [setRows, lookup_cons_if, h, h', ih]
      · simp [setRows, lookup_cons_if, h, hj, ih]

/-- A row is found under its key, and all others as before. -/
theorem get?_insert (t : Table κ α) (k j : κ) (a : α) :
    (t.insert k a).get? j = if j = k then some a else t.get? j :=
  lookup_setRows k j a t.rows

private theorem lookup_filter_ne (k j : κ) (rows : List (κ × α)) :
    (rows.filter (·.1 ≠ k)).lookup j = if j = k then none else rows.lookup j := by
  induction rows with
  | nil => simp
  | cons r rows ih =>
    obtain ⟨k', a'⟩ := r
    by_cases h : k' = k
    · rw [List.filter_cons_of_neg (by simp [h]), ih, lookup_cons_if, h]
      by_cases hj : j = k <;> simp [hj]
    · rw [List.filter_cons_of_pos (by simp [h]), lookup_cons_if, lookup_cons_if, ih]
      by_cases hj : j = k
      · have h' : ¬k = k' := fun e => h e.symm
        simp [h', hj]
      · simp [hj]

/-- Nothing is found under a key that was erased, and all else as before. -/
theorem get?_erase (t : Table κ α) (k j : κ) :
    (t.erase k).get? j = if j = k then none else t.get? j :=
  lookup_filter_ne k j t.rows

/-- A row is changed under its key, if there is one. -/
theorem get?_modify (t : Table κ α) (k j : κ) (f : α → α) :
    (t.modify k f).get? j = if j = k then (t.get? k).map f else t.get? j := by
  unfold modify
  cases h : t.get? k with
  | none => by_cases hj : j = k <;> simp_all
  | some a => simp [get?_insert]

private theorem setRows_setRows (k : κ) (a b : α) (rows : List (κ × α)) :
    setRows k a (setRows k b rows) = setRows k a rows := by
  induction rows with
  | nil => simp [setRows]
  | cons r rows ih =>
    obtain ⟨k', a'⟩ := r
    by_cases h : k' = k
    · simp [setRows, h]
    · simp [setRows, h, ih]

private theorem setRows_of_lookup {k : κ} {a : α} {rows : List (κ × α)}
    (h : rows.lookup k = some a) : setRows k a rows = rows := by
  induction rows with
  | nil => cases h
  | cons r rows ih =>
    obtain ⟨k', a'⟩ := r
    rw [lookup_cons_if] at h
    by_cases hk : k = k'
    · rw [if_pos hk] at h
      simp [setRows, hk, Option.some.inj h]
    · rw [if_neg hk] at h
      simp [setRows, Ne.symm hk, ih h]

omit [DecidableEq κ] in
private theorem eq_of_rows {t t' : Table κ α} (h : t.rows = t'.rows) : t = t' := by
  cases t
  cases t'
  cases h
  rfl

/-- A key finds the one row under it. -/
theorem get?_eq_some_iff {t : Table κ α} {k : κ} {a : α} :
    t.get? k = some a ↔ (k, a) ∈ t.rows := by
  unfold get?
  rw [List.lookup_eq_some_iff]
  constructor
  · rintro ⟨before, after, split, -⟩
    rw [split]
    exact List.mem_append_right _ List.mem_cons_self
  · intro there
    obtain ⟨before, after, split⟩ := List.append_of_mem there
    refine ⟨before, after, split, fun r hr => bne_iff_ne.2 ?_⟩
    rintro rfl
    have keys := t.nodup
    rw [split, List.map_append, List.map_cons, List.nodup_append] at keys
    exact keys.2.2 _ (List.mem_map_of_mem hr) _ List.mem_cons_self rfl

theorem get?_of_find? {t : Table κ α} {p : α → Bool} {a : α} (h : t.find? p = some a) :
    ∃ k, t.get? k = some a ∧ p a = true := by
  obtain ⟨⟨k, _⟩, row, rfl⟩ := List.mem_map.1 (List.mem_of_find?_eq_some h)
  exact ⟨k, get?_eq_some_iff.2 row, List.find?_some h⟩

/-- Nothing is found just when the test accepts no row. -/
theorem find?_eq_none_iff {t : Table κ α} {p : α → Bool} :
    t.find? p = none ↔ ∀ k a, t.get? k = some a → p a = false := by
  unfold find?
  rw [List.find?_eq_none]
  simp only [get?_eq_some_iff]
  constructor
  · intro refused k a row
    exact Bool.eq_false_iff.2 (refused a (List.mem_map_of_mem row))
  · intro refused a there
    obtain ⟨⟨k, _⟩, row, rfl⟩ := List.mem_map.1 there
    exact Bool.eq_false_iff.1 (refused k _ row)

/-- The row that is put in last is the one that stays. -/
theorem insert_insert (t : Table κ α) (k : κ) (a b : α) :
    (t.insert k b).insert k a = t.insert k a :=
  eq_of_rows (setRows_setRows k a b t.rows)

/-- Nothing changes when the row that is there is put in again. -/
theorem insert_of_get? {t : Table κ α} {k : κ} {a : α} (h : t.get? k = some a) :
    t.insert k a = t :=
  eq_of_rows (setRows_of_lookup h)

theorem modify_insert (t : Table κ α) (k : κ) (a : α) (f : α → α) :
    (t.insert k a).modify k f = t.insert k (f a) := by
  rw [modify, get?_insert, if_pos rfl]
  exact insert_insert t k (f a) a

end Table

end Tutoring
