import Tutoring.Proofs.Reading

/-!
# The members of an object

An object is a list of members, each with a name and the text that its value is read from. This does
not depend on who reads it, nor on what the values are wanted for: they only have to be well formed.

* `Members`: the members of an object, up to its closing brace. A text has only one list of them
  (`Members.unique`), and is passed over behind them (`Members.run`).
* `Given`: a value is given by just one member of a name.
* `IsObject`: a text is an object with these members.
-/

namespace Tutoring.Json

/-- The name of a member, and the text that its value is read from. -/
abbrev Member := String × List Char

/-- A name starts behind its opening quote. The first member has no comma in front of it. -/
inductive MemberStart : (first : Bool) → List Char → List Char → Prop
  | first {s t : List Char} (quote : skipSpace s = '"' :: t) : MemberStart true s t
  | other {s t u : List Char} (comma : skipSpace s = ',' :: u) (quote : skipSpace u = '"' :: t) :
      MemberStart false s t

/-- The members of an object up to its closing brace, and the text behind it. -/
inductive Members : (first : Bool) → List Char → List Member → List Char → Prop
  | done {first : Bool} {s rest : List Char} (brace : skipSpace s = '\x7d' :: rest) :
      Members first s [] rest
  | cons {first : Bool} {s s₁ s₂ text s₃ rest : List Char} {name : String} {ms : List Member}
      (start : MemberStart first s s₁) (named : stringFrom [] s₁ = .ok (name, s₂))
      (value : colon s₂ = .ok text) (skip : skipValue text = .ok s₃)
      (others : Members false s₃ ms rest) : Members first s ((name, text) :: ms) rest

section Unique

variable {first : Bool} {s t t' rest rest' : List Char} {ms ms' : List Member}

/-- Where a member starts, only one name starts. -/
theorem MemberStart.unique (h : MemberStart first s t) (h' : MemberStart first s t') : t' = t := by
  cases h with
  | first quote =>
    obtain ⟨quote'⟩ := h'
    exact (List.cons.inj (quote'.symm.trans quote)).2
  | other comma quote =>
    obtain ⟨⟩ | ⟨comma', quote'⟩ := h'
    obtain rfl := (List.cons.inj (comma'.symm.trans comma)).2
    exact (List.cons.inj (quote'.symm.trans quote)).2

/-- Where a member starts, the object does not end. -/
theorem MemberStart.not_brace (h : MemberStart first s t) : skipSpace s ≠ '\x7d' :: rest := by
  intro brace
  cases h with
  | first quote => exact nomatch quote.symm.trans brace
  | other comma => exact nomatch comma.symm.trans brace

/-- A text has one list of members, and one rest behind their closing brace. -/
theorem Members.unique (h : Members first s ms rest) (h' : Members first s ms' rest') :
    ms' = ms ∧ rest' = rest := by
  induction h generalizing ms' with
  | done brace =>
    cases h' with
    | done brace' => exact ⟨rfl, (List.cons.inj (brace'.symm.trans brace)).2⟩
    | cons start => exact absurd brace start.not_brace
  | cons start named value skip _ ih =>
    cases h' with
    | done brace => exact absurd brace start.not_brace
    | cons start' named' value' skip' others' =>
      obtain rfl := start.unique start'
      obtain ⟨rfl, rfl⟩ := Prod.mk.inj (Except.ok.inj (named'.symm.trans named))
      obtain rfl := Except.ok.inj (value'.symm.trans value)
      obtain rfl := Except.ok.inj (skip'.symm.trans skip)
      obtain ⟨rfl, rfl⟩ := ih others'
      exact ⟨rfl, rfl⟩

end Unique

/-! ## How much text a member takes -/

section Length

variable {first : Bool} {s t rest : List Char} {ms : List Member}

theorem length_skipSpace_le (s : List Char) : (skipSpace s).length ≤ s.length :=
  (List.dropWhile_suffix isSpace).length_le

/-- What is left behind a value is no longer than the text. -/
theorem Scanner.length_le_of_run {place : Place} {stack : List Frame}
    (h : run place stack s = .ok rest) : rest.length ≤ s.length := by
  induction s generalizing place stack with
  | nil =>
    have h : atEnd place stack = .ok rest := h
    unfold atEnd at h
    repeat' split at h
    all_goals first
      | exact (Except.ok.inj h) ▸ Nat.le_refl _
      | cases h
  | cons c s ih =>
    rw [run_cons] at h
    rw [List.length_cons]
    split at h
    · exact Nat.le_succ_of_le (ih h)
    · exact Except.ok.inj h ▸ Nat.le_succ _
    · exact Except.ok.inj h ▸ Nat.le_refl _
    · cases h

theorem length_le_of_stringFrom {before : List Char} {name : String}
    (h : stringFrom before s = .ok (name, rest)) : rest.length ≤ s.length := by
  have passed : Scanner.run (.string false) [] s = .ok rest := Scanner.run_string false h
  exact Scanner.length_le_of_run passed

/-- A colon is taken off the text. -/
theorem length_lt_of_colon (h : colon s = .ok t) : t.length < s.length := by
  have shorter := length_skipSpace_le s
  unfold colon at h
  split at h
  · rename_i t' start
    obtain rfl := Except.ok.inj h
    rw [start, List.length_cons] at shorter
    exact shorter
  · cases h
  · cases h

theorem MemberStart.length_lt (h : MemberStart first s t) : t.length < s.length := by
  have shorter := length_skipSpace_le s
  cases h with
  | first quote =>
    rw [quote, List.length_cons] at shorter
    exact shorter
  | @other _ _ u comma quote =>
    have behind := length_skipSpace_le u
    rw [comma, List.length_cons] at shorter
    rw [quote, List.length_cons] at behind
    omega

/-- A text has more characters than members, so a bound on their number is never reached. -/
theorem Members.length_lt (h : Members first s ms rest) : ms.length < s.length := by
  induction h with
  | @done _ s rest brace =>
    have shorter := length_skipSpace_le s
    rw [brace, List.length_cons] at shorter
    rw [List.length_nil]
    omega
  | cons start named value skip _ ih =>
    have := start.length_lt
    have := length_le_of_stringFrom named
    have := length_lt_of_colon value
    have := Scanner.length_le_of_run skip
    rw [List.length_cons]
    omega

end Length

/-! ## Passing over an object -/

section Run

variable {first : Bool} {s t rest : List Char} {ms : List Member}

/-- Where the scanner stands before a member of an object. -/
def beforeMember (first : Bool) : Scanner.Place := if first then .firstKey else .next

theorem isBetween_beforeMember (first : Bool) : (beforeMember first).isBetween = true := by
  cases first <;> rfl

/-- The scanner comes to the next name where a reader does. -/
theorem MemberStart.run (h : MemberStart first s t) :
    Scanner.run (beforeMember first) [.object] s = Scanner.run (.string true) [.object] t := by
  rw [← Scanner.run_skipSpace (isBetween_beforeMember first)]
  cases h with
  | first quote =>
    rw [quote]
    exact Scanner.run_of_move rfl
  | @other _ _ u comma quote =>
    calc Scanner.run .next [.object] (skipSpace s)
        = Scanner.run .key [.object] u := by rw [comma]; exact Scanner.run_of_move rfl
      _ = Scanner.run .key [.object] (skipSpace u) := (Scanner.run_skipSpace rfl u).symm
      _ = Scanner.run (.string true) [.object] t := by rw [quote]; exact Scanner.run_of_move rfl

theorem run_colon {stack : List Scanner.Frame} (h : colon s = .ok t) :
    Scanner.run .colon stack s = Scanner.run .value stack t := by
  rw [← Scanner.run_skipSpace rfl]
  unfold colon at h
  split at h
  · rename_i start
    obtain rfl := Except.ok.inj h
    rw [start]
    exact Scanner.run_of_move rfl
  · cases h
  · cases h

/-- An object is passed over up to the closing brace behind its members. -/
theorem Members.run (h : Members first s ms rest) :
    Scanner.run (beforeMember first) [.object] s = .ok rest := by
  induction h with
  | @done first s rest brace =>
    rw [← Scanner.run_skipSpace (isBetween_beforeMember first), brace]
    cases first <;> rfl
  | @cons first s s₁ s₂ text s₃ rest name ms start named value skip _ ih =>
    calc Scanner.run (beforeMember first) [.object] s
        = Scanner.run (.string true) [.object] s₁ := start.run
      _ = Scanner.run .colon [.object] s₂ := Scanner.run_string true named
      _ = Scanner.run .value [.object] text := run_colon value
      _ = Scanner.resume [.object] s₃ := Scanner.run_append skip
      _ = .ok rest := ih

end Run

/-! ## Members by their name -/

/-- The texts of the members of a name. -/
def textsOf (name : String) (ms : List Member) : List (List Char) :=
  ms.filterMap fun m => if m.1 = name then some m.2 else none

section Texts

variable {name : String} {m : Member} {ms : List Member}

@[simp] theorem textsOf_nil : textsOf name [] = [] := rfl

theorem textsOf_cons_of_eq (h : m.1 = name) : textsOf name (m :: ms) = m.2 :: textsOf name ms :=
  List.filterMap_cons_some (if_pos h)

/-- A name has no texts just when no member has it. -/
theorem textsOf_eq_nil_iff : textsOf name ms = [] ↔ name ∉ ms.map Prod.fst := by
  constructor
  · intro never named
    obtain ⟨m, mem, rfl⟩ := List.mem_map.1 named
    exact nomatch (if_pos rfl).symm.trans (List.filterMap_eq_nil_iff.1 never m mem)
  · intro new
    refine List.filterMap_eq_nil_iff.2 fun m mem => if_neg ?_
    rintro rfl
    exact new (List.mem_map_of_mem mem)

theorem textsOf_cons_of_ne (h : m.1 ≠ name) : textsOf name (m :: ms) = textsOf name ms :=
  List.filterMap_cons_none (if_neg h)

end Texts

/-- The reader reads the value from the start of the text. -/
def Reads {α : Type} (r : Reader α) (text : List Char) (a : α) : Prop :=
  ∃ rest, r text = .ok (a, rest)

/-- Just one member has the name, and the reader reads the value from its text. -/
def Given {α : Type} (name : String) (r : Reader α) (ms : List Member) (a : α) : Prop :=
  ∃ text, textsOf name ms = [text] ∧ Reads r text a

/-- Only one value is given under a name. -/
theorem Given.unique {α : Type} {name : String} {r : Reader α} {ms : List Member} {a b : α}
    (h : Given name r ms a) (h' : Given name r ms b) : a = b := by
  obtain ⟨text, once, rest, reads⟩ := h
  obtain ⟨text', once', rest', reads'⟩ := h'
  obtain rfl : text' = text := (List.cons.inj (once'.symm.trans once)).1
  exact (Prod.mk.inj (Except.ok.inj (reads.symm.trans reads'))).1

/-! ## Texts that are objects -/

section Whole

variable {s : String} {ms ms' : List Member}

/-- The text is an object with these members, and nothing else. -/
def IsObject (s : String) (ms : List Member) : Prop :=
  ∃ body rest, skipSpace s.toList = '\x7b' :: body ∧ Members true body ms rest ∧
    skipSpace rest = []

/-- A text is an object with one list of members. -/
theorem IsObject.unique (h : IsObject s ms) (h' : IsObject s ms') : ms' = ms := by
  obtain ⟨body, rest, brace, members, -⟩ := h
  obtain ⟨body', rest', brace', members', -⟩ := h'
  obtain rfl := (List.cons.inj (brace'.symm.trans brace)).2
  exact (members.unique members').1

end Whole

end Tutoring.Json
