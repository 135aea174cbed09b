import Tutoring.Proofs.Grammar

/-!
# The members of a written object

A written object has the fields that it was made of as its members, and no others. Each value is
read back by a reader that undoes what it was written by, whatever else the object holds: the reader
only sees the text that the value starts.

* `isObject_render`: the members of a written object are its fields.
* `Reader.Undoes`: a reader takes off what was written for a value, and returns the value.
* `Reader.Undoes.given`: so the value is given by its field.
-/

namespace Tutoring.Json

/-! ## Written objects -/

section Written

variable {rest : List Char}

/-- A written value is passed over. -/
theorem skipValue_chars (v : Json) (ends : Scanner.EndsNumber rest) :
    skipValue (v.chars ++ rest) = .ok rest :=
  skipValue_value (isJson_chars v) ends

/-- What is written behind a field of an object: the other fields, with commas in front. -/
def behindField : List (String × Json) → List Char
  | [] => []
  | fs => ',' :: fieldsChars fs

theorem fieldsChars_cons (k : String) (v : Json) (fs : List (String × Json)) :
    fieldsChars ((k, v) :: fs) = stringChars k ++ ':' :: (v.chars ++ behindField fs) := by
  cases fs with
  | nil => simp [fieldsChars, behindField]
  | cons f fs => simp [fieldsChars, behindField]

theorem endsNumber_behindField (fs : List (String × Json)) :
    Scanner.EndsNumber (behindField fs ++ '\x7d' :: rest) := by
  cases fs with
  | nil => exact endsNumber_cons (by decide)
  | cons f fs => exact endsNumber_cons (by decide)

theorem memberStart_first (k : String) {s : List Char} :
    MemberStart true (stringChars k ++ s) (k.toList.flatMap escape ++ '"' :: s) := by
  rw [stringChars_append]
  exact .first rfl

theorem memberStart_other (k : String) {s : List Char} :
    MemberStart false (',' :: (stringChars k ++ s)) (k.toList.flatMap escape ++ '"' :: s) := by
  rw [stringChars_append]
  exact .other rfl rfl

theorem colon_cons : colon (':' :: rest) = .ok rest := rfl

/-- The members are the fields of a written object, each value followed by the rest of the text. -/
inductive AreFields : List (String × Json) → List Member → Prop
  | nil : AreFields [] []
  | cons {k : String} {v : Json} {behind : List Char} {fs : List (String × Json)}
      {ms : List Member} (ends : Scanner.EndsNumber behind) (others : AreFields fs ms) :
      AreFields ((k, v) :: fs) ((k, v.chars ++ behind) :: ms)

theorem AreFields.names {fs : List (String × Json)} {ms : List Member} (h : AreFields fs ms) :
    ms.map Prod.fst = fs.map Prod.fst := by
  induction h with
  | nil => rfl
  | cons ends others ih => exact congrArg _ ih

/-- The member of a field that comes once. -/
theorem AreFields.textsOf_eq {fs : List (String × Json)} {ms : List Member} (h : AreFields fs ms)
    (nodup : (fs.map Prod.fst).Nodup) {k : String} {v : Json} (mem : (k, v) ∈ fs) :
    ∃ behind, Scanner.EndsNumber behind ∧ textsOf k ms = [v.chars ++ behind] := by
  induction h with
  | nil => cases mem
  | @cons k' v' behind fs ms ends others ih =>
    obtain ⟨new, nodup⟩ := List.nodup_cons.1 nodup
    rcases List.mem_cons.1 mem with same | mem
    · obtain ⟨rfl, rfl⟩ := Prod.mk.inj same
      refine ⟨behind, ends, (textsOf_cons_of_eq rfl).trans ?_⟩
      rw [textsOf_eq_nil_iff.2 (others.names ▸ new)]
    · have other : k' ≠ k := by
        rintro rfl
        exact new (List.mem_map.2 ⟨_, mem, rfl⟩)
      obtain ⟨behind', ends', once⟩ := ih nodup mem
      exact ⟨behind', ends', by rw [textsOf_cons_of_ne other, once]⟩

theorem members_behindField (fs : List (String × Json)) (rest : List Char) :
    ∃ ms, Members false (behindField fs ++ '\x7d' :: rest) ms rest ∧ AreFields fs ms := by
  induction fs with
  | nil => exact ⟨[], .done rfl, .nil⟩
  | cons f fs ih =>
    obtain ⟨k, v⟩ := f
    obtain ⟨ms, members, fields⟩ := ih
    have ends : Scanner.EndsNumber (behindField fs ++ '\x7d' :: rest) := endsNumber_behindField fs
    have written : behindField ((k, v) :: fs) ++ '\x7d' :: rest =
        ',' :: (stringChars k ++ ':' :: (v.chars ++ (behindField fs ++ '\x7d' :: rest))) := by
      simp [behindField, fieldsChars_cons]
    rw [written]
    exact ⟨_, .cons (memberStart_other k) (stringFrom_written k) colon_cons
      (skipValue_chars v ends) members, .cons ends fields⟩

/-- The members of a written object are its fields. -/
theorem members_fieldsChars (fs : List (String × Json)) (rest : List Char) :
    ∃ ms, Members true (fieldsChars fs ++ '\x7d' :: rest) ms rest ∧ AreFields fs ms := by
  cases fs with
  | nil => exact ⟨[], .done rfl, .nil⟩
  | cons f fs =>
    obtain ⟨k, v⟩ := f
    obtain ⟨ms, members, fields⟩ := members_behindField fs rest
    have ends : Scanner.EndsNumber (behindField fs ++ '\x7d' :: rest) := endsNumber_behindField fs
    have written : fieldsChars ((k, v) :: fs) ++ '\x7d' :: rest =
        stringChars k ++ ':' :: (v.chars ++ (behindField fs ++ '\x7d' :: rest)) := by
      simp [fieldsChars_cons]
    rw [written]
    exact ⟨_, .cons (memberStart_first k) (stringFrom_written k) colon_cons
      (skipValue_chars v ends) members, .cons ends fields⟩

/-- The members of a written object are its fields, and no others. -/
theorem isObject_render {v : Json} {fs : List (String × Json)} (h : v = .object fs) :
    ∃ ms, IsObject v.render ms ∧ AreFields fs ms := by
  subst h
  obtain ⟨ms, members, fields⟩ := members_fieldsChars fs []
  have written : (Json.object fs).render.toList = '\x7b' :: (fieldsChars fs ++ ['\x7d']) := by
    simp [render, chars]
  exact ⟨ms, ⟨_, [], congrArg skipSpace written, members, rfl⟩, fields⟩

theorem AreFields.textsOf_eq_nil {fs : List (String × Json)} {ms : List Member}
    (h : AreFields fs ms) {k : String} (new : k ∉ fs.map Prod.fst) : textsOf k ms = [] :=
  textsOf_eq_nil_iff.2 (h.names ▸ new)

end Written

/-! ## Readers that undo writers -/

/-- Each field is the only member of its name, and its value stands between blanks and what does not
go on it. -/
def Knows (fs : List (String × Json)) (ms : List Member) : Prop :=
  ∀ k v, (k, v) ∈ fs → ∃ b behind, IsBlank b ∧ Scanner.EndsNumber behind ∧
    textsOf k ms = [b ++ (v.chars ++ behind)]

/-- The reader takes off what was written for a value, with blanks in front of it, and returns the
value. -/
structure Reader.Undoes {α : Type} (r : Reader α) (write : α → Json) : Prop where
  sound : r.Sound
  blank {b s : List Char} (h : IsBlank b) : r (b ++ s) = r s
  read (a : α) {behind : List Char} (ends : Scanner.EndsNumber behind) :
    r ((write a).chars ++ behind) = .ok (a, behind)

namespace Reader.Undoes

variable {α β : Type} {r : Reader α} {write : α → Json} {fs : List (String × Json)}
  {ms : List Member} {k : String}

theorem map {f : α → β} {g : β → α} (h : r.Undoes write) (inverse : ∀ b, f (g b) = b) :
    (r.map f).Undoes fun b => write (g b) where
  sound := h.sound.map f
  blank blank := by rw [Reader.map, h.blank blank, Reader.map]
  read b _ ends := Reader.map_eq_ok.2 ⟨g b, h.read (g b) ends, inverse b⟩

theorem filterMap {f : α → Option β} {g : β → α} (h : r.Undoes write)
    (inverse : ∀ b, f (g b) = some b) : (r.filterMap f).Undoes fun b => write (g b) where
  sound := h.sound.filterMap f
  blank blank := by rw [Reader.filterMap, h.blank blank, Reader.filterMap]
  read b _ ends := Reader.filterMap_eq_ok.2 ⟨g b, h.read (g b) ends, inverse b⟩

/-- A written value is read back from a text of its own. -/
theorem whole (h : r.Undoes write) (a : α) : r.whole (write a).render = .ok a := by
  have nothing : Scanner.EndsNumber [] := nofun
  have read := h.read a nothing
  rw [List.append_nil] at read
  refine Reader.whole_eq_ok.2 ⟨[], ?_, rfl⟩
  rwa [render, String.toList_ofList]

/-- A written value is given by its field. -/
theorem given (h : r.Undoes write) (known : Knows fs ms) {a : α} (mem : (k, write a) ∈ fs) :
    Given k r ms a := by
  obtain ⟨b, behind, blank, ends, once⟩ := known k (write a) mem
  exact ⟨_, once, behind, (h.blank blank).trans (h.read a ends)⟩

end Reader.Undoes

theorem readInt64_undoes : Reader.Undoes readInt64 fun n => .int n.toInt where
  sound := readInt64_sound
  blank {b s} blank := by
    have numeral : readNumeral (b ++ s) = readNumeral s := by
      rw [readNumeral, skipSpace_blank blank, readNumeral]
    rw [readInt64, readInt, Reader.map, Reader.filterMap, numeral, Reader.map, Reader.filterMap]
  read n _ ends := readInt64_written n ends

theorem readString_undoes : Reader.Undoes readString Json.text where
  sound := readString_sound
  blank blank := by rw [readString, skipSpace_blank blank, readString]
  read name _ _ := readString_written name

theorem readBool_undoes : Reader.Undoes readBool Json.bool where
  sound := readBool_sound
  blank blank := by rw [readBool, skipSpace_blank blank, readBool]
  read b _ _ := readBool_written b

namespace AreFields

variable {fs : List (String × Json)} {ms : List Member} {k : String}

theorem knows (h : AreFields fs ms) (nodup : (fs.map Prod.fst).Nodup) : Knows fs ms := by
  intro k v mem
  obtain ⟨behind, ends, once⟩ := h.textsOf_eq nodup mem
  exact ⟨[], behind, isBlank_nil, ends, once⟩

/-- A text is given by the field that it was written in. -/
theorem given_text (h : AreFields fs ms) (nodup : (fs.map Prod.fst).Nodup) {s : String}
    (mem : (k, .text s) ∈ fs) : Given k readString ms s :=
  readString_undoes.given (h.knows nodup) mem

/-- A 64-bit number is given by the field that it was written in. -/
theorem given_int (h : AreFields fs ms) (nodup : (fs.map Prod.fst).Nodup) {n : Int64}
    (mem : (k, .int n.toInt) ∈ fs) : Given k readInt64 ms n :=
  readInt64_undoes.given (h.knows nodup) mem

/-- A truth value is given by the field that it was written in. -/
theorem given_bool (h : AreFields fs ms) (nodup : (fs.map Prod.fst).Nodup) {b : Bool}
    (mem : (k, .bool b) ∈ fs) : Given k readBool ms b :=
  readBool_undoes.given (h.knows nodup) mem

end AreFields

end Tutoring.Json
