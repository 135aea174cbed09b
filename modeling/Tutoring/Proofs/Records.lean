import Tutoring.Json.Record
import Tutoring.Proofs.Members

/-!
# Records are read from the members of an object

A record is read from an object if every field has at most one member of its name, whose value can
be read, and has a fallback where it has none. All other members are passed over, and the order of
the members does not matter.

* `Field.Holds`: the value of a field, given the members.
* `Fields.readObject_eq_ok`: a record is read just when all its fields hold.
-/

namespace Tutoring.Json

/-! ## One field -/

namespace Field

variable {α : Type} {field : Field α} {seen seen' : Option α} {m : Member} {ms : List Member}
  {a : α}

/-- The value of a field of an object with these members. -/
inductive Holds (field : Field α) (ms : List Member) (a : α) : Prop
  | given (once : Given field.name field.read ms a)
  | missing (never : textsOf field.name ms = []) (fallback : field.ifMissing = some a)

/-- What becomes of a field at a member. -/
def Takes (field : Field α) (seen : Option α) (m : Member) (seen' : Option α) : Prop :=
  if m.1 = field.name then seen = none ∧ ∃ a, Reads field.read m.2 a ∧ seen' = some a
  else seen' = seen

/-- What becomes of a field at some members. -/
def Gathers (field : Field α) : Option α → List Member → Option α → Prop
  | seen, [], seen' => seen' = seen
  | seen, m :: ms, seen' => ∃ mid, field.Takes seen m mid ∧ field.Gathers mid ms seen'

/-- A field that has been read does not come again. -/
theorem gathers_some : field.Gathers (some a) ms seen' ↔
    textsOf field.name ms = [] ∧ seen' = some a := by
  induction ms with
  | nil => simp [Gathers]
  | cons m ms ih =>
    unfold Gathers Takes
    by_cases named : m.1 = field.name
    · simp [named, textsOf_cons_of_eq]
    · simp [named, textsOf_cons_of_ne, ih]

/-- A field that has not been read is read from its only member, if there is one. -/
theorem gathers_none : field.Gathers none ms seen' ↔
    (textsOf field.name ms = [] ∧ seen' = none) ∨
      ∃ text a, textsOf field.name ms = [text] ∧ Reads field.read text a ∧ seen' = some a := by
  induction ms with
  | nil => simp [Gathers]
  | cons m ms ih =>
    unfold Gathers Takes
    by_cases named : m.1 = field.name
    · simp only [named, if_true, true_and, textsOf_cons_of_eq named]
      constructor
      · rintro ⟨mid, ⟨a, reads, rfl⟩, gathers⟩
        obtain ⟨never, rfl⟩ := gathers_some.1 gathers
        exact .inr ⟨m.2, a, by rw [never], reads, rfl⟩
      · rintro (⟨never, -⟩ | ⟨text, a, once, reads, rfl⟩)
        · cases never
        · obtain ⟨rfl, never⟩ := List.cons.inj once
          exact ⟨some a, ⟨a, reads, rfl⟩, gathers_some.2 ⟨never, rfl⟩⟩
    · simp [named, textsOf_cons_of_ne, ih]

/-- What is gathered for a field, with its fallback, is the value that holds. -/
theorem gathers_iff_holds :
    (∃ seen, field.Gathers none ms seen ∧ (seen <|> field.ifMissing) = some a) ↔
      field.Holds ms a := by
  constructor
  · rintro ⟨seen, gathers, complete⟩
    rcases gathers_none.1 gathers with ⟨never, rfl⟩ | ⟨text, b, once, reads, rfl⟩
    · exact .missing never complete
    · obtain rfl := Option.some.inj complete
      exact .given ⟨text, once, reads⟩
  · rintro (⟨text, once, reads⟩ | ⟨never, fallback⟩)
    · exact ⟨some a, gathers_none.2 (.inr ⟨text, a, once, reads, rfl⟩), rfl⟩
    · exact ⟨none, gathers_none.2 (.inl ⟨never, rfl⟩), fallback⟩

end Field

/-! ## All fields -/

namespace Fields

variable {αs : List Type} {key : String} {text s s' : List Char} {m : Member} {ms : List Member}

/-- Every field takes off one value. -/
def Sound : {αs : List Type} → Fields αs → Prop
  | _, .nil => True
  | _, .cons field rest => field.read.Sound ∧ rest.Sound

/-- The values of all fields of an object with these members. -/
def Hold : {αs : List Type} → Fields αs → List Member → Values αs → Prop
  | _, .nil, _, _ => True
  | _, .cons field rest, ms, (a, as) => field.Holds ms a ∧ rest.Hold ms as

/-- What becomes of the fields at a member. -/
def Takes : {αs : List Type} → Fields αs → Partial αs → Member → Partial αs → Prop
  | _, .nil, _, _, _ => True
  | _, .cons field rest, (seen, others), m, (seen', others') =>
    field.Takes seen m seen' ∧ rest.Takes others m others'

/-- What becomes of the fields at some members. -/
def Gathers (fields : Fields αs) : Partial αs → List Member → Partial αs → Prop
  | seen, [], seen' => seen' = seen
  | seen, m :: ms, seen' => ∃ mid, fields.Takes seen m mid ∧ fields.Gathers mid ms seen'

theorem takes_cons {α : Type} {field : Field α} {rest : Fields αs} {seen seen' : Option α}
    {others others' : Partial αs} :
    (Fields.cons field rest).Takes (seen, others) m (seen', others') ↔
      field.Takes seen m seen' ∧ rest.Takes others m others' := Iff.rfl

theorem readField?_cons {α : Type} {field : Field α} {rest : Fields αs} {seen : Option α}
    {others : Partial αs} :
    readField? key (.cons field rest) (seen, others) =
      if field.name = key then
        some fun s => do
          if seen.isSome then throw .mismatched
          let (a, s) ← field.read (← colon s)
          return ((some a, others), s)
      else (readField? key rest others).map (Reader.map fun others => (seen, others)) := rfl

theorem takes_of_not_mem {fields : Fields αs} {seen seen' : Partial αs} (h : m.1 ∉ fields.names) :
    fields.Takes seen m seen' ↔ seen' = seen := by
  induction fields with
  | nil => exact ⟨fun _ => rfl, fun _ => trivial⟩
  | cons field rest ih =>
    obtain ⟨other, unknown⟩ := List.ne_and_not_mem_of_not_mem_cons h
    obtain ⟨a, others⟩ := seen
    obtain ⟨a', others'⟩ := seen'
    rw [takes_cons, Field.Takes, if_neg other, ih unknown]
    exact (Prod.mk.injEq _ _ _ _).symm ▸ Iff.rfl

theorem readField?_eq_none {fields : Fields αs} {seen : Partial αs} :
    readField? key fields seen = none ↔ key ∉ fields.names := by
  induction fields with
  | nil => exact ⟨fun _ => List.not_mem_nil, fun _ => rfl⟩
  | cons field rest ih =>
    obtain ⟨a, others⟩ := seen
    rw [readField?_cons]
    by_cases named : field.name = key
    · rw [if_pos named]
      exact ⟨nofun, fun new => absurd (named ▸ List.mem_cons_self) new⟩
    · rw [if_neg named]
      refine (Option.map_eq_none_iff.trans ih).trans ⟨fun new => ?_, fun new => ?_⟩
      · exact List.not_mem_cons_of_ne_of_not_mem (Ne.symm named) new
      · exact (List.ne_and_not_mem_of_not_mem_cons new).2

/-- A field is read behind the colon of its member, and not twice. -/
theorem readField?_eq_ok {fields : Fields αs} {seen seen' : Partial αs} {read : Reader (Partial αs)}
    (sound : fields.Sound) (nodup : fields.names.Nodup)
    (found : readField? key fields seen = some read) :
    read s = .ok (seen', s') ↔
      ∃ text, colon s = .ok text ∧ skipValue text = .ok s' ∧
        fields.Takes seen (key, text) seen' := by
  induction fields with
  | nil => cases found
  | cons field rest ih =>
    obtain ⟨a?, others⟩ := seen
    obtain ⟨a?', others'⟩ := seen'
    obtain ⟨new, nodup⟩ := List.nodup_cons.1 nodup
    rw [readField?_cons] at found
    by_cases named : field.name = key
    · rw [if_pos named] at found
      obtain rfl := Option.some.inj found
      subst named
      constructor
      · intro h
        cases a? with
        | some a => cases h
        | none =>
          obtain ⟨text, value, h⟩ := bind_eq_ok.1 h
          obtain ⟨⟨a, rest'⟩, reads, h⟩ := bind_eq_ok.1 h
          obtain ⟨same, rfl⟩ := Prod.mk.inj (Except.ok.inj h)
          obtain ⟨rfl, rfl⟩ := Prod.mk.inj same
          refine ⟨text, value, sound.1 _ _ _ reads, takes_cons.2 ⟨?_, (takes_of_not_mem new).2 rfl⟩⟩
          rw [Field.Takes, if_pos rfl]
          exact ⟨rfl, a, ⟨_, reads⟩, rfl⟩
      · rintro ⟨text, value, skip, takes⟩
        obtain ⟨own, others_eq⟩ := takes_cons.1 takes
        obtain rfl := (takes_of_not_mem new).1 others_eq
        rw [Field.Takes, if_pos rfl] at own
        obtain ⟨rfl, a, ⟨rest', reads⟩, rfl⟩ := own
        obtain rfl := Except.ok.inj (skip.symm.trans (sound.1 _ _ _ reads))
        exact bind_eq_ok.2 ⟨text, value, bind_eq_ok.2 ⟨_, reads, rfl⟩⟩
    · rw [if_neg named] at found
      obtain ⟨read', inner, rfl⟩ := Option.map_eq_some_iff.1 found
      have own (text : List Char) : field.Takes a? (key, text) a?' ↔ a?' = a? := by
        rw [Field.Takes, if_neg (Ne.symm named)]
      refine Reader.map_eq_ok.trans ?_
      constructor
      · rintro ⟨mid, reads, same⟩
        obtain ⟨rfl, rfl⟩ := Prod.mk.inj same
        obtain ⟨text, value, skip, takes⟩ := (ih sound.2 nodup inner).1 reads
        exact ⟨text, value, skip, takes_cons.2 ⟨(own text).2 rfl, takes⟩⟩
      · rintro ⟨text, value, skip, takes⟩
        obtain ⟨own_eq, rest_takes⟩ := takes_cons.1 takes
        obtain rfl := (own text).1 own_eq
        exact ⟨others', (ih sound.2 nodup inner).2 ⟨text, value, skip, rest_takes⟩, rfl⟩

theorem readEntry_eq_ok {fields : Fields αs} {seen seen' : Partial αs} (sound : fields.Sound)
    (nodup : fields.names.Nodup) :
    readEntry fields seen key s = .ok (seen', s') ↔
      ∃ text, colon s = .ok text ∧ skipValue text = .ok s' ∧
        fields.Takes seen (key, text) seen' := by
  unfold readEntry
  cases found : readField? key fields seen with
  | some read => exact readField?_eq_ok sound nodup found
  | none =>
    have unknown := readField?_eq_none.1 found
    constructor
    · intro h
      obtain ⟨text, value, h⟩ := bind_eq_ok.1 h
      obtain ⟨rest, skip, h⟩ := bind_eq_ok.1 h
      obtain ⟨rfl, rfl⟩ := Prod.mk.inj (Except.ok.inj h)
      exact ⟨text, value, skip, (takes_of_not_mem unknown).2 rfl⟩
    · rintro ⟨text, value, skip, takes⟩
      obtain rfl := (takes_of_not_mem unknown).1 takes
      exact bind_eq_ok.2 ⟨text, value, bind_eq_ok.2 ⟨s', skip, rfl⟩⟩

theorem gathers_nil (ms : List Member) : Fields.nil.Gathers () ms () := by
  induction ms with
  | nil => rfl
  | cons m ms ih => exact ⟨(), trivial, ih⟩

theorem gathers_cons {α : Type} {field : Field α} {rest : Fields αs} {seen seen' : Option α}
    {others others' : Partial αs} :
    (Fields.cons field rest).Gathers (seen, others) ms (seen', others') ↔
      field.Gathers seen ms seen' ∧ rest.Gathers others ms others' := by
  induction ms generalizing seen others with
  | nil => exact (Prod.mk.injEq _ _ _ _).symm ▸ Iff.rfl
  | cons m ms ih =>
    constructor
    · rintro ⟨⟨mid, mid'⟩, takes, gathers⟩
      obtain ⟨own, rest_takes⟩ := takes_cons.1 takes
      obtain ⟨own', rest_gathers⟩ := ih.1 gathers
      exact ⟨⟨mid, own, own'⟩, mid', rest_takes, rest_gathers⟩
    · rintro ⟨⟨mid, own, own'⟩, mid', rest_takes, rest_gathers⟩
      exact ⟨(mid, mid'), takes_cons.2 ⟨own, rest_takes⟩, ih.2 ⟨own', rest_gathers⟩⟩

theorem complete?_cons {α : Type} {field : Field α} {rest : Fields αs} {seen : Option α}
    {others : Partial αs} {a : α} {as : Values αs} :
    (Fields.cons field rest).complete? (seen, others) = some (a, as) ↔
      (seen <|> field.ifMissing) = some a ∧ rest.complete? others = some as := by
  show ((seen <|> field.ifMissing).bind fun a => (rest.complete? others).bind fun as =>
    some (a, as)) = some (a, as) ↔ _
  simp only [Option.bind_eq_some_iff, Option.some.injEq, Prod.mk.injEq]
  constructor
  · rintro ⟨_, own, _, others, rfl, rfl⟩
    exact ⟨own, others⟩
  · rintro ⟨own, others⟩
    exact ⟨a, own, as, others, rfl, rfl⟩

/-- What the fields gather from all members is complete just when every field holds. -/
theorem gathers_iff_hold {fields : Fields αs} {values : Values αs} :
    (∃ seen, fields.Gathers fields.start ms seen ∧ fields.complete? seen = some values) ↔
      fields.Hold ms values := by
  induction fields with
  | nil =>
    exact ⟨fun _ => trivial, fun _ => ⟨(), gathers_nil ms, rfl⟩⟩
  | cons field rest ih =>
    obtain ⟨a, as⟩ := values
    constructor
    · rintro ⟨⟨seen, others⟩, gathers, complete⟩
      obtain ⟨own, rest_gathers⟩ := gathers_cons.1 gathers
      obtain ⟨own_complete, rest_complete⟩ := complete?_cons.1 complete
      exact ⟨Field.gathers_iff_holds.1 ⟨seen, own, own_complete⟩,
        ih.1 ⟨others, rest_gathers, rest_complete⟩⟩
    · rintro ⟨own, hold⟩
      obtain ⟨seen, own, own_complete⟩ := Field.gathers_iff_holds.2 own
      obtain ⟨others, rest_gathers, rest_complete⟩ := ih.2 hold
      exact ⟨(seen, others), gathers_cons.2 ⟨own, rest_gathers⟩,
        complete?_cons.2 ⟨own_complete, rest_complete⟩⟩

end Fields

/-! ## Reading an object -/

section Read

variable {αs : List Type} {fields : Fields αs} {first : Bool} {s s' rest : List Char}
  {seen seen' : Partial αs} {bound : Nat} {ms : List Member}

theorem Fields.readEntries_succ :
    fields.readEntries (bound + 1) first seen s = .ok (seen', s') ↔
      (∃ rest, skipSpace s = '\x7d' :: rest ∧ seen' = seen ∧ s' = '\x7d' :: rest) ∨
        ∃ s₁ name s₂ mid s₃, MemberStart first s s₁ ∧ stringFrom [] s₁ = .ok (name, s₂) ∧
          fields.readEntry seen name s₂ = .ok (mid, s₃) ∧
          fields.readEntries bound false mid s₃ = .ok (seen', s') := by
  -- What happens behind the quote that opens a name.
  have member (t : List Char) : (stringFrom [] t >>= fun named =>
      fields.readEntry seen named.1 named.2 >>= fun entry =>
        fields.readEntries bound false entry.1 entry.2) = .ok (seen', s') ↔
      ∃ name s₂ mid s₃, stringFrom [] t = .ok (name, s₂) ∧
        fields.readEntry seen name s₂ = .ok (mid, s₃) ∧
        fields.readEntries bound false mid s₃ = .ok (seen', s') := by
    rw [bind_eq_ok]
    constructor
    · rintro ⟨⟨name, s₂⟩, named, h⟩
      obtain ⟨⟨mid, s₃⟩, entry, h⟩ := bind_eq_ok.1 h
      exact ⟨name, s₂, mid, s₃, named, entry, h⟩
    · rintro ⟨name, s₂, mid, s₃, named, entry, h⟩
      exact ⟨_, named, bind_eq_ok.2 ⟨_, entry, h⟩⟩
  conv =>
    lhs
    unfold readEntries
  dsimp only
  split
  · rename_i empty
    refine ⟨nofun, ?_⟩
    rintro (⟨rest, brace, -⟩ | ⟨_, _, _, _, _, start, -⟩)
    · exact nomatch empty.symm.trans brace
    · cases start with
      | first quote => exact nomatch empty.symm.trans quote
      | other comma => exact nomatch empty.symm.trans comma
  · rename_i t brace
    constructor
    · intro h
      obtain ⟨rfl, rfl⟩ := Prod.mk.inj (Except.ok.inj h)
      exact .inl ⟨t, brace, rfl, rfl⟩
    · rintro (⟨rest, brace', rfl, rfl⟩ | ⟨_, _, _, _, _, start, -⟩)
      · rw [(List.cons.inj (brace'.symm.trans brace)).2]
      · exact absurd brace start.not_brace
  · rename_i c t other begins
    have no_brace (rest : List Char) : skipSpace s ≠ '\x7d' :: rest := fun brace =>
      other (List.cons.inj (begins.symm.trans brace)).1
    cases first with
    | true =>
      rw [if_pos rfl]
      constructor
      · intro h
        split at h
        · rename_i quote
          subst quote
          obtain ⟨name, s₂, mid, s₃, h⟩ := (member t).1 h
          exact .inr ⟨t, name, s₂, mid, s₃, .first begins, h⟩
        · cases h
      · rintro (⟨rest, brace, -⟩ | ⟨s₁, name, s₂, mid, s₃, start, h⟩)
        · exact absurd brace (no_brace rest)
        · obtain ⟨quote⟩ := start
          obtain ⟨rfl, rfl⟩ := List.cons.inj (quote.symm.trans begins)
          rw [if_pos rfl]
          exact (member s₁).2 ⟨name, s₂, mid, s₃, h⟩
    | false =>
      rw [if_neg Bool.false_ne_true]
      constructor
      · intro h
        split at h
        · rename_i comma
          subst comma
          split at h
          · rename_i u quote
            obtain ⟨name, s₂, mid, s₃, h⟩ := (member u).1 h
            exact .inr ⟨u, name, s₂, mid, s₃, .other begins quote, h⟩
          · cases h
          · cases h
        · cases h
      · rintro (⟨rest, brace, -⟩ | ⟨s₁, name, s₂, mid, s₃, start, h⟩)
        · exact absurd brace (no_brace rest)
        · obtain ⟨⟩ | ⟨comma, quote⟩ := start
          obtain ⟨rfl, rfl⟩ := List.cons.inj (comma.symm.trans begins)
          rw [if_pos rfl, quote]
          exact (member s₁).2 ⟨name, s₂, mid, s₃, h⟩

/-- The members of an object are all read, and the fields gather their values. -/
theorem Fields.readEntries_eq_ok (sound : fields.Sound) (nodup : fields.names.Nodup) :
    fields.readEntries bound first seen s = .ok (seen', s') ↔
      ∃ ms rest, s' = '\x7d' :: rest ∧ Members first s ms rest ∧ ms.length < bound ∧
        fields.Gathers seen ms seen' := by
  -- One member comes off the text in each step, and one off the bound.
  induction bound generalizing first seen s with
  | zero =>
    constructor
    · exact nofun
    · rintro ⟨ms, rest, -, -, few, -⟩
      exact absurd few (Nat.not_lt_zero _)
  | succ bound ih =>
    rw [readEntries_succ]
    constructor
    · rintro (⟨rest, brace, rfl, rfl⟩ | ⟨s₁, name, s₂, mid, s₃, start, named, entry, others⟩)
      · exact ⟨[], rest, rfl, .done brace, Nat.succ_pos _, rfl⟩
      · obtain ⟨text, value, skip, takes⟩ := (readEntry_eq_ok sound nodup).1 entry
        obtain ⟨ms, rest, rfl, members, few, gathers⟩ := ih.1 others
        exact ⟨(name, text) :: ms, rest, rfl, .cons start named value skip members,
          Nat.succ_lt_succ few, mid, takes, gathers⟩
    · rintro ⟨ms, rest, rfl, members, few, gathers⟩
      cases members with
      | done brace =>
        obtain rfl : seen' = seen := gathers
        exact .inl ⟨rest, brace, rfl, rfl⟩
      | cons start named value skip others =>
        obtain ⟨mid, takes, gathers⟩ := gathers
        have entry := (readEntry_eq_ok sound nodup).2 ⟨_, value, skip, takes⟩
        have others := ih.2 ⟨_, rest, rfl, others, Nat.lt_of_succ_lt_succ few, gathers⟩
        exact .inr ⟨_, _, _, mid, _, start, named, entry, others⟩

/-- A record is read from an object just when all its fields hold of the members. -/
theorem Fields.readObject_eq_ok {values : Values αs} (sound : fields.Sound)
    (nodup : fields.names.Nodup) :
    fields.readObject s = .ok (values, rest) ↔
      ∃ ms, Members true s ms rest ∧ fields.Hold ms values := by
  constructor
  · intro h
    obtain ⟨⟨seen, s'⟩, entries, h⟩ := bind_eq_ok.1 h
    obtain ⟨ms, rest', rfl, members, -, gathers⟩ := (readEntries_eq_ok sound nodup).1 entries
    dsimp only at h
    cases complete : fields.complete? seen with
    | none =>
      rw [complete] at h
      cases h
    | some values' =>
      rw [complete] at h
      obtain ⟨rfl, rfl⟩ := Prod.mk.inj (Except.ok.inj h)
      exact ⟨ms, members, gathers_iff_hold.1 ⟨seen, gathers, complete⟩⟩
  · rintro ⟨ms, members, hold⟩
    obtain ⟨seen, gathers, complete⟩ := gathers_iff_hold.2 hold
    have few := Nat.lt_succ_of_lt members.length_lt
    have entries := (readEntries_eq_ok sound nodup).2 ⟨ms, rest, rfl, members, few, gathers⟩
    refine bind_eq_ok.2 ⟨_, entries, ?_⟩
    dsimp only
    rw [complete]
    rfl

/-- A list that a record is read from is passed over like any other list. -/
theorem Fields.run_readItems {values : Values αs} (sound : fields.Sound)
    (h : fields.readItems first s = .ok (values, s')) (ends : listEnd s' = .ok rest) :
    Scanner.run (beforeItem first) [.list] s = .ok rest := by
  induction fields generalizing first s with
  | nil =>
    obtain ⟨-, rfl⟩ := Prod.mk.inj (Except.ok.inj h)
    exact run_listEnd ends
  | cons field others ih =>
    obtain ⟨start, begins, h⟩ := bind_eq_ok.1 h
    cases start with
    | none =>
      dsimp only at h
      split at h
      · obtain ⟨-, rfl⟩ := Prod.mk.inj (Except.ok.inj h)
        exact run_listEnd ends
      · cases h
    | some t =>
      obtain ⟨⟨a, s₁⟩, item, h⟩ := bind_eq_ok.1 h
      obtain ⟨⟨as, s₂⟩, items, h⟩ := bind_eq_ok.1 h
      obtain ⟨-, rfl⟩ := Prod.mk.inj (Except.ok.inj h)
      calc Scanner.run (beforeItem first) [.list] s
          = Scanner.run .value [.list] t := run_itemStart begins
        _ = Scanner.resume [.list] s₁ := Scanner.run_append (sound.1 _ _ _ item)
        _ = .ok rest := ih sound.2 items

/-- A record is one value, whether it is read from an object or from a list. -/
theorem Fields.read_sound (sound : fields.Sound) (nodup : fields.names.Nodup) :
    Reader.Sound fields.read := by
  intro s values rest h
  rw [← skipValue_skipSpace]
  unfold read at h
  split at h
  · rename_i body brace
    obtain ⟨ms, members, -⟩ := (readObject_eq_ok sound nodup).1 h
    rw [brace]
    exact (Scanner.run_of_move rfl).trans members.run
  · rename_i items bracket
    obtain ⟨⟨values', t⟩, taken, h⟩ := bind_eq_ok.1 h
    obtain ⟨rest', ends, same⟩ := bind_eq_ok.1 h
    obtain ⟨-, rfl⟩ := Prod.mk.inj (Except.ok.inj same)
    rw [bracket]
    exact (Scanner.run_of_move rfl).trans (run_readItems sound taken ends)
  · cases h

end Read

end Tutoring.Json
