import Tutoring.Identity.Claims
import Tutoring.Proofs.Records

/-!
# What the claims of a payload are

The claims of a payload are members of the object that it is: who the user is, who issued the token
and until when it is good are each given once, and for whom it is may be given once.

* `Claimed`: the claims that the members of an object make.
* `readClaims_eq_ok`, `hasPlainStart_iff`: reading the claims is to look up these members.
-/

namespace Tutoring.Identity

open Json

section Readers

variable {text : List Char} {names : List String}

/-- Where the audience ends does not depend on how it is written. -/
theorem readAudience_sound : Reader.Sound readAudience := by
  intro s names rest read
  rw [← skipValue_skipSpace]
  unfold readAudience at read
  split at read
  · rename_i s' start
    obtain ⟨rest', null, same⟩ := map_eq_ok.1 read
    obtain ⟨-, rfl⟩ := Prod.mk.inj same
    rw [start]
    exact skipValue_null null
  · rename_i s' start
    obtain ⟨name, string, -⟩ := Reader.map_eq_ok.1 read
    rw [start]
    exact skipValue_string string
  · rename_i s' start
    rw [start]
    exact readListOf_sound readString_sound _ _ _ read
  · cases read

/-- A starting time that is passed over is passed over to its end. -/
theorem readPlain_sound : Reader.Sound readPlain := by
  intro s u rest read
  rw [← skipValue_skipSpace]
  unfold readPlain at read
  split at read
  · rename_i s' start
    obtain ⟨rest', passed, kept⟩ := bind_eq_ok.1 read
    split at kept
    · obtain ⟨-, rfl⟩ := Prod.mk.inj (Except.ok.inj kept)
      rw [start]
      exact passed
    · cases kept
  · rename_i s' start
    obtain ⟨rest', ends, same⟩ := map_eq_ok.1 read
    obtain ⟨-, rfl⟩ := Prod.mk.inj same
    rw [start]
    have closes : Scanner.run (beforeItem true) [.list] s' = .ok rest' := run_listEnd ends
    exact (Scanner.run_of_move rfl).trans closes
  · rename_i s' start
    split at read
    · rename_i t brace
      obtain ⟨-, rfl⟩ := Prod.mk.inj (Except.ok.inj read)
      rw [start]
      exact (Scanner.run_of_move rfl).trans (Members.done brace : Members true _ _ _).run
    · cases read
  · obtain ⟨rest', passed, kept⟩ := bind_eq_ok.1 read
    split at kept
    · cases kept
    · obtain ⟨-, rfl⟩ := Prod.mk.inj (Except.ok.inj kept)
      exact passed

/-- An audience is nobody, one name or a list of names. -/
theorem reads_audience :
    Reads readAudience text names ↔
      (Reads readNull text () ∧ names = []) ∨
        (∃ name, Reads readString text name ∧ names = [name]) ∨
        Reads (readListOf readString) text names := by
  constructor
  · rintro ⟨rest, read⟩
    unfold readAudience at read
    split at read
    · rename_i s start
      obtain ⟨rest', null, same⟩ := map_eq_ok.1 read
      obtain ⟨rfl, rfl⟩ := Prod.mk.inj same
      exact .inl ⟨⟨rest', readNull_eq_ok.2 ⟨s, start, null⟩⟩, rfl⟩
    · rename_i s start
      obtain ⟨name, string, rfl⟩ := Reader.map_eq_ok.1 read
      exact .inr (.inl ⟨name, ⟨rest, readString_eq_ok.2 ⟨s, start, string⟩⟩, rfl⟩)
    · rename_i s start
      rw [← start, readListOf_skipSpace] at read
      exact .inr (.inr ⟨rest, read⟩)
    · cases read
  · rintro (⟨⟨rest, null⟩, rfl⟩ | ⟨name, ⟨rest, string⟩, rfl⟩ | ⟨rest, list⟩)
    · obtain ⟨t, start, null⟩ := readNull_eq_ok.1 null
      refine ⟨rest, ?_⟩
      unfold readAudience
      rw [start]
      exact map_eq_ok.2 ⟨rest, null, rfl⟩
    · obtain ⟨t, start, string⟩ := readString_eq_ok.1 string
      refine ⟨rest, ?_⟩
      unfold readAudience
      rw [start]
      exact Reader.map_eq_ok.2 ⟨name, string, rfl⟩
    · obtain ⟨t, start⟩ := start_of_readListOf list
      rw [← readListOf_skipSpace, start] at list
      refine ⟨rest, ?_⟩
      unfold readAudience
      rw [start]
      exact list

end Readers

/-! ## Objects -/

section Object

variable {αs : List Type} {fields : Fields αs}

/-- An object starts with a brace. -/
theorem objectOf_eq_ok {values : Values αs} {s rest : List Char} :
    objectOf fields s = .ok (values, rest) ↔
      ∃ body, skipSpace s = '\x7b' :: body ∧ fields.readObject body = .ok (values, rest) := by
  unfold objectOf
  split
  · rename_i body brace
    constructor
    · exact fun read => ⟨body, brace, read⟩
    · rintro ⟨body', brace', read⟩
      obtain rfl := (List.cons.inj (brace'.symm.trans brace)).2
      exact read
  · rename_i other
    constructor
    · exact nofun
    · rintro ⟨body, brace, -⟩
      exact (other body brace).elim

/-- A record is read from a text just when this is an object in which all its fields hold. -/
theorem objectOf_whole_eq_ok {values : Values αs} {s : String} (sound : fields.Sound)
    (nodup : fields.names.Nodup) :
    (objectOf fields).whole s = .ok values ↔
      ∃ ms, IsObject s ms ∧ fields.Hold ms values := by
  rw [Reader.whole_eq_ok]
  constructor
  · rintro ⟨rest, read, blank⟩
    obtain ⟨body, brace, read⟩ := objectOf_eq_ok.1 read
    obtain ⟨ms, members, hold⟩ := (Fields.readObject_eq_ok sound nodup).1 read
    exact ⟨ms, ⟨body, rest, brace, members, blank⟩, hold⟩
  · rintro ⟨ms, ⟨body, rest, brace, members, blank⟩, hold⟩
    have read := (Fields.readObject_eq_ok sound nodup).2 ⟨ms, members, hold⟩
    exact ⟨rest, objectOf_eq_ok.2 ⟨body, brace, read⟩, blank⟩

end Object

/-! ## Claims -/

section Claims

variable {s : String} {ms : List Member} {c : Claims}

/-- The members of an object make these claims. -/
structure Claimed (ms : List Member) (c : Claims) : Prop where
  subject : Given "sub" readString ms c.subject
  issuer : Given "iss" readString ms c.issuer
  audience : Given "aud" readAudience ms c.audience ∨ textsOf "aud" ms = [] ∧ c.audience = []
  expiry : Given "exp" readInt64 ms c.expiry
  issued : textsOf "iat" ms = [] ∨ ∃ t, Given "iat" (readOption readInt64) ms t

/-- From when on the token is good is given in a way that is passed over, or not at all. -/
def StartsPlain (ms : List Member) : Prop :=
  textsOf "nbf" ms = [] ∨ Given "nbf" readPlain ms ()

theorem claimFields_sound : claimFields.Sound :=
  ⟨readString_sound, readString_sound, readAudience_sound, readInt64_sound,
    readOption_sound readInt64_sound, trivial⟩

theorem Given.iff_required {α : Type} {name : String} {r : Reader α} {a : α} :
    (Field.required name r).Holds ms a ↔ Given name r ms a := by
  constructor
  · rintro (once | ⟨-, ⟨⟩⟩)
    exact once
  · exact fun once => .given once

/-- The fields of the claims hold just when the members make these claims. -/
theorem claimed_iff :
    (∃ t, claimFields.Hold ms (c.subject, c.issuer, c.audience, c.expiry, t, ())) ↔
      Claimed ms c := by
  constructor
  · rintro ⟨t, subject, issuer, audience, expiry, issued, -⟩
    refine ⟨Given.iff_required.1 subject, Given.iff_required.1 issuer, ?_,
      Given.iff_required.1 expiry, ?_⟩
    · rcases audience with once | ⟨never, same⟩
      · exact .inl once
      · exact .inr ⟨never, (Option.some.inj same).symm⟩
    · rcases issued with once | ⟨never, -⟩
      · exact .inr ⟨t, once⟩
      · exact .inl never
  · rintro ⟨subject, issuer, audience, expiry, issued⟩
    have subject := Given.iff_required.2 subject
    have issuer := Given.iff_required.2 issuer
    have expiry := Given.iff_required.2 expiry
    have audience : (Field.withDefault "aud" readAudience []).Holds ms c.audience := by
      rcases audience with once | ⟨never, none⟩
      · exact .given once
      · exact .missing never (congrArg some none.symm)
    rcases issued with never | ⟨t, once⟩
    · exact ⟨none, subject, issuer, audience, expiry, .missing never rfl, trivial⟩
    · exact ⟨t, subject, issuer, audience, expiry, .given once, trivial⟩

/-- The claims of a text are those that the members of an object make. -/
theorem readClaims_eq_ok : readClaims s = .ok c ↔ ∃ ms, IsObject s ms ∧ Claimed ms c := by
  have fields (values) : (objectOf claimFields).whole s = .ok values ↔
      ∃ ms, IsObject s ms ∧ claimFields.Hold ms values :=
    objectOf_whole_eq_ok claimFields_sound (by decide)
  unfold readClaims
  rw [bind_eq_ok]
  constructor
  · rintro ⟨⟨subject, issuer, audience, expiry, t⟩, read, same⟩
    obtain rfl := Except.ok.inj same
    obtain ⟨ms, object, hold⟩ := (fields _).1 read
    exact ⟨ms, object, claimed_iff.1 ⟨_, hold⟩⟩
  · rintro ⟨ms, object, claimed⟩
    obtain ⟨t, hold⟩ := claimed_iff.2 claimed
    exact ⟨_, (fields _).2 ⟨ms, object, hold⟩, rfl⟩

/-- A starting time is passed over just as the members of an object give it. -/
theorem hasPlainStart_iff : hasPlainStart s = true ↔ ∃ ms, IsObject s ms ∧ StartsPlain ms := by
  have fields (values) : (objectOf startField).whole s = .ok values ↔
      ∃ ms, IsObject s ms ∧ startField.Hold ms values :=
    objectOf_whole_eq_ok ⟨readPlain_sound, trivial⟩ (by decide)
  unfold hasPlainStart
  constructor
  · intro plain
    cases read : (objectOf startField).whole s with
    | error fault =>
      rw [read] at plain
      cases plain
    | ok values =>
      obtain ⟨ms, object, start, -⟩ := (fields values).1 read
      refine ⟨ms, object, ?_⟩
      rcases start with once | ⟨never, -⟩
      · exact .inr once
      · exact .inl never
  · rintro ⟨ms, object, start⟩
    have hold : startField.Hold ms ((), ()) := by
      rcases start with never | once
      · exact ⟨.missing never rfl, trivial⟩
      · exact ⟨.given once, trivial⟩
    rw [(fields _).2 ⟨ms, object, hold⟩]
    rfl

end Claims

end Tutoring.Identity
