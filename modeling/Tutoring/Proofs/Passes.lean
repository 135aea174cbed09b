import Tutoring.Meeting.Pass
import Tutoring.Proofs.Acceptance
import Tutoring.Proofs.Decimals
import Tutoring.Proofs.Intervals
import Tutoring.Settings.Meeting

/-!
# Whom a meeting token admits, and where

A token that is issued under accepted settings says what was asked for: it admits one user to the
room of one lesson, from the moment of issue on and for the lifetime that is set. Nothing wraps
around on the way, since the lifetime is short and every second of the calendar fits into 64 bits.
A number is read back from its decimals, so two lessons never have one room, and two users never
one name.

* `Pass.read?_issue`: what is read back from an issued token is what it was issued with.
* `MeetingKey.room_injective`: each lesson has a room of its own.
* `MeetingSettings.Issued.admits`: an issued token admits whom it was issued to.
* `meeting_tokens_admit_one_user_to_one_room`: such tokens are issued, and differ where they should.
-/

namespace Tutoring

/-! ## What is read back -/

section Read

open Json

variable {secret token payload : String}

/-- A record is given by the field that it was written in as an object. -/
theorem Json.AreFields.given_record {αs : List Type} {record : Fields αs} {values : Values αs}
    {fs inner : List (String × Json)} {ms : List Member} {k : String} (h : AreFields fs ms)
    (distinct : (fs.map Prod.fst).Nodup) (mem : (k, .object inner) ∈ fs) (sound : record.Sound)
    (nodup : record.names.Nodup) (hold : ∀ {ms}, AreFields inner ms → record.Hold ms values) :
    Given k record.read ms values := by
  obtain ⟨behind, -, once⟩ := h.textsOf_eq distinct mem
  obtain ⟨ms', members, fields⟩ := members_fieldsChars inner behind
  have written : (Json.object inner).chars ++ behind =
      '\x7b' :: (fieldsChars inner ++ '\x7d' :: behind) := by
    simp [chars]
  refine ⟨_, once, behind, ?_⟩
  rw [written]
  exact (Fields.readObject_eq_ok sound nodup).2 ⟨ms', members, hold fields⟩

theorem Grant.fields_sound : Grant.fields.Sound :=
  ⟨readString_sound, readBool_sound, readBool_sound, readBool_sound, trivial⟩

theorem Grant.nodup_names : Grant.fields.names.Nodup := by decide

theorem Pass.fields_sound : Pass.fields.Sound :=
  ⟨readString_sound, readString_sound, readInt64_sound, readInt64_sound,
    (Fields.read_sound Grant.fields_sound Grant.nodup_names).map _, trivial⟩

theorem Pass.ofText_eq_ok {s : String} {p : Pass} :
    Pass.ofText s = .ok p ↔ ∃ ms, IsObject s ms ∧
      Pass.fields.Hold ms (p.issuer, p.holder, p.start, p.expiry, p.grant, ()) := by
  have fields (values) : (Identity.objectOf Pass.fields).whole s = .ok values ↔
      ∃ ms, IsObject s ms ∧ Pass.fields.Hold ms values :=
    Identity.objectOf_whole_eq_ok Pass.fields_sound (by decide)
  unfold ofText
  rw [bind_eq_ok]
  constructor
  · rintro ⟨values, read, same⟩
    obtain rfl := Except.ok.inj same
    exact (fields _).1 read
  · intro object
    exact ⟨_, (fields _).2 object, rfl⟩

theorem Pass.read?_eq_some {p : Pass} :
    Pass.read? secret token = some p ↔
      ∃ payload, Token.Carries fields.names secret token payload ∧ Pass.ofText payload = .ok p := by
  unfold read?
  simp only [Option.bind_eq_bind, Option.bind_eq_some_iff, Token.payload?_eq_some,
    toOption_eq_some]

/-- What a credential says. -/
def MeetingKey.pass (k : MeetingKey) (room identity : String) (issued expires : Timestamp) : Pass :=
  { issuer := k.key, holder := identity, start := issued.unix, expiry := expires.unix
    grant := { room, join := true, publish := true, subscribe := true } }

/-- The grant that every credential has, but for its room. -/
theorem Grant.hold_written {room : String} {ms : List Member}
    (h : AreFields [("room", .text room), ("roomJoin", .bool true), ("canPublish", .bool true),
      ("canSubscribe", .bool true)] ms) : Grant.fields.Hold ms (room, true, true, true, ()) := by
  have room : Given "room" readString ms room := h.given_text (by simp) (by simp)
  have join : Given "roomJoin" readBool ms true := h.given_bool (by simp) (by simp)
  have publish : Given "canPublish" readBool ms true := h.given_bool (by simp) (by simp)
  have subscribe : Given "canSubscribe" readBool ms true := h.given_bool (by simp) (by simp)
  exact ⟨.given room, .given join, .given publish, .given subscribe, trivial⟩

theorem MeetingKey.ofText_claims (k : MeetingKey) (room identity : String)
    (issued expires : Timestamp) :
    Pass.ofText (k.claims room identity issued expires).render =
      .ok (k.pass room identity issued expires) := by
  obtain ⟨ms, object, fields⟩ :=
    isObject_render (rfl : k.claims room identity issued expires = .object _)
  have issuer : Given "iss" readString ms k.key := fields.given_text (by simp) (by simp)
  have holder : Given "sub" readString ms identity := fields.given_text (by simp) (by simp)
  have start : Given "nbf" readInt64 ms issued.unix := fields.given_int (by simp) (by simp)
  have expiry : Given "exp" readInt64 ms expires.unix := fields.given_int (by simp) (by simp)
  have video : Given "video" Grant.fields.read ms (room, true, true, true, ()) :=
    fields.given_record (by simp) (by simp) Grant.fields_sound
      Grant.nodup_names Grant.hold_written
  obtain ⟨text, once, rest, reads⟩ := video
  have grant : Reads (Grant.fields.read.map Grant.ofValues) text ⟨room, true, true, true⟩ :=
    ⟨rest, Reader.map_eq_ok.2 ⟨_, reads, rfl⟩⟩
  exact Pass.ofText_eq_ok.2 ⟨ms, object, .given issuer, .given holder, .given start, .given expiry,
    .given ⟨text, once, grant⟩, trivial⟩

/-- What is read back from an issued token is what it was issued with. -/
theorem Pass.read?_issue (k : MeetingKey) (room identity : String) (issued expires : Timestamp) :
    Pass.read? k.secret (Token.issue k.secret (k.claims room identity issued expires)) =
      some (k.pass room identity issued expires) :=
  read?_eq_some.2 ⟨_, Token.carries_issue _ _ _, k.ofText_claims room identity issued expires⟩

end Read

/-! ## Rooms and names -/

section Names

variable {entity : Entity}

theorem Id.isEmpty_toText (i : Id entity) : i.toText.isEmpty = false := by
  have unempty : Text.Numeral.integer i.value.toInt ≠ [] := by
    cases i.value.toInt with
    | ofNat n => exact Nat.toDigits_ne_nil
    | negSucc n => exact List.cons_ne_nil _ _
  rw [Bool.eq_false_iff]
  intro empty
  have none : i.toText.toList = [] := by
    rw [String.isEmpty_iff.1 empty]
    rfl
  exact unempty (i.toList_toText.symm.trans none)

theorem MeetingKey.toList_room (k : MeetingKey) (lesson : LessonId) :
    (k.room lesson).toList = k.roomPrefix.toList ++ '-' :: lesson.toText.toList := by
  show (k.roomPrefix ++ "-" ++ lesson.toText).toList = _
  simp

/-- Each lesson has a room of its own. -/
theorem MeetingKey.room_injective (k : MeetingKey) : Function.Injective k.room := by
  intro lesson lesson' same
  have chars := congrArg String.toList same
  rw [toList_room, toList_room] at chars
  have digits := (List.cons.inj (List.append_cancel_left chars)).2
  exact Id.toText_injective (String.toList_inj.1 digits)

/-- The decimals of a number are digits, with a minus sign in front of a negative one. -/
theorem Text.Numeral.isDigit_of_mem_integer {n : Int} {c : Char} (h : c ∈ integer n) :
    c.isDigit = true ∨ c = '-' := by
  have digit {n : Nat} (h : c ∈ digits n) : c.isDigit = true :=
    Nat.isDigit_of_mem_toDigits (by decide) (by decide) h
  cases n with
  | ofNat n => exact .inl (digit h)
  | negSucc n =>
    rcases List.mem_cons.1 h with minus | h
    · exact .inr minus
    · exact .inl (digit h)

end Names

/-! ## Settings -/

namespace MeetingSettings

variable {m : MeetingSettings} {lesson : LessonId} {user : UserId} {now : Timestamp}
  {c : Credential} {p : Pass}

/-- Settings are accepted just when there are a key, a secret and a prefix of room characters, and
the lifetime is between a minute and a day. -/
theorem validate_eq_ok :
    m.validate = .ok () ↔ m.apiKey.isEmpty = false ∧ m.apiSecret.isEmpty = false ∧
      (m.roomPrefix.isEmpty = false ∧ m.roomPrefix.toList.all isRoomChar = true) ∧
      minLifetime ≤ m.tokenLifetime ∧ m.tokenLifetime ≤ maxLifetime := by
  unfold validate
  simp only [Json.check_eq_ok, Json.last_check_eq_ok, not_or, Bool.not_eq_true, Bool.not_eq_false',
    UInt64.not_lt]

/-- An accepted lifetime is a positive number of seconds, and no other one as a signed number. -/
theorem span_of_validate (h : m.validate = .ok ()) :
    m.meetingKey.span.toInt = m.tokenLifetime.toNat ∧ 0 < m.tokenLifetime.toNat ∧
      m.tokenLifetime.toNat ≤ 86400 := by
  obtain ⟨-, -, -, shortest, longest⟩ := validate_eq_ok.1 h
  have shortest : 60 ≤ m.tokenLifetime.toNat := UInt64.le_iff_toNat_le.1 shortest
  have longest : m.tokenLifetime.toNat ≤ 86400 := UInt64.le_iff_toNat_le.1 longest
  have bits : m.tokenLifetime.toBitVec.toNat = m.tokenLifetime.toNat := rfl
  refine ⟨?_, by omega, longest⟩
  exact (BitVec.toInt_eq_toNat_of_lt (x := m.tokenLifetime.toBitVec) (by omega)).trans
    (congrArg Int.ofNat bits)

/-- The end of the lifetime is at its distance from the start. -/
theorem plusSeconds?_span (h : m.validate = .ok ()) : now.plusSeconds? m.meetingKey.span.toInt =
    Timestamp.make? (now.seconds + m.tokenLifetime.toNat) (now.nanos % 1000000000) := by
  obtain ⟨span, pos, short⟩ := span_of_validate h
  rw [span]
  exact Timestamp.plusSeconds?_of_pos (by omega) (by simp only [Timestamp.maxSpan]; omega)

/-- The name of a room is made of letters, digits, dashes and underscores. -/
theorem plain_of_mem_room (h : m.validate = .ok ()) {ch : Char}
    (mem : ch ∈ (m.meetingKey.room lesson).toList) :
    ch.isAlphanum = true ∨ ch = '-' ∨ ch = '_' := by
  obtain ⟨-, -, ⟨-, plain⟩, -⟩ := validate_eq_ok.1 h
  rw [MeetingKey.toList_room, List.mem_append, List.mem_cons, Id.toList_toText] at mem
  rcases mem with inPrefix | dash | inNumber
  · have allowed := List.all_eq_true.1 plain ch inPrefix
    simpa only [isRoomChar, Bool.or_eq_true, decide_eq_true_eq, or_assoc] using allowed
  · exact .inr (.inl dash)
  · rcases Text.Numeral.isDigit_of_mem_integer inNumber with digit | minus
    · exact .inl (by simp [Char.isAlphanum, digit])
    · exact .inr (.inl minus)

/-! ## Tokens -/

/-- The credential is issued for a lesson and a user, and the pass is read back from its token. -/
structure Issued (m : MeetingSettings) (lesson : LessonId) (user : UserId) (now : Timestamp)
    (c : Credential) (p : Pass) : Prop where
  granted : m.meetingKey.grant? now (m.meetingKey.room lesson) user.toText = some (.ok c)
  read : Pass.read? m.apiSecret c.token = some p

/-- The pass admits the user to the room of the lesson, from now on and for the lifetime that is
set, and the credential names this room. -/
structure Admits (m : MeetingSettings) (lesson : LessonId) (user : UserId) (now : Timestamp)
    (c : Credential) (p : Pass) : Prop where
  issuer : p.issuer = m.apiKey
  holder : p.holder = user.toText
  start : p.start.toInt = now.seconds
  lifetime : p.expiry.toInt - p.start.toInt = m.tokenLifetime.toNat
  join : p.grant.join = true
  room : p.grant.room = c.room
  lesson_room : c.room = m.meetingKey.room lesson
  plain : ∀ ch ∈ p.grant.room.toList, ch.isAlphanum = true ∨ ch = '-' ∨ ch = '_'

/-- A credential is issued as long as the calendar goes on for a day. -/
theorem exists_issued (h : m.validate = .ok ()) (inside : now.seconds + 86400 ≤ Timestamp.greatest)
    (lesson : LessonId) (user : UserId) : ∃ c p, m.Issued lesson user now c p := by
  obtain ⟨-, -, short⟩ := span_of_validate h
  have lower := now.least_le
  obtain ⟨expires, ends⟩ : ∃ expires, now.plusSeconds? m.meetingKey.span.toInt = some expires := by
    rw [plusSeconds?_span h]
    exact Timestamp.exists_make? (by omega) (by omega) (Nat.mod_lt _ (by decide))
  have read := Pass.read?_issue m.meetingKey (m.meetingKey.room lesson) user.toText now expires
  exact ⟨_, _, MeetingKey.grant?_eq_ok.2 ⟨user.isEmpty_toText, expires, ends, rfl⟩, read⟩

theorem Issued.admits (h : m.Issued lesson user now c p) (valid : m.validate = .ok ()) :
    m.Admits lesson user now c p := by
  obtain ⟨-, expires, ends, rfl⟩ := MeetingKey.grant?_eq_ok.1 h.granted
  have read := Pass.read?_issue m.meetingKey (m.meetingKey.room lesson) user.toText now expires
  obtain rfl := Option.some.inj (h.read.symm.trans read)
  have later : expires.seconds = now.seconds + m.tokenLifetime.toNat :=
    (Timestamp.make?_eq_some_iff.1 ((plusSeconds?_span valid).symm.trans ends)).1
  have lifetime : expires.unix.toInt - now.unix.toInt = m.tokenLifetime.toNat := by
    rw [expires.toInt_unix, now.toInt_unix, later]
    omega
  exact ⟨rfl, rfl, now.toInt_unix, lifetime, rfl, rfl, rfl, fun _ => plain_of_mem_room valid⟩

end MeetingSettings

/-- **A meeting token admits one user to one room** for the lifetime that is set. Under accepted
settings it is issued for every lesson and user, as long as the calendar goes on for a day; two of
them are for one room just when they are for one lesson, and for one holder just when they are for
one user. -/
theorem meeting_tokens_admit_one_user_to_one_room (m : MeetingSettings)
    (valid : m.validate = .ok ()) :
    0 < m.tokenLifetime.toNat ∧
    (∀ lesson user now, now.seconds + 86400 ≤ Timestamp.greatest →
      ∃ c p, m.Issued lesson user now c p ∧ m.Admits lesson user now c p) ∧
    (∀ lesson lesson' user user' now now' c c' p p',
      m.Issued lesson user now c p → m.Issued lesson' user' now' c' p' →
        (p.grant.room = p'.grant.room ↔ lesson = lesson') ∧
          (p.holder = p'.holder ↔ user = user')) := by
  refine ⟨(MeetingSettings.span_of_validate valid).2.1, ?_, ?_⟩
  · intro lesson user now inside
    obtain ⟨c, p, issued⟩ := MeetingSettings.exists_issued valid inside lesson user
    exact ⟨c, p, issued, issued.admits valid⟩
  · intro lesson lesson' user user' now now' c c' p p' issued issued'
    have admits := issued.admits valid
    have admits' := issued'.admits valid
    rw [admits.room, admits.lesson_room, admits'.room, admits'.lesson_room, admits.holder,
      admits'.holder]
    exact ⟨m.meetingKey.room_injective.eq_iff, Id.toText_injective.eq_iff⟩

/-- One user is admitted to the rooms of two lessons, one of them with a negative number: the rooms
differ, and the holder is the same. -/
theorem meeting_tokens_admit_one_user_to_one_room_twice :
    ∃ m : MeetingSettings, m.validate = .ok () ∧ ∃ c c' p p',
      m.Issued ⟨1⟩ ⟨42⟩ .epoch c p ∧ m.Issued ⟨-1⟩ ⟨42⟩ .epoch c' p' ∧
        m.Admits ⟨1⟩ ⟨42⟩ .epoch c p ∧ p.grant.room ≠ p'.grant.room ∧ p.holder = p'.holder := by
  let m : MeetingSettings := { apiKey := "tutorly", apiSecret := "secret" }
  have valid : m.validate = .ok () := MeetingSettings.validate_eq_ok.2 (by decide)
  obtain ⟨-, issue, differ⟩ := meeting_tokens_admit_one_user_to_one_room m valid
  obtain ⟨c, p, issued, admits⟩ := issue ⟨1⟩ ⟨42⟩ .epoch (by decide)
  obtain ⟨c', p', issued', -⟩ := issue ⟨-1⟩ ⟨42⟩ .epoch (by decide)
  obtain ⟨rooms, holders⟩ := differ _ _ _ _ _ _ _ _ _ _ issued issued'
  exact ⟨m, valid, c, c', p, p', issued, issued', admits, fun same => absurd (rooms.1 same)
    (by decide), holders.2 rfl⟩

end Tutoring
