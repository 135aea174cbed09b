import Mathlib.Data.Option.Basic
import Tutoring.Identity.Verifier
import Tutoring.Meeting.Provider
import Tutoring.Proofs.Claims
import Tutoring.Proofs.Fields
import Tutoring.Proofs.Tokens

/-!
# Which tokens are accepted

A token is accepted for a user just when it carries a payload that is signed under the secret, and
the claims of this payload name the issuer, the audience and the user, and have not expired. Nobody
else is taken for the audience: without an audience a token is refused, and so is every token that
admits to a meeting, whatever it was issued under.

* `Accepted`: what the members of the payload of an accepted token say.
* `tokens_accepted_exactly`: these tokens are accepted, and no others.
* `meeting_tokens_refused`: a meeting token is no identity token.
-/

namespace Tutoring

namespace Identity

open Json Token

/-! ## Verifying -/

section Verify

variable {t : Trust} {now : Int} {secret token payload : String} {ms : List Member} {c : Claims}
  {user : UserId} {e : AuthError}

theorem signedClaims?_eq_some :
    signedClaims? secret token = some c ↔
      ∃ payload ms, Carries claimFields.names secret token payload ∧ IsObject payload ms ∧
        Claimed ms c ∧ StartsPlain ms ∧ 0 ≤ c.expiry := by
  unfold signedClaims?
  simp only [Option.bind_eq_bind, Option.bind_eq_some_iff, Option.pure_def, Option.some.injEq,
    Option.guard_eq_some', toOption_eq_some, payload?_eq_some]
  constructor
  · rintro ⟨payload, carries, c', read, -, ⟨plain, good⟩, rfl⟩
    obtain ⟨ms, object, claimed⟩ := readClaims_eq_ok.1 read
    obtain ⟨ms', object', start⟩ := hasPlainStart_iff.1 plain
    obtain rfl := object.unique object'
    exact ⟨payload, _, carries, object, claimed, start, good⟩
  · rintro ⟨payload, ms, carries, object, claimed, start, good⟩
    exact ⟨payload, carries, c, readClaims_eq_ok.2 ⟨ms, object, claimed⟩, (),
      ⟨hasPlainStart_iff.2 ⟨ms, object, start⟩, good⟩, rfl⟩

/-- What can become of a token, with the claims that decide it. -/
inductive Verdict (t : Trust) (now : Int) (token : String) : Except AuthError UserId → Prop
  | invalid : Verdict t now token (.error .invalidToken)
  | late {c : Claims} (claims : signedClaims? t.secret token = some c)
      (late : c.expiry.toInt < now - leeway) : Verdict t now token (.error .tokenExpired)
  | accepted {c : Claims} {user : UserId} (claims : signedClaims? t.secret token = some c)
      (fresh : now - leeway ≤ c.expiry.toInt) (issuer : c.issuer = t.issuer)
      (audience : t.audience ∈ c.audience) (read : Id.read c.subject = .ok user) :
      Verdict t now token (.ok user)

theorem verify_verdict (t : Trust) (now : Int) (token : String) :
    Verdict t now token (verify t now token) := by
  unfold verify
  split
  · exact .invalid
  rename_i c claims
  split
  · rename_i late
    exact .late claims late
  rename_i fresh
  split
  · exact .invalid
  rename_i intended
  obtain ⟨issuer, audience⟩ := not_or.1 intended
  cases read : (Id.read c.subject : Except _ UserId) with
  | error fault => exact .invalid
  | ok user =>
    exact .accepted claims (Int.not_lt.1 fresh) (not_not.1 issuer) (not_not.1 audience) read

theorem verify_eq_ok :
    verify t now token = .ok user ↔
      ∃ c, signedClaims? t.secret token = some c ∧ now - leeway ≤ c.expiry.toInt ∧
        c.issuer = t.issuer ∧ t.audience ∈ c.audience ∧ Id.read c.subject = .ok user := by
  constructor
  · intro h
    have verdict := verify_verdict t now token
    rw [h] at verdict
    cases verdict with
    | accepted claims fresh issuer audience read => exact ⟨_, claims, fresh, issuer, audience, read⟩
  · rintro ⟨c, claims, fresh, issuer, audience, read⟩
    unfold verify
    rw [claims]
    dsimp only
    rw [if_neg (Int.not_lt.2 fresh), if_neg (by simp [issuer, audience]), read]
    rfl

end Verify

/-! ## Accepted tokens -/

section Accept

variable {t : Trust} {now : Int} {token payload : String} {ms : List Member} {user : UserId}

/-- The audience stands alone or in a list. -/
def ForAudience (audience : String) (ms : List Member) : Prop :=
  Given "aud" readString ms audience ∨
    ∃ names, Given "aud" (readListOf readString) ms names ∧ audience ∈ names

/-- No audience is named: the claim is missing, `null` or an empty list. -/
def ForNobody (ms : List Member) : Prop :=
  textsOf "aud" ms = [] ∨ Given "aud" readNull ms () ∨ Given "aud" (readListOf readString) ms []

/-- What the members of a payload have to say for its token to be accepted for a user. -/
structure Accepted (t : Trust) (now : Int) (ms : List Member) (user : UserId) : Prop where
  subject : ∃ name, Given "sub" readString ms name ∧ Id.read name = .ok user
  issuer : Given "iss" readString ms t.issuer
  audience : ForAudience t.audience ms
  expiry : ∃ second : Int64, Given "exp" readInt64 ms second ∧ 0 ≤ second ∧
    now - leeway ≤ second.toInt
  issued : textsOf "iat" ms = [] ∨ ∃ second, Given "iat" (readOption readInt64) ms second
  start : StartsPlain ms

theorem forAudience_iff {audience : String} :
    ForAudience audience ms ↔ ∃ names, Given "aud" readAudience ms names ∧ audience ∈ names := by
  constructor
  · rintro (⟨text, once, reads⟩ | ⟨names, ⟨text, once, reads⟩, mem⟩)
    · have reads := reads_audience.2 (.inr (.inl ⟨_, reads, rfl⟩))
      exact ⟨_, ⟨text, once, reads⟩, List.mem_singleton_self _⟩
    · exact ⟨names, ⟨text, once, reads_audience.2 (.inr (.inr reads))⟩, mem⟩
  · rintro ⟨names, ⟨text, once, reads⟩, mem⟩
    rcases reads_audience.1 reads with ⟨-, rfl⟩ | ⟨name, string, rfl⟩ | list
    · cases mem
    · obtain rfl := List.mem_singleton.1 mem
      exact .inl ⟨text, once, string⟩
    · exact .inr ⟨names, ⟨text, once, list⟩, mem⟩

/-- What names an audience does not name nobody. -/
theorem ForAudience.not_forNobody {audience : String} (h : ForAudience audience ms) :
    ¬ForNobody ms := by
  obtain ⟨names, given, mem⟩ := forAudience_iff.1 h
  have named : names ≠ [] := List.ne_nil_of_mem mem
  rintro (never | ⟨text, once, null⟩ | ⟨text, once, list⟩)
  · obtain ⟨text, once, -⟩ := given
    cases never.symm.trans once
  · have nobody := reads_audience.2 (.inl ⟨null, rfl⟩)
    exact named (Given.unique given ⟨text, once, nobody⟩)
  · have nobody := reads_audience.2 (.inr (.inr list))
    exact named (Given.unique given ⟨text, once, nobody⟩)

theorem accepted_iff :
    Accepted t now ms user ↔
      ∃ c, Claimed ms c ∧ StartsPlain ms ∧ 0 ≤ c.expiry ∧ now - leeway ≤ c.expiry.toInt ∧
        c.issuer = t.issuer ∧ t.audience ∈ c.audience ∧ Id.read c.subject = .ok user := by
  constructor
  · rintro ⟨⟨name, subject, read⟩, issuer, audience, ⟨second, expiry, good, fresh⟩, issued, start⟩
    obtain ⟨names, audience, mem⟩ := forAudience_iff.1 audience
    have claimed : Claimed ms ⟨name, t.issuer, names, second⟩ :=
      ⟨subject, issuer, .inl audience, expiry, issued⟩
    exact ⟨_, claimed, start, good, fresh, rfl, mem, read⟩
  · rintro ⟨c, claimed, start, good, fresh, issuer, mem, read⟩
    have audience : ForAudience t.audience ms := by
      rcases claimed.audience with given | ⟨-, nobody⟩
      · exact forAudience_iff.2 ⟨c.audience, given, mem⟩
      · rw [nobody] at mem
        cases mem
    exact ⟨⟨c.subject, claimed.subject, read⟩, issuer ▸ claimed.issuer, audience,
      ⟨c.expiry, claimed.expiry, good, fresh⟩, claimed.issued, start⟩

theorem verify_eq_ok_iff :
    verify t now token = .ok user ↔
      ∃ payload ms, Carries claimFields.names t.secret token payload ∧ IsObject payload ms ∧
        Accepted t now ms user := by
  rw [verify_eq_ok]
  constructor
  · rintro ⟨c, claims, fresh, issuer, audience, read⟩
    obtain ⟨payload, ms, carries, object, claimed, start, good⟩ := signedClaims?_eq_some.1 claims
    exact ⟨payload, ms, carries, object,
      accepted_iff.2 ⟨c, claimed, start, good, fresh, issuer, audience, read⟩⟩
  · rintro ⟨payload, ms, carries, object, accepted⟩
    obtain ⟨c, claimed, start, good, fresh, issuer, audience, read⟩ := accepted_iff.1 accepted
    exact ⟨c, signedClaims?_eq_some.2 ⟨payload, ms, carries, object, claimed, start, good⟩, fresh,
      issuer, audience, read⟩

/-- A token for nobody is not accepted for anybody. -/
theorem not_accepted_forNobody {secret : String}
    (carries : Carries claimFields.names secret token payload) (object : IsObject payload ms)
    (nobody : ForNobody ms) : verify t now token ≠ .ok user := by
  intro accepted
  obtain ⟨payload', ms', carries', object', accepted⟩ := verify_eq_ok_iff.1 accepted
  obtain rfl := carries.unique carries'
  obtain rfl := object.unique object'
  exact accepted.audience.not_forNobody nobody

end Accept

end Identity

/-! ## Meeting tokens -/

namespace MeetingKey

variable {k : MeetingKey} {now : Timestamp} {room identity : String} {c : Credential}

theorem grant?_eq_ok :
    k.grant? now room identity = some (.ok c) ↔
      identity.isEmpty = false ∧ ∃ expires, now.plusSeconds? k.span.toInt = some expires ∧
        ⟨room, Token.issue k.secret (k.claims room identity now expires)⟩ = c := by
  unfold grant?
  cases identity.isEmpty with
  | true => exact ⟨nofun, nofun⟩
  | false =>
    simp only [Bool.false_eq_true, if_false, Option.bind_eq_bind, Option.bind_eq_some_iff,
      Option.pure_def, Option.some.injEq, Except.ok.injEq, true_and]

/-- The claims of a meeting token name no audience. -/
theorem forNobody_claims (k : MeetingKey) (room identity : String) (now expires : Timestamp) :
    ∃ ms, Json.IsObject (k.claims room identity now expires).render ms ∧
      Identity.ForNobody ms := by
  obtain ⟨ms, object, fields⟩ := Json.isObject_render
    (rfl : k.claims room identity now expires = .object _)
  exact ⟨ms, object, .inl (fields.textsOf_eq_nil (by simp))⟩

end MeetingKey

/-- **A meeting token is no identity token.** It never tells who its holder is, even if it is issued
under the secret and by the issuer that identities are trusted for. -/
theorem meeting_tokens_refused (k : MeetingKey) (t : Identity.Trust) (issued : Timestamp)
    (now : Int) (room identity : String) (c : Credential)
    (granted : k.grant? issued room identity = some (.ok c)) :
    ∃ e, Identity.verify t now c.token = .error e := by
  obtain ⟨-, expires, -, rfl⟩ := MeetingKey.grant?_eq_ok.1 granted
  obtain ⟨ms, object, nobody⟩ := k.forNobody_claims room identity issued expires
  have carries := Token.carries_issue Identity.claimFields.names k.secret
    (k.claims room identity issued expires)
  cases verified : Identity.verify t now
    (Token.issue k.secret (k.claims room identity issued expires)) with
  | error e => exact ⟨e, rfl⟩
  | ok user => exact absurd verified (Identity.not_accepted_forNobody carries object nobody)

/-- A token that admits to a room for an hour is refused while it is good, under the same secret. -/
theorem meeting_tokens_refused_hour :
    ∃ c, MeetingKey.grant? ⟨"tutorly", "secret", "lesson", 3600⟩ .epoch "lesson-1" "42" =
        some (.ok c) ∧
      ∃ e, Identity.verify ⟨"secret", "tutorly", "tutorly-api"⟩ 60 c.token = .error e := by
  let k : MeetingKey := ⟨"tutorly", "secret", "lesson", 3600⟩
  have ends : Timestamp.epoch.plusSeconds? k.span.toInt = some (Timestamp.ofUnix 3600) := by decide
  have named : "42".isEmpty = false := by decide
  obtain ⟨c, granted⟩ : ∃ c, k.grant? .epoch "lesson-1" "42" = some (.ok c) :=
    ⟨_, MeetingKey.grant?_eq_ok.2 ⟨named, _, ends, rfl⟩⟩
  exact ⟨c, granted, meeting_tokens_refused k _ .epoch _ "lesson-1" "42" c granted⟩

end Tutoring
