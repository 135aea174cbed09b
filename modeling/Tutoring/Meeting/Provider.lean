import Tutoring.Id
import Tutoring.Meeting
import Tutoring.Text.Quoted
import Tutoring.Timestamp
import Tutoring.Token

/-!
# Meeting providers

Two ways to come by credentials. The recording provider makes up a token, keeps a record of it, and
fails when it is told to. The signing provider issues a signed token that admits one user to one
room for a limited time.
-/

namespace Tutoring

/-- What signed credentials are made from. -/
structure MeetingKey where
  key : String
  secret : String
  /-- Room names start with it. -/
  roomPrefix : String
  /-- How long a credential is good, in seconds. -/
  lifetime : UInt64
  deriving DecidableEq

namespace MeetingKey

/-- The meeting room of a lesson. -/
def room (k : MeetingKey) (lesson : LessonId) : String := s!"{k.roomPrefix}-{lesson}"

/-- The lifetime as a signed number, which wraps around. -/
def span (k : MeetingKey) : Int64 := k.lifetime.toInt64

/-- What a credential says: who issued it and to whom, from when to when it is good, and that its
holder may join the room, be heard and seen, and hear and see. -/
def claims (k : MeetingKey) (room identity : String) (issued expires : Timestamp) : Json :=
  .object [
    ("iss", .text k.key), ("sub", .text identity), ("nbf", .int issued.unix.toInt),
    ("exp", .int expires.unix.toInt),
    ("video", .object [
      ("room", .text room), ("roomJoin", .bool true), ("canPublish", .bool true),
      ("canSubscribe", .bool true)])]

/-- Admits a user to a room. There is no answer when the end of the lifetime is no point in time. -/
def grant? (k : MeetingKey) (now : Timestamp) (room identity : String) :
    Option (Except MeetingError Credential) :=
  if identity.isEmpty then some (.error (.rejected "identity must not be empty"))
  else do
    let expires ← now.plusSeconds? k.span.toInt
    return .ok { room, token := Token.issue k.secret (k.claims room identity now expires) }

/-- What is shown of the provider: never the secret. -/
def describe (k : MeetingKey) : String :=
  s!"LiveKitMeetingProvider \x7b api_key: {Text.quoted k.key}, " ++
    s!"room_prefix: {Text.quoted k.roomPrefix}, .. \x7d"

end MeetingKey

/-- A provider of meetings. -/
inductive Meetings where
  /-- Makes up tokens, unless it is told to fail, and records who was admitted to which room. -/
  | recording (failing : Option MeetingError) (admitted : List (String × String))
  /-- Signs tokens. -/
  | signing (key : MeetingKey)

namespace Meetings

/-- The meeting room of a lesson. -/
def room : Meetings → LessonId → String
  | recording _ _, lesson => s!"lesson-{lesson}"
  | signing key, lesson => key.room lesson

/-- Admits a user to a room. There is no answer when the end of a lifetime is no point in time. -/
def grant (now : Timestamp) (room identity : String) :
    Meetings → Option (Except MeetingError Credential) × Meetings
  | recording (some e) admitted => (some (.error e), recording (some e) admitted)
  | recording none admitted =>
    (some (.ok { room, token := s!"mock-token:{room}:{identity}" }),
      recording none (admitted ++ [(room, identity)]))
  | signing key => (key.grant? now room identity, signing key)

/-- Tells a recording provider to fail or to stop failing. -/
def setFailing (failing : Option MeetingError) : Meetings → Meetings
  | recording _ admitted => recording failing admitted
  | signing key => signing key

/-- Who was admitted to which room, as far as it was recorded. -/
def admitted : Meetings → List (String × String)
  | recording _ admitted => admitted
  | signing _ => []

end Meetings

end Tutoring
