import Tutoring.Meeting.Provider
import Tutoring.Settings.Error

/-!
# Settings of meetings
-/

namespace Tutoring

/-- Settings of the meeting provider. -/
structure MeetingSettings where
  apiKey : String := ""
  apiSecret : String := ""
  roomPrefix : String := "lesson"
  /-- How long a credential is good, in seconds. -/
  tokenLifetime : UInt64 := 3600
  deriving DecidableEq, Repr

namespace MeetingSettings

/-- A character that room names may have. -/
def isRoomChar (c : Char) : Bool := c.isAlphanum || c = '-' || c = '_'

/-- The shortest lifetime of a credential, in seconds. -/
def minLifetime : UInt64 := 60

/-- The longest lifetime of a credential, in seconds. -/
def maxLifetime : UInt64 := 86400

/-- Checks the settings of meetings. -/
def validate (m : MeetingSettings) : Except SettingsError Unit := do
  if m.apiKey.isEmpty then throw (.missing "MEETING__API_KEY")
  if m.apiSecret.isEmpty then throw (.missing "MEETING__API_SECRET")
  if m.roomPrefix.isEmpty ∨ !m.roomPrefix.toList.all isRoomChar then throw .invalidRoomPrefix
  if m.tokenLifetime < minLifetime ∨ maxLifetime < m.tokenLifetime then
    throw .invalidTokenLifetime

/-- What signed credentials are made from. -/
def meetingKey (m : MeetingSettings) : MeetingKey :=
  { key := m.apiKey, secret := m.apiSecret, roomPrefix := m.roomPrefix
    lifetime := m.tokenLifetime }

end MeetingSettings

end Tutoring
