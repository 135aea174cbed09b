import Tutoring.Settings.Auth
import Tutoring.Settings.Database
import Tutoring.Settings.Meeting
import Tutoring.Settings.Server

/-!
# Settings

What the service needs to know before it starts. Of settings that are not acceptable, the first
error in the order of the sections is reported.
-/

namespace Tutoring

/-- All settings. -/
structure Settings where
  server : ServerSettings
  database : DatabaseSettings
  auth : AuthSettings
  meeting : MeetingSettings
  deriving DecidableEq, Repr

namespace Settings

/-- Checks all settings. -/
def validate (s : Settings) : Except SettingsError Unit := do
  s.server.validate
  s.database.validate
  s.auth.validate s.server.deployment
  s.meeting.validate

end Settings

end Tutoring
