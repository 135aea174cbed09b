import Tutoring.Settings.Address
import Tutoring.Settings.Error
import Tutoring.Text.Blank
import Tutoring.Text.Pieces

/-!
# Settings of the server

Where the server listens, where it runs, and how it logs.
-/

namespace Tutoring

/-- Where the server runs. -/
inductive Deployment where
  | development | staging | production
  deriving DecidableEq, Repr

namespace Deployment

/-- All deployments. -/
def all : List Deployment := [development, staging, production]

/-- The name in settings. -/
def toText : Deployment → String
  | development => "development"
  | staging => "staging"
  | production => "production"

/-- The deployment with that name. -/
def ofText? (s : String) : Option Deployment := all.find? (·.toText = s)

end Deployment

/-- How log lines are written. -/
inductive LogStyle where
  /-- For human readers. -/
  | pretty
  /-- One JSON object to a line. -/
  | json
  deriving DecidableEq, Repr

/-- Settings of the server. -/
structure ServerSettings where
  host : String := "0.0.0.0"
  port : UInt16 := 8080
  deployment : Deployment := .development
  /-- What is logged. -/
  logLevel : String := "info,tutorly=debug,sqlx=warn"
  /-- How long a request may take, in seconds. -/
  timeout : UInt64 := 30
  /-- The origins that browsers may come from, with commas between them; all of them, if it is not
  set. -/
  origins : Option String := none
  deriving DecidableEq, Repr

namespace ServerSettings

/-- The address to listen on, as it is written. -/
def addressText (s : ServerSettings) : String := s!"{s.host}:{s.port.toNat}"

/-- The address to listen on. -/
def address (s : ServerSettings) : Except SettingsError SocketAddress :=
  match SocketAddress.ofText? s.addressText with
  | some a => .ok a
  | none => .error (.invalidAddress s.addressText)

/-- The server runs for real users. -/
def isProduction (s : ServerSettings) : Bool := s.deployment = .production

/-- How log lines are written. -/
def logStyle (s : ServerSettings) : LogStyle :=
  match s.deployment with
  | .development => .pretty
  | .staging | .production => .json

/-- The allowed origins, without blank ones. -/
def originList (s : ServerSettings) : List String :=
  match s.origins with
  | none => []
  | some text =>
    (((Text.pieces ',' text.toList).map Text.trim).filter (· ≠ [])).map String.ofList

/-- The longest time that a request may be given, in seconds. -/
def maxTimeout : UInt64 := 300

/-- Checks the settings of the server. -/
def validate (s : ServerSettings) : Except SettingsError Unit := do
  if s.port = 0 then throw .invalidPort
  if s.timeout < 1 ∨ maxTimeout < s.timeout then throw .invalidTimeout
  let _ ← s.address

end ServerSettings

end Tutoring
