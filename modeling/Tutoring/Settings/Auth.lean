import Tutoring.Identity.Verifier
import Tutoring.Settings.Server

/-!
# Settings of identity
-/

namespace Tutoring

/-- Settings of the tokens that users sign in with. -/
structure AuthSettings where
  secret : String := ""
  issuer : String := "tutorly"
  audience : String := "tutorly-api"
  deriving DecidableEq, Repr

namespace AuthSettings

/-- The shortest secret in production, in bytes. -/
def minSecretBytes : Nat := 32

/-- Checks the settings of identity. -/
def validate (a : AuthSettings) (deployment : Deployment) : Except SettingsError Unit := do
  if a.secret.isEmpty then throw (.missing "AUTH__JWT_SECRET")
  if a.issuer.isEmpty then throw (.missing "AUTH__ISSUER")
  if a.audience.isEmpty then throw (.missing "AUTH__AUDIENCE")
  if deployment = .production ∧ a.secret.utf8ByteSize < minSecretBytes then throw .weakSecret

/-- What makes a token trusted. -/
def trust (a : AuthSettings) : Identity.Trust :=
  { secret := a.secret, issuer := a.issuer, audience := a.audience }

end AuthSettings

end Tutoring
