import Tutoring.Id

/-!
# Identities

A client shows a token and is taken for the user whom the token was issued to. Who that is, is
decided by a resolver.
-/

namespace Tutoring

/-- Why a token does not tell who the user is. -/
inductive AuthError where
  /-- The token is malformed, forged or meant for somebody else. -/
  | invalidToken
  /-- The token was good and is too old. -/
  | tokenExpired
  /-- The service that knows is not there. -/
  | serviceUnavailable (reason : String)
  deriving DecidableEq, Repr

namespace AuthError

/-- The error in words. -/
def toText : AuthError → String
  | invalidToken => "Invalid or expired token"
  | tokenExpired => "Token expired"
  | serviceUnavailable reason => s!"Auth service unavailable: {reason}"

instance : ToString AuthError := ⟨toText⟩

/-- The client should get a new token. -/
def requiresLogin : AuthError → Bool
  | invalidToken | tokenExpired => true
  | serviceUnavailable _ => false

end AuthError

/-- Tells which user a token was issued to. -/
abbrev Resolver := String → Except AuthError UserId

end Tutoring
