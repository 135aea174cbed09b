import Tutoring.Identity
import Tutoring.Identity.Claims
import Tutoring.Text.Quoted
import Tutoring.Token.Payload

/-!
# Identity by signed tokens

A token tells who the user is if it is signed under the shared secret, says the right issuer and
audience, and has not expired. That a token has expired is only said of one that is signed.
-/

namespace Tutoring.Identity

/-- What makes a token trusted. -/
structure Trust where
  secret : String
  issuer : String
  audience : String
  deriving DecidableEq

/-- A token is accepted for that many seconds after it has expired. -/
def leeway : Int := 60

/-- The claims of a token that is signed under the secret and well formed. -/
def signedClaims? (secret token : String) : Option Claims := do
  let text ← Token.payload? claimFields.names secret token
  let claims ← (readClaims text).toOption
  guard (hasPlainStart text ∧ 0 ≤ claims.expiry)
  return claims

/-- Tells which user a token was issued to, at a time in seconds since the start of 1970. -/
def verify (t : Trust) (now : Int) : Resolver := fun token =>
  match signedClaims? t.secret token with
  | none => .error .invalidToken
  | some claims =>
    if claims.expiry.toInt < now - leeway then .error .tokenExpired
    else if claims.issuer ≠ t.issuer ∨ t.audience ∉ claims.audience then .error .invalidToken
    else (Id.read claims.subject).mapError fun _ => .invalidToken

/-- What is shown of the verifier: never the secret. -/
def Trust.describe (t : Trust) : String :=
  s!"JwtIdentityResolver \x7b issuer: {Text.quoted t.issuer}, " ++
    s!"audience: {Text.quoted t.audience}, .. \x7d"

/-- Tells the user of every known token. -/
def known (users : List (String × UserId)) : Resolver := fun token =>
  match users.lookup token with
  | some user => .ok user
  | none => .error .invalidToken

/-- Tells nothing. -/
def failing (e : AuthError) : Resolver := fun _ => .error e

end Tutoring.Identity
