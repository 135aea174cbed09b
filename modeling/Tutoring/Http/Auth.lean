import Tutoring.Http.Message
import Tutoring.Identity
import Tutoring.Text.After

/-!
# Who asks

A request may carry a token in its first `Authorization` header. A request without a token goes on
without a user, and is turned away where a user is needed. A token that does not tell the user ends
the request at once.
-/

namespace Tutoring.Http

/-- The characters of a header that can be read as a text. -/
def isReadable (value : String) : Bool :=
  value.toList.all fun c => (0x20 ≤ c.toNat && c.toNat < 0x7F) || c = '\t'

/-- The token of a request. -/
def Request.token? (r : Request) : Option String := do
  let value ← r.header? "authorization"
  if isReadable value then String.ofList <$> Text.after? "Bearer ".toList value.toList else none

/-- What a client is told about its token. -/
def tokenRefusal : AuthError → Response
  | .tokenExpired => .refusal 401 "AUTH_ERROR" "Token expired"
  | .invalidToken => .refusal 401 "AUTH_ERROR" "Invalid token"
  | .serviceUnavailable _ => .refusal 503 "AUTH_ERROR" "Authentication service unavailable"

/-- What a client without a token is told where a user is needed. -/
def signInRequired : Response := .refusal 401 "UNAUTHENTICATED" "Authentication required"

/-- The user of a request, if it has a token. -/
def Request.user (r : Request) (resolve : Resolver) : Except Response (Option UserId) :=
  match r.token? with
  | none => .ok none
  | some token =>
    match resolve token with
    | .ok user => .ok (some user)
    | .error e => .error (tokenRefusal e)

end Tutoring.Http
