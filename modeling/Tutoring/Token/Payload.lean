import Tutoring.Token
import Tutoring.Token.Header

/-!
# The payload of a token

Whoever has the secret that a token is signed under can read its payload. The header has to say how
it is signed, and the signature has to be the one that the secret gives.
-/

namespace Tutoring.Token

/-- The payload of a token that is signed under the secret, of which the members of some names are
wanted. -/
def payload? (wanted : List String) (secret token : String) : Option String := do
  let parts ← Parts.ofChars? token.toList
  let header ← text? parts.header (headerFields algorithm).names
  guard (isHeader algorithm header)
  guard (parts.signature = sign secret parts.signed)
  text? parts.claims wanted

end Tutoring.Token
