import Tutoring.Identity.Claims
import Tutoring.Token.Payload

/-!
# What a meeting token says

Whoever has the secret that a meeting token is signed under can tell what it says: who has issued it
and to whom, from when to when it is good, and what its holder may do in which room. Unknown fields
are passed over. The token is not compared with the time at which it is shown.
-/

namespace Tutoring

open Json

/-- What somebody may do in a room. -/
structure Grant where
  room : String
  /-- To come in. -/
  join : Bool
  /-- To be heard and seen. -/
  publish : Bool
  /-- To hear and see. -/
  subscribe : Bool
  deriving DecidableEq

/-- The fields of a grant. -/
def Grant.fields : Fields [String, Bool, Bool, Bool] :=
  .cons (.required "room" readString) <|
  .cons (.required "roomJoin" readBool) <|
  .cons (.required "canPublish" readBool) <|
  .cons (.required "canSubscribe" readBool) .nil

/-- The grant with these values. -/
def Grant.ofValues : Values [String, Bool, Bool, Bool] → Grant
  | (room, join, publish, subscribe, _) => { room, join, publish, subscribe }

/-- The claims of a meeting token. -/
structure Pass where
  issuer : String
  holder : String
  /-- The second from which on it is good, counted from the start of 1970. -/
  start : Int64
  /-- The second at which it expires. -/
  expiry : Int64
  grant : Grant
  deriving DecidableEq

namespace Pass

/-- The fields of the claims. -/
def fields : Fields [String, String, Int64, Int64, Grant] :=
  .cons (.required "iss" readString) <|
  .cons (.required "sub" readString) <|
  .cons (.required "nbf" readInt64) <|
  .cons (.required "exp" readInt64) <|
  .cons (.required "video" (Grant.fields.read.map Grant.ofValues)) .nil

/-- The claims of a text. -/
def ofText (s : String) : Except Fault Pass := do
  let (issuer, holder, start, expiry, grant, _) ← (Identity.objectOf fields).whole s
  return { issuer, holder, start, expiry, grant }

/-- What a token says that is signed under the secret and well formed. -/
def read? (secret token : String) : Option Pass := do
  let payload ← Token.payload? fields.names secret token
  (ofText payload).toOption

end Pass

end Tutoring
