import Tutoring.Json.Record
import Tutoring.Token.Key

/-!
# What the header of a token says

The header names the way the token is signed. Nothing else in it is used, but what is known has to
be of its type. Unknown fields are passed over.
-/

namespace Tutoring.Token

open Json

/-- The fields of the header, of which only the algorithm is needed. -/
def headerFields (algorithm : String) :=
  Fields.cons (.optional "typ" readString) <|
  .cons (.required "alg" (readName fun s => if s = algorithm then some () else none)) <|
  .cons (.optional "cty" readString) <|
  .cons (.optional "jku" readString) <|
  .cons (.optional "jwk" readKey) <|
  .cons (.optional "kid" readString) <|
  .cons (.optional "x5u" readString) <|
  .cons (.optional "x5c" (readListOf readString)) <|
  .cons (.optional "x5t" readString) <|
  .cons (.optional "x5t#S256" readString) .nil

/-- The text is the header of a token that is signed with this algorithm. -/
def isHeader (algorithm s : String) : Bool := ((headerFields algorithm).read.whole s).isOk

end Tutoring.Token
