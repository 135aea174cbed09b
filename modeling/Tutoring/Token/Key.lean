import Tutoring.Json.Content

/-!
# Keys in a header

A header may hold the key that a token can be verified with. It is not used, but it has to be a key:
an object that says what kind of key it is, with the parts that a key of this kind has. Members that
every key may have are left out, `null` or of their type, and all others are passed over.
-/

namespace Tutoring.Token

open Json

/-- A kind of key. -/
structure KeyKind where
  name : String
  /-- Its keys are points of a named curve. -/
  onCurve : Bool
  /-- The numbers of a key, which are written as strings. -/
  numbers : List String

/-- The kinds of keys. -/
def KeyKind.all : List KeyKind :=
  [⟨"EC", true, ["x", "y"]⟩, ⟨"RSA", false, ["n", "e"]⟩, ⟨"oct", false, ["k"]⟩,
    ⟨"OKP", true, ["x"]⟩]

/-- The named curves. -/
def curves : List String := ["P-256", "P-384", "P-521", "Ed25519"]

/-- The name of an algorithm, be it known or not: an object may also map it to an empty one. -/
def isAlgorithmName : Content → Bool
  | .object [(_, .object [])] => true
  | v => v.name?.isSome

/-- The members that a key of any kind may have, with the values besides `null`. -/
def commonMembers : List (String × (Content → Bool)) :=
  [("use", Content.isText), ("key_ops", Content.isTexts), ("alg", isAlgorithmName),
    ("kid", Content.isText), ("x5u", Content.isText), ("x5c", Content.isTexts),
    ("x5t", Content.isText), ("x5t#S256", Content.isText)]

/-- An entry of the name comes just once, with a good value. -/
def hasOnce (name : String) (good : Content → Bool) (entries : List (String × Content)) : Bool :=
  match valuesOf name entries with
  | [v] => good v
  | _ => false

/-- An entry of the name comes at most once, with a good value or `null`. -/
def hasAtMostOnce (name : String) (good : Content → Bool) (entries : List (String × Content)) :
    Bool :=
  match valuesOf name entries with
  | [] => true
  | [v] => v.isNull || good v
  | _ => false

/-- The entries are those of a key of this kind. -/
def KeyKind.fits (k : KeyKind) (entries : List (String × Content)) : Bool :=
  hasOnce "kty" (fun v => v.name? = some k.name) entries &&
    (!k.onCurve || hasOnce "crv" (fun v => v.name?.any (· ∈ curves)) entries) &&
    k.numbers.all fun name => hasOnce name Content.isText entries

/-- The value is a key. -/
def isKey : Content → Bool
  | .object entries =>
    (commonMembers.all fun (name, good) => hasAtMostOnce name good entries) &&
      KeyKind.all.any (·.fits entries)
  | _ => false

/-- How deeply the brackets of a key may nest: 127 levels, without the one of the header. -/
def keyDepth : Nat := 126

/-- A key. -/
def readKey : Reader Unit :=
  (readContent keyDepth).filterMap fun v => if isKey v then some () else none

end Tutoring.Token
