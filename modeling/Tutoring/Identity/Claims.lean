import Tutoring.Json.Bytes
import Tutoring.Json.Record

/-!
# What an identity token says

The claims say who the user is, who issued the token and for whom, and when it expires. They are an
object, in which unknown fields are passed over. A payload is read twice: for the claims, and for
the times that are checked. The second time, a starting time that makes no sense is passed over, but
only as far as it is read before this is found out; nothing may be left of it.
-/

namespace Tutoring.Identity

open Json

/-- The claims of an identity token. -/
structure Claims where
  subject : String
  issuer : String
  /-- Whom the token is for; nobody, if the claim is missing or `null`. -/
  audience : List String
  /-- The second at which the token expires, counted from the start of 1970. -/
  expiry : Int64
  deriving DecidableEq

/-- A string, a list of strings, or `null` for no string at all. -/
def readAudience : Reader (List String) := fun s =>
  match skipSpace s with
  | 'n' :: s => ([], ·) <$> word "ull".toList s
  | '"' :: s => Reader.map ([·]) (stringFrom []) s
  | '[' :: s => readListOf readString ('[' :: s)
  | s => .error (mismatch s)

/-- The fields of the claims. -/
def claimFields : Fields [String, String, List String, Int64, Option Int64] :=
  .cons (.required "sub" readString) <|
  .cons (.required "iss" readString) <|
  .cons (.withDefault "aud" readAudience []) <|
  .cons (.required "exp" readInt64) <|
  .cons (.optional "iat" readInt64) .nil

/-- Claims are written as an object, and as nothing else. -/
def objectOf {αs : List Type} (fields : Fields αs) : Reader (Values αs) := fun s =>
  match skipSpace s with
  | '\x7b' :: s => fields.readObject s
  | s => .error (mismatch s)

/-- The claims of a text. -/
def readClaims (s : String) : Except Fault Claims := do
  let (subject, issuer, audience, expiry, _) ← (objectOf claimFields).whole s
  return { subject, issuer, audience, expiry }

/-- The exponent of a number is found too large before its last digit: the number is not zero, and
the exponent has no minus sign. -/
def breaksOff (number : List Char) : Bool :=
  let significand := number.takeWhile fun c => c ≠ 'e' && c ≠ 'E'
  let exponent :=
    match number.drop (significand.length + 1) with
    | '+' :: digits => digits
    | digits => digits
  significand.any (fun c => c.isDigit && c ≠ '0') && exponent.head? ≠ some '-' &&
    maxExponent < Nat.ofDigitChars 10 exponent.dropLast 0

/-- A string, with its closing quote, ends in the escape of the first half of a character, and is
sound before it. That the second half is missing is only found out when the quote is taken off. -/
def endsInHalf (string : List Char) : Bool :=
  let sound := string.take (string.length - 7)
  match string.drop (string.length - 7) with
  | ['\\', 'u', a, b, c, d, '"'] =>
    (hexWord? a b c d).any (fun n => 0xD800 ≤ n && n ≤ 0xDBFF) &&
      (stringFrom [] (sound ++ ['"'])).isOk
  | _ => false

/-- Any value of which nothing is left when it is found to make no sense: no list or object with
something in it, no string that is broken before its end, and no number that is. -/
def readPlain : Reader Unit := fun s =>
  match skipSpace s with
  | '"' :: s => do
    let rest ← skipValue ('"' :: s)
    if (stringFrom [] s).isOk || endsInHalf (consumed s rest) then return ((), rest)
    throw .malformed
  | '[' :: s => ((), ·) <$> listEnd s
  | '\x7b' :: s =>
    match skipSpace s with
    | '\x7d' :: s => .ok ((), s)
    | _ => .error .mismatched
  | s => do
    let rest ← skipValue s
    if breaksOff (consumed s rest) then throw .malformed
    return ((), rest)

/-- The claim from when on the token is good may be given once; it is not enforced. -/
def startField : Fields [Unit] := .cons (.withDefault "nbf" readPlain ()) .nil

/-- The starting time is not given in a form that is refused. -/
def hasPlainStart (s : String) : Bool := ((objectOf startField).whole s).isOk

end Tutoring.Identity
