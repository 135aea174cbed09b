import Tutoring.Json
import Tutoring.Json.Bytes
import Tutoring.Text.Base64Url
import Tutoring.Text.Pieces
import Tutoring.Token.Hmac

/-!
# Signed tokens

A token has three parts with dots between them: a header, the claims, and the signature of both
under a shared secret. The first two are JSON records, and all three are written in the characters
of addresses.
-/

namespace Tutoring.Token

open Text

/-- The three parts of a token. -/
structure Parts where
  header : List Char
  claims : List Char
  signature : List Char
  deriving DecidableEq, Repr

/-- What is signed. -/
def Parts.signed (p : Parts) : List Char := p.header ++ '.' :: p.claims

/-- The parts of a text, which is cut at its last two dots. -/
def Parts.ofChars? (s : List Char) : Option Parts := do
  let (signed, signature) ← aroundLast? '.' s
  let (header, claims) ← aroundLast? '.' signed
  return ⟨header, claims, signature⟩

/-- The signature of a text under a secret. -/
def sign (secret : String) (signed : List Char) : List Char :=
  Base64Url.encode (Hmac.sha256 (Utf8.encode secret) (Utf8.encode (String.ofList signed)))

/-- A JSON value as a part of a token. -/
def part (v : Json) : List Char := Base64Url.encode (Utf8.encode v.render)

/-- The text behind a part of a token, of which only the members of some names are wanted. -/
def text? (part : List Char) (wanted : List String := []) : Option String :=
  Base64Url.decode? part >>= Json.textOf? wanted

/-- The name of the only way to sign. -/
def algorithm : String := "HS256"

/-- The header of every token that is issued. -/
def header : Json := .object [("typ", .text "JWT"), ("alg", .text algorithm)]

/-- Issues a token with the given claims. -/
def issue (secret : String) (claims : Json) : String :=
  let signed := part header ++ '.' :: part claims
  String.ofList (signed ++ '.' :: sign secret signed)

end Tutoring.Token
