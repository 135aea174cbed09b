import Tutoring.Json.Reader
import Tutoring.Text.Utf8

/-!
# Objects as bytes

An object comes as bytes. Its names and the values that are wanted have to be UTF-8. A value that is
passed over is only searched for its end, so what its strings hold beyond ASCII is not looked at.
-/

namespace Tutoring.Json

/-- The part of a text that is taken off when a rest is left. -/
def consumed (s rest : List Char) : List Char := s.take (s.length - rest.length)

/-- A byte stands for itself if it is ASCII, and otherwise for something unknown. -/
def veil (c : Char) : Char := if c.toNat < 0x80 then c else '?'

/-- The members of an object behind its brace or a comma, one character for each byte, with the
values veiled that are not wanted. There are at most `bound` of them. -/
def veilMembers (wanted : List String) : (bound : Nat) → List Char → Except Fault (List Char)
  | 0, _ => .error .malformed
  | bound + 1, s => do
    let (name, named) ← readString s
    let value ← colon named
    let behind ← skipValue value
    let shown := if name ∈ wanted then consumed value behind else (consumed value behind).map veil
    match skipSpace behind with
    | ',' :: next =>
      let others ← veilMembers wanted bound next
      return consumed s value ++ shown ++ consumed behind next ++ others
    | _ => return consumed s value ++ shown ++ behind

/-- An object with the values veiled that are not wanted. -/
def veilObject (wanted : List String) (s : List Char) : Except Fault (List Char) :=
  match skipSpace s with
  | '\x7b' :: members => (consumed s members ++ ·) <$> veilMembers wanted members.length members
  | s => .error (mismatch s)

/-- The bytes of an object with the values veiled that are not wanted. -/
def veilBytes (wanted : List String) (bytes : List UInt8) : Except Fault (List UInt8) :=
  List.map (fun c => c.toNat.toUInt8) <$>
    veilObject wanted (bytes.map fun b => Char.ofNat b.toNat)

/-- The text of the bytes of an object of which only the members of some names are wanted. It is
veiled only where it has to be. -/
def textOf? (wanted : List String) (bytes : List UInt8) : Option String :=
  match Text.Utf8.decode? bytes with
  | some s => some s
  | none => (veilBytes wanted bytes).toOption >>= Text.Utf8.decode?

/-- A text is read back from its bytes, whatever is wanted of it. -/
@[simp] theorem textOf?_encode (wanted : List String) (s : String) :
    textOf? wanted (Text.Utf8.encode s) = some s := by
  unfold textOf?
  rw [Text.Utf8.decode?_encode]

end Tutoring.Json
