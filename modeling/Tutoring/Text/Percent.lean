import Tutoring.Text.Hex
import Tutoring.Text.Utf8

/-!
# Percent escapes

Part of an address, in which `%` and two hexadecimal digits stand for a byte. A percent sign without
two such digits stands for itself, and the bytes must make up a text.
-/

namespace Tutoring.Text.Percent

/-- The byte that two hexadecimal digits write. -/
def byte? (high low : Char) : Option UInt8 := do
  let h ← hexValue? high
  let l ← hexValue? low
  return (16 * h + l).toUInt8

/-- The bytes of a text with its escapes resolved. -/
def bytes : List Char → List UInt8
  | [] => []
  | '%' :: a :: b :: s =>
    match byte? a b with
    | some v => v :: bytes s
    | none => Utf8.encode "%" ++ bytes (a :: b :: s)
  | c :: s => Utf8.encode (String.singleton c) ++ bytes s

/-- The text behind the escapes, unless they spell no text. -/
def decode? (s : List Char) : Option String := Utf8.decode? (bytes s)

end Tutoring.Text.Percent
