import Tutoring.Text.Quoted.Table

/-!
# Quoted texts

A text between double quotes, for a reader's eye: quotes and backslashes are escaped, the common
controls have their letter, and whatever has no picture of its own is written by its code point.
-/

namespace Tutoring.Text.Quoted

/-- The character shows nothing that could be recognised. -/
def isHidden (c : Char) : Bool :=
  let n := c.toNat
  n < 0x20 || hiddenRanges.any fun r => r.1 ≤ n && n ≤ r.2

/-- How a character stands inside the quotes. -/
def escape (c : Char) : List Char :=
  match c with
  | '\x00' => ['\\', '0']
  | '\t' => ['\\', 't']
  | '\r' => ['\\', 'r']
  | '\n' => ['\\', 'n']
  | '"' => ['\\', '"']
  | '\\' => ['\\', '\\']
  | c => if isHidden c then ['\\', 'u', '\x7b'] ++ Nat.toDigits 16 c.toNat ++ ['\x7d'] else [c]

end Tutoring.Text.Quoted

namespace Tutoring.Text

/-- The text between double quotes. -/
def quoted (s : String) : String :=
  String.ofList ('"' :: s.toList.flatMap Quoted.escape ++ ['"'])

end Tutoring.Text
