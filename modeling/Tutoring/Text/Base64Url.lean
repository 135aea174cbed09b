/-!
# Base64 for addresses

Bytes as letters, digits, `-` and `_`, six bits to a character, without padding. Reading is strict:
a character outside the alphabet, a length that no byte list has, and set bits behind the last byte
are refused, so every byte list has exactly one written form.
-/

namespace Tutoring.Text.Base64Url

/-- The 64 characters in the order of their values. -/
def alphabet : List Char :=
  "ABCDEFGHIJKLMNOPQRSTUVWXYZabcdefghijklmnopqrstuvwxyz0123456789-_".toList

/-- The character for a value below 64. -/
def digit (n : Nat) : Char := alphabet.getD n 'A'

/-- The value of a character of the alphabet. -/
def value? (c : Char) : Option Nat :=
  let n := c.toNat
  if 'A' ≤ c ∧ c ≤ 'Z' then some (n - 65)
  else if 'a' ≤ c ∧ c ≤ 'z' then some (n - 71)
  else if '0' ≤ c ∧ c ≤ '9' then some (n + 4)
  else if c = '-' then some 62
  else if c = '_' then some 63
  else none

/-- Four characters for every three bytes, and one more than there are bytes for a last group of one
or two. -/
def encode : List UInt8 → List Char
  | [] => []
  | [a] => [digit (a.toNat / 4), digit (a.toNat % 4 * 16)]
  | [a, b] =>
    [digit (a.toNat / 4), digit (a.toNat % 4 * 16 + b.toNat / 16), digit (b.toNat % 16 * 4)]
  | a :: b :: c :: s =>
    digit (a.toNat / 4) :: digit (a.toNat % 4 * 16 + b.toNat / 16) ::
      digit (b.toNat % 16 * 4 + c.toNat / 64) :: digit (c.toNat % 64) :: encode s

/-- The values of a text of the alphabet. -/
def values? (s : List Char) : Option (List Nat) := s.mapM value?

/-- The bytes of a list of six-bit values. -/
def bytes? : List Nat → Option (List UInt8)
  | [] => some []
  | [_] => none
  | [p, q] => if q % 16 = 0 then some [(p * 4 + q / 16).toUInt8] else none
  | [p, q, r] =>
    if r % 4 = 0 then some [(p * 4 + q / 16).toUInt8, (q % 16 * 16 + r / 4).toUInt8] else none
  | p :: q :: r :: t :: s =>
    (bytes? s).map fun rest =>
      (p * 4 + q / 16).toUInt8 :: (q % 16 * 16 + r / 4).toUInt8 :: (r % 4 * 64 + t).toUInt8 :: rest

/-- The bytes of a written form. -/
def decode? (s : List Char) : Option (List UInt8) := values? s >>= bytes?

end Tutoring.Text.Base64Url
