/-!
# Decimal numerals

Reading a bounded whole number from a text that must be nothing else: an optional sign, then at
least one ASCII digit. Digits are taken from left to right, so a numeral that leaves the range
before its first bad character is reported as out of range, and as malformed otherwise.
-/

namespace Tutoring.Text.Numeral

/-- Why a text is no numeral of the wanted range. -/
inductive Fault where
  /-- There is no character at all. -/
  | empty
  /-- A character is no digit, or a sign stands alone. -/
  | invalidDigit
  /-- The number is above the range. -/
  | tooLarge
  /-- The number is below the range. -/
  | tooSmall
  deriving DecidableEq, Repr

/-- What the user is told. -/
def Fault.message : Fault → String
  | .empty => "cannot parse integer from empty string"
  | .invalidDigit => "invalid digit found in string"
  | .tooLarge => "number too large to fit in target type"
  | .tooSmall => "number too small to fit in target type"

/-- The value of an ASCII digit. -/
def digit? (c : Char) : Option Nat :=
  if c.isDigit then some (c.toNat - '0'.toNat) else none

/-- Appends digits to the number `n`, as long as it stays at most `limit`; `excess` is reported when
it does not. -/
def extend (limit : Nat) (excess : Fault) (n : Nat) : List Char → Except Fault Nat
  | [] => .ok n
  | c :: s =>
    match digit? c with
    | none => .error .invalidDigit
    | some d => if 10 * n + d ≤ limit then extend limit excess (10 * n + d) s else .error excess

/-- One or more digits after a sign. -/
def magnitude (limit : Nat) (excess : Fault) : List Char → Except Fault Nat
  | [] => .error .invalidDigit
  | s => extend limit excess 0 s

/-- A number from `-low` to `high`, with an optional sign. -/
def readInt (low high : Nat) : List Char → Except Fault Int
  | [] => .error .empty
  | '+' :: s => Int.ofNat <$> magnitude high .tooLarge s
  | '-' :: s => (fun n => -Int.ofNat n) <$> magnitude low .tooSmall s
  | s => Int.ofNat <$> magnitude high .tooLarge s

/-- A number up to `high`, with an optional plus sign. -/
def readNat (high : Nat) : List Char → Except Fault Nat
  | [] => .error .empty
  | '+' :: s => magnitude high .tooLarge s
  | s => magnitude high .tooLarge s

/-- The decimal digits of a number, none of them superfluous. -/
def digits (n : Nat) : List Char := Nat.toDigits 10 n

/-- The decimal digits of a number, with leading zeros up to `width` characters. -/
def padded (width n : Nat) : List Char :=
  List.replicate (width - (digits n).length) '0' ++ digits n

/-- A whole number in decimal, with a minus sign in front when it is negative. -/
def integer : Int → List Char
  | .ofNat n => digits n
  | .negSucc n => '-' :: digits (n + 1)

/-- A number does not become smaller when digits are appended. -/
theorem le_ofDigitChars (n : Nat) (s : List Char) : n ≤ Nat.ofDigitChars 10 s n := by
  induction s generalizing n with
  | nil => exact Nat.le_refl n
  | cons c s ih =>
    rw [Nat.ofDigitChars_cons]
    have grows := ih (10 * n + (c.toNat - '0'.toNat))
    omega

end Tutoring.Text.Numeral
