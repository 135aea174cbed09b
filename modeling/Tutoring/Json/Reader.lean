import Tutoring.Json.Scanner

/-!
# Reading typed JSON values

A reader takes a value of one type off the front of a text. The text is read once, from left to
right, and the first fault decides: a value of the wrong kind is only called mismatched when it is
well formed as far as it had to be looked at.
-/

namespace Tutoring.Json

/-- Takes a value off the front of a text and returns the rest. -/
abbrev Reader (α : Type) := List Char → Except Fault (α × List Char)

namespace Reader

variable {α β : Type}

/-- Applies a function to the value. -/
def map (f : α → β) (r : Reader α) : Reader β := fun s => do
  let (a, rest) ← r s
  return (f a, rest)

/-- Refuses a value that the function does not accept. -/
def filterMap (f : α → Option β) (r : Reader α) : Reader β := fun s => do
  let (a, rest) ← r s
  match f a with
  | some b => return (b, rest)
  | none => throw .mismatched

/-- The value of a text that holds nothing else. -/
def whole (r : Reader α) (s : String) : Except Fault α := do
  let (a, rest) ← r s.toList
  match skipSpace rest with
  | [] => return a
  | _ => throw .malformed

/-- The value at the start of a text; what follows it is not looked at. -/
def leading (r : Reader α) (s : String) : Except Fault α := do
  let (a, _) ← r s.toList
  return a

end Reader

/-- The rest of a word. -/
def word : List Char → List Char → Except Fault (List Char)
  | [], s => .ok s
  | _ :: _, [] => .error .incomplete
  | c :: w, d :: s => if c = d then word w s else .error .malformed

/-! ## Numbers -/

/-- What a numeral stands for. -/
inductive Numeral where
  /-- A whole number that is written as one and fits into 64 bits, with or without sign. -/
  | whole (n : Int)
  /-- Any other number. -/
  | other
  deriving DecidableEq, Repr

/-- The largest significand that is kept exactly. -/
def maxSignificand : Nat := UInt64.size - 1

/-- Appends digits to a significand until it would become too large, and counts them. -/
def absorb (significand : Nat) : List Char → Nat × Nat
  | [] => (significand, 0)
  | c :: s =>
    let next := 10 * significand + (c.toNat - '0'.toNat)
    if next ≤ maxSignificand then
      let (n, count) := absorb next s
      (n, count + 1)
    else (significand, 0)

/-- The nearest number with 53 significant bits, the even one of two. -/
def roundToDouble (n : Nat) : Nat :=
  let unit := Nat.pow 2 (n.log2 - 52)
  let quotient := n / unit
  let twice := 2 * (n % unit)
  let up := unit < twice ∨ (unit = twice ∧ quotient % 2 = 1)
  (if up then quotient + 1 else quotient) * unit

/-- The significand times ten to the exponent is too large for a double. -/
def isTooLarge (significand : Nat) (exponent : Int) : Bool :=
  significand ≠ 0 && 0 ≤ exponent &&
    (308 < exponent ||
      Nat.pow 2 1024 - Nat.pow 2 970 ≤
        roundToDouble significand * roundToDouble (Nat.pow 10 exponent.toNat))

/-- A number that is no whole numeral. -/
def inexact (significand : Nat) (exponent : Int) (rest : List Char) :
    Except Fault (Numeral × List Char) :=
  if isTooLarge significand exponent then .error .malformed else .ok (.other, rest)

/-- The largest exponent that is told from a larger one. -/
def maxExponent : Nat := 2147483647

/-- The exponent behind its mark. -/
def exponentPart (significand : Nat) (scale : Int) (s : List Char) :
    Except Fault (Numeral × List Char) :=
  let (negative, s) : Bool × List Char :=
    match s with
    | '+' :: s => (false, s)
    | '-' :: s => (true, s)
    | s => (false, s)
  match s.takeWhile Char.isDigit, s.dropWhile Char.isDigit with
  | [], [] => .error .incomplete
  | [], _ => .error .malformed
  | digits, rest =>
    let n := Nat.ofDigitChars 10 digits 0
    if maxExponent < n then
      if significand ≠ 0 ∧ !negative then .error .malformed else .ok (.other, rest)
    else inexact significand (if negative then scale - n else scale + n) rest

/-- The digits behind the point. -/
def fractionPart (significand : Nat) (scale : Int) (s : List Char) :
    Except Fault (Numeral × List Char) :=
  match s.takeWhile Char.isDigit, s.dropWhile Char.isDigit with
  | [], [] => .error .incomplete
  | [], _ => .error .malformed
  | digits, rest =>
    let (significand, count) := absorb significand digits
    match rest with
    | 'e' :: s | 'E' :: s => exponentPart significand (scale - count) s
    | rest => inexact significand (scale - count) rest

/-- The whole number that a sign and a significand write, if it fits into 64 bits. -/
def wholeNumeral (negative : Bool) (significand : Nat) : Numeral :=
  if negative then
    if 0 < significand ∧ significand ≤ UInt64.size / 2 then .whole (-significand) else .other
  else .whole significand

/-- A number behind its sign. -/
def magnitude (negative : Bool) (s : List Char) : Except Fault (Numeral × List Char) :=
  match s.takeWhile Char.isDigit, s.dropWhile Char.isDigit with
  | [], [] => .error .incomplete
  | [], _ => .error .malformed
  | '0' :: _ :: _, _ => .error .malformed
  | digits, rest =>
    let (significand, count) := absorb 0 digits
    let scale : Int := digits.length - count
    match rest with
    | '.' :: s => fractionPart significand scale s
    | 'e' :: s | 'E' :: s => exponentPart significand scale s
    | rest =>
      if scale = 0 then .ok (wholeNumeral negative significand, rest)
      else inexact significand scale rest

/-! ## Strings -/

/-- The number that four hexadecimal digits write. -/
def hexWord? (a b c d : Char) : Option Nat := do
  let w ← Text.hexValue? a
  let x ← Text.hexValue? b
  let y ← Text.hexValue? c
  let z ← Text.hexValue? d
  return ((w * 16 + x) * 16 + y) * 16 + z

/-- The character that a letter stands for behind a backslash. -/
def escaped? (c : Char) : Option Char :=
  match c with
  | '"' => some '"'
  | '\\' => some '\\'
  | '/' => some '/'
  | 'b' => some '\x08'
  | 'f' => some '\x0c'
  | 'n' => some '\n'
  | 'r' => some '\r'
  | 't' => some '\t'
  | _ => none

/-- The fault of four hexadecimal digits that are not all there. -/
def hexFault (s : List Char) : Fault := if hasBytes 4 s then .malformed else .incomplete

/-- A string behind its opening quote, with the characters before it in reverse. A character beyond
16 bits is written as two escapes, the first in D800-DBFF and the second in DC00-DFFF; neither
stands alone. -/
def stringFrom (before : List Char) : List Char → Except Fault (String × List Char)
  | [] => .error .incomplete
  | '"' :: s => .ok (String.ofList before.reverse, s)
  | '\\' :: 'u' :: a :: b :: c :: d :: s =>
    match hexWord? a b c d with
    | none => .error (hexFault (a :: b :: c :: d :: s))
    | some n =>
      if 0xDC00 ≤ n ∧ n ≤ 0xDFFF then .error .malformed
      else if n < 0xD800 ∨ 0xDBFF < n then stringFrom (Char.ofNat n :: before) s
      else
        match s with
        | [] => .error .incomplete
        | '\\' :: 'u' :: e :: f :: g :: h :: s =>
          match hexWord? e f g h with
          | none => .error (hexFault (e :: f :: g :: h :: s))
          | some m =>
            if 0xDC00 ≤ m ∧ m ≤ 0xDFFF then
              stringFrom (Char.ofNat (0x10000 + (n - 0xD800) * 0x400 + (m - 0xDC00)) :: before) s
            else .error .malformed
        | '\\' :: 'u' :: s => .error (hexFault s)
        | ['\\'] => .error .incomplete
        | _ => .error .malformed
  | '\\' :: 'u' :: s => .error (hexFault s)
  | ['\\'] => .error .incomplete
  | '\\' :: c :: s =>
    match escaped? c with
    | some d => stringFrom (d :: before) s
    | none => .error .malformed
  | c :: s => if c.toNat < 0x20 then .error .malformed else stringFrom (c :: before) s

/-! ## Values of one type -/

/-- The fault of a text that does not start with a value of the wanted kind. -/
def mismatch (s : List Char) : Fault :=
  let faultOf {α : Type} : Except Fault α → Fault
    | .error f => f
    | .ok _ => .mismatched
  match s with
  | [] => .incomplete
  | 'n' :: s => faultOf (word "ull".toList s)
  | 't' :: s => faultOf (word "rue".toList s)
  | 'f' :: s => faultOf (word "alse".toList s)
  | '-' :: s => faultOf (magnitude true s)
  | '"' :: s => faultOf (stringFrom [] s)
  | '[' :: _ => .mismatched
  | '\x7b' :: _ => .mismatched
  | c :: s => if c.isDigit then faultOf (magnitude false (c :: s)) else .malformed

/-- A number. -/
def readNumeral : Reader Numeral := fun s =>
  match skipSpace s with
  | '-' :: s => magnitude true s
  | c :: s => if c.isDigit then magnitude false (c :: s) else .error (mismatch (c :: s))
  | [] => .error .incomplete

/-- A whole number from `low` to `high`, written as one. -/
def readInt (low high : Int) : Reader Int :=
  readNumeral.filterMap fun
    | .whole n => if low ≤ n ∧ n ≤ high then some n else none
    | .other => none

/-- A signed 64-bit number. -/
def readInt64 : Reader Int64 := (readInt Int64.minValue.toInt Int64.maxValue.toInt).map Int64.ofInt

/-- A number from zero to `high`. -/
def readNat (high : Nat) : Reader Nat := (readInt 0 high).map Int.toNat

/-- A truth value. -/
def readBool : Reader Bool := fun s =>
  match skipSpace s with
  | 't' :: s => (true, ·) <$> word "rue".toList s
  | 'f' :: s => (false, ·) <$> word "alse".toList s
  | s => .error (mismatch s)

/-- A string. -/
def readString : Reader String := fun s =>
  match skipSpace s with
  | '"' :: s => stringFrom [] s
  | s => .error (mismatch s)

/-- A value that may be `null`. -/
def readOption {α : Type} (r : Reader α) : Reader (Option α) := fun s =>
  match skipSpace s with
  | [] => .error .incomplete
  | 'n' :: s => (none, ·) <$> word "ull".toList s
  | s => r.map some s

/-- The value `null`. -/
def readNull : Reader Unit := fun s =>
  match skipSpace s with
  | 'n' :: s => ((), ·) <$> word "ull".toList s
  | s => .error (mismatch s)

/-- The expected colon behind a name. -/
def colon (s : List Char) : Except Fault (List Char) :=
  match skipSpace s with
  | ':' :: s => .ok s
  | [] => .error .incomplete
  | _ => .error .malformed

/-- One of a closed list of names: a string, or an object that maps the name to `null`. -/
def readName {α : Type} (find? : String → Option α) : Reader α := fun s =>
  match skipSpace s with
  | '"' :: s => Reader.filterMap find? (stringFrom []) s
  | '\x7b' :: s => do
    let (a, s) ← Reader.filterMap find? readString s
    let ((), s) ← readNull (← colon s)
    match skipSpace s with
    | '\x7d' :: s => return (a, s)
    | [] => throw .incomplete
    | _ => throw .malformed
  | [] => .error .incomplete
  | _ => .error .malformed

end Tutoring.Json
