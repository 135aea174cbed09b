import Tutoring.Text.Blank
import Tutoring.Text.Numeral
import Tutoring.Text.Scan
import Tutoring.Timestamp
import Tutoring.Timestamp.Calendar

/-!
# Reading timestamps

A date, a `T` or a blank, a time of day and an offset from UTC. Blanks may stand around and between
the parts. Numbers may have fewer digits than usual, a year with more than four needs a sign, and
digits of the fraction past the ninth are cut. The date must exist, and both the local time and the
time in UTC must lie in the calendar.
-/

namespace Tutoring.Timestamp

open Text

/-- The number that digits write. -/
def value (digits : List Char) : Nat := Nat.ofDigitChars 10 digits 0

/-- One to `most` digits. -/
def scanDigits (most : Nat) : Scan (List Char) := fun s =>
  match (s.takeWhile Char.isDigit).take most with
  | [] => none
  | digits => some (digits, s.drop digits.length)

/-- A number of one or two digits, behind blanks. -/
def scanField : Scan Nat := fun s => do
  let (digits, s) ← scanDigits 2 (trimStart s)
  return (value digits, s)

/-- A year, behind blanks. -/
def scanYear : Scan Int := fun s =>
  match trimStart s with
  | '-' :: s => do
    let (digits, s) ← scanDigits s.length s
    return (-value digits, s)
  | '+' :: s => do
    let (digits, s) ← scanDigits s.length s
    return (value digits, s)
  | s => do
    let (digits, s) ← scanDigits 4 s
    return (value digits, s)

/-- One expected character, behind blanks. -/
def scanMark (c : Char) : Scan Unit := fun s => mark c (trimStart s)

/-- What separates date and time. -/
def scanSeparator : Scan Unit
  | c :: s => if c = 'T' ∨ c = 't' ∨ isBlank c then some ((), s) else none
  | [] => none

/-- The nanoseconds of an optional fraction. -/
def scanFraction : Scan Nat
  | '.' :: s => do
    let (digits, rest) ← scanDigits 9 s
    let all := digits ++ List.replicate (9 - digits.length) '0'
    return (value all, rest.dropWhile Char.isDigit)
  | s => some (0, s)

/-- Two digits. -/
def scanPair : Scan Nat
  | a :: b :: s => if a.isDigit && b.isDigit then some (value [a, b], s) else none
  | _ => none

/-- Hours and minutes of an offset, in seconds. -/
def scanClock : Scan Nat := fun s => do
  let (hours, s) ← scanPair s
  let (minutes, s) ← scanPair (s.dropWhile fun c => c = ':' || isBlank c)
  if hours < 24 ∧ minutes < 60 then some (hours * 3600 + minutes * 60, s) else none

/-- An offset from UTC, in seconds. -/
def scanOffset : Scan Int
  | 'Z' :: s | 'z' :: s => some (0, s)
  | '+' :: s => do
    let (n, s) ← scanClock s
    return (n, s)
  | '-' :: s | '−' :: s => do
    let (n, s) ← scanClock s
    return (-n, s)
  | u :: t :: c :: s =>
    if u.toLower = 'u' ∧ t.toLower = 't' ∧ c.toLower = 'c' then some (0, s) else none
  | _ => none

/-- The second of a local date and time, counted as if local time were UTC. -/
def localSeconds? (date : Calendar.Date) (hour minute second : Nat) : Option Int :=
  let seconds := date.dayNumber * 86400 + (hour * 3600 + minute * 60 + min second 59 : Nat)
  if date.isValid ∧ hour < 24 ∧ minute < 60 ∧ second ≤ 60 ∧ least ≤ seconds ∧
      seconds ≤ greatest then
    some seconds
  else none

/-- The timestamp that a list of characters writes. -/
def ofChars? (s : List Char) : Option Timestamp := do
  let (year, s) ← scanYear s
  let ((), s) ← scanMark '-' s
  let (month, s) ← scanField s
  let ((), s) ← scanMark '-' s
  let (day, s) ← scanField s
  let ((), s) ← scanSeparator s
  let (hour, s) ← scanField s
  let ((), s) ← scanMark ':' s
  let (minute, s) ← scanField s
  let ((), s) ← scanMark ':' s
  let (second, s) ← scanField s
  let (nanos, s) ← scanFraction s
  let (offset, s) ← scanOffset (trimStart s)
  if trimStart s = [] then
    let seconds ← localSeconds? ⟨year, month, day⟩ hour minute second
    make? (seconds - offset) (if second = 60 then nanos + 1000000000 else nanos)
  else none

/-- The timestamp that a text writes. -/
def ofText? (s : String) : Option Timestamp := ofChars? s.toList

end Tutoring.Timestamp
