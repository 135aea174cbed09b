import Tutoring.Text.Numeral
import Tutoring.Timestamp
import Tutoring.Timestamp.Calendar

/-!
# Written timestamps

A timestamp is written as date and time in UTC with a final `Z`. Years from 0 to 9999 have four
digits, all others a sign and at least four. The fraction has 0, 3, 6 or 9 digits, the fewest that
are exact, and a leap second has the number 60.
-/

namespace Tutoring.Timestamp

open Text.Numeral

/-- A year. -/
def yearText (year : Int) : List Char :=
  if 0 ≤ year ∧ year ≤ 9999 then padded 4 year.toNat
  else (if year < 0 then '-' else '+') :: padded 4 year.natAbs

/-- A fraction of a second, with its point. -/
def fractionText (nanos : Nat) : List Char :=
  if nanos = 0 then []
  else if nanos % 1000000 = 0 then '.' :: padded 3 (nanos / 1000000)
  else if nanos % 1000 = 0 then '.' :: padded 6 (nanos / 1000)
  else '.' :: padded 9 nanos

/-- The characters of a written timestamp. -/
def chars (t : Timestamp) : List Char :=
  let date := Calendar.Date.ofDayNumber (t.seconds / 86400)
  let time := (t.seconds % 86400).toNat
  let leap := t.nanos / 1000000000
  yearText date.year ++ '-' :: padded 2 date.month ++ '-' :: padded 2 date.day ++
    'T' :: padded 2 (time / 3600) ++ ':' :: padded 2 (time / 60 % 60) ++
    ':' :: padded 2 (time % 60 + leap) ++ fractionText (t.nanos % 1000000000) ++ ['Z']

/-- The written timestamp. -/
def toText (t : Timestamp) : String := String.ofList t.chars

instance : ToString Timestamp := ⟨toText⟩

end Tutoring.Timestamp
