/-!
# The Gregorian calendar

Dates of the Gregorian calendar, extended without end in both directions, and their count in days
from 1 January 1970. Years are taken to begin in March here, so that a leap day ends its year, and
400 of them make a cycle of 146097 days.
-/

namespace Tutoring.Calendar

/-- A date: the year 0 comes before the year 1. -/
structure Date where
  year : Int
  month : Nat
  day : Nat
  deriving DecidableEq, Repr

/-- The year has a 29 February. -/
def isLeapYear (year : Int) : Bool :=
  year % 4 = 0 && (year % 100 ≠ 0 || year % 400 = 0)

/-- The number of days of a month. -/
def daysInMonth (year : Int) : Nat → Nat
  | 2 => if isLeapYear year then 29 else 28
  | 4 | 6 | 9 | 11 => 30
  | _ => 31

/-- The calendar has the date. -/
def Date.isValid (d : Date) : Bool :=
  1 ≤ d.month && d.month ≤ 12 && 1 ≤ d.day && d.day ≤ daysInMonth d.year d.month

/-- Days from 1 January 1970 to the date. -/
def Date.dayNumber (d : Date) : Int :=
  let year := if d.month ≤ 2 then d.year - 1 else d.year
  let cycle := year / 400
  let yearOfCycle := year % 400
  let month : Int := (d.month + 9) % 12
  let dayOfYear := (153 * month + 2) / 5 + d.day - 1
  let dayOfCycle := yearOfCycle * 365 + yearOfCycle / 4 - yearOfCycle / 100 + dayOfYear
  cycle * 146097 + dayOfCycle - 719468

/-- The date that many days after 1 January 1970. -/
def Date.ofDayNumber (n : Int) : Date :=
  let day := n + 719468
  let cycle := day / 146097
  let dayOfCycle := day % 146097
  let yearOfCycle :=
    (dayOfCycle - dayOfCycle / 1460 + dayOfCycle / 36524 - dayOfCycle / 146096) / 365
  let dayOfYear := dayOfCycle - (365 * yearOfCycle + yearOfCycle / 4 - yearOfCycle / 100)
  let month := (5 * dayOfYear + 2) / 153
  let january := if month < 10 then month + 3 else month - 9
  ⟨yearOfCycle + cycle * 400 + (if january ≤ 2 then 1 else 0), january.toNat,
    (dayOfYear - (153 * month + 2) / 5 + 1).toNat⟩

end Tutoring.Calendar
