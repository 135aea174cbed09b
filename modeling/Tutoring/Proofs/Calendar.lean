import Mathlib.Tactic.IntervalCases
import Tutoring.Timestamp.Calendar

/-!
# Every day has its date

A day of a 400-year cycle is a day of a year of four years of a century (`Parts`). Only the last
year of four has a leap day, and the last year of a century only where the cycle ends, so this is
how the year of a day is found: the day is divided by the common length of a year, when all leap
days before it have been taken out.

* `Date.isValid_ofDayNumber`: the date of a day is one that the calendar has.
* `Date.dayNumber_ofDayNumber`: and counting the days up to it leads back.
-/

namespace Tutoring.Calendar

/-- The day `d` of a cycle is the day `r` of the year `j` of the four years `k` of the century
`c`. -/
structure Parts (d c k j r : Int) : Prop where
  century : 0 ≤ c ∧ c ≤ 3
  four : 0 ≤ k ∧ k ≤ 24
  year : 0 ≤ j ∧ j ≤ 3
  day : 0 ≤ r ∧ r ≤ 365
  leap : r = 365 → j = 3 ∧ (k = 24 → c = 3)
  sum : d = 36524 * c + 1461 * k + 365 * j + r

section Parts

variable {d c k j r : Int}

theorem exists_parts (low : 0 ≤ d) (high : d < 146097) : ∃ c k j r, Parts d c k j r := by
  obtain ⟨c, hc⟩ : ∃ c, c = min (d / 36524) 3 := ⟨_, rfl⟩
  obtain ⟨k, hk⟩ : ∃ k, k = (d - 36524 * c) / 1461 := ⟨_, rfl⟩
  obtain ⟨j, hj⟩ : ∃ j, j = min ((d - 36524 * c - 1461 * k) / 365) 3 := ⟨_, rfl⟩
  refine ⟨c, k, j, d - 36524 * c - 1461 * k - 365 * j, ?_, ?_, ?_, ?_, ?_, ?_⟩ <;> omega

theorem Parts.yearOfCycle (h : Parts d c k j r) :
    (d - d / 1460 + d / 36524 - d / 146096) / 365 = 100 * c + 4 * k + j := by
  obtain ⟨_, _, _, _, leap, sum⟩ := h
  have centuries : d / 36524 - d / 146096 = c := by
    by_cases last : d = 146096
    · omega
    · have inner : 1461 * k + 365 * j + r ≤ 36523 := by omega
      have : d / 146096 = 0 := by omega
      omega
  -- The days before it that are divisible by 1460 are one more than the leap days at the end of
  -- four years, but not before their last year has come.
  have leaps : d / 1460 = 25 * c + k ∨
      (d / 1460 = 25 * c + k + 1 ∧ j = 3 ∧ 365 ≤ 24 * c + k + r) := by
    omega
  omega

theorem Parts.dayOfYear {y : Int} (h : Parts d c k j r) (hy : y = 100 * c + 4 * k + j) :
    d - (365 * y + y / 4 - y / 100) = r := by
  obtain ⟨_, _, _, _, -, sum⟩ := h
  have fours : y / 4 = 25 * c + k := by omega
  have centuries : y / 100 = c := by omega
  omega

/-- A year that has a last day of February is one. -/
theorem Parts.isLeapYear (h : Parts d c k j r) (last : r = 365) (cycle : Int) :
    isLeapYear (100 * c + 4 * k + j + cycle * 400 + 1) = true := by
  obtain ⟨_, _, _, _, leap, -⟩ := h
  obtain ⟨rfl, full⟩ := leap last
  simp only [Calendar.isLeapYear, Bool.and_eq_true, Bool.or_eq_true, decide_eq_true_eq]
  omega

end Parts

namespace Date

/-- The date of a day, from the parts of the day. -/
theorem ofDayNumber_eq {n c k j r m : Int} (h : Parts ((n + 719468) % 146097) c k j r)
    (month : m = (5 * r + 2) / 153) :
    ofDayNumber n =
      ⟨100 * c + 4 * k + j + (n + 719468) / 146097 * 400 + if m < 10 then 0 else 1,
        (if m < 10 then m + 3 else m - 9).toNat, (r - (153 * m + 2) / 5 + 1).toNat⟩ := by
  have inner : 0 ≤ m ∧ m ≤ 11 := by
    have := h.day
    omega
  have new : (if (if m < 10 then m + 3 else m - 9) ≤ 2 then 1 else 0 : Int) =
      if m < 10 then 0 else 1 := by
    split_ifs <;> omega
  simp only [ofDayNumber, h.yearOfCycle, h.dayOfYear rfl, ← month, new]

/-- The days up to a date, from the year that begins in March and its number within a cycle. -/
theorem dayNumber_eq {d : Date} {y q m : Int} (inner : 0 ≤ y ∧ y ≤ 399)
    (year : (if d.month ≤ 2 then d.year - 1 else d.year) = y + q * 400)
    (month : ((d.month : Int) + 9) % 12 = m) :
    d.dayNumber =
      q * 146097 + (365 * y + y / 4 - y / 100 + ((153 * m + 2) / 5 + d.day - 1)) - 719468 := by
  have cycle : (y + q * 400) / 400 = q := by omega
  have yearOfCycle : (y + q * 400) % 400 = y := by omega
  simp only [dayNumber, year, month, cycle, yearOfCycle, Int.mul_comm y 365]

/-- Counting the days up to the date of a day leads back to the day. -/
theorem dayNumber_ofDayNumber (n : Int) : (ofDayNumber n).dayNumber = n := by
  obtain ⟨c, k, j, r, parts⟩ := exists_parts (d := (n + 719468) % 146097) (by omega) (by omega)
  obtain ⟨m, month⟩ : ∃ m, m = (5 * r + 2) / 153 := ⟨_, rfl⟩
  obtain ⟨y, hy⟩ : ∃ y, y = 100 * c + 4 * k + j := ⟨_, rfl⟩
  have dayOfYear := parts.dayOfYear hy
  rw [ofDayNumber_eq parts month, ← hy]
  obtain ⟨_, _, _, _, -, -⟩ := parts
  have inner : 0 ≤ m ∧ m ≤ 11 := by omega
  have day : ((r - (153 * m + 2) / 5 + 1).toNat : Int) = r - (153 * m + 2) / 5 + 1 :=
    Int.toNat_of_nonneg (by omega)
  rw [dayNumber_eq (y := y) (q := (n + 719468) / 146097) (m := m) (by omega)
    (by dsimp only; split_ifs <;> omega) (by dsimp only; split_ifs <;> omega)]
  dsimp only
  rw [day]
  omega

/-- The calendar has the date of every day. -/
theorem isValid_ofDayNumber (n : Int) : (ofDayNumber n).isValid = true := by
  obtain ⟨c, k, j, r, parts⟩ := exists_parts (d := (n + 719468) % 146097) (by omega) (by omega)
  obtain ⟨m, month⟩ : ∃ m, m = (5 * r + 2) / 153 := ⟨_, rfl⟩
  rw [ofDayNumber_eq parts month]
  have leap (last : r = 365) := parts.isLeapYear last ((n + 719468) / 146097)
  obtain ⟨_, _, _, day, -, -⟩ := parts
  have low : 0 ≤ m := by omega
  have high : m ≤ 11 := by omega
  simp only [isValid, Bool.and_eq_true, decide_eq_true_eq]
  -- The months are cut out of the year as they follow from March on, and only the last one of them
  -- depends on the year.
  interval_cases m
  iterate 11
    simp [daysInMonth]
    omega
  by_cases last : r = 365
  · simp [daysInMonth, leap last]
    omega
  · simp only [daysInMonth]
    split_ifs <;> simp <;> omega

theorem lt_of_isValid {d : Date} (h : d.isValid = true) : d.month < 100 ∧ d.day < 100 := by
  have days : daysInMonth d.year d.month ≤ 31 := by
    unfold daysInMonth
    split
    · split <;> decide
    all_goals decide
  simp only [isValid, Bool.and_eq_true, decide_eq_true_eq] at h
  omega

end Date

end Tutoring.Calendar
