import Tutoring.Timestamp

/-!
# Sums of times are exact

The seconds between the ends of the calendar are fewer than the longest span has, and those are
fewer than 64 bits count. So a distance beyond either limit leads out of the calendar as well, and
minutes whose seconds are too many for 64 bits are refused as their exact seconds would be. Outside
leap seconds, a sum is the timestamp at the distance with the same fraction, and there is a sum
whenever there is such a timestamp: the laws of addition follow from this alone.

* `unix_ofUnix`: a whole second is kept if the calendar has it.
* `plusSeconds?_eq_some_iff`: what a sum is, and when there is one.
* `plusSeconds?_plusSeconds?`: seconds are added one after the other or all at once.
* `plusMinutes?_eq`: minutes are sixty seconds each.
* `time_arithmetic_is_exact`: all of it.
-/

namespace Tutoring

namespace Timestamp

variable {s t u v : Timestamp} {m n : Int}

/-! ## Seconds of the calendar -/

section Seconds

/-- Every second of the calendar fits into 64 bits. -/
theorem toInt_unix (t : Timestamp) : t.unix.toInt = t.seconds := by
  have lower := t.least_le
  have upper := t.le_greatest
  simp only [least, greatest] at lower upper
  exact Int64.toInt_ofInt_of_le (by omega) (by omega)

/-- A whole second is kept if the calendar has it, and is the epoch otherwise. -/
theorem unix_ofUnix (s : Int64) :
    (ofUnix s).unix = if least ≤ s.toInt ∧ s.toInt ≤ greatest then s else 0 := by
  unfold ofUnix
  split
  · rename_i inside
    obtain ⟨u, made⟩ := exists_make? (k := 0) inside.1 inside.2 (by decide)
    rw [made, Option.getD_some, unix, (make?_eq_some_iff.1 made).1, Int64.ofInt_toInt]
  · rename_i outside
    rw [(make?_eq_none_iff (by decide)).2 outside]
    rfl

end Seconds

/-! ## Adding seconds -/

section Sums

/-- Time moves forward by whole seconds, also out of a leap second. -/
theorem plusSeconds?_of_pos (pos : 0 < n) (short : n ≤ maxSpan) :
    t.plusSeconds? n = make? (t.seconds + n) (t.nanos % 1000000000) := by
  have fraction := t.nanos_lt
  unfold plusSeconds?
  rw [if_pos (by omega), if_pos pos]
  split
  · rename_i proper
    rw [Nat.mod_eq_of_lt (by omega)]
  · rename_i leap
    rw [Nat.mod_eq_sub_mod (by omega), Nat.mod_eq_of_lt (by omega)]

theorem plusSeconds?_of_proper (proper : t.nanos < 1000000000) :
    t.plusSeconds? n = if n.natAbs ≤ maxSpan then make? (t.seconds + n) t.nanos else none := by
  have plain : t.nanos < 1000000000 ∨ n = 0 := .inl proper
  unfold plusSeconds?
  rw [if_pos plain]

theorem plusSeconds?_of_long (long : maxSpan < n.natAbs) : t.plusSeconds? n = none := by
  unfold plusSeconds?
  exact if_neg (Nat.not_le.2 long)

/-- `u` is the timestamp at a distance of `n` seconds from `t`, and it has the same fraction. -/
structure IsAfter (t : Timestamp) (n : Int) (u : Timestamp) : Prop where
  unix : u.unix.toInt = t.unix.toInt + n
  nanos : u.nanos = t.nanos

theorem isAfter_iff : t.IsAfter n u ↔ u.seconds = t.seconds + n ∧ u.nanos = t.nanos := by
  constructor
  · rintro ⟨unix, nanos⟩
    rw [toInt_unix, toInt_unix] at unix
    exact ⟨unix, nanos⟩
  · rintro ⟨seconds, nanos⟩
    rw [← u.toInt_unix, ← t.toInt_unix] at seconds
    exact ⟨seconds, nanos⟩

/-- No two timestamps are further apart than the longest span. -/
theorem IsAfter.short (h : t.IsAfter n u) : n.natAbs ≤ maxSpan := by
  obtain ⟨seconds, -⟩ := isAfter_iff.1 h
  have lower := t.least_le
  have upper := t.le_greatest
  have lower' := u.least_le
  have upper' := u.le_greatest
  simp only [least, greatest, maxSpan] at *
  omega

/-- Outside leap seconds, a sum is the timestamp at the distance, if there is one. -/
theorem plusSeconds?_eq_some_iff (proper : t.nanos < 1000000000) :
    t.plusSeconds? n = some u ↔ t.IsAfter n u := by
  rw [plusSeconds?_of_proper proper]
  constructor
  · intro h
    split at h
    · exact isAfter_iff.2 (make?_eq_some_iff.1 h)
    · cases h
  · intro h
    rw [if_pos h.short]
    exact make?_eq_some_iff.2 (isAfter_iff.1 h)

/-- There is no sum if the milliseconds of the distance are more than a signed 64-bit number can be,
nor if the calendar ends before. -/
theorem plusSeconds?_eq_none_iff (proper : t.nanos < 1000000000) :
    t.plusSeconds? n = none ↔ Int64.maxValue.toInt < 1000 * n.natAbs ∨
      ¬(least ≤ t.unix.toInt + n ∧ t.unix.toInt + n ≤ greatest) := by
  have greatest_word : Int64.maxValue.toInt = 9223372036854775807 := rfl
  have limit : maxSpan = 9223372036854775 := rfl
  rw [plusSeconds?_of_proper proper, toInt_unix]
  split
  · rename_i short
    have fits : ¬Int64.maxValue.toInt < 1000 * n.natAbs := by omega
    rw [make?_eq_none_iff proper, or_iff_right fits]
  · rename_i long
    have exceeds : Int64.maxValue.toInt < 1000 * n.natAbs := by omega
    exact iff_of_true rfl (.inl exceeds)

end Sums

/-! ## Laws of addition -/

section Laws

theorem IsAfter.proper (h : t.IsAfter n u) (proper : t.nanos < 1000000000) :
    u.nanos < 1000000000 := by
  rw [h.nanos]
  exact proper

theorem IsAfter.symm (h : t.IsAfter n u) : u.IsAfter (-n) t where
  unix := by
    rw [h.unix]
    omega
  nanos := h.nanos.symm

theorem IsAfter.trans_iff (h : t.IsAfter n u) : u.IsAfter m v ↔ t.IsAfter (n + m) v := by
  constructor
  · rintro ⟨unix, nanos⟩
    rw [h.unix] at unix
    exact ⟨by omega, nanos.trans h.nanos⟩
  · rintro ⟨unix, nanos⟩
    refine ⟨?_, nanos.trans h.nanos.symm⟩
    rw [h.unix]
    omega

/-- Seconds are added one after the other or all at once, and there is a sum either way or none. -/
theorem plusSeconds?_plusSeconds? (proper : t.nanos < 1000000000)
    (sum : t.plusSeconds? n = some u) : u.plusSeconds? m = t.plusSeconds? (n + m) := by
  have after := (plusSeconds?_eq_some_iff proper).1 sum
  apply Option.ext
  intro v
  rw [plusSeconds?_eq_some_iff (after.proper proper), plusSeconds?_eq_some_iff proper]
  exact after.trans_iff

theorem isBefore_iff :
    t.isBefore u = true ↔ t.seconds < u.seconds ∨ t.seconds = u.seconds ∧ t.nanos < u.nanos := by
  simp [isBefore]

theorem IsAfter.isBefore_iff_lt (h : t.IsAfter n u) (h' : t.IsAfter m v) :
    u.isBefore v = true ↔ n < m := by
  obtain ⟨seconds, nanos⟩ := isAfter_iff.1 h
  obtain ⟨seconds', nanos'⟩ := isAfter_iff.1 h'
  rw [isBefore_iff]
  omega

theorem IsAfter.isBefore_iff_isBefore (h : t.IsAfter n u) (h' : s.IsAfter n v) :
    u.isBefore v = true ↔ t.isBefore s = true := by
  obtain ⟨seconds, nanos⟩ := isAfter_iff.1 h
  obtain ⟨seconds', nanos'⟩ := isAfter_iff.1 h'
  rw [isBefore_iff, isBefore_iff]
  omega

end Laws

/-! ## Adding minutes -/

/-- Minutes are sixty seconds each. Where their seconds have no 64-bit number, these are more than
can be added. -/
theorem plusMinutes?_eq (t : Timestamp) (m : Int) : t.plusMinutes? m = t.plusSeconds? (60 * m) := by
  have lower : Int64.minValue.toInt = -9223372036854775808 := rfl
  have upper : Int64.maxValue.toInt = 9223372036854775807 := rfl
  have limit : maxSpan = 9223372036854775 := rfl
  unfold plusMinutes?
  split
  · rfl
  · rename_i excess
    exact (plusSeconds?_of_long (by omega)).symm

end Timestamp

open Timestamp

/-- **Sums of times are exact.** A whole second is kept if the calendar has it, and is 0 otherwise.
Outside leap seconds there is no sum of a time and some seconds just when their milliseconds are
more than a signed 64-bit number can be or the calendar ends before; otherwise the sum is at this
distance and has the same fraction. So sums can be put together and taken back, and the order of
times is that of the seconds added, and kept when the same are added to both. Minutes are added as
sixty seconds each, whether there is a sum or not. -/
theorem time_arithmetic_is_exact :
    (∀ s : Int64, (ofUnix s).unix = if least ≤ s.toInt ∧ s.toInt ≤ greatest then s else 0) ∧
    (∀ (t : Timestamp) (n : Int), t.nanos < 1000000000 →
      (t.plusSeconds? n = none ↔ Int64.maxValue.toInt < 1000 * n.natAbs ∨
        ¬(least ≤ t.unix.toInt + n ∧ t.unix.toInt + n ≤ greatest)) ∧
      ∀ u, t.plusSeconds? n = some u →
        (u.unix.toInt = t.unix.toInt + n ∧ u.nanos = t.nanos) ∧
        (∀ m, u.plusSeconds? m = t.plusSeconds? (n + m)) ∧
        u.plusSeconds? (-n) = some t ∧
        (∀ m v, t.plusSeconds? m = some v → (u.isBefore v = true ↔ n < m)) ∧
        (∀ s v, s.nanos < 1000000000 → s.plusSeconds? n = some v →
          (u.isBefore v = true ↔ t.isBefore s = true))) ∧
    (∀ (t : Timestamp) (m : Int), t.plusMinutes? m = t.plusSeconds? (60 * m)) := by
  refine ⟨unix_ofUnix, ?_, plusMinutes?_eq⟩
  intro t n proper
  refine ⟨plusSeconds?_eq_none_iff proper, ?_⟩
  intro u sum
  have after := (plusSeconds?_eq_some_iff proper).1 sum
  refine ⟨⟨after.unix, after.nanos⟩, ?_, ?_, ?_, ?_⟩
  · intro m
    exact plusSeconds?_plusSeconds? proper sum
  · exact (plusSeconds?_eq_some_iff (after.proper proper)).2 after.symm
  · intro m v sum'
    exact after.isBefore_iff_lt ((plusSeconds?_eq_some_iff proper).1 sum')
  · intro s v proper' sum'
    exact after.isBefore_iff_isBefore ((plusSeconds?_eq_some_iff proper').1 sum')

/-- Two seconds lead from half a second before 1970 over its start, and a minute leads further. The
seconds of `2 ^ 62` minutes are a multiple of `2 ^ 64`, and these minutes do not count as none. -/
theorem time_arithmetic_is_exact_half :
    ∃ t u v : Timestamp, t.nanos < 1000000000 ∧ t.unix = -1 ∧ t.nanos = 500000000 ∧
      t.plusSeconds? 2 = some u ∧ u.unix.toInt = 1 ∧ u.nanos = 500000000 ∧
      u.plusSeconds? (-2) = some t ∧ t.plusMinutes? 1 = some v ∧ u.isBefore v = true ∧
      t.plusMinutes? 4611686018427387904 = none := by
  let t : Timestamp := ⟨-1, 500000000, by decide, by decide, by decide, by decide⟩
  let u : Timestamp := ⟨1, 500000000, by decide, by decide, by decide, by decide⟩
  let v : Timestamp := ⟨59, 500000000, by decide, by decide, by decide, by decide⟩
  obtain ⟨-, sums, minutes⟩ := time_arithmetic_is_exact
  have proper : t.nanos < 1000000000 := by decide
  have sum : t.plusSeconds? 2 = some u := by decide
  have sum' : t.plusSeconds? 60 = some v := by decide
  obtain ⟨-, total⟩ := sums t 2 proper
  obtain ⟨⟨unix, nanos⟩, -, back, later, -⟩ := total u sum
  refine ⟨t, u, v, proper, by decide, rfl, sum, unix.trans (by decide), nanos, back, ?_, ?_, ?_⟩
  · rw [minutes]
    exact sum'
  · exact (later 60 v sum').2 (by decide)
  · rw [minutes]
    exact (sums t _ proper).1.2 (.inl (by decide))

end Tutoring
