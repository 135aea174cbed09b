/-!
# Points in time

A timestamp counts whole seconds from the start of 1970 in UTC, with a fraction in nanoseconds. A
fraction of a second or more marks a leap second: it follows the last second of a minute and has
no count of its own. The years from -262143 to 262142 can be written, and no others.

Sums of seconds are exact: `plusSeconds?` gives the timestamp at that distance, or nothing where
the distance or the result cannot be represented.
-/

namespace Tutoring

/-- The first second that can be represented. -/
abbrev Timestamp.least : Int := -8334601228800

/-- The last second that can be represented. -/
abbrev Timestamp.greatest : Int := 8210266876799

/-- A point in time, in UTC. -/
structure Timestamp where
  /-- Whole seconds since the start of 1970. -/
  seconds : Int
  /-- Nanoseconds on top of them, at least 1000000000 in a leap second. -/
  nanos : Nat
  /-- The calendar has a first second. -/
  least_le : Timestamp.least ≤ seconds
  /-- The calendar has a last second. -/
  le_greatest : seconds ≤ Timestamp.greatest
  /-- A leap second is one second long. -/
  nanos_lt : nanos < 2 * 1000000000
  /-- A leap second comes at the end of a minute. -/
  leap : 1000000000 ≤ nanos → seconds % 60 = 59
  deriving DecidableEq

namespace Timestamp

/-- The start of 1970. -/
def epoch : Timestamp := ⟨0, 0, by decide, by decide, by decide, by decide⟩

/-- The timestamp with these parts, if there is one. -/
def make? (seconds : Int) (nanos : Nat) : Option Timestamp :=
  if h : least ≤ seconds ∧ seconds ≤ greatest ∧ nanos < 2 * 1000000000 ∧
      (1000000000 ≤ nanos → seconds % 60 = 59) then
    some ⟨seconds, nanos, h.1, h.2.1, h.2.2.1, h.2.2.2⟩
  else none

section Make

variable {u : Timestamp} {n : Int} {k : Nat}

theorem make?_self (t : Timestamp) : make? t.seconds t.nanos = some t :=
  dif_pos ⟨t.least_le, t.le_greatest, t.nanos_lt, t.leap⟩

theorem make?_eq_some_iff : make? n k = some u ↔ u.seconds = n ∧ u.nanos = k := by
  constructor
  · intro h
    unfold make? at h
    split at h
    · obtain rfl := Option.some.inj h
      exact ⟨rfl, rfl⟩
    · cases h
  · rintro ⟨rfl, rfl⟩
    exact u.make?_self

/-- Outside leap seconds, the calendar has all fractions of its seconds. -/
theorem exists_make? (lower : least ≤ n) (upper : n ≤ greatest) (fraction : k < 1000000000) :
    ∃ u, make? n k = some u := by
  unfold make?
  rw [dif_pos ⟨lower, upper, by omega, fun leap => absurd leap (by omega)⟩]
  exact ⟨_, rfl⟩

theorem make?_eq_none_iff (fraction : k < 1000000000) :
    make? n k = none ↔ ¬(least ≤ n ∧ n ≤ greatest) := by
  constructor
  · rintro missing ⟨lower, upper⟩
    obtain ⟨u, found⟩ := exists_make? lower upper fraction
    rw [found] at missing
    cases missing
  · intro outside
    unfold make?
    exact dif_neg fun ⟨lower, upper, _⟩ => outside ⟨lower, upper⟩

end Make

/-- The timestamp at a whole second. Seconds outside the calendar give the epoch. -/
def ofUnix (seconds : Int64) : Timestamp :=
  (make? seconds.toInt 0).getD epoch

/-- The whole seconds since the start of 1970; a leap second has those of the second before it. -/
def unix (t : Timestamp) : Int64 := Int64.ofInt t.seconds

/-- The second comes strictly later. -/
def isBefore (t u : Timestamp) : Bool :=
  t.seconds < u.seconds || (t.seconds == u.seconds && t.nanos < u.nanos)

/-- The longest span that can be added, in seconds. -/
def maxSpan : Nat := 9223372036854775807 / 1000

/-- The timestamp `n` seconds later, or earlier for a negative `n`. A leap second counts as the end
of the second before it when time moves forward, and as a second of its own when it moves back. -/
def plusSeconds? (t : Timestamp) (n : Int) : Option Timestamp :=
  if n.natAbs ≤ maxSpan then
    if t.nanos < 1000000000 ∨ n = 0 then make? (t.seconds + n) t.nanos
    else if 0 < n then make? (t.seconds + n) (t.nanos - 1000000000)
    else make? (t.seconds + 1 + n) (t.nanos - 1000000000)
  else none

/-- The timestamp `n` minutes later. Minutes are turned into seconds first, and nothing is added
where these have no signed 64-bit number. -/
def plusMinutes? (t : Timestamp) (n : Int) : Option Timestamp :=
  if Int64.minValue.toInt ≤ 60 * n ∧ 60 * n ≤ Int64.maxValue.toInt then t.plusSeconds? (60 * n)
  else none

/-- The second at the start of 2000, in seconds since the start of 1970. -/
def millennium : Int := 946684800

/-- Whole microseconds since the start of 1970. What is finer is cut toward the start of 2000. -/
def micros (t : Timestamp) : Int :=
  ((t.seconds - millennium) * 1000000000 + t.nanos).tdiv 1000 + millennium * 1000000

/-- The timestamp at a whole microsecond, if the calendar has it. -/
def ofMicros? (n : Int) : Option Timestamp :=
  make? (n / 1000000) ((n % 1000000).toNat * 1000)

end Timestamp

end Tutoring
