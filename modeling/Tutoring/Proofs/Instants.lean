import Tutoring.Proofs.Calendar
import Tutoring.Timestamp.Printer
import Tutoring.Timestamp.Reader

/-!
# Written timestamps are read back

Every part of a written timestamp ends before a character that is no digit, so it is read back
whatever number of digits it has: a year with its sign, fields of two digits, a fraction that is
filled up with zeros. The second that is counted once is written as 59 and 60, and both are read as
the same second with the leap second in its fraction.

* `padded_append`: digits are taken off as they were written.
* `ofText?_toText`: so a timestamp is read back, whichever it is.
-/

namespace Tutoring.Timestamp

open Text Text.Numeral Calendar

/-! ## Digits -/

section Digits

variable {width n : Nat} {digits rest : List Char}

theorem isDigit_of_mem_padded : ∀ c ∈ padded width n, c.isDigit = true := by
  intro c hc
  rcases List.mem_append.1 hc with zero | digit
  · rw [List.eq_of_mem_replicate zero]
    rfl
  · exact Nat.isDigit_of_mem_toDigits (by decide) (by decide) digit

theorem padded_ne_nil (width n : Nat) : padded width n ≠ [] :=
  List.append_ne_nil_of_right_ne_nil _ Nat.toDigits_ne_nil

/-- Leading zeros do not count. -/
theorem value_padded (width n : Nat) : value (padded width n) = n := by
  rw [value, padded, Nat.ofDigitChars_append, Nat.ofDigitChars_replicate_zero, Nat.mul_zero,
    Numeral.digits, Nat.ofDigitChars_ten_toDigits]

/-- A number that fits is written with just as many digits. -/
theorem length_padded (pos : 0 < width) (small : n < 10 ^ width) :
    (padded width n).length = width := by
  have short : (Numeral.digits n).length ≤ width :=
    (Nat.length_toDigits_le_iff (by decide) pos).2 small
  rw [padded, List.length_append, List.length_replicate]
  omega

/-- The next character is no digit. -/
def Stops (rest : List Char) : Prop := ∀ c ∈ rest.head?, c.isDigit = false

theorem stops_cons {c : Char} (h : c.isDigit = false) : Stops (c :: rest) := by
  intro d hd
  rwa [← Option.some.inj hd]

/-- A run of digits is scanned up to what is no digit. -/
theorem scanDigits_append {most : Nat} (all : ∀ c ∈ digits, c.isDigit = true) (some : digits ≠ [])
    (short : digits.length ≤ most) (stops : Stops rest) :
    scanDigits most (digits ++ rest) = .some (digits, rest) := by
  have front : ((digits ++ rest).takeWhile Char.isDigit).take most = digits := by
    rw [takeWhile_run all stops, List.take_of_length_le short]
  unfold scanDigits
  rw [front]
  split
  · exact absurd rfl some
  · rw [List.drop_left]

theorem padded_append {most : Nat} (short : (padded width n).length ≤ most) (stops : Stops rest) :
    scanDigits most (padded width n ++ rest) = some (padded width n, rest) :=
  scanDigits_append isDigit_of_mem_padded (padded_ne_nil width n) short stops

theorem trimStart_cons {c : Char} (h : isBlank c = false) : trimStart (c :: rest) = c :: rest :=
  List.dropWhile_cons_of_neg (by simp [h])

theorem padded_eq_cons (width n : Nat) : ∃ d ds, padded width n = d :: ds ∧ d.isDigit = true := by
  obtain ⟨d, ds, split⟩ := List.exists_cons_of_ne_nil (padded_ne_nil width n)
  exact ⟨d, ds, split, isDigit_of_mem_padded d (by rw [split]; exact List.mem_cons_self)⟩

theorem trimStart_padded : trimStart (padded width n ++ rest) = padded width n ++ rest := by
  obtain ⟨d, ds, split, digit⟩ := padded_eq_cons width n
  rw [split]
  exact trimStart_cons (isBlank_of_isDigit digit)

end Digits

/-! ## The parts of a timestamp -/

section Parts

variable {n : Nat} {rest : List Char}

/-- Two digits are read back as their number. -/
theorem scanField_padded (small : n < 100) (stops : Stops rest) :
    scanField (padded 2 n ++ rest) = some (n, rest) := by
  have short : (padded 2 n).length ≤ 2 := Nat.le_of_eq (length_padded (by decide) small)
  simp only [scanField, trimStart_padded, padded_append short stops, Option.bind_eq_bind,
    Option.bind_some, value_padded, Option.pure_def]

theorem scanMark_cons {c : Char} (h : isBlank c = false) :
    scanMark c (c :: rest) = some ((), rest) := by
  rw [scanMark, trimStart_cons h, mark_eq_some]

/-- A year is read back, with a sign or without. -/
theorem scanYear_yearText (year : Int) (stops : Stops rest) :
    scanYear (yearText year ++ rest) = some (year, rest) := by
  have signed (n : Nat) :
      scanDigits (padded 4 n ++ rest).length (padded 4 n ++ rest) = some (padded 4 n, rest) :=
    padded_append (by rw [List.length_append]; exact Nat.le_add_right _ _) stops
  unfold yearText
  split
  · rename_i inner
    have short : (padded 4 year.toNat).length ≤ 4 :=
      Nat.le_of_eq (length_padded (by decide) (by omega))
    have read : scanYear (padded 4 year.toNat ++ rest) =
        (scanDigits 4 (padded 4 year.toNat ++ rest)).bind fun p => some (↑(value p.1), p.2) := by
      obtain ⟨d, ds, split, digit⟩ := padded_eq_cons 4 year.toNat
      rw [split]
      unfold scanYear
      rw [List.cons_append, trimStart_cons (isBlank_of_isDigit digit)]
      split
      · rename_i same
        obtain ⟨rfl, -⟩ := List.cons.inj same
        cases digit
      · rename_i same
        obtain ⟨rfl, -⟩ := List.cons.inj same
        cases digit
      · rfl
    rw [read, padded_append short stops, Option.bind_some, value_padded,
      Int.toNat_of_nonneg inner.1]
  · split
    · rename_i negative
      have value_eq : -((year.natAbs : Nat) : Int) = year := by omega
      show ((scanDigits (padded 4 year.natAbs ++ rest).length (padded 4 year.natAbs ++ rest)).bind
        fun p => some (-(value p.1 : Int), p.2)) = some (year, rest)
      rw [signed, Option.bind_some, value_padded, value_eq]
    · have value_eq : ((year.natAbs : Nat) : Int) = year := by omega
      show ((scanDigits (padded 4 year.natAbs ++ rest).length (padded 4 year.natAbs ++ rest)).bind
        fun p => some ((value p.1 : Int), p.2)) = some (year, rest)
      rw [signed, Option.bind_some, value_padded, value_eq]

/-- Zeros behind the digits of a fraction make it one of nine digits. -/
theorem scanFraction_padded {width : Nat} (pos : 0 < width) (few : width ≤ 9)
    (small : n < 10 ^ width) (stops : Stops rest) :
    scanFraction ('.' :: (padded width n ++ rest)) = some (10 ^ (9 - width) * n, rest) := by
  have length := length_padded pos small
  have behind : rest.dropWhile Char.isDigit = rest :=
    @dropWhile_run Char.isDigit [] rest nofun stops
  have filled :
      value (padded width n ++ List.replicate (9 - width) '0') = 10 ^ (9 - width) * n := by
    have digits := value_padded width n
    rw [value] at digits ⊢
    rw [Nat.ofDigitChars_append, digits, Nat.ofDigitChars_replicate_zero]
  simp only [scanFraction, padded_append (length ▸ few) stops, Option.bind_eq_bind,
    Option.bind_some, length, behind, filled, Option.pure_def]

/-- The fraction of a second is read back. -/
theorem scanFraction_fractionText (small : n < 1000000000) :
    scanFraction (fractionText n ++ ['Z']) = some (n, ['Z']) := by
  have stops : Stops ['Z'] := stops_cons rfl
  unfold fractionText
  split
  · rename_i zero
    rw [zero]
    rfl
  · split
    · rw [List.cons_append, scanFraction_padded (by decide) (by decide) (by omega) stops]
      congr 2
      omega
    · split
      · rw [List.cons_append, scanFraction_padded (by decide) (by decide) (by omega) stops]
        congr 2
        omega
      · rw [List.cons_append, scanFraction_padded (by decide) (by decide) (by omega) stops]
        congr 2
        omega

end Parts

/-! ## The whole timestamp -/

section Whole

variable (t : Timestamp)

/-- The second of the day. -/
def timeOfDay : Nat := (t.seconds % 86400).toNat

theorem timeOfDay_lt : t.timeOfDay < 86400 := by
  unfold timeOfDay
  omega

/-- A leap second is the one after the 59th. -/
theorem second_eq : t.timeOfDay % 60 + t.nanos / 1000000000 = 60 ∧ 1000000000 ≤ t.nanos ∨
    t.timeOfDay % 60 + t.nanos / 1000000000 = t.timeOfDay % 60 ∧ t.nanos < 1000000000 := by
  have leap := t.leap
  have short := t.nanos_lt
  unfold timeOfDay
  omega

/-- The parts of a timestamp make up its second. -/
theorem localSeconds?_eq :
    localSeconds? (Date.ofDayNumber (t.seconds / 86400)) (t.timeOfDay / 3600)
      (t.timeOfDay / 60 % 60) (t.timeOfDay % 60 + t.nanos / 1000000000) = some t.seconds := by
  have time := t.timeOfDay_lt
  have cast : (t.timeOfDay : Int) = t.seconds % 86400 := Int.toNat_of_nonneg (by omega)
  have second := t.second_eq
  have sum : (Date.ofDayNumber (t.seconds / 86400)).dayNumber * 86400 +
      (t.timeOfDay / 3600 * 3600 + t.timeOfDay / 60 % 60 * 60 +
        min (t.timeOfDay % 60 + t.nanos / 1000000000) 59 : Nat) = t.seconds := by
    have leap := t.leap
    rw [Date.dayNumber_ofDayNumber]
    omega
  unfold localSeconds?
  rw [sum]
  refine if_pos ⟨Date.isValid_ofDayNumber _, by omega, by omega, by omega, t.least_le,
    t.le_greatest⟩

theorem read_then {α β : Type} {scan : Scan α} {f : α × List Char → Option β} {s rest : List Char}
    {a : α} {b : Option β} (read : scan s = some (a, rest)) (others : f (a, rest) = b) :
    scan s >>= f = b := by
  rw [read]
  exact others

/-- A written timestamp is read back. -/
theorem ofText?_toText : ofText? t.toText = some t := by
  have ⟨month, day⟩ := Date.lt_of_isValid (Date.isValid_ofDayNumber (t.seconds / 86400))
  have seconds := t.localSeconds?_eq
  have time := t.timeOfDay_lt
  have second : t.timeOfDay % 60 + t.nanos / 1000000000 < 100 := by
    have := t.nanos_lt
    omega
  have nanos : (if t.timeOfDay % 60 + t.nanos / 1000000000 = 60 then
      t.nanos % 1000000000 + 1000000000 else t.nanos % 1000000000) = t.nanos := by
    have := t.second_eq
    have := t.nanos_lt
    split <;> omega
  have fraction : Stops (fractionText (t.nanos % 1000000000) ++ ['Z']) := by
    unfold fractionText
    repeat' split
    all_goals exact stops_cons rfl
  have chars : t.toText.toList = yearText (Date.ofDayNumber (t.seconds / 86400)).year ++
      ('-' :: (padded 2 (Date.ofDayNumber (t.seconds / 86400)).month ++
      ('-' :: (padded 2 (Date.ofDayNumber (t.seconds / 86400)).day ++
      ('T' :: (padded 2 (t.timeOfDay / 3600) ++ (':' :: (padded 2 (t.timeOfDay / 60 % 60) ++
      (':' :: (padded 2 (t.timeOfDay % 60 + t.nanos / 1000000000) ++
      (fractionText (t.nanos % 1000000000) ++ ['Z']))))))))))) := by
    simp [toText, Timestamp.chars, timeOfDay]
  have dash (s : List Char) : Stops ('-' :: s) := stops_cons rfl
  have tee (s : List Char) : Stops ('T' :: s) := stops_cons rfl
  have colon (s : List Char) : Stops (':' :: s) := stops_cons rfl
  have hour : t.timeOfDay / 3600 < 100 := by omega
  have minute : t.timeOfDay / 60 % 60 < 100 := by omega
  have small : t.nanos % 1000000000 < 1000000000 := Nat.mod_lt _ (by decide)
  have dashMark (s : List Char) : scanMark '-' ('-' :: s) = some ((), s) := scanMark_cons rfl
  have colonMark (s : List Char) : scanMark ':' (':' :: s) = some ((), s) := scanMark_cons rfl
  have separator (s : List Char) : scanSeparator ('T' :: s) = some ((), s) := rfl
  have offset : scanOffset (trimStart ['Z']) = some (0, []) := rfl
  rw [ofText?, chars]
  refine read_then (scanYear_yearText _ (dash _)) ?_
  refine read_then (dashMark _) (read_then (scanField_padded month (dash _)) ?_)
  refine read_then (dashMark _) (read_then (scanField_padded day (tee _)) ?_)
  refine read_then (separator _) (read_then (scanField_padded hour (colon _)) ?_)
  refine read_then (colonMark _) (read_then (scanField_padded minute (colon _)) ?_)
  refine read_then (colonMark _) (read_then (scanField_padded second fraction) ?_)
  refine read_then (scanFraction_fractionText small) (read_then offset ?_)
  refine (if_pos rfl).trans (Option.bind_eq_some_iff.2 ⟨_, seconds, ?_⟩)
  rw [nanos, Int.sub_zero]
  exact make?_self t

end Whole

end Tutoring.Timestamp
