import Mathlib.Data.List.TakeWhile
import Mathlib.Logic.Function.Basic
import Tutoring.Id
import Tutoring.Id.Literal
import Tutoring.Proofs.Instants
import Tutoring.Proofs.Reading

/-!
# Record numbers are read just as they are written

Digits are taken in one by one, and none of them makes the number smaller, so a numeral that has
left the range never comes back into it: what is accepted is what is in the range as a whole. Blanks
around a numeral do not count, and the decimals that a record number is shown in are among the
numerals.

* `trim_eq_iff`: what remains of a text without the blanks around it.
* `readInt_eq_ok`: the numerals of a range.
* `Id.read_eq_ok`, `Id.read_toText`: record numbers are read from their numerals.
-/

namespace Tutoring

namespace Text

/-! ## Blanks around a text -/

section Blanks

variable {s t : List Char}

theorem not_blank_of_trimStart : ∀ c ∈ (trimStart s).head?, isBlank c = false := by
  intro c hc
  have first := List.head?_dropWhile_not isBlank s
  unfold trimStart at hc
  rw [hc] at first
  exact first

theorem exists_blanks (s : List Char) :
    ∃ front, s = front ++ trimStart s ∧ ∀ c ∈ front, isBlank c = true :=
  ⟨s.takeWhile isBlank, List.takeWhile_append_dropWhile.symm, fun _ hc => List.mem_takeWhile_imp hc⟩

/-- What is left of a text is trimmed. -/
theorem isTrimmed_trim (s : List Char) : IsTrimmed s (trim s) := by
  obtain ⟨front, cut, before⟩ := exists_blanks s
  obtain ⟨back, cut', after⟩ := exists_blanks (trimStart s).reverse
  have middle : trimStart s = trim s ++ back.reverse := by
    have turned := congrArg List.reverse cut'
    rwa [List.reverse_reverse, List.reverse_append] at turned
  refine ⟨⟨front, back.reverse, ?_, ?_⟩, ?_, ?_⟩
  · rw [List.append_assoc, ← middle]
    exact cut
  · intro c hc
    rcases List.mem_append.1 hc with hc | hc
    · exact before c hc
    · exact after c (List.mem_reverse.1 hc)
  · intro c hc
    have first : c ∈ (trimStart s).head? := by
      rw [middle, List.head?_append, hc]
      rfl
    exact not_blank_of_trimStart c first
  · intro c hc
    rw [trim, List.getLast?_reverse] at hc
    exact not_blank_of_trimStart c hc

theorem IsTrimmed.trim_eq (h : IsTrimmed s t) : trim s = t := by
  obtain ⟨⟨front, back, rfl, blank⟩, starts, ends⟩ := h
  obtain ⟨before, after⟩ := List.forall_mem_append.1 blank
  cases t with
  | nil =>
    have all : trimStart (front ++ [] ++ back) = [] := by
      rw [List.append_nil]
      exact List.dropWhile_eq_nil_iff.2 blank
    rw [trim, all]
    rfl
  | cons c t =>
    have first : trimStart (front ++ (c :: t) ++ back) = (c :: t) ++ back := by
      rw [List.append_assoc]
      exact dropWhile_run before starts
    have last : trimStart ((c :: t) ++ back).reverse = (c :: t).reverse := by
      rw [List.reverse_append]
      apply dropWhile_run
      · intro d hd
        exact after d (List.mem_reverse.1 hd)
      · rw [List.head?_reverse]
        exact ends
    rw [trim, first, last, List.reverse_reverse]

/-- A text has one trimmed form. -/
theorem trim_eq_iff : trim s = t ↔ IsTrimmed s t := by
  constructor
  · rintro rfl
    exact isTrimmed_trim s
  · exact IsTrimmed.trim_eq

theorem isTrimmed_self (unblank : ∀ c ∈ s, isBlank c = false) : IsTrimmed s s where
  around := ⟨[], [], by simp, by simp⟩
  starts c hc := unblank c (List.mem_of_mem_head? hc)
  ends c hc := unblank c (List.mem_of_mem_getLast? hc)

end Blanks

namespace Numeral

/-! ## Digits -/

section Digits

variable {limit n m : Nat} {excess : Fault} {s : List Char}

/-- Digits are taken on as long as the number stays within its limit. -/
theorem extend_eq_ok (small : n ≤ limit) :
    extend limit excess n s = .ok m ↔
      (∀ c ∈ s, c.isDigit = true) ∧ Nat.ofDigitChars 10 s n = m ∧ m ≤ limit := by
  induction s generalizing n with
  | nil =>
    constructor
    · intro h
      obtain rfl := Except.ok.inj h
      exact ⟨nofun, rfl, small⟩
    · rintro ⟨-, rfl, -⟩
      rfl
  | cons c s ih =>
    rw [List.forall_mem_cons, Nat.ofDigitChars_cons, extend, digit?]
    by_cases digit : c.isDigit = true
    · simp only [digit, if_true, true_and]
      by_cases fits : 10 * n + (c.toNat - '0'.toNat) ≤ limit
      · rw [if_pos fits, ih fits]
      · -- The digits behind do not bring the number back below the limit.
        have grows := le_ofDigitChars (10 * n + (c.toNat - '0'.toNat)) s
        rw [if_neg fits]
        constructor
        · nofun
        · rintro ⟨-, rfl, le⟩
          omega
    · simp [digit]

/-- A magnitude is read just from decimals within the limit. -/
theorem magnitude_eq_ok :
    magnitude limit excess s = .ok n ↔ IsDecimal s n ∧ n ≤ limit := by
  unfold magnitude
  split
  · constructor
    · nofun
    · rintro ⟨decimal, -⟩
      exact absurd rfl decimal.ne_nil
  · rename_i ne_nil
    rw [extend_eq_ok (Nat.zero_le limit)]
    constructor
    · rintro ⟨digits, value, small⟩
      exact ⟨⟨ne_nil, digits, value⟩, small⟩
    · rintro ⟨⟨-, digits, value⟩, small⟩
      exact ⟨digits, value, small⟩

end Digits

/-! ## Numerals with a sign -/

section Integers

variable {low high : Nat} {n m : Int} {s : List Char}

/-- A whole number is read just from its decimals with a sign or without, within the bounds. -/
theorem readInt_eq_ok :
    readInt low high s = .ok n ↔ IsInteger s n ∧ -(low : Int) ≤ n ∧ n ≤ high := by
  constructor
  · intro h
    unfold readInt at h
    split at h
    · cases h
    · obtain ⟨m, read, rfl⟩ := Json.map_eq_ok.1 h
      obtain ⟨decimal, small⟩ := magnitude_eq_ok.1 read
      rw [Int.ofNat_eq_natCast]
      exact ⟨.plus decimal, by omega⟩
    · obtain ⟨m, read, rfl⟩ := Json.map_eq_ok.1 h
      obtain ⟨decimal, small⟩ := magnitude_eq_ok.1 read
      rw [Int.ofNat_eq_natCast]
      exact ⟨.minus decimal, by omega⟩
    · obtain ⟨m, read, rfl⟩ := Json.map_eq_ok.1 h
      obtain ⟨decimal, small⟩ := magnitude_eq_ok.1 read
      rw [Int.ofNat_eq_natCast]
      exact ⟨.plain decimal, by omega⟩
  · rintro ⟨written, lower, upper⟩
    cases written with
    | @plain s m decimal =>
      have read : magnitude high .tooLarge s = .ok m := magnitude_eq_ok.2 ⟨decimal, by omega⟩
      unfold readInt
      split
      · exact absurd rfl decimal.ne_nil
      · cases decimal.digits '+' List.mem_cons_self
      · cases decimal.digits '-' List.mem_cons_self
      · exact Json.map_eq_ok.2 ⟨m, read, rfl⟩
    | @plus s m decimal =>
      exact Json.map_eq_ok.2 ⟨m, magnitude_eq_ok.2 ⟨decimal, by omega⟩, rfl⟩
    | @minus s m decimal =>
      exact Json.map_eq_ok.2 ⟨m, magnitude_eq_ok.2 ⟨decimal, by omega⟩, rfl⟩

end Integers

end Numeral

section Integers

open Numeral

variable {n m : Int} {s : List Char}

/-- A numeral stands for one number. -/
theorem IsInteger.unique (h : IsInteger s n) (h' : IsInteger s m) : n = m := by
  -- It is read as either in a range that has both.
  have read : readInt (n.natAbs + m.natAbs) (n.natAbs + m.natAbs) s = .ok n :=
    readInt_eq_ok.2 ⟨h, by omega⟩
  have read' : readInt (n.natAbs + m.natAbs) (n.natAbs + m.natAbs) s = .ok m :=
    readInt_eq_ok.2 ⟨h', by omega⟩
  exact Except.ok.inj (read.symm.trans read')

theorem IsDecimal.unblank {n : Nat} (h : IsDecimal s n) : ∀ c ∈ s, isBlank c = false := by
  intro c hc
  exact isBlank_of_isDigit (h.digits c hc)

theorem IsInteger.unblank (h : IsInteger s n) : ∀ c ∈ s, isBlank c = false := by
  cases h with
  | plain decimal => exact decimal.unblank
  | plus decimal => exact List.forall_mem_cons.2 ⟨rfl, decimal.unblank⟩
  | minus decimal => exact List.forall_mem_cons.2 ⟨rfl, decimal.unblank⟩

theorem isDecimal_digits (n : Nat) : IsDecimal (digits n) n where
  ne_nil := Nat.toDigits_ne_nil
  digits c hc := Nat.isDigit_of_mem_toDigits (by decide) (by decide) hc
  value := Nat.ofDigitChars_ten_toDigits

theorem isInteger_integer (n : Int) : IsInteger (integer n) n := by
  cases n with
  | ofNat n => exact .plain (isDecimal_digits n)
  | negSucc n => exact .minus (isDecimal_digits (n + 1))

end Integers

end Text

open Text

/-! ## Record numbers -/

namespace Id

variable {entity : Entity} {s : String} {i : Id entity} {t : List Char} {n : Int}

theorem toInt_ofInt (lower : -2 ^ 63 ≤ n) (upper : n < 2 ^ 63) :
    (ofInt n : Id entity).value.toInt = n :=
  Int64.toInt_ofInt_of_le lower upper

/-- A record number is read from a numeral for it with blanks around. -/
theorem read_eq_ok :
    Id.read s = .ok i ↔ ∃ t, IsTrimmed s.toList t ∧ IsInteger t i.value.toInt := by
  unfold Id.read
  constructor
  · intro h
    obtain ⟨n, read, rfl⟩ := Json.map_eq_ok.1 h
    obtain ⟨written, lower, upper⟩ := Numeral.readInt_eq_ok.1 read
    refine ⟨_, isTrimmed_trim s.toList, ?_⟩
    rwa [toInt_ofInt (by omega) (by omega)]
  · rintro ⟨t, trimmed, written⟩
    have lower := Int64.le_toInt i.value
    have upper := Int64.toInt_lt i.value
    rw [trimmed.trim_eq]
    apply Json.map_eq_ok.2
    exact ⟨i.value.toInt, Numeral.readInt_eq_ok.2 ⟨written, by omega, by omega⟩,
      congrArg Id.mk (Int64.ofInt_toInt i.value)⟩

/-- A numeral is read as a record number if it is in the range, both ends included. -/
theorem exists_read_iff (trimmed : IsTrimmed s.toList t) (written : IsInteger t n) :
    (∃ i : Id entity, Id.read s = .ok i) ↔ -2 ^ 63 ≤ n ∧ n ≤ 2 ^ 63 - 1 := by
  constructor
  · rintro ⟨i, read⟩
    obtain ⟨t', trimmed', written'⟩ := read_eq_ok.1 read
    obtain rfl := trimmed.trim_eq.symm.trans trimmed'.trim_eq
    have lower := Int64.le_toInt i.value
    have upper := Int64.toInt_lt i.value
    rw [written.unique written']
    omega
  · rintro ⟨lower, upper⟩
    refine ⟨ofInt n, read_eq_ok.2 ⟨t, trimmed, ?_⟩⟩
    rwa [toInt_ofInt lower (by omega)]

theorem toList_toText (i : Id entity) : i.toText.toList = Numeral.integer i.value.toInt :=
  String.toList_ofList

/-- A record number is read back from the decimals that it is shown in. -/
theorem read_toText (i : Id entity) : Id.read i.toText = .ok i := by
  have written := isInteger_integer i.value.toInt
  apply read_eq_ok.2
  rw [toList_toText]
  exact ⟨_, isTrimmed_self written.unblank, written⟩

/-- Two numbers are never written alike. -/
theorem toText_injective : Function.Injective (toText : Id entity → String) := by
  intro i j same
  have read := i.read_toText
  rw [same, read_toText] at read
  exact (Except.ok.inj read).symm

end Id

/-- **Record numbers are read just as they are written.** A text is read as a record number if and
only if it is, up to blanks around it, a decimal for it with at most one sign in front; a decimal
for any number from the least of 64 bits to the greatest is read, and no other one is. What a record
number is shown as is read back, so different ones are shown differently. -/
theorem record_numbers_are_read_as_written (entity : Entity) :
    (∀ (s : String) (v : Int64), (Id.read s : Except _ (Id entity)) = .ok ⟨v⟩ ↔
      ∃ t, IsTrimmed s.toList t ∧ IsInteger t v.toInt) ∧
    (∀ (s : String) t n, IsTrimmed s.toList t → IsInteger t n →
      ((∃ i : Id entity, Id.read s = .ok i) ↔ -2 ^ 63 ≤ n ∧ n ≤ 2 ^ 63 - 1)) ∧
    (∀ i : Id entity, Id.read i.toText = .ok i) ∧
    Function.Injective (Id.toText : Id entity → String) :=
  ⟨fun _ _ => Id.read_eq_ok, fun _ _ _ => Id.exists_read_iff, Id.read_toText, Id.toText_injective⟩

/-- The least record number is read with zeros and blanks in front and behind, and nothing is read
from its digits without the sign. -/
theorem record_numbers_are_read_as_written_least :
    (Id.read "\u3000-009223372036854775808\n" : Except _ LessonId) = .ok ⟨Int64.minValue⟩ ∧
      IsTrimmed "9223372036854775808".toList "9223372036854775808".toList ∧
      IsInteger "9223372036854775808".toList (2 ^ 63) ∧
      ¬∃ i : LessonId, Id.read "9223372036854775808" = .ok i := by
  obtain ⟨reads, range, -, -⟩ := record_numbers_are_read_as_written .lesson
  have zeros : IsDecimal "009223372036854775808".toList 9223372036854775808 :=
    ⟨by decide, List.all_eq_true.1 (by decide), by decide⟩
  have trimmed : IsTrimmed "\u3000-009223372036854775808\n".toList
      "-009223372036854775808".toList := trim_eq_iff.1 (by decide)
  have plain : IsDecimal "9223372036854775808".toList 9223372036854775808 :=
    ⟨by decide, List.all_eq_true.1 (by decide), by decide⟩
  have alone := isTrimmed_self plain.unblank
  refine ⟨(reads _ _).2 ⟨_, trimmed, .minus zeros⟩, alone, .plain plain, ?_⟩
  rw [range _ _ _ alone (.plain plain)]
  decide

end Tutoring
