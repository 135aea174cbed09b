import Tutoring.Json
import Tutoring.Proofs.Members
import Tutoring.Text.Scan

/-!
# Written values are read back

What is written for a value ends where the value ends, whatever stands behind it, as long as that
does not go on a number. A written string is read back character by character, so none of its
characters can close it.

* `readString_written`, `readInt64_written`, `readBool_written`: written values are read back.
-/

namespace Tutoring.Json

open Text

/-! ## Strings -/

section Strings

variable {before : List Char} {s : List Char}

/-- A letter behind a backslash is one character. -/
theorem stringFrom_escaped {c d : Char} (h : escaped? c = some d) :
    stringFrom before ('\\' :: c :: s) = stringFrom (d :: before) s := by
  have letter : c ≠ 'u' := by
    rintro rfl
    cases h
  rw [stringFrom, h] <;> simp [letter]

/-- Four hexadecimal digits are one character, if it is below the halves of pairs. -/
theorem stringFrom_hexWord {a b c d : Char} {n : Nat} (h : hexWord? a b c d = some n)
    (small : n < 0xD800) :
    stringFrom before ('\\' :: 'u' :: a :: b :: c :: d :: s) =
      stringFrom (Char.ofNat n :: before) s := by
  rw [stringFrom]
  simp only [h]
  rw [if_neg (by omega), if_pos (.inl small)]

/-- A character that needs no escape stands for itself. -/
theorem stringFrom_plain {c : Char} (quote : c ≠ '"') (backslash : c ≠ '\\')
    (control : ¬c.toNat < 0x20) : stringFrom before (c :: s) = stringFrom (c :: before) s := by
  rw [stringFrom, if_neg control] <;> simp_all

/-- The number of a control character is read back from its digits. -/
theorem hexWord?_control {n : Nat} (h : n < 0x20) :
    hexWord? '0' '0' (hexDigit (n / 16)) (hexDigit (n % 16)) = some n := by
  unfold hexWord?
  rw [hexValue?_hexDigit (n / 16) (by omega), hexValue?_hexDigit (n % 16) (by omega)]
  show some (((0 * 16 + 0) * 16 + n / 16) * 16 + n % 16) = some n
  congr 1
  omega

/-- A character is read back from the way it is written. -/
theorem stringFrom_escape (c : Char) :
    stringFrom before (escape c ++ s) = stringFrom (c :: before) s := by
  unfold escape
  split
  iterate 7 exact stringFrom_escaped rfl
  rename_i quote backslash _ _ _ _ _
  split
  · rename_i control
    show stringFrom before ('\\' :: 'u' :: '0' :: '0' :: _ :: _ :: s) = _
    rw [stringFrom_hexWord (hexWord?_control control) (by omega), Char.ofNat_toNat]
  · rename_i control
    exact stringFrom_plain quote backslash control

/-- The characters of a written string are read back one after the other, up to its closing quote.
-/
theorem stringFrom_escapes (cs before : List Char) :
    stringFrom before (cs.flatMap escape ++ '"' :: s) =
      .ok (String.ofList (before.reverse ++ cs), s) := by
  induction cs generalizing before with
  | nil => rw [List.append_nil]; rfl
  | cons c cs ih =>
    rw [List.flatMap_cons, List.append_assoc, stringFrom_escape, ih, List.reverse_cons,
      List.append_assoc]
    rfl

theorem stringChars_append (name : String) :
    stringChars name ++ s = '"' :: (name.toList.flatMap escape ++ '"' :: s) := by
  unfold stringChars
  rw [List.cons_append, List.cons_append, List.append_assoc]
  rfl

/-- A written string is read back, and ends where it was closed. -/
theorem stringFrom_written (name : String) :
    stringFrom [] (name.toList.flatMap escape ++ '"' :: s) = .ok (name, s) := by
  rw [stringFrom_escapes]
  simp

end Strings

/-! ## Numbers -/

section Numbers

variable {digits rest : List Char}

theorem zero_of_digitChar : ∀ n < 10, Nat.digitChar n = '0' → n = 0 := by decide

/-- Only the number zero is written with a leading zero. -/
theorem head?_digits {n : Nat} (h : (Numeral.digits n).head? = some '0') : n = 0 := by
  unfold Numeral.digits at h
  -- The first digit of a larger number is the first digit of its tenth part.
  induction n using Nat.strongRecOn with
  | ind n ih =>
    by_cases small : n < 10
    · rw [Nat.toDigits_of_lt_base small] at h
      exact zero_of_digitChar n small (Option.some.inj h)
    · have shorter : n / 10 < n := by omega
      rw [Nat.toDigits_of_base_le (by decide) (by omega), List.head?_append,
        Option.or_of_isSome (by simp [Nat.toDigits_ne_nil])] at h
      have := ih _ shorter h
      omega

/-- The decimals of a number are the digits of a whole numeral. -/
theorem wholeDigits_digits (n : Nat) : Scanner.WholeDigits (Numeral.digits n) where
  ne_nil := Nat.toDigits_ne_nil
  all c mem := Nat.isDigit_of_mem_toDigits (by decide) (by decide) mem
  plain leading := by
    rw [head?_digits leading]
    rfl

/-- Digits are all kept, as long as their number is. -/
theorem absorb_digits {n : Nat} (fits : Nat.ofDigitChars 10 digits n ≤ maxSignificand) :
    absorb n digits = (Nat.ofDigitChars 10 digits n, digits.length) := by
  induction digits generalizing n with
  | nil => rfl
  | cons c digits ih =>
    rw [Nat.ofDigitChars_cons] at fits ⊢
    have grows := Numeral.le_ofDigitChars (10 * n + (c.toNat - '0'.toNat)) digits
    unfold absorb
    dsimp only
    rw [if_pos (by omega), ih fits]
    rfl

theorem magnitude_digits (negative : Bool) (number : Scanner.WholeDigits digits)
    (ends : Scanner.EndsNumber rest) (fits : Nat.ofDigitChars 10 digits 0 ≤ maxSignificand) :
    magnitude negative (digits ++ rest) =
      .ok (wholeNumeral negative (Nat.ofDigitChars 10 digits 0), rest) := by
  have stops : ∀ c ∈ rest.head?, c.isDigit = false := fun c hc => (ends c hc).1
  unfold magnitude
  rw [takeWhile_run number.all stops, dropWhile_run number.all stops]
  split
  · exact absurd rfl number.ne_nil
  · exact absurd rfl number.ne_nil
  · exact absurd (number.plain rfl) (by simp)
  rw [absorb_digits fits]
  dsimp only
  split
  · exact absurd rfl (ends _ rfl).2.1
  · exact absurd rfl (ends _ rfl).2.2.1
  · exact absurd rfl (ends _ rfl).2.2.2
  · rw [if_pos (by omega)]

/-- A number is read back from its decimals, up to what does not go on it. -/
theorem magnitude_written (negative : Bool) {n : Nat} (fits : n ≤ maxSignificand)
    (ends : Scanner.EndsNumber rest) :
    magnitude negative (Numeral.digits n ++ rest) = .ok (wholeNumeral negative n, rest) := by
  have value : Nat.ofDigitChars 10 (Numeral.digits n) 0 = n := Nat.ofDigitChars_ten_toDigits
  have read := magnitude_digits negative (wholeDigits_digits n) ends (by rwa [value])
  rwa [value] at read

theorem readNumeral_digits (number : Scanner.WholeDigits digits) :
    readNumeral (digits ++ rest) = magnitude false (digits ++ rest) := by
  obtain ⟨d, ds, rfl⟩ := List.exists_cons_of_ne_nil number.ne_nil
  have digit : d.isDigit = true := number.all d List.mem_cons_self
  unfold readNumeral
  rw [List.cons_append, skipSpace_cons_of_not_space (isSpace_of_isDigit digit)]
  split
  · rename_i minus
    obtain ⟨rfl, -⟩ := List.cons.inj minus
    cases digit
  · rename_i same
    obtain ⟨rfl, rfl⟩ := List.cons.inj same
    exact if_pos digit
  · rename_i none
    cases none

/-- A whole number of 64 bits is read back, with its sign. -/
theorem readNumeral_written {n : Int} (low : -9223372036854775808 ≤ n)
    (high : n ≤ 9223372036854775807) (ends : Scanner.EndsNumber rest) :
    readNumeral (Numeral.integer n ++ rest) = .ok (.whole n, rest) := by
  have limit : maxSignificand = 18446744073709551615 := rfl
  cases n with
  | ofNat m =>
    have fits : m ≤ maxSignificand := by
      have : (m : Int) ≤ 9223372036854775807 := high
      omega
    exact (readNumeral_digits (wholeDigits_digits m)).trans (magnitude_written false fits ends)
  | negSucc m =>
    have fits : m + 1 ≤ 9223372036854775808 := by
      have : Int.negSucc m = -((m : Int) + 1) := Int.negSucc_eq m
      omega
    have signed : wholeNumeral true (m + 1) = .whole (Int.negSucc m) := by
      unfold wholeNumeral
      rw [if_pos rfl, if_pos ⟨Nat.succ_pos m, fits⟩]
      rfl
    rw [← signed]
    exact magnitude_written true (by omega) ends

/-- A written 64-bit number is read back. -/
theorem readInt64_written (n : Int64) (ends : Scanner.EndsNumber rest) :
    readInt64 (Numeral.integer n.toInt ++ rest) = .ok (n, rest) := by
  have low : Int64.minValue.toInt ≤ n.toInt := Int64.minValue_le_toInt n
  have high : n.toInt ≤ Int64.maxValue.toInt := Int64.toInt_le n
  have read := readNumeral_written low high ends
  refine Reader.map_eq_ok.2 ⟨n.toInt, ?_, Int64.ofInt_toInt n⟩
  exact Reader.filterMap_eq_ok.2 ⟨_, read, if_pos ⟨low, high⟩⟩

end Numbers

/-! ## Values -/

section Values

variable {rest : List Char}

theorem endsNumber_cons {c : Char} (h : c.isDigit = false ∧ c ≠ '.' ∧ c ≠ 'e' ∧ c ≠ 'E') :
    Scanner.EndsNumber (c :: rest) := by
  intro d hd
  obtain rfl := Option.some.inj hd
  exact h

/-- A word is read from its own characters. -/
theorem word_append (w : List Char) : word w (w ++ rest) = .ok rest := by
  induction w with
  | nil => rfl
  | cons c w ih => exact (if_pos rfl).trans ih

theorem readString_written (name : String) :
    readString ((Json.text name).chars ++ rest) = .ok (name, rest) := by
  refine readString_eq_ok.2 ⟨_, ?_, stringFrom_written name⟩
  rw [chars, stringChars_append]
  rfl

theorem readBool_written (b : Bool) : readBool ((Json.bool b).chars ++ rest) = .ok (b, rest) := by
  cases b with
  | true => exact map_eq_ok.2 ⟨rest, word_append "rue".toList, rfl⟩
  | false => exact map_eq_ok.2 ⟨rest, word_append "alse".toList, rfl⟩

end Values

end Tutoring.Json
