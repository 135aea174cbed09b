import Tutoring.Text.Blank

/-!
# Written record numbers

The texts that stand for a whole number in decimal, and what remains of a text without the blanks
around it, without regard to how they are read.
-/

namespace Tutoring.Text

/-- `t` is the text `s` without the blanks that it starts and ends with. -/
structure IsTrimmed (s t : List Char) : Prop where
  around : ∃ front back, s = front ++ t ++ back ∧ ∀ c ∈ front ++ back, isBlank c = true
  starts : ∀ c ∈ t.head?, isBlank c = false
  ends : ∀ c ∈ t.getLast?, isBlank c = false

/-- The text consists of ASCII digits, at least one of them, and this is the number they make. -/
structure IsDecimal (s : List Char) (n : Nat) : Prop where
  ne_nil : s ≠ []
  digits : ∀ c ∈ s, c.isDigit = true
  value : Nat.ofDigitChars 10 s 0 = n

/-- The text is a decimal with at most one sign in front, and this is the number with that sign. -/
inductive IsInteger : List Char → Int → Prop
  | plain {s : List Char} {n : Nat} (decimal : IsDecimal s n) : IsInteger s n
  | plus {s : List Char} {n : Nat} (decimal : IsDecimal s n) : IsInteger ('+' :: s) n
  | minus {s : List Char} {n : Nat} (decimal : IsDecimal s n) : IsInteger ('-' :: s) (-n)

end Tutoring.Text
