import Mathlib.Tactic.SplitIfs
import Tutoring.Json.Reader

/-!
# How values are passed over

The scanner passes over a value in the same way wherever the value stands: what encloses it only
matters when it has come to its end (`Scanner.run_append`). So strings, numbers and words can be
dealt with on their own, and what is shown of a value at the start of a text holds of an item of a
list and of a member of an object.

* `Scanner.run_string`: where a string can be read, it is passed over.
* `Scanner.run_digits`: digits are passed over up to what is no part of a number (`EndsNumber`).
-/

namespace Tutoring.Json

/-! ## Spaces -/

section Space

variable {c : Char} {s : List Char}

theorem skipSpace_cons_of_space (h : isSpace c = true) : skipSpace (c :: s) = skipSpace s :=
  List.dropWhile_cons_of_pos h

theorem skipSpace_cons_of_not_space (h : isSpace c = false) : skipSpace (c :: s) = c :: s :=
  List.dropWhile_cons_of_neg (by simp [h])

/-- A text without spaces in front starts with a token. -/
theorem not_space_of_skipSpace {t : List Char} (h : skipSpace s = c :: t) : isSpace c = false := by
  induction s with
  | nil => cases h
  | cons d s ih =>
    cases hd : isSpace d with
    | true =>
      rw [skipSpace_cons_of_space hd] at h
      exact ih h
    | false =>
      rw [skipSpace_cons_of_not_space hd] at h
      obtain ⟨rfl, -⟩ := List.cons.inj h
      exact hd

/-- Spaces are passed over once and for all. -/
@[simp] theorem skipSpace_skipSpace (s : List Char) : skipSpace (skipSpace s) = skipSpace s := by
  cases h : skipSpace s with
  | nil => rfl
  | cons c t => exact skipSpace_cons_of_not_space (not_space_of_skipSpace h)

/-- A digit is not a space. -/
theorem isSpace_of_isDigit (h : c.isDigit = true) : isSpace c = false := by
  unfold isSpace
  rw [Bool.eq_false_iff]
  intro space
  simp only [Bool.or_eq_true, decide_eq_true_eq] at space
  rcases space with ((rfl | rfl) | rfl) | rfl <;> cases h

end Space

namespace Scanner

/-! ## Within other values -/

/-- What is to be done when a value has ended within a stack. -/
def resume : List Frame → List Char → Except Fault (List Char)
  | [], rest => .ok rest
  | frame :: stack, rest => run .next (frame :: stack) rest

/-- The step with more frames around it. -/
def Step.under (outer : List Frame) (c : Char) : Step → Step
  | .move place inner => .move place (inner ++ outer)
  | .finish => close outer
  | .finished => behindNumber outer c
  | .refuse fault => .refuse fault

section Frames

variable {place : Place} {inner outer : List Frame} {c : Char} {s rest : List Char}

/-- The end of a value is looked at where the frames around it are. -/
theorem close_append : close (inner ++ outer) = (close inner).under outer c := by
  cases inner <;> rfl

theorem start?_append : start? (inner ++ outer) c = (start? inner c).map (Step.under outer c) := by
  unfold start?
  split <;> try rfl
  split <;> rfl

/-- What may stand behind an item of a list. -/
theorem behind_list : behind (.list :: outer) c =
    if isSpace c then .move .next (.list :: outer)
    else if c = ',' then .move .value (.list :: outer)
    else if c = ']' then close outer else .refuse .malformed := by
  unfold behind
  by_cases comma : c = ','
  · subst comma
    rfl
  by_cases bracket : c = ']'
  · subst bracket
    rfl
  simp only [comma, bracket, if_false]
  split <;> first | rfl | exact absurd rfl comma | exact absurd rfl bracket | simp_all

/-- What may stand behind a member of an object. -/
theorem behind_object : behind (.object :: outer) c =
    if isSpace c then .move .next (.object :: outer)
    else if c = ',' then .move .key (.object :: outer)
    else if c = '\x7d' then close outer else .refuse .malformed := by
  unfold behind
  by_cases comma : c = ','
  · subst comma
    rfl
  by_cases brace : c = '\x7d'
  · subst brace
    rfl
  simp only [comma, brace, if_false]
  split <;> first | rfl | exact absurd rfl comma | exact absurd rfl brace | simp_all

/-- A character behind a value that is not refused has the same effect whatever is around. -/
theorem behind_append (h : ∀ f, behind inner c ≠ .refuse f) :
    behind (inner ++ outer) c = (behind inner c).under outer c := by
  cases inner with
  | nil =>
    unfold behind at h ⊢
    split_ifs at h ⊢
    · rfl
    · exact (h .malformed rfl).elim
  | cons frame inner =>
    cases frame
    · rw [behind_list] at h
      rw [List.cons_append, behind_list, behind_list]
      split_ifs at h ⊢
      · rfl
      · rfl
      · exact close_append
      · exact (h .malformed rfl).elim
    · rw [behind_object] at h
      rw [List.cons_append, behind_object, behind_object]
      split_ifs at h ⊢
      · rfl
      · rfl
      · exact close_append
      · exact (h .malformed rfl).elim

theorem behindNumber_append (h : ∀ f, behindNumber inner c ≠ .refuse f) :
    behindNumber (inner ++ outer) c = (behindNumber inner c).under outer c := by
  cases inner with
  | nil => rfl
  | cons frame inner => exact behind_append h

theorem start_append (h : ∀ f, (start? inner c).getD (.refuse .malformed) ≠ .refuse f) :
    (start? (inner ++ outer) c).getD (.refuse .malformed) =
      ((start? inner c).getD (.refuse .malformed)).under outer c := by
  rw [start?_append]
  cases start : start? inner c with
  | none =>
    rw [start] at h
    exact (h .malformed rfl).elim
  | some next => rfl

/-- What encloses a value does not matter before its end. -/
theorem step_append (h : ∀ f, step place inner c s ≠ .refuse f) :
    step place (inner ++ outer) c s = (step place inner c s).under outer c := by
  unfold step at h ⊢
  cases place with
  | word rest =>
    cases rest with
    | nil => exact absurd rfl (h _)
    | cons d rest =>
      dsimp only at h ⊢
      split_ifs at h ⊢
      · exact absurd rfl (h _)
      · exact close_append
      · rfl
  | hex left isKey =>
    cases left <;> dsimp only at h ⊢ <;> split_ifs at h ⊢
    · exact absurd rfl (h _)
    · rfl
    · exact absurd rfl (h _)
    · rfl
  | next => exact behind_append h
  | _ =>
    dsimp only at h ⊢
    split_ifs at h ⊢
    all_goals first
      | rfl
      | exact absurd rfl (h _)
      | exact close_append
      | exact behind_append h
      | exact behindNumber_append h
      | exact start_append h

theorem run_nil : run place inner [] = atEnd place inner := rfl

theorem run_cons : run place inner (c :: s) =
    match step place inner c s with
    | .move place stack => run place stack s
    | .finish => .ok s
    | .finished => .ok (c :: s)
    | .refuse fault => .error fault := rfl

/-- A value ends at the same place whatever encloses it. -/
theorem run_append (h : run place inner s = .ok rest) :
    run place (inner ++ outer) s = resume outer rest := by
  -- Both scanners take the same steps until the inner stack is empty and the value closes.
  induction s generalizing place inner with
  | nil =>
    rw [run_nil] at h ⊢
    cases place with
    | zero | whole | fraction | exponent =>
      cases inner with
      | nil =>
        obtain rfl : [] = rest := Except.ok.inj h
        cases outer <;> rfl
      | cons frame inner => cases h
    | _ => cases h
  | cons c s ih =>
    rw [run_cons] at h ⊢
    have accepted : ∀ f, step place inner c s ≠ .refuse f := by
      intro f refused
      rw [refused] at h
      cases h
    rw [step_append accepted]
    cases next : step place inner c s with
    | move place' inner' =>
      rw [next] at h
      exact ih h
    | finish =>
      rw [next] at h
      obtain rfl : s = rest := Except.ok.inj h
      cases outer <;> rfl
    | finished =>
      rw [next] at h
      obtain rfl : c :: s = rest := Except.ok.inj h
      cases outer <;> rfl
    | refuse fault => exact absurd next (accepted fault)

end Frames

/-! ## Between tokens -/

/-- Spaces may stand here. -/
def Place.isBetween : Place → Bool
  | .value | .firstItem | .firstKey | .key | .colon | .next => true
  | _ => false

section Tokens

variable {place : Place} {stack : List Frame} {c : Char} {s rest : List Char}

/-- Between tokens, a space changes nothing. -/
theorem step_space (between : place.isBetween = true) (space : isSpace c = true) :
    step place stack c s = .move place stack := by
  cases place with
  | value | firstItem | firstKey | key | colon | next => simp only [step, behind, space, if_true]
  | _ => cases between

/-- Between tokens, spaces in front do not matter. -/
theorem run_skipSpace (between : place.isBetween = true) (s : List Char) :
    run place stack (skipSpace s) = run place stack s := by
  induction s with
  | nil => rfl
  | cons c s ih =>
    cases space : isSpace c with
    | true => rw [skipSpace_cons_of_space space, ih, run_cons, step_space between space]
    | false => rw [skipSpace_cons_of_not_space space]

theorem run_of_close (h : step place stack c s = close stack) :
    run place stack (c :: s) = resume stack s := by
  rw [run_cons, h]
  cases stack <;> rfl

theorem run_of_move {place' : Place} {stack' : List Frame}
    (h : step place stack c s = .move place' stack') :
    run place stack (c :: s) = run place' stack' s := by
  rw [run_cons, h]

/-! ## Words -/

/-- A word that can be read is passed over. -/
theorem run_word {w : List Char} (ne_nil : w ≠ []) (h : word w s = .ok rest) :
    run (.word w) stack s = resume stack rest := by
  induction w generalizing s with
  | nil => exact absurd rfl ne_nil
  | cons d w ih =>
    cases s with
    | nil => cases h
    | cons c s =>
      unfold word at h
      split at h
      · rename_i same
        subst same
        by_cases last : w = []
        · subst last
          obtain rfl : s = rest := Except.ok.inj h
          refine run_of_close ?_
          simp only [step, ne_eq, not_true_eq_false, if_false, if_true]
        · rw [← ih last h]
          refine run_of_move ?_
          simp only [step, ne_eq, not_true_eq_false, if_false, last]
      · cases h

/-! ## Strings -/

/-- A text has a byte for each character at least. -/
theorem hasBytes_of_length {n : Nat} (h : n ≤ s.length) : hasBytes n s = true := by
  induction s generalizing n with
  | nil => exact decide_eq_true (Nat.le_zero.1 h)
  | cons c s ih =>
    have pos : 0 < c.utf8Size := Char.utf8Size_pos c
    rw [List.length_cons] at h
    unfold hasBytes
    rw [ih (by omega), Bool.or_true]

/-- What is left to do behind a string, which may be the name of a member. -/
def behindString (isKey : Bool) (stack : List Frame) (rest : List Char) :
    Except Fault (List Char) :=
  if isKey then run .colon stack rest else resume stack rest

theorem run_hex_succ {isKey : Bool} {v : Nat} (h : Text.hexValue? c = some v) (n : Nat) :
    run (.hex (n + 1) isKey) stack (c :: s) = run (.hex n isKey) stack s :=
  run_of_move (by simp [step, h])

theorem run_hex_zero {isKey : Bool} {v : Nat} (h : Text.hexValue? c = some v) :
    run (.hex 0 isKey) stack (c :: s) = run (.string isKey) stack s :=
  run_of_move (by simp [step, h])

/-- Four hexadecimal digits are passed over, whether they name a character or not. -/
theorem run_hexWord {isKey : Bool} {a b d e : Char} {n : Nat} (h : hexWord? a b d e = some n) :
    run (.string isKey) stack ('\\' :: 'u' :: a :: b :: d :: e :: s) =
      run (.string isKey) stack s := by
  unfold hexWord? at h
  simp only [Option.bind_eq_bind, Option.bind_eq_some_iff, Option.pure_def] at h
  obtain ⟨w, ha, x, hb, y, hd, z, he, -⟩ := h
  have enough : hasBytes 4 (a :: b :: d :: e :: s) = true := by
    refine hasBytes_of_length ?_
    simp only [List.length_cons]
    omega
  calc run (.string isKey) stack ('\\' :: 'u' :: a :: b :: d :: e :: s)
      = run (.escape isKey) stack ('u' :: a :: b :: d :: e :: s) := run_of_move rfl
    _ = run (.hex 3 isKey) stack (a :: b :: d :: e :: s) := run_of_move (by simp [step, enough])
    _ = run (.string isKey) stack s := by
      rw [run_hex_succ ha, run_hex_succ hb, run_hex_succ hd, run_hex_zero he]

/-- A letter behind a backslash is passed over. -/
theorem run_escaped {isKey : Bool} {d : Char} (h : escaped? c = some d) :
    run (.string isKey) stack ('\\' :: c :: s) = run (.string isKey) stack s := by
  have letter : c ≠ 'u' ∧ c ∈ ['"', '\\', '/', 'b', 'f', 'n', 'r', 't'] := by
    unfold escaped? at h
    split at h
    all_goals first
      | exact ⟨by decide, by decide⟩
      | cases h
  calc run (.string isKey) stack ('\\' :: c :: s)
      = run (.escape isKey) stack (c :: s) := run_of_move rfl
    _ = run (.string isKey) stack s :=
      run_of_move (by simp only [step, letter, if_false, if_true])

theorem run_plain {isKey : Bool} (quote : c ≠ '"') (backslash : c ≠ '\\')
    (control : ¬c.toNat < 0x20) :
    run (.string isKey) stack (c :: s) = run (.string isKey) stack s := by
  refine run_of_move ?_
  simp only [step, quote, backslash, control, if_false]

/-- A string that can be read is passed over. -/
theorem run_string {before : List Char} {name : String} (isKey : Bool)
    (h : stringFrom before s = .ok (name, rest)) :
    run (.string isKey) stack s = behindString isKey stack rest := by
  -- The branches that are not named refuse the text.
  fun_induction stringFrom before s with
  | case2 before s =>
    obtain ⟨-, rfl⟩ := Prod.mk.inj (Except.ok.inj h)
    cases isKey with
    | true => exact run_of_move rfl
    | false => exact run_of_close rfl
  | case5 before a b d e s n word _ _ ih =>
    rw [run_hexWord word]
    exact ih h
  | case8 before a b d e n word _ _ a' b' d' e' s m word' _ ih =>
    rw [run_hexWord word, run_hexWord word']
    exact ih h
  | case15 before c s _ _ d letter ih =>
    rw [run_escaped letter]
    exact ih h
  | case18 before c s quote _ _ single double control ih =>
    have backslash : c ≠ '\\' := by
      rintro rfl
      cases s with
      | nil => exact single rfl rfl
      | cons d s => exact double d s rfl rfl
    rw [run_plain quote backslash control]
    exact ih h
  | _ => cases h

/-! ## Numbers -/

/-- A number does not go on here. -/
def EndsNumber (rest : List Char) : Prop :=
  ∀ c ∈ rest.head?, c.isDigit = false ∧ c ≠ '.' ∧ c ≠ 'e' ∧ c ≠ 'E'

/-- The digits of a whole number, without a superfluous zero in front. -/
structure WholeDigits (digits : List Char) : Prop where
  ne_nil : digits ≠ []
  all : ∀ c ∈ digits, c.isDigit = true
  plain : digits.head? = some '0' → digits = ['0']

theorem run_zero (h : EndsNumber rest) : run .zero [] rest = .ok rest := by
  cases rest with
  | nil => rfl
  | cons c rest =>
    obtain ⟨digit, point, small, large⟩ := h c rfl
    rw [run_cons]
    simp [step, behindNumber, digit, point, small, large]

/-- Digits are passed over up to what is no part of a number. -/
theorem run_whole {digits : List Char} (all : ∀ c ∈ digits, c.isDigit = true)
    (h : EndsNumber rest) : run .whole [] (digits ++ rest) = .ok rest := by
  induction digits with
  | nil =>
    rw [List.nil_append]
    cases rest with
    | nil => rfl
    | cons c rest =>
      obtain ⟨digit, point, small, large⟩ := h c rfl
      rw [run_cons]
      simp [step, behindNumber, digit, point, small, large]
  | cons d digits ih =>
    obtain ⟨digit, all⟩ := List.forall_mem_cons.1 all
    rw [List.cons_append, ← ih all]
    exact run_of_move (by simp [step, digit])

theorem start?_digit (digit : c.isDigit = true) (other : c ≠ '0') :
    start? stack c = some (.move .whole stack) := by
  unfold start?
  split
  all_goals first
    | exact absurd rfl other
    | exact if_pos digit

/-- A number is passed over, with a sign in front or without. -/
theorem run_digits {digits : List Char} (number : WholeDigits digits) (h : EndsNumber rest) :
    run .value [] (digits ++ rest) = .ok rest ∧ run .minus [] (digits ++ rest) = .ok rest := by
  cases digits with
  | nil => exact absurd rfl number.ne_nil
  | cons d digits =>
    obtain ⟨digit, all⟩ := List.forall_mem_cons.1 number.all
    have token := isSpace_of_isDigit digit
    rw [List.cons_append]
    by_cases zero : d = '0'
    · subst zero
      obtain rfl : digits = [] := (List.cons.inj (number.plain rfl)).2
      rw [← run_zero h]
      exact ⟨run_of_move rfl, run_of_move rfl⟩
    · rw [← run_whole all h]
      constructor
      · exact run_of_move (by simp [step, token, start?_digit digit zero])
      · exact run_of_move (by simp [step, zero, digit])

end Tokens

end Scanner

end Tutoring.Json
