import Tutoring.Json.Grammar
import Tutoring.Proofs.Written

/-!
# What is JSON is passed over

The scanner follows the grammar: each text of the grammar takes it from one place to another,
whatever stands behind, as long as that does not go on a number. What this library writes is among
these texts.

* `skipValue_value`: a value of the grammar is passed over, and nothing behind it.
* `stringFrom_spelling`: a string is read as the text that it spells.
* `isJson_chars`: written values are in the grammar.
-/

namespace Tutoring.Json

/-! ## Blanks -/

section Blanks

variable {b s rest : List Char} {c : Char}

theorem isSpace_iff : isSpace c = true ↔ c ∈ [' ', '\t', '\n', '\r'] := by
  simp [isSpace, or_assoc]

theorem isBlank_nil : IsBlank [] := nofun

theorem skipSpace_blank (h : IsBlank b) : skipSpace (b ++ s) = skipSpace s :=
  List.dropWhile_append_of_pos fun c hc => isSpace_iff.2 (h c hc)

theorem skipSpace_of_blank (h : IsBlank b) : skipSpace b = [] := by
  rw [← List.append_nil b, skipSpace_blank h]
  rfl

/-- Blanks do not go on a number. -/
theorem endsNumber_blank (h : IsBlank b) (ends : Scanner.EndsNumber rest) :
    Scanner.EndsNumber (b ++ rest) := by
  cases b with
  | nil => exact ends
  | cons d b =>
    have space := h d List.mem_cons_self
    refine endsNumber_cons ?_
    simp only [List.mem_cons, List.not_mem_nil, or_false] at space
    rcases space with rfl | rfl | rfl | rfl <;> decide

end Blanks

namespace Scanner

/-! ## Numbers -/

section Numbers

variable {place : Place} {stack : List Frame} {digits s rest : List Char} {c : Char}

/-- Digits are passed over where they lead back to the same place. -/
theorem run_loop (loop : ∀ c s, c.isDigit = true → step place stack c s = .move place stack)
    (all : ∀ c ∈ digits, c.isDigit = true) :
    run place stack (digits ++ rest) = run place stack rest := by
  induction digits with
  | nil => rfl
  | cons d digits ih =>
    obtain ⟨digit, all⟩ := List.forall_mem_cons.1 all
    rw [List.cons_append, run_of_move (loop d _ digit), ih all]

/-- One digit leads to the place of the others. -/
theorem run_isDigits {place' : Place} (number : IsDigits digits)
    (first : ∀ c s, c.isDigit = true → step place stack c s = .move place' stack)
    (loop : ∀ c s, c.isDigit = true → step place' stack c s = .move place' stack) :
    run place stack (digits ++ rest) = run place' stack rest := by
  obtain ⟨d, ds, rfl⟩ := List.exists_cons_of_ne_nil number.ne_nil
  obtain ⟨digit, all⟩ := List.forall_mem_cons.1 number.all
  rw [List.cons_append, run_of_move (first d _ digit), run_loop loop all]

/-- A number may end here. -/
inductive Place.MayEnd : Place → Prop
  | zero : MayEnd .zero
  | whole : MayEnd .whole
  | fraction : MayEnd .fraction
  | exponent : MayEnd .exponent

theorem run_ends (may : place.MayEnd) (ends : EndsNumber rest) : run place [] rest = .ok rest := by
  cases rest with
  | nil => cases may <;> rfl
  | cons c rest =>
    obtain ⟨digit, point, small, large⟩ := ends c rfl
    rw [run_cons]
    cases may <;> simp [step, behindNumber, digit, point, small, large]

theorem run_exponent (exponent : IsExponent s) (may : place.MayEnd) (other : place ≠ .exponent)
    (ends : EndsNumber rest) : run place [] (s ++ rest) = .ok rest := by
  have mark {e : Char} {s : List Char} (mark : e = 'e' ∨ e = 'E') :
      run place [] (e :: s) = run .exponentMark [] s := by
    refine run_of_move ?_
    cases may with
    | exponent => exact absurd rfl other
    | _ => rcases mark with rfl | rfl <;> rfl
  have loop (c : Char) (s : List Char) (digit : c.isDigit = true) :
      step .exponent [] c s = .move .exponent [] := if_pos digit
  cases exponent with
  | absent => exact run_ends may ends
  | @plain e s isMark digits =>
    have first (c : Char) (s : List Char) (digit : c.isDigit = true) :
        step .exponentMark [] c s = .move .exponent [] := by
      have unsigned : ¬(c = '+' ∨ c = '-') := by
        rintro (rfl | rfl) <;> cases digit
      simp only [step, unsigned, digit, if_false, if_true]
    calc run place [] (e :: (s ++ rest))
        = run .exponentMark [] (s ++ rest) := mark isMark
      _ = run .exponent [] rest := run_isDigits digits first loop
      _ = .ok rest := run_ends .exponent ends
  | @signed e c s isMark sign digits =>
    calc run place [] (e :: c :: (s ++ rest))
        = run .exponentMark [] (c :: (s ++ rest)) := mark isMark
      _ = run .exponentSign [] (s ++ rest) := run_of_move (if_pos sign)
      _ = run .exponent [] rest := run_isDigits digits (fun c s digit => if_pos digit) loop
      _ = .ok rest := run_ends .exponent ends

/-- What follows the digits before the point is passed over. -/
theorem run_fraction {f e : List Char} (fraction : IsFraction f) (exponent : IsExponent e)
    (whole : place = .zero ∨ place = .whole) (ends : EndsNumber rest) :
    run place [] (f ++ (e ++ rest)) = .ok rest := by
  cases fraction with
  | absent =>
    rcases whole with rfl | rfl
    · exact run_exponent exponent .zero nofun ends
    · exact run_exponent exponent .whole nofun ends
  | @digits s digits =>
    calc run place [] ('.' :: (s ++ (e ++ rest)))
        = run .point [] (s ++ (e ++ rest)) := by
          rcases whole with rfl | rfl <;> exact run_of_move rfl
      _ = run .fraction [] (e ++ rest) :=
        run_isDigits digits (fun c s digit => if_pos digit) (fun c s digit => if_pos digit)
      _ = .ok rest := run_exponent exponent .fraction nofun ends

/-- A number is passed over, with a sign in front or without. -/
theorem run_unsigned (number : IsUnsigned s) (ends : EndsNumber rest) :
    run .value [] (s ++ rest) = .ok rest ∧ run .minus [] (s ++ rest) = .ok rest := by
  obtain ⟨whole, fraction, exponent⟩ := number
  rw [List.append_assoc, List.append_assoc]
  cases whole with
  | zero =>
    have behind := run_fraction fraction exponent (.inl rfl) ends
    exact ⟨(run_of_move rfl).trans behind, (run_of_move rfl).trans behind⟩
  | @digits c s first other all =>
    have loop (c : Char) (s : List Char) (digit : c.isDigit = true) :
        step .whole [] c s = .move .whole [] := if_pos digit
    have behind := (run_loop loop all).trans (run_fraction fraction exponent (.inr rfl) ends)
    have token := isSpace_of_isDigit first
    constructor
    · refine (run_of_move ?_).trans behind
      simp [step, token, start?_digit first other]
    · refine (run_of_move ?_).trans behind
      simp [step, other, first]

end Numbers

/-! ## Strings -/

/-- A string is passed over, whether it spells a text or not. -/
theorem run_isString {stack : List Frame} {s rest : List Char} (isKey : Bool) (h : IsString s) :
    run (.string isKey) stack (s ++ '"' :: rest) = behindString isKey stack rest := by
  induction h with
  | nil =>
    cases isKey with
    | true => exact run_of_move rfl
    | false => exact run_of_close rfl
  | plain quote backslash control _ ih =>
    exact (run_plain quote backslash (Nat.not_lt.2 control)).trans ih
  | @letter c s escape _ ih =>
    obtain ⟨d, letter⟩ : ∃ d, escaped? c = some d := by
      simp only [List.mem_cons, List.not_mem_nil, or_false] at escape
      rcases escape with rfl | rfl | rfl | rfl | rfl | rfl | rfl | rfl <;> exact ⟨_, rfl⟩
    exact (run_escaped letter).trans ih
  | word digits _ ih => exact (run_hexWord digits).trans ih

end Scanner

/-! ## Values -/

section Values

variable {part : Part} {s rest : List Char}

/-- The characters that a part starts with, behind its blanks. -/
def Part.Starts : Part → Char → Prop
  | .value, c | .item, c | .items, c => c ≠ ']'
  | .member, c | .members, c => c = '"'

theorem IsUnsigned.eq_cons (h : IsUnsigned s) : ∃ c t, s = c :: t ∧ c.isDigit = true := by
  obtain ⟨whole, -, -⟩ := h
  cases whole with
  | zero => exact ⟨'0', _, rfl, rfl⟩
  | digits first => exact ⟨_, _, rfl, first⟩

theorem IsJson.starts (h : IsJson part s) (rest : List Char) :
    ∃ c t, skipSpace (s ++ rest) = c :: t ∧ part.Starts c := by
  induction h generalizing rest with
  | @word w word =>
    simp only [List.mem_cons, List.not_mem_nil, or_false] at word
    rcases word with rfl | rfl | rfl <;> exact ⟨_, _, rfl, show _ ≠ _ by decide⟩
  | negative | string | emptyList | list | emptyObject | object =>
    exact ⟨_, _, rfl, show _ ≠ _ by decide⟩
  | number number =>
    obtain ⟨c, t, rfl, digit⟩ := number.eq_cons
    refine ⟨c, t ++ rest, skipSpace_cons_of_not_space (isSpace_of_isDigit digit), ?_⟩
    rintro rfl
    cases digit
  | item before _ _ ih =>
    rw [List.append_assoc, List.append_assoc, skipSpace_blank before]
    exact ih _
  | lastItem _ ih => exact ih rest
  | items _ _ ih =>
    rw [List.append_assoc]
    exact ih _
  | member before =>
    rw [List.append_assoc, skipSpace_blank before]
    exact ⟨_, _, rfl, rfl⟩
  | lastMember _ ih => exact ih rest
  | members _ _ ih =>
    rw [List.append_assoc]
    exact ih _

namespace Scanner

/-- Items follow a bracket as they follow a comma. -/
theorem run_firstItem_of_items {stack : List Frame} (h : IsJson .items s) :
    run .firstItem stack (s ++ rest) = run .value stack (s ++ rest) := by
  obtain ⟨c, t, start, other⟩ := h.starts rest
  have token := not_space_of_skipSpace start
  have other : c ≠ ']' := other
  calc run .firstItem stack (s ++ rest)
      = run .firstItem stack (c :: t) := by rw [← start, run_skipSpace rfl]
    _ = run .value stack (c :: t) := by rw [run_cons, run_cons]; simp [step, token, other]
    _ = run .value stack (s ++ rest) := by rw [← start, run_skipSpace rfl]

/-- Members follow a brace as they follow a comma. -/
theorem run_firstKey_of_members {stack : List Frame} (h : IsJson .members s) :
    run .firstKey stack (s ++ rest) = run .key stack (s ++ rest) := by
  obtain ⟨c, t, start, quote⟩ := h.starts rest
  have quote : c = '"' := quote
  subst quote
  calc run .firstKey stack (s ++ rest)
      = run .firstKey stack ('"' :: t) := by rw [← start, run_skipSpace rfl]
    _ = run .key stack ('"' :: t) := by rw [run_of_move rfl, run_of_move rfl]
    _ = run .key stack (s ++ rest) := by rw [← start, run_skipSpace rfl]

theorem run_blank {place : Place} {stack : List Frame} {b : List Char}
    (between : place.isBetween = true) (blank : IsBlank b) :
    run place stack (b ++ s) = run place stack s := by
  rw [← run_skipSpace between, skipSpace_blank blank, run_skipSpace between]

end Scanner

/-- What the scanner does at a part: it goes to the end of a list or an object that a part is in. -/
def Part.Passes : Part → List Char → Prop
  | .value, s => ∀ rest, Scanner.EndsNumber rest → skipValue (s ++ rest) = .ok rest
  | .item, s => ∀ frame rest, Scanner.EndsNumber rest →
      Scanner.run .value [frame] (s ++ rest) = Scanner.run .next [frame] rest
  | .items, s => ∀ rest, Scanner.run .value [.list] (s ++ ']' :: rest) = .ok rest
  | .member, s => ∀ rest, Scanner.EndsNumber rest →
      Scanner.run .key [.object] (s ++ rest) = Scanner.run .next [.object] rest
  | .members, s => ∀ rest, Scanner.run .key [.object] (s ++ '\x7d' :: rest) = .ok rest

theorem IsJson.passes (h : IsJson part s) : part.Passes s := by
  open Scanner in
  induction h with
  | @word w word =>
    intro rest _
    simp only [List.mem_cons, List.not_mem_nil, or_false] at word
    rcases word with rfl | rfl | rfl
    · exact (run_of_move rfl).trans (run_word (by decide) (word_append "ull".toList))
    · exact (run_of_move rfl).trans (run_word (by decide) (word_append "rue".toList))
    · exact (run_of_move rfl).trans (run_word (by decide) (word_append "alse".toList))
  | number number => exact fun rest ends => (run_unsigned number ends).1
  | negative number =>
    exact fun rest ends => (run_of_move rfl).trans (run_unsigned number ends).2
  | string string =>
    intro rest _
    rw [List.cons_append, List.append_assoc]
    exact (run_of_move rfl).trans (run_isString false string)
  | emptyList blank =>
    intro rest _
    rw [List.cons_append, List.append_assoc]
    exact (run_of_move rfl).trans ((run_blank rfl blank).trans rfl)
  | list items ih =>
    intro rest _
    rw [List.cons_append, List.append_assoc]
    exact (run_of_move rfl).trans ((run_firstItem_of_items items).trans (ih rest))
  | emptyObject blank =>
    intro rest _
    rw [List.cons_append, List.append_assoc]
    exact (run_of_move rfl).trans ((run_blank rfl blank).trans rfl)
  | object members ih =>
    intro rest _
    rw [List.cons_append, List.append_assoc]
    exact (run_of_move rfl).trans ((run_firstKey_of_members members).trans (ih rest))
  | @item b v b' before _ behind ih =>
    intro frame rest ends
    rw [List.append_assoc, List.append_assoc]
    calc run .value [frame] (b ++ (v ++ (b' ++ rest)))
        = run .value [frame] (v ++ (b' ++ rest)) := run_blank rfl before
      _ = resume [frame] (b' ++ rest) := run_append (ih _ (endsNumber_blank behind ends))
      _ = run .next [frame] rest := run_blank rfl behind
  | lastItem _ ih =>
    intro rest
    exact (ih .list _ (endsNumber_cons (by decide))).trans rfl
  | @items s t _ _ ih ih' =>
    intro rest
    rw [List.append_assoc]
    calc run .value [.list] (s ++ ',' :: (t ++ ']' :: rest))
        = run .next [.list] (',' :: (t ++ ']' :: rest)) := ih _ _ (endsNumber_cons (by decide))
      _ = run .value [.list] (t ++ ']' :: rest) := run_of_move rfl
      _ = .ok rest := ih' rest
  | @member b k b' s before name behind _ ih =>
    intro rest ends
    have split : b ++ '"' :: (k ++ '"' :: (b' ++ ':' :: s)) ++ rest =
        b ++ '"' :: (k ++ '"' :: (b' ++ ':' :: (s ++ rest))) := by simp
    calc run .key [.object] (b ++ '"' :: (k ++ '"' :: (b' ++ ':' :: s)) ++ rest)
        = run .key [.object] ('"' :: (k ++ '"' :: (b' ++ ':' :: (s ++ rest)))) := by
          rw [split, run_blank rfl before]
      _ = run (.string true) [.object] (k ++ '"' :: (b' ++ ':' :: (s ++ rest))) :=
          run_of_move rfl
      _ = run .colon [.object] (b' ++ ':' :: (s ++ rest)) := run_isString true name
      _ = run .colon [.object] (':' :: (s ++ rest)) := run_blank rfl behind
      _ = run .value [.object] (s ++ rest) := run_of_move rfl
      _ = run .next [.object] rest := ih .object rest ends
  | lastMember _ ih =>
    intro rest
    exact (ih _ (endsNumber_cons (by decide))).trans rfl
  | @members s t _ _ ih ih' =>
    intro rest
    rw [List.append_assoc]
    calc run .key [.object] (s ++ ',' :: (t ++ '\x7d' :: rest))
        = run .next [.object] (',' :: (t ++ '\x7d' :: rest)) := ih _ (endsNumber_cons (by decide))
      _ = run .key [.object] (t ++ '\x7d' :: rest) := run_of_move rfl
      _ = .ok rest := ih' rest

/-- A value is passed over, and nothing behind it. -/
theorem skipValue_value (h : IsJson .value s) (ends : Scanner.EndsNumber rest) :
    skipValue (s ++ rest) = .ok rest :=
  h.passes rest ends

end Values

/-! ## Names -/

section Spelling

variable {before s t : List Char}

theorem stringFrom_word {a b c d e : Char} (h : hexWord? a b c d = some e.toNat) :
    stringFrom before ('\\' :: 'u' :: a :: b :: c :: d :: s) = stringFrom (e :: before) s := by
  have valid : e.toNat < 0xD800 ∨ 0xDFFF < e.toNat := e.valid.imp_right And.left
  rw [stringFrom]
  simp only [h]
  rw [if_neg (by omega), if_pos (by omega), Char.ofNat_toNat]

theorem stringFrom_pair {a b c d a' b' c' d' : Char} {n n' : Nat} (h : hexWord? a b c d = some n)
    (high : 0xD800 ≤ n ∧ n ≤ 0xDBFF) (h' : hexWord? a' b' c' d' = some n')
    (low : 0xDC00 ≤ n' ∧ n' ≤ 0xDFFF) :
    stringFrom before
        ('\\' :: 'u' :: a :: b :: c :: d :: '\\' :: 'u' :: a' :: b' :: c' :: d' :: s) =
      stringFrom (Char.ofNat (0x10000 + (n - 0xD800) * 0x400 + (n' - 0xDC00)) :: before) s := by
  conv =>
    lhs
    rw [stringFrom]
  simp only [h, h']
  rw [if_neg (by omega), if_neg (by omega), if_pos low]

/-- A string is read as the text that it spells. -/
theorem stringFrom_spelling (h : IsSpelling s t) (before rest : List Char) :
    stringFrom before (s ++ '"' :: rest) = .ok (String.ofList (before.reverse ++ t), rest) := by
  induction h generalizing before with
  | nil => rw [List.append_nil]; rfl
  | plain quote backslash control _ ih =>
    rw [List.cons_append, stringFrom_plain quote backslash (Nat.not_lt.2 control), ih]
    simp
  | letter escape _ ih =>
    rw [List.cons_append, List.cons_append, stringFrom_escaped escape, ih]
    simp
  | word digits _ ih =>
    refine (stringFrom_word digits).trans ((ih _).trans ?_)
    simp
  | pair digits high digits' low _ ih =>
    refine (stringFrom_pair digits high digits' low).trans ((ih _).trans ?_)
    simp

theorem IsSpelling.isString (h : IsSpelling s t) : IsString s := by
  induction h with
  | nil => exact .nil
  | plain quote backslash control _ ih => exact .plain quote backslash control ih
  | letter escape _ ih =>
    refine .letter ?_ ih
    unfold escaped? at escape
    split at escape
    all_goals first
      | decide
      | cases escape
  | word digits _ ih => exact .word digits ih
  | pair digits _ digits' _ _ ih => exact .word digits (.word digits' ih)

/-- Every character has a spelling, which is the one that is written. -/
theorem isSpelling_escapes (cs : List Char) : IsSpelling (cs.flatMap escape) cs := by
  induction cs with
  | nil => exact .nil
  | cons c cs ih =>
    rw [List.flatMap_cons]
    unfold escape
    split
    iterate 7 exact .letter rfl ih
    rename_i quote backslash _ _ _ _ _
    split
    · rename_i control
      exact .word (hexWord?_control control) ih
    · rename_i control
      exact .plain quote backslash (Nat.le_of_not_lt control) ih

end Spelling

/-! ## Written values -/

section Written

variable {s : List Char} {e : Entry} {es : List Entry}

theorem IsEntry.isJson (h : IsEntry e s) : IsJson .member s := by
  obtain ⟨before, spelling, behind, before', value, behind'⟩ := h
  exact .member before spelling.isString behind (.item before' value behind')

theorem IsEntries.isJson (h : IsEntries es s) : IsJson .members s := by
  induction h with
  | last entry => exact .lastMember entry.isJson
  | cons entry _ ih => exact .members entry.isJson ih

theorem isJson_item (h : IsJson .value s) : IsJson .item s := by
  have item := IsJson.item isBlank_nil h isBlank_nil
  rwa [List.nil_append, List.append_nil] at item

/-- A written field has no blanks. -/
theorem isEntry_written (k : String) (h : IsJson .value s) :
    IsEntry (k, s) (stringChars k ++ ':' :: s) := by
  have entry := IsEntry.intro isBlank_nil (isSpelling_escapes k.toList) isBlank_nil isBlank_nil h
    isBlank_nil
  rw [stringChars_append]
  simpa using entry

theorem isUnsigned_digits (n : Nat) : IsUnsigned (Text.Numeral.digits n) := by
  have number := wholeDigits_digits n
  have whole : IsWhole (Text.Numeral.digits n) := by
    obtain ⟨d, ds, split⟩ := List.exists_cons_of_ne_nil number.ne_nil
    rw [split] at number ⊢
    obtain ⟨digit, all⟩ := List.forall_mem_cons.1 number.all
    by_cases zero : d = '0'
    · subst zero
      rw [number.plain rfl]
      exact .zero
    · exact .digits digit zero all
  have unsigned := IsUnsigned.intro whole .absent .absent
  rwa [List.append_nil, List.append_nil] at unsigned

-- The items of a list and the fields of an object are in the grammar as soon as there are any.
mutual

/-- Written values are in the grammar. -/
theorem isJson_chars : (v : Json) → IsJson .value v.chars
  | .null => .word (by decide)
  | .bool true => .word (by decide)
  | .bool false => .word (by decide)
  | .int (.ofNat n) => .number (isUnsigned_digits n)
  | .int (.negSucc n) => .negative (isUnsigned_digits (n + 1))
  | .text s => .string (isSpelling_escapes s.toList).isString
  | .list vs => by
    rcases isJson_itemsChars vs with rfl | items
    · exact .emptyList isBlank_nil
    · exact .list items
  | .object fs => by
    rcases isEntries_fieldsChars fs with rfl | entries
    · exact .emptyObject isBlank_nil
    · exact .object entries.isJson

theorem isJson_itemsChars : (vs : List Json) → vs = [] ∨ IsJson .items (itemsChars vs)
  | [] => .inl rfl
  | [v] => .inr (.lastItem (isJson_item (isJson_chars v)))
  | v :: w :: ws => by
    have others := (isJson_itemsChars (w :: ws)).resolve_left nofun
    exact .inr (.items (isJson_item (isJson_chars v)) others)

/-- The fields of a written object are its entries. -/
theorem isEntries_fieldsChars : (fs : List (String × Json)) →
    fs = [] ∨ IsEntries (fs.map fun f => (f.1, f.2.chars)) (fieldsChars fs)
  | [] => .inl rfl
  | [(k, v)] => .inr (.last (isEntry_written k (isJson_chars v)))
  | (k, v) :: f :: fs => by
    have others := (isEntries_fieldsChars (f :: fs)).resolve_left nofun
    have written : fieldsChars ((k, v) :: f :: fs) =
        stringChars k ++ ':' :: v.chars ++ ',' :: fieldsChars (f :: fs) := by
      simp [fieldsChars]
    rw [written]
    exact .inr (.cons (isEntry_written k (isJson_chars v)) others)

end

end Written

end Tutoring.Json
