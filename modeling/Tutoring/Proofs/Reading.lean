import Tutoring.Json.Items
import Tutoring.Proofs.Scanner

/-!
# Readers take one value

A reader of a typed value takes off the front of a text just what the scanner passes over
(`Reader.Sound`). So a value is known by the text that it is read from, and where it ends does not
depend on who reads it. Readers that are put together from such readers are such readers.
-/

namespace Tutoring.Json

/-! ## Results -/

section Except

variable {ε α β : Type}

/-- Two steps succeed if the first one does, and the second one with its result. -/
theorem bind_eq_ok {x : Except ε α} {f : α → Except ε β} {b : β} :
    x >>= f = .ok b ↔ ∃ a, x = .ok a ∧ f a = .ok b := by
  cases x with
  | error e => exact ⟨nofun, nofun⟩
  | ok a =>
    constructor
    · exact fun h => ⟨a, rfl, h⟩
    · rintro ⟨_, h, hb⟩
      obtain rfl := Except.ok.inj h
      exact hb

/-- Two steps fail if the first one does, or the second one with its result. -/
theorem bind_eq_error {x : Except ε α} {f : α → Except ε β} {e : ε} :
    x >>= f = .error e ↔ x = .error e ∨ ∃ a, x = .ok a ∧ f a = .error e := by
  cases x with
  | error e' =>
    constructor
    · exact fun h => .inl (congrArg Except.error (Except.error.inj h))
    · rintro (h | ⟨_, h, -⟩)
      · exact congrArg Except.error (Except.error.inj h)
      · cases h
  | ok a =>
    constructor
    · exact fun h => .inr ⟨a, rfl, h⟩
    · rintro (h | ⟨_, h, failed⟩)
      · cases h
      · obtain rfl := Except.ok.inj h
        exact failed

theorem map_eq_ok {x : Except ε α} {f : α → β} {b : β} :
    f <$> x = .ok b ↔ ∃ a, x = .ok a ∧ f a = b := by
  cases x with
  | error e => exact ⟨nofun, nofun⟩
  | ok a =>
    constructor
    · exact fun h => ⟨a, rfl, Except.ok.inj h⟩
    · rintro ⟨_, h, rfl⟩
      obtain rfl := Except.ok.inj h
      rfl

theorem toOption_eq_some {x : Except ε α} {a : α} : x.toOption = some a ↔ x = .ok a := by
  cases x with
  | error e => exact ⟨nofun, nofun⟩
  | ok b => exact ⟨fun h => congrArg _ (Option.some.inj h), fun h => congrArg _ (Except.ok.inj h)⟩

/-- A check lets pass just what it is not made for. -/
theorem check_eq_ok {P : Prop} [Decidable P] {e : ε} {f : α → Except ε β} {x : Except ε β} {b : β} :
    (if P then throw e >>= f else x) = .ok b ↔ ¬P ∧ x = .ok b := by
  split
  · rename_i refused
    exact ⟨nofun, fun passed => absurd refused passed.1⟩
  · rename_i passed
    exact ⟨fun ok => ⟨passed, ok⟩, And.right⟩

/-- A check behind which nothing follows lets pass just what it is not made for. -/
theorem last_check_eq_ok {P : Prop} [Decidable P] {e : ε} :
    (if P then throw e else pure () : Except ε Unit) = .ok () ↔ ¬P := by
  split
  · rename_i refused
    exact ⟨nofun, absurd refused⟩
  · rename_i passed
    exact ⟨fun _ => passed, fun _ => rfl⟩

end Except

namespace Reader

variable {α β : Type} {r : Reader α} {s rest : List Char}

theorem map_eq_ok {f : α → β} {b : β} :
    r.map f s = .ok (b, rest) ↔ ∃ a, r s = .ok (a, rest) ∧ f a = b := by
  unfold map
  rw [bind_eq_ok]
  constructor
  · rintro ⟨⟨a, rest'⟩, h, same⟩
    obtain ⟨rfl, rfl⟩ := Prod.mk.inj (Except.ok.inj same)
    exact ⟨a, h, rfl⟩
  · rintro ⟨a, h, rfl⟩
    exact ⟨_, h, rfl⟩

theorem filterMap_eq_ok {f : α → Option β} {b : β} :
    r.filterMap f s = .ok (b, rest) ↔ ∃ a, r s = .ok (a, rest) ∧ f a = some b := by
  unfold filterMap
  rw [bind_eq_ok]
  constructor
  · rintro ⟨⟨a, rest'⟩, h, same⟩
    dsimp only at same
    cases accepted : f a with
    | none =>
      rw [accepted] at same
      cases same
    | some b' =>
      rw [accepted] at same
      obtain ⟨rfl, rfl⟩ := Prod.mk.inj (Except.ok.inj same)
      exact ⟨a, h, accepted⟩
  · rintro ⟨a, h, accepted⟩
    refine ⟨_, h, ?_⟩
    dsimp only
    rw [accepted]
    rfl

/-- The reader takes off just what is passed over. -/
def Sound (r : Reader α) : Prop := ∀ s a rest, r s = .ok (a, rest) → skipValue s = .ok rest

/-- What becomes of a value does not matter for where it ends. -/
theorem Sound.map (h : r.Sound) (f : α → β) : (r.map f).Sound := by
  intro s b rest read
  obtain ⟨a, read, -⟩ := map_eq_ok.1 read
  exact h s a rest read

theorem Sound.filterMap (h : r.Sound) (f : α → Option β) : (r.filterMap f).Sound := by
  intro s b rest read
  obtain ⟨a, read, -⟩ := filterMap_eq_ok.1 read
  exact h s a rest read

/-- A text is read as a whole if only spaces are left. -/
theorem whole_eq_ok {text : String} {a : α} :
    r.whole text = .ok a ↔ ∃ rest, r text.toList = .ok (a, rest) ∧ skipSpace rest = [] := by
  unfold whole
  rw [bind_eq_ok]
  constructor
  · rintro ⟨⟨a', rest⟩, read, h⟩
    dsimp only at h
    split at h
    · obtain rfl := Except.ok.inj h
      exact ⟨rest, read, ‹_›⟩
    · cases h
  · rintro ⟨rest, read, blank⟩
    refine ⟨_, read, ?_⟩
    dsimp only
    rw [blank]
    rfl

end Reader

/-! ## Strings, words and numbers -/

/-- A value may have spaces in front. -/
theorem skipValue_skipSpace (s : List Char) : skipValue (skipSpace s) = skipValue s :=
  Scanner.run_skipSpace rfl s

section Tokens

variable {s rest : List Char}

/-- Behind its opening quote, a string is passed over just as it is read. -/
theorem skipValue_string {text : String} (h : stringFrom [] s = .ok (text, rest)) :
    skipValue ('"' :: s) = .ok rest := by
  calc skipValue ('"' :: s)
      = Scanner.run (.string false) [] s := Scanner.run_of_move rfl
    _ = .ok rest := Scanner.run_string false h

theorem skipValue_null (h : word "ull".toList s = .ok rest) : skipValue ('n' :: s) = .ok rest := by
  calc skipValue ('n' :: s)
      = Scanner.run (.word "ull".toList) [] s := Scanner.run_of_move rfl
    _ = .ok rest := Scanner.run_word (by decide) h

/-- A string starts with a quote. -/
theorem readString_eq_ok {name : String} :
    readString s = .ok (name, rest) ↔
      ∃ t, skipSpace s = '"' :: t ∧ stringFrom [] t = .ok (name, rest) := by
  unfold readString
  split
  · rename_i t start
    constructor
    · exact fun string => ⟨t, start, string⟩
    · rintro ⟨t', start', string⟩
      obtain rfl := (List.cons.inj (start'.symm.trans start)).2
      exact string
  · rename_i other
    constructor
    · exact nofun
    · rintro ⟨t, start, -⟩
      exact (other t start).elim

theorem readString_sound : Reader.Sound readString := by
  intro s text rest read
  obtain ⟨t, start, string⟩ := readString_eq_ok.1 read
  rw [← skipValue_skipSpace, start]
  exact skipValue_string string

/-- The value `null` is one word. -/
theorem readNull_eq_ok :
    readNull s = .ok ((), rest) ↔
      ∃ t, skipSpace s = 'n' :: t ∧ word "ull".toList t = .ok rest := by
  unfold readNull
  split
  · rename_i t start
    rw [map_eq_ok, start]
    constructor
    · rintro ⟨rest', null, same⟩
      obtain ⟨-, rfl⟩ := Prod.mk.inj same
      exact ⟨t, rfl, null⟩
    · rintro ⟨t', same, null⟩
      obtain rfl := (List.cons.inj same).2
      exact ⟨rest, null, rfl⟩
  · rename_i other
    constructor
    · exact nofun
    · rintro ⟨t, start, -⟩
      exact (other t start).elim

/-- A truth value is one of two words. -/
theorem readBool_sound : Reader.Sound readBool := by
  intro s b rest read
  rw [← skipValue_skipSpace]
  unfold readBool at read
  split at read
  · rename_i s' start
    obtain ⟨rest', rue, same⟩ := map_eq_ok.1 read
    obtain ⟨-, rfl⟩ := Prod.mk.inj same
    rw [start]
    exact (Scanner.run_of_move rfl).trans (Scanner.run_word (by decide) rue)
  · rename_i s' start
    obtain ⟨rest', alse, same⟩ := map_eq_ok.1 read
    obtain ⟨-, rfl⟩ := Prod.mk.inj same
    rw [start]
    exact (Scanner.run_of_move rfl).trans (Scanner.run_word (by decide) alse)
  · cases read

/-- The value `null` is passed over like any other one. -/
theorem readOption_sound {α : Type} {r : Reader α} (h : r.Sound) : (readOption r).Sound := by
  intro s a rest read
  rw [← skipValue_skipSpace]
  unfold readOption at read
  split at read
  · cases read
  · rename_i s' start
    obtain ⟨rest', null, same⟩ := map_eq_ok.1 read
    obtain ⟨-, rfl⟩ := Prod.mk.inj same
    rw [start]
    exact skipValue_null null
  · obtain ⟨b, read, -⟩ := Reader.map_eq_ok.1 read
    exact h _ b rest read

/-! ### Numbers -/

/-- A number that has to be rounded is no whole numeral. -/
theorem inexact_not_whole {significand : Nat} {exponent n : Int} :
    inexact significand exponent s ≠ .ok (.whole n, rest) := by
  unfold inexact
  split <;> exact nofun

theorem exponentPart_not_whole {significand : Nat} {scale n : Int} :
    exponentPart significand scale s ≠ .ok (.whole n, rest) := by
  unfold exponentPart
  dsimp only
  repeat' split
  all_goals first
    | exact inexact_not_whole
    | exact nofun

theorem fractionPart_not_whole {significand : Nat} {scale n : Int} :
    fractionPart significand scale s ≠ .ok (.whole n, rest) := by
  unfold fractionPart
  split
  · exact nofun
  · exact nofun
  · dsimp only
    split
    · exact exponentPart_not_whole
    · exact exponentPart_not_whole
    · exact inexact_not_whole

/-- A whole numeral is nothing but digits. -/
theorem digits_of_magnitude {negative : Bool} {n : Int}
    (h : magnitude negative s = .ok (.whole n, rest)) :
    ∃ digits, s = digits ++ rest ∧ Scanner.WholeDigits digits ∧ Scanner.EndsNumber rest := by
  have parts : s.takeWhile Char.isDigit ++ s.dropWhile Char.isDigit = s :=
    List.takeWhile_append_dropWhile
  have all : (s.takeWhile Char.isDigit).all Char.isDigit = true := List.all_takeWhile
  have behind := List.head?_dropWhile_not Char.isDigit s
  unfold magnitude at h
  generalize s.takeWhile Char.isDigit = digits at h parts all
  generalize s.dropWhile Char.isDigit = after at h parts behind
  split at h
  · cases h
  · cases h
  · cases h
  rename_i _ _ unempty zeros _
  have whole : Scanner.WholeDigits digits := by
    refine ⟨unempty, List.all_eq_true.1 all, fun leading => ?_⟩
    cases digits with
    | nil => cases leading
    | cons d digits =>
      obtain rfl := Option.some.inj leading
      cases digits with
      | nil => rfl
      | cons e digits => exact (zeros e digits rfl).elim
  dsimp only at h
  split at h
  · exact absurd h fractionPart_not_whole
  · exact absurd h exponentPart_not_whole
  · exact absurd h exponentPart_not_whole
  rename_i point small large
  split at h
  · obtain ⟨-, rfl⟩ := Prod.mk.inj (Except.ok.inj h)
    refine ⟨digits, parts.symm, whole, fun c hc => ?_⟩
    cases after with
    | nil => cases hc
    | cons d after =>
      obtain rfl := Option.some.inj hc
      refine ⟨behind, ?_, ?_, ?_⟩
      · rintro rfl
        exact point after rfl
      · rintro rfl
        exact small after rfl
      · rintro rfl
        exact large after rfl
  · exact absurd h inexact_not_whole

/-- A whole numeral is passed over up to where it was read. -/
theorem skipValue_whole {n : Int} (h : readNumeral s = .ok (.whole n, rest)) :
    skipValue s = .ok rest := by
  rw [← skipValue_skipSpace]
  unfold readNumeral at h
  split at h
  · rename_i s' start
    obtain ⟨digits, rfl, number, ends⟩ := digits_of_magnitude h
    rw [start]
    exact (Scanner.run_of_move rfl).trans (Scanner.run_digits number ends).2
  · rename_i c s' _ start
    split at h
    · obtain ⟨digits, parts, number, ends⟩ := digits_of_magnitude h
      rw [start, parts]
      exact (Scanner.run_digits number ends).1
    · cases h
  · cases h

/-- The bounds of a number do not matter for where it ends. -/
theorem readInt_sound (low high : Int) : (readInt low high).Sound := by
  intro s n rest read
  obtain ⟨numeral, read, accepted⟩ := Reader.filterMap_eq_ok.1 read
  cases numeral with
  | whole m => exact skipValue_whole read
  | other => cases accepted

theorem readInt64_sound : Reader.Sound readInt64 := (readInt_sound _ _).map _

/-! ## Lists -/

/-- Where the scanner stands before an item of a list. -/
def beforeItem (first : Bool) : Scanner.Place := if first then .firstItem else .next

theorem isBetween_beforeItem (first : Bool) : (beforeItem first).isBetween = true := by
  cases first <;> rfl

/-- A list ends at its closing bracket. -/
theorem listEnd_eq_ok : listEnd s = .ok rest ↔ skipSpace s = ']' :: rest := by
  unfold listEnd
  split
  · rename_i t start
    rw [start]
    constructor
    · intro h
      rw [Except.ok.inj h]
    · intro h
      rw [(List.cons.inj h).2]
  · rename_i start
    rw [start]
    exact ⟨nofun, nofun⟩
  · rename_i other _
    exact ⟨nofun, fun h => (other rest h).elim⟩

theorem run_listEnd {first : Bool} (h : listEnd s = .ok rest) :
    Scanner.run (beforeItem first) [.list] s = .ok rest := by
  rw [← Scanner.run_skipSpace (isBetween_beforeItem first), listEnd_eq_ok.1 h]
  cases first <;> rfl

/-- The scanner comes to the next item of a list where a reader does. -/
theorem run_itemStart {first : Bool} {t : List Char} (h : itemStart first s = .ok (some t)) :
    Scanner.run (beforeItem first) [.list] s = Scanner.run .value [.list] t := by
  rw [← Scanner.run_skipSpace (isBetween_beforeItem first)]
  unfold itemStart at h
  split at h
  · cases h
  · cases h
  rename_i c s' bracket start
  have token : isSpace c = false := not_space_of_skipSpace start
  have item : c ≠ ']' := bracket
  rw [start]
  cases first with
  | true =>
    obtain rfl := Option.some.inj (Except.ok.inj h)
    rw [Scanner.run_cons, Scanner.run_cons]
    simp [beforeItem, Scanner.step, token, item]
  | false =>
    simp only [Bool.false_eq_true, if_false] at h
    split at h
    · rename_i comma
      subst comma
      split at h
      · cases h
      · cases h
      · obtain rfl := Option.some.inj (Except.ok.inj h)
        exact (Scanner.run_of_move rfl).trans (Scanner.run_skipSpace rfl s').symm
    · cases h

/-- The items of a list are passed over one by one, each up to where its reader has come. -/
theorem run_items {α : Type} {r : Reader α} (sound : r.Sound) {bound : Nat} {first : Bool}
    {as : List α} {t : List Char} (h : readItemsOf r bound first s = .ok (as, t))
    (ends : listEnd t = .ok rest) : Scanner.run (beforeItem first) [.list] s = .ok rest := by
  induction bound generalizing first s as with
  | zero => cases h
  | succ bound ih =>
    obtain ⟨start, begins, h⟩ := bind_eq_ok.1 h
    cases start with
    | none =>
      obtain ⟨-, rfl⟩ := Prod.mk.inj (Except.ok.inj h)
      exact run_listEnd ends
    | some s' =>
      obtain ⟨⟨a, s₁⟩, item, h⟩ := bind_eq_ok.1 h
      obtain ⟨⟨others, s₂⟩, items, h⟩ := bind_eq_ok.1 h
      obtain ⟨-, rfl⟩ := Prod.mk.inj (Except.ok.inj h)
      calc Scanner.run (beforeItem first) [.list] s
          = Scanner.run .value [.list] s' := run_itemStart begins
        _ = Scanner.resume [.list] s₁ := Scanner.run_append (sound _ _ _ item)
        _ = .ok rest := ih items

theorem readListOf_skipSpace {α : Type} {r : Reader α} (s : List Char) :
    readListOf r (skipSpace s) = readListOf r s := by
  unfold readListOf
  rw [skipSpace_skipSpace]

/-- A list starts with a bracket. -/
theorem start_of_readListOf {α : Type} {r : Reader α} {as : List α}
    (h : readListOf r s = .ok (as, rest)) : ∃ t, skipSpace s = '[' :: t := by
  unfold readListOf at h
  split at h
  · rename_i t start
    exact ⟨t, start⟩
  · cases h

/-- A list is passed over if its items are. -/
theorem readListOf_sound {α : Type} {r : Reader α} (h : r.Sound) : (readListOf r).Sound := by
  intro s as rest read
  rw [← skipValue_skipSpace]
  unfold readListOf at read
  split at read
  · rename_i s' start
    obtain ⟨⟨items, t⟩, taken, read⟩ := bind_eq_ok.1 read
    obtain ⟨rest', ends, same⟩ := bind_eq_ok.1 read
    obtain ⟨-, rfl⟩ := Prod.mk.inj (Except.ok.inj same)
    rw [start]
    exact (Scanner.run_of_move rfl).trans (run_items h taken ends)
  · cases read

end Tokens

end Tutoring.Json
