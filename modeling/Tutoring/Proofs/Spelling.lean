import Tutoring.Proofs.Discretion
import Tutoring.Text.Lowercase

/-!
# How the names of actions are spelled

Names are compared in Unicode lower case, which maps some characters outside ASCII to ASCII: the
Kelvin sign becomes `k`, and `İ` an `i` with a dot on its own. No name has a `k` or such a dot, so
what is accepted is spelled in ASCII, and only the case of its letters is free.

* `Lowercase.leaves_of_foreign`: what the lower case of a character outside ASCII leaves behind.
* `Text.lower_eq_iff`: which texts have a given text without a `k` as their lower case.
* `actions_are_read_in_any_case`: the texts that are read as an action, and what becomes of others.
-/

namespace Tutoring

namespace Text

/-- The texts are the same up to the case of their ASCII letters. -/
def SameLetters (s t : String) : Prop := s.toList.map Char.toLower = t.toList.map Char.toLower

namespace Lowercase

/-- The character cannot be part of a name: it is outside ASCII, a `k`, or the null character that
stands for what is no character. -/
def Strange (c : Char) : Prop := 0x80 ≤ c.toNat ∨ c = 'k' ∨ c = '\x00'

instance (c : Char) : Decidable (Strange c) := inferInstanceAs (Decidable (_ ∨ _))

variable {c d : Char} {s before : List Char}

theorem strange_ofNat {n : Nat} (h : 0x80 ≤ n) : Strange (Char.ofNat n) := by
  by_cases valid : n.isValidChar
  · left
    rw [Char.ofNat, dif_pos valid]
    exact h
  · right
    right
    rw [Char.ofNat, dif_neg valid]
    rfl

/-- Only the Kelvin sign is sent to ASCII, by an entry of its own. -/
theorem shift_bounds : ∀ e ∈ shifts, 0x80 ≤ (e.first : Int) + e.delta ∨
    (e.first = e.last ∧ (e.first : Int) + e.delta = 'k'.toNat) := by
  decide +kernel

theorem strange_of_target? {e : Shift} (he : e ∈ shifts) (h : e.target? c = some d) :
    Strange d := by
  unfold Shift.target? at h
  dsimp only at h
  split at h
  · rename_i covers
    obtain rfl := Option.some.inj h
    rcases shift_bounds e he with high | ⟨single, kelvin⟩
    · exact strange_ofNat (by omega)
    · have same : ((c.toNat : Int) + e.delta).toNat = 'k'.toNat := by omega
      rw [same]
      exact .inr (.inl rfl)
  · cases h

/-- The lower case of a character outside ASCII has a strange character in it. -/
theorem leaves_of_foreign (h : 0x80 ≤ c.toNat) : ∃ d ∈ foreign c, Strange d := by
  unfold foreign
  split
  · exact ⟨'\u0307', by decide, .inl (by decide)⟩
  · split
    · rename_i d found
      obtain ⟨e, he, target⟩ := List.exists_of_findSome?_eq_some found
      exact ⟨d, List.mem_singleton_self d, strange_of_target? he target⟩
    · exact ⟨c, List.mem_singleton_self c, .inl h⟩

theorem after_of_ascii (ascii : ∀ c ∈ s, c.toNat < 0x80) :
    after before s = s.map Char.toLower := by
  induction s generalizing before with
  | nil => rfl
  | cons c s ih =>
    obtain ⟨small, ascii⟩ := List.forall_mem_cons.1 ascii
    have other : c ≠ 'Σ' := by
      rintro rfl
      exact absurd small (by decide)
    rw [after, if_neg other, char, if_pos small, ih ascii]
    rfl

/-- A character outside ASCII leaves its trace in the lower case of a text. -/
theorem strange_mem_after (before : List Char) (hc : c ∈ s) (h : 0x80 ≤ c.toNat) :
    ∃ d ∈ after before s, Strange d := by
  induction s generalizing before with
  | nil => cases hc
  | cons b s ih =>
    unfold after
    rcases List.mem_cons.1 hc with rfl | hc
    · split
      · refine ⟨_, List.mem_append_left _ (List.mem_singleton_self _), .inl ?_⟩
        split <;> decide
      · obtain ⟨d, hd, strange⟩ := leaves_of_foreign h
        refine ⟨d, List.mem_append_left _ ?_, strange⟩
        rwa [char, if_neg (Nat.not_lt.2 h)]
    · obtain ⟨d, hd, strange⟩ := ih _ hc
      exact ⟨d, List.mem_append_right _ hd, strange⟩

theorem toLower_of_foreign (h : 0x80 ≤ c.toNat) : c.toLower = c := by
  refine dif_neg fun upper => ?_
  have small : c.toNat ≤ 90 := upper.2
  omega

theorem ascii_of_toLower (h : ∀ d ∈ s.map Char.toLower, d.toNat < 0x80) :
    ∀ c ∈ s, c.toNat < 0x80 := by
  intro c hc
  refine Nat.lt_of_not_le fun high => ?_
  have small := h _ (List.mem_map_of_mem hc)
  rw [toLower_of_foreign high] at small
  omega

end Lowercase

open Lowercase in
/-- A text without strange characters is the lower case of its spellings in ASCII, and of no other
text. -/
theorem lower_eq_iff {s t : List Char} (plain : ∀ d ∈ t, ¬Strange d) :
    lower s = t ↔ s.map Char.toLower = t := by
  constructor
  · intro h
    have ascii : ∀ c ∈ s, c.toNat < 0x80 := by
      intro c hc
      refine Nat.lt_of_not_le fun high => ?_
      obtain ⟨d, hd, strange⟩ := strange_mem_after [] hc high
      exact plain d (h ▸ hd) strange
    exact (after_of_ascii ascii).symm.trans h
  · rintro rfl
    have ascii : ∀ d ∈ s.map Char.toLower, d.toNat < 0x80 := fun d hd =>
      Nat.lt_of_not_le fun high => plain d hd (.inl high)
    exact after_of_ascii (ascii_of_toLower ascii)

end Text

open Text

namespace LessonAction

variable {s : String} {a : LessonAction}

/-- The text is a spelling of the action: its name, or the other name of `approve`. -/
def IsSpelled (a : LessonAction) (s : String) : Prop :=
  SameLetters s a.toText ∨ (a = approve ∧ SameLetters s planAlias)

/-- Nothing is strange in the text, and nothing of it is a capital letter. -/
structure IsPlain (name : String) : Prop where
  plain : name.toList.all (fun d => ¬Lowercase.Strange d) = true
  ascii : name.toList.all (fun d => d.toNat < 0x80) = true
  small : name.toList.map Char.toLower = name.toList

theorem isPlain_toText (a : LessonAction) : IsPlain a.toText := by
  cases a <;> exact ⟨by decide, by decide, by decide⟩

theorem isPlain_planAlias : IsPlain planAlias := ⟨by decide, by decide, by decide⟩

theorem IsPlain.lowered_eq_iff {name : String} (h : IsPlain name) :
    String.ofList (lower s.toList) = name ↔ SameLetters s name := by
  have plain : ∀ d ∈ name.toList, ¬Lowercase.Strange d := fun d hd =>
    of_decide_eq_true (List.all_eq_true.1 h.plain d hd)
  rw [SameLetters, h.small, ← lower_eq_iff plain]
  constructor
  · rintro rfl
    exact String.toList_ofList.symm
  · intro h
    rw [h, String.ofList_toList]

/-- All spellings of a plain text are in ASCII. -/
theorem IsPlain.ascii_of_sameLetters {name : String} (h : IsPlain name)
    (same : SameLetters s name) : ∀ c ∈ s.toList, c.toNat < 0x80 := by
  refine Lowercase.ascii_of_toLower ?_
  rw [same, h.small]
  exact fun d hd => of_decide_eq_true (List.all_eq_true.1 h.ascii d hd)

theorem ofText?_eq_some_iff {name : String} : ofText? name = some a ↔ name = a.toText := by
  unfold ofText?
  constructor
  · intro h
    simpa [eq_comm] using List.find?_some h
  · rintro rfl
    exact ofText?_toText a

theorem toText_ne_planAlias (a : LessonAction) : a.toText ≠ planAlias := by
  cases a <;> decide

/-- An action is read from its spellings. -/
theorem read_eq_ok_iff : read s = .ok a ↔ a.IsSpelled s := by
  have spelled : a.IsSpelled s ↔ String.ofList (lower s.toList) = a.toText ∨
      (a = approve ∧ String.ofList (lower s.toList) = planAlias) := by
    rw [IsSpelled, (isPlain_toText a).lowered_eq_iff, isPlain_planAlias.lowered_eq_iff]
  rw [spelled]
  unfold read
  generalize String.ofList (lower s.toList) = name
  dsimp only
  split
  · rename_i other
    subst other
    constructor
    · intro h
      exact .inr ⟨(Except.ok.inj h).symm, rfl⟩
    · rintro (same | ⟨rfl, -⟩)
      · exact absurd same.symm (toText_ne_planAlias a)
      · rfl
  · rename_i other
    constructor
    · intro h
      split at h
      · rename_i found
        obtain rfl := Except.ok.inj h
        exact .inl (ofText?_eq_some_iff.1 found)
      · cases h
    · rintro (rfl | ⟨-, same⟩)
      · rw [ofText?_toText]
      · exact absurd same other

/-- What is no spelling of an action is given back in lower case. -/
theorem read_eq_error (h : ∀ a : LessonAction, ¬a.IsSpelled s) :
    read s = .error (String.ofList (lower s.toList)) := by
  cases read_eq : read s with
  | ok a => exact absurd (read_eq_ok_iff.1 read_eq) (h a)
  | error lowered =>
    unfold read at read_eq
    dsimp only at read_eq
    split at read_eq
    · cases read_eq
    · split at read_eq
      · cases read_eq
      · rw [Except.error.inj read_eq]

/-- The spellings of an action are in ASCII. -/
theorem IsSpelled.ascii (h : a.IsSpelled s) : ∀ c ∈ s.toList, c.toNat < 0x80 := by
  rcases h with h | ⟨-, h⟩
  · exact (isPlain_toText a).ascii_of_sameLetters h
  · exact isPlain_planAlias.ascii_of_sameLetters h

end LessonAction

/-- A name that cannot be read as a transition is refused before anything is looked up. -/
theorem moveLesson_of_error {room : LessonId → String} {user : UserId} {lesson : LessonId}
    {name : String} {e : LessonError} (h : readMove name = .error e) :
    (moveLesson room user lesson name).run = .done (.error e) := by
  rw [moveLesson, h]
  rfl

/-- **Which texts name an action.** A text is read as an action if and only if it is the name of the
action, or `plan` for `approve`, up to the case of ASCII letters; so nothing outside ASCII is read.
Every other text is unknown and given back in lower case. A move is refused without any call if its
name is unknown or that of `join`. -/
theorem actions_are_read_in_any_case (s : String) :
    (∀ a, LessonAction.read s = .ok a ↔
      SameLetters s a.toText ∨ (a = .approve ∧ SameLetters s "plan")) ∧
    ((∃ c ∈ s.toList, 0x80 ≤ c.toNat) → ∀ a, LessonAction.read s ≠ .ok a) ∧
    ((∀ a, LessonAction.read s ≠ .ok a) →
      LessonAction.read s = .error (String.ofList (lower s.toList)) ∧
      readMove s = .error (.unknownAction (String.ofList (lower s.toList)))) ∧
    ((∀ a, LessonAction.read s ≠ .ok a) ∨ LessonAction.read s = .ok .join →
      ∃ e, readMove s = .error e ∧ e.kind = .validation ∧ ∀ room user lesson,
        (moveLesson room user lesson s).run = .done (.error e)) := by
  have refused (unread : ∀ a, LessonAction.read s ≠ .ok a) :
      LessonAction.read s = .error (String.ofList (lower s.toList)) ∧
        readMove s = .error (.unknownAction (String.ofList (lower s.toList))) := by
    have read_eq : LessonAction.read s = .error (String.ofList (lower s.toList)) :=
      LessonAction.read_eq_error fun a spelled => unread a (LessonAction.read_eq_ok_iff.2 spelled)
    exact ⟨read_eq, by rw [readMove, read_eq]⟩
  refine ⟨fun a => LessonAction.read_eq_ok_iff, ?_, refused, fun misnamed => ?_⟩
  · rintro ⟨c, hc, foreign⟩ a read_eq
    have ascii := (LessonAction.read_eq_ok_iff.1 read_eq).ascii c hc
    omega
  · obtain ⟨e, read_eq⟩ : ∃ e, readMove s = .error e := by
      rcases misnamed with unread | join
      · exact ⟨_, (refused unread).2⟩
      · exact ⟨.notATransition .join, by rw [readMove, join]; rfl⟩
    exact ⟨e, read_eq, kind_of_readMove read_eq, fun _ _ _ => moveLesson_of_error read_eq⟩

/-- The lower case of `\u212A`, the Kelvin sign, is `k`, which is all that a client is shown of it.
`JOIN` is an action, and no transition. -/
theorem actions_are_read_in_any_case_kelvin :
    (∃ c ∈ "\u212Aoin".toList, 0x80 ≤ c.toNat) ∧ LessonAction.read "\u212Aoin" = .error "koin" ∧
      LessonAction.read "PlAn" = .ok .approve ∧
      ∃ e, e.kind = .validation ∧ ∀ room user lesson,
        (moveLesson room user lesson "JOIN").run = .done (.error e) := by
  obtain ⟨-, foreign, unknown, -⟩ := actions_are_read_in_any_case "\u212Aoin"
  obtain ⟨spelled, -, -, -⟩ := actions_are_read_in_any_case "PlAn"
  obtain ⟨join, -, -, refused⟩ := actions_are_read_in_any_case "JOIN"
  have outside : ∃ c ∈ "\u212Aoin".toList, 0x80 ≤ c.toNat := ⟨'\u212A', by decide, by decide⟩
  obtain ⟨e, -, kind, program⟩ := refused (.inr ((join .join).2 (.inl rfl)))
  exact ⟨outside, (unknown (foreign outside)).1, (spelled .approve).2 (.inr ⟨rfl, rfl⟩), e, kind,
    program⟩

end Tutoring
