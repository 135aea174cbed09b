/-!
# Cutting a text at a character

A text is cut at all occurrences of a character, or at the last one. Nothing is lost but the
character itself.
-/

namespace Tutoring.Text

/-- The text up to the first occurrence of a character, and the pieces behind it. -/
def cut (mark : Char) : List Char → List Char × List (List Char)
  | [] => ([], [])
  | c :: s =>
    let (piece, rest) := cut mark s
    if c = mark then ([], piece :: rest) else (c :: piece, rest)

/-- The pieces of a text between the occurrences of a character. -/
def pieces (mark : Char) (s : List Char) : List (List Char) :=
  let (piece, rest) := cut mark s
  piece :: rest

/-- The texts before and after the last occurrence of a character. -/
def aroundLast? (mark : Char) : List Char → Option (List Char × List Char)
  | [] => none
  | c :: s =>
    match aroundLast? mark s with
    | some (front, back) => some (c :: front, back)
    | none => if c = mark then some ([], s) else none

/-- There is no last occurrence of a character that does not occur. -/
theorem aroundLast?_eq_none_iff {mark : Char} {s : List Char} :
    aroundLast? mark s = none ↔ mark ∉ s := by
  induction s with
  | nil => simp [aroundLast?]
  | cons c s ih =>
    cases h : aroundLast? mark s with
    | none => simp [aroundLast?, h, ih.1 h, eq_comm]
    | some r =>
      have hm : mark ∈ s := by
        have := mt ih.2
        simpa [h] using this
      simp [aroundLast?, h, hm]

/-- A character is last where it does not occur behind. -/
theorem aroundLast?_append {mark : Char} (front : List Char) {back : List Char}
    (h : mark ∉ back) : aroundLast? mark (front ++ mark :: back) = some (front, back) := by
  induction front with
  | nil => simp [aroundLast?, aroundLast?_eq_none_iff.2 h]
  | cons c front ih => simp [aroundLast?, ih]

/-- The two parts and the character between them make up the text, and the second part does not
hold the character. -/
theorem aroundLast?_eq_some_iff {mark : Char} {s front back : List Char} :
    aroundLast? mark s = some (front, back) ↔ s = front ++ mark :: back ∧ mark ∉ back := by
  constructor
  · intro h
    induction s generalizing front with
    | nil => simp [aroundLast?] at h
    | cons c s ih =>
      cases hs : aroundLast? mark s with
      | none =>
        have hm := aroundLast?_eq_none_iff.1 hs
        by_cases hc : c = mark
        · obtain ⟨rfl, rfl⟩ : [] = front ∧ s = back := by simpa [aroundLast?, hs, hc] using h
          exact ⟨by rw [hc]; rfl, hm⟩
        · simp [aroundLast?, hs, hc] at h
      | some r =>
        obtain ⟨front', back'⟩ := r
        obtain ⟨rfl, rfl⟩ : c :: front' = front ∧ back' = back := by
          simpa [aroundLast?, hs] using h
        obtain ⟨rfl, hm⟩ := ih hs
        exact ⟨rfl, hm⟩
  · rintro ⟨rfl, h⟩
    exact aroundLast?_append front h

end Tutoring.Text
