/-!
# Scanning a text from left to right
-/

namespace Tutoring.Text

/-- Takes a part off the front of a text, if the text starts with one, and returns what follows. -/
abbrev Scan (α : Type) := List Char → Option (α × List Char)

/-- Takes one expected character. -/
def mark (c : Char) : Scan Unit
  | d :: s => if d = c then some ((), s) else none
  | [] => none

theorem mark_eq_some {c : Char} {s rest : List Char} :
    mark c s = some ((), rest) ↔ s = c :: rest := by
  cases s with
  | nil => exact ⟨nofun, nofun⟩
  | cons d s => by_cases same : d = c <;> simp [mark, same]

/-! ## Runs of characters of one kind -/

section Runs

variable {kind : Char → Bool} {run rest : List Char}

/-- A run is found in front of anything that does not go on it. -/
theorem takeWhile_run (all : ∀ c ∈ run, kind c = true) (ends : ∀ c ∈ rest.head?, kind c = false) :
    (run ++ rest).takeWhile kind = run := by
  rw [List.takeWhile_append_of_pos all]
  cases rest with
  | nil => exact List.append_nil run
  | cons c rest =>
    rw [List.takeWhile_cons_of_neg (by simp [ends c rfl]), List.append_nil]

theorem dropWhile_run (all : ∀ c ∈ run, kind c = true) (ends : ∀ c ∈ rest.head?, kind c = false) :
    (run ++ rest).dropWhile kind = rest := by
  rw [List.dropWhile_append_of_pos all]
  cases rest with
  | nil => rfl
  | cons c rest => exact List.dropWhile_cons_of_neg (by simp [ends c rfl])

end Runs

end Tutoring.Text
