import Tutoring.Json.Reader

/-!
# Reading lists

A list is read item by item: before an item the list may end, and behind the last item no comma may
stand.
-/

namespace Tutoring.Json

/-- The end of a list. -/
def listEnd (s : List Char) : Except Fault (List Char) :=
  match skipSpace s with
  | ']' :: s => .ok s
  | [] => .error .incomplete
  | _ => .error .malformed

/-- What comes before the next item of a list: nothing before the first, a comma otherwise. The list
may also end here. -/
def itemStart (first : Bool) (s : List Char) : Except Fault (Option (List Char)) :=
  match skipSpace s with
  | [] => .error .incomplete
  | ']' :: _ => .ok none
  | c :: s =>
    if first then .ok (some (c :: s))
    else if c = ',' then
      match skipSpace s with
      | [] => .error .incomplete
      | ']' :: _ => .error .malformed
      | s => .ok (some s)
    else .error .malformed

/-- The items of a list up to its closing bracket, at most `bound` of them. -/
def readItemsOf {α : Type} (r : Reader α) : (bound : Nat) → (first : Bool) → Reader (List α)
  | 0, _, _ => .error .malformed
  | bound + 1, first, s => do
    match ← itemStart first s with
    | none => return ([], s)
    | some s =>
      let (a, s) ← r s
      let (as, s) ← readItemsOf r bound false s
      return (a :: as, s)

/-- A list of values of one type. A text of `n` characters has fewer than `n` of them. -/
def readListOf {α : Type} (r : Reader α) : Reader (List α) := fun s =>
  match skipSpace s with
  | '[' :: s => do
    let (as, s) ← readItemsOf r (s.length + 1) true s
    return (as, ← listEnd s)
  | s => .error (mismatch s)

end Tutoring.Json
