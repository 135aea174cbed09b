/-!
# What follows a beginning
-/

namespace Tutoring.Text

/-- What comes in a text after a beginning that it may have. -/
def after? : List Char → List Char → Option (List Char)
  | [], s => some s
  | _ :: _, [] => none
  | c :: start, d :: s => if c = d then after? start s else none

/-- The beginning and what comes after it make up the text. -/
theorem after?_eq_some_iff {start s rest : List Char} :
    after? start s = some rest ↔ s = start ++ rest := by
  fun_induction after? start s with
  | case1 s => simp [eq_comm]
  | case2 => simp
  | case3 start d s ih => simp [ih]
  | case4 c start d s h => simp [Ne.symm h]

end Tutoring.Text
