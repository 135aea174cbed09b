import Tutoring.Text.Lowercase.Table

/-!
# Lower case

The full Unicode lower case of a text. All characters but two are mapped on their own. `İ` becomes
two characters, and a capital sigma becomes the final form `ς` when it ends a word: the nearest
character before it that is not passed over is cased, and the nearest such character after it is
not.
-/

namespace Tutoring.Text.Lowercase

/-- The ranges hold the character. -/
def inRanges (ranges : List (Nat × Nat)) (c : Char) : Bool :=
  ranges.any fun r => r.1 ≤ c.toNat && c.toNat ≤ r.2

/-- The character is passed over in the search for a cased neighbour. -/
def isIgnorable (c : Char) : Bool := inRanges ignorableRanges c

/-- The character is cased. -/
def isCased (c : Char) : Bool := inRanges casedRanges c

/-- The first character that is not passed over is cased. -/
def leadsToCased (s : List Char) : Bool :=
  match s.dropWhile isIgnorable with
  | [] => false
  | c :: _ => isCased c

/-- Where a table entry sends the character, if it covers it. -/
def Shift.target? (e : Shift) (c : Char) : Option Char :=
  let n := c.toNat
  if e.first ≤ n ∧ n ≤ e.last ∧ (n - e.first) % e.step = 0 then
    some (Char.ofNat (n + e.delta).toNat)
  else none

/-- The lower case of a character outside ASCII on its own. -/
def foreign (c : Char) : List Char :=
  if c = 'İ' then ['i', '\u0307']
  else
    match shifts.findSome? (·.target? c) with
    | some d => [d]
    | none => [c]

/-- The lower case of a character on its own. -/
def char (c : Char) : List Char :=
  if c.toNat < 0x80 then [c.toLower] else foreign c

/-- The lower case of a text that follows `before`, whose nearest character comes first. -/
def after (before : List Char) : List Char → List Char
  | [] => []
  | c :: s =>
    let here :=
      if c = 'Σ' then [if leadsToCased before && !leadsToCased s then 'ς' else 'σ'] else char c
    here ++ after (c :: before) s

end Tutoring.Text.Lowercase

namespace Tutoring.Text

/-- The lower case of a text. -/
def lower (s : List Char) : List Char := Lowercase.after [] s

end Tutoring.Text
