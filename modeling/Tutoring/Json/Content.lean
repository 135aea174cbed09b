import Tutoring.Json.Items

/-!
# Reading whole values

A value that is judged only after it is known is read in full. Unlike a value that is passed over,
its strings and numbers have to be sound throughout, and its brackets may only nest so deeply.
-/

namespace Tutoring.Json

/-- A value in full, with the entries of its objects in order. -/
inductive Content where
  | null
  | bool (b : Bool)
  | number (n : Numeral)
  | text (s : String)
  | list (items : List Content)
  | object (entries : List (String × Content))

/-! ## Objects of values of one type -/

/-- What comes before the next name in an object: nothing before the first, a comma otherwise. The
object may also end here. -/
def entryStart (first : Bool) (s : List Char) : Except Fault (Option (List Char)) :=
  match skipSpace s with
  | [] => .error .incomplete
  | '\x7d' :: _ => .ok none
  | c :: s =>
    if first then (if c = '"' then .ok (some s) else .error .malformed)
    else if c = ',' then
      match skipSpace s with
      | '"' :: s => .ok (some s)
      | [] => .error .incomplete
      | _ => .error .malformed
    else .error .malformed

/-- The entries of an object up to its closing brace, at most `bound` of them. -/
def readEntriesOf {α : Type} (r : Reader α) :
    (bound : Nat) → (first : Bool) → Reader (List (String × α))
  | 0, _, _ => .error .malformed
  | bound + 1, first, s => do
    match ← entryStart first s with
    | none => return ([], s)
    | some s =>
      let (name, s) ← stringFrom [] s
      let (a, s) ← r (← colon s)
      let (others, s) ← readEntriesOf r bound false s
      return ((name, a) :: others, s)

/-- An object of values of one type, under any names. -/
def readObjectOf {α : Type} (r : Reader α) : Reader (List (String × α)) := fun s =>
  match skipSpace s with
  | '\x7b' :: s => do
    let (entries, s) ← readEntriesOf r (s.length + 1) true s
    return (entries, (skipSpace s).drop 1)
  | s => .error (mismatch s)

/-! ## Values of any type -/

/-- A value without brackets. -/
def readScalar : Reader Content := fun s =>
  match skipSpace s with
  | 'n' :: s => (.null, ·) <$> word "ull".toList s
  | 't' :: s => (.bool true, ·) <$> word "rue".toList s
  | 'f' :: s => (.bool false, ·) <$> word "alse".toList s
  | '"' :: s => Reader.map .text (stringFrom []) s
  | s => readNumeral.map .number s

/-- Any value whose brackets nest at most `depth` deep. -/
def readContent : (depth : Nat) → Reader Content
  | 0 => readScalar
  | depth + 1 => fun s =>
    match skipSpace s with
    | '[' :: s => (readListOf (readContent depth)).map .list ('[' :: s)
    | '\x7b' :: s => (readObjectOf (readContent depth)).map .object ('\x7b' :: s)
    | s => readScalar s

/-- The values of the entries of a name. -/
def valuesOf (name : String) (entries : List (String × Content)) : List Content :=
  entries.filterMap fun e => if e.1 = name then some e.2 else none

namespace Content

/-- The value `null`. -/
def isNull : Content → Bool
  | .null => true
  | _ => false

/-- A string. -/
def isText : Content → Bool
  | .text _ => true
  | _ => false

/-- A list of strings. -/
def isTexts : Content → Bool
  | .list items => items.all isText
  | _ => false

/-- The name that a value gives: a string, or an object that maps the name to `null`. -/
def name? : Content → Option String
  | .text s => some s
  | .object [(s, .null)] => some s
  | _ => none

end Content

end Tutoring.Json
