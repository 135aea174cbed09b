import Tutoring.Json.Items

/-!
# Reading records

A record is an object with the fields of the record in any order, among fields that are passed over,
or a list with exactly the fields in their declared order. A field is known by its exact name and
may not come twice. A field that does not come takes its fallback, and without one it is missing:
in an object this is only found at the closing brace.
-/

namespace Tutoring.Json

/-- A field of a record. -/
structure Field (α : Type) where
  name : String
  read : Reader α
  /-- The value when an object does not have the field. -/
  ifMissing : Option α := none
  /-- The value when a list ends before the field. -/
  ifShort : Option α := none

/-- A field that must be there. -/
def Field.required {α : Type} (name : String) (read : Reader α) : Field α := { name, read }

/-- A field that may be left out. -/
def Field.withDefault {α : Type} (name : String) (read : Reader α) (fallback : α) : Field α :=
  { name, read, ifMissing := some fallback, ifShort := some fallback }

/-- A field that may be `null`, and left out of an object but not of a list. -/
def Field.optional {α : Type} (name : String) (read : Reader α) : Field (Option α) :=
  { name, read := readOption read, ifMissing := some none }

/-- The fields of a record in their declared order, with the types of their values. -/
inductive Fields : List Type → Type 1 where
  | nil : Fields []
  | cons {α : Type} {αs : List Type} (field : Field α) (rest : Fields αs) : Fields (α :: αs)

/-- The values of all fields. -/
def Values : List Type → Type
  | [] => Unit
  | α :: αs => α × Values αs

/-- The values of the fields that were read so far. -/
def Partial : List Type → Type
  | [] => Unit
  | α :: αs => Option α × Partial αs

namespace Fields

/-- The names of all fields. -/
def names : {αs : List Type} → Fields αs → List String
  | _, .nil => []
  | _, .cons field rest => field.name :: rest.names

/-- No field was read. -/
def start : {αs : List Type} → Fields αs → Partial αs
  | _, .nil => ()
  | _, .cons _ rest => (none, rest.start)

/-- Reads the value of the field with that name behind its colon. There is nothing to do for an
unknown name, and a field that was read before is refused. -/
def readField? (key : String) : {αs : List Type} → Fields αs → Partial αs →
    Option (Reader (Partial αs))
  | _, .nil, _ => none
  | _, .cons field rest, (seen, others) =>
    if field.name = key then
      some fun s => do
        if seen.isSome then throw .mismatched
        let (a, s) ← field.read (← colon s)
        return ((some a, others), s)
    else (readField? key rest others).map (Reader.map fun others => (seen, others))

/-- The values of a finished object. -/
def complete? : {αs : List Type} → Fields αs → Partial αs → Option (Values αs)
  | _, .nil, _ => some ()
  | _, .cons field rest, (seen, others) => do
    let a ← seen <|> field.ifMissing
    let as ← rest.complete? others
    return (a, as)

/-- The values of a list that ended before these fields. -/
def short? : {αs : List Type} → Fields αs → Option (Values αs)
  | _, .nil => some ()
  | _, .cons field rest => do
    let a ← field.ifShort
    let as ← rest.short?
    return (a, as)

/-- Reads a field by its name and passes over a field that is not in the record. -/
def readEntry {αs : List Type} (fields : Fields αs) (seen : Partial αs) (key : String) :
    Reader (Partial αs) := fun s =>
  match readField? key fields seen with
  | some read => read s
  | none => do
    let rest ← skipValue (← colon s)
    return (seen, rest)

/-- The fields of an object up to its closing brace, at most `bound` of them. -/
def readEntries {αs : List Type} (fields : Fields αs) :
    (bound : Nat) → (first : Bool) → Partial αs → Reader (Partial αs)
  | 0, _, _, _ => .error .malformed
  | bound + 1, first, seen, s =>
    let next (s : List Char) : Except Fault (Partial αs × List Char) := do
      let (key, s) ← stringFrom [] s
      let (seen, s) ← readEntry fields seen key s
      readEntries fields bound false seen s
    match skipSpace s with
    | [] => .error .incomplete
    | '\x7d' :: s => .ok (seen, '\x7d' :: s)
    | c :: s =>
      if first then (if c = '"' then next s else .error .malformed)
      else if c = ',' then
        match skipSpace s with
        | '"' :: s => next s
        | [] => .error .incomplete
        | _ => .error .malformed
      else .error .malformed

/-- Reads an object behind its opening brace. A text of `n` characters has fewer than `n` fields. -/
def readObject {αs : List Type} (fields : Fields αs) : Reader (Values αs) := fun s => do
  let (seen, s) ← readEntries fields (s.length + 1) true fields.start s
  match fields.complete? seen with
  | some values => return (values, s.drop 1)
  | none => throw .mismatched

/-- Reads the items of a list up to its closing bracket. -/
def readItems : {αs : List Type} → Fields αs → (first : Bool) → Reader (Values αs)
  | _, .nil, _, s => .ok ((), s)
  | _, .cons field rest, first, s => do
    match ← itemStart first s with
    | none =>
      match short? (.cons field rest) with
      | some values => return (values, s)
      | none => throw .mismatched
    | some s =>
      let (a, s) ← field.read s
      let (as, s) ← readItems rest false s
      return ((a, as), s)

/-- Reads a list behind its opening bracket. -/
def readList {αs : List Type} (fields : Fields αs) : Reader (Values αs) := fun s => do
  let (values, s) ← readItems fields true s
  return (values, ← listEnd s)

/-- Reads a record. -/
def read {αs : List Type} (fields : Fields αs) : Reader (Values αs) := fun s =>
  match skipSpace s with
  | '\x7b' :: s => fields.readObject s
  | '[' :: s => fields.readList s
  | s => .error (mismatch s)

end Fields

end Tutoring.Json
