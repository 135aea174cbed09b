import Tutoring.Text.Hex
import Tutoring.Text.Numeral
import Tutoring.Text.Scan

/-!
# Socket addresses

An address to listen on: a number of four bytes with dots, or a number of eight groups in brackets,
and a port. A run of zero groups may be left out once in the longer form, its last two groups may be
written with dots, and it may have a numeric scope. The shortest form is shown: the first of the
longest runs of at least two zero groups is left out, and dots are only used for addresses of the
shorter form behind `::ffff:`.
-/

namespace Tutoring

/-- A host by its number. -/
inductive HostAddress where
  | short (bytes : List UInt8)
  /-- Eight groups, and a scope, which is zero if there is none. -/
  | long (groups : List UInt16) (scope : UInt32)
  deriving DecidableEq, Repr

/-- A host and a port. -/
structure SocketAddress where
  host : HostAddress
  port : UInt16
  deriving DecidableEq, Repr

namespace Address

open Text

/-- A number from its digits. -/
def value (base : Nat) (digits : List Nat) : Nat := digits.foldl (fun n d => base * n + d) 0

/-- The digits in front of a text. -/
def digits (digit? : Char → Option Nat) (s : List Char) : List Nat :=
  (s.takeWhile fun c => (digit? c).isSome).filterMap digit?

/-- A decimal number up to `high`, written without end. -/
def decimal (high : Nat) : Scan Nat := fun s =>
  let ds := digits Numeral.digit? s
  if ds = [] ∨ high < value 10 ds then none else some (value 10 ds, s.drop ds.length)

/-- A byte in decimal, without superfluous zeros. -/
def byte : Scan UInt8 := fun s =>
  let ds := digits Numeral.digit? s
  if ds = [] ∨ 3 < ds.length ∨ 255 < value 10 ds ∨ (ds.head? = some 0 ∧ 1 < ds.length) then none
  else some ((value 10 ds).toUInt8, s.drop ds.length)

/-- Four bytes with dots between them. -/
def dotted : Scan (List UInt8) := fun s => do
  let (a, s) ← byte s
  let ((), s) ← mark '.' s
  let (b, s) ← byte s
  let ((), s) ← mark '.' s
  let (c, s) ← byte s
  let ((), s) ← mark '.' s
  let (d, s) ← byte s
  return ([a, b, c, d], s)

/-- The groups of a list of bytes. -/
def groupsOf : List UInt8 → List UInt16
  | a :: b :: s => (a.toUInt16 <<< 8 ||| b.toUInt16) :: groupsOf s
  | _ => []

/-- A group of one to four hexadecimal digits. -/
def group : Scan UInt16 := fun s =>
  let ds := digits hexValue? s
  if ds = [] ∨ 4 < ds.length then none else some ((value 16 ds).toUInt16, s.drop ds.length)

/-- At most `n` groups with colons between them, and whether the last two of them are written with
dots. Reading ends before whatever is no group. -/
def groups : (n : Nat) → (first : Bool) → List Char → (List UInt16 × Bool) × List Char
  | 0, _, s => (([], false), s)
  | n + 1, first, s =>
    match if first then some s else (mark ':' s).map (·.2) with
    | none => (([], false), s)
    | some body =>
      match if 0 < n then dotted body else none with
      | some (bytes, rest) => ((groupsOf bytes, true), rest)
      | none =>
        match group body with
        | none => (([], false), s)
        | some (g, rest) =>
          let ((gs, isDotted), rest) := groups n false rest
          ((g :: gs, isDotted), rest)

/-- Eight groups, of which a run of zeros may be left out. -/
def eightGroups : Scan (List UInt16) := fun s => do
  let ((front, isDotted), s) := groups 8 true s
  if front.length = 8 then return (front, s)
  if isDotted then none
  let ((), s) ← mark ':' s
  let ((), s) ← mark ':' s
  let ((back, _), s) := groups (7 - front.length) true s
  return (front ++ List.replicate (8 - front.length - back.length) 0 ++ back, s)

/-- A scope behind a percent sign. -/
def scope (s : List Char) : UInt32 × List Char :=
  match s with
  | '%' :: rest =>
    match decimal (UInt32.size - 1) rest with
    | some (n, rest) => (n.toUInt32, rest)
    | none => (0, s)
  | _ => (0, s)

/-- A host in brackets. -/
def bracketed : Scan HostAddress := fun s => do
  let ((), s) ← mark '[' s
  let (gs, s) ← eightGroups s
  let (n, s) := scope s
  let ((), s) ← mark ']' s
  return (.long gs n, s)

/-- A host. -/
def host : Scan HostAddress := fun s =>
  match dotted s with
  | some (bytes, rest) => some (.short bytes, rest)
  | none => bracketed s

/-- Whole addresses. -/
def ofChars? (s : List Char) : Option SocketAddress := do
  let (h, s) ← host s
  let ((), s) ← mark ':' s
  let (p, s) ← decimal (UInt16.size - 1) s
  if s = [] then return ⟨h, p.toUInt16⟩ else none

/-! ## Printing -/

/-- Bytes with dots between them. -/
def showBytes (bytes : List UInt8) : String :=
  ".".intercalate (bytes.map fun b => toString b.toNat)

/-- Groups with colons between them. -/
def showGroups (gs : List UInt16) : String :=
  ":".intercalate (gs.map fun g => String.ofList (Nat.toDigits 16 g.toNat))

/-- The length of the run of zeros in front. -/
def zeros (gs : List UInt16) : Nat := (gs.takeWhile (· = 0)).length

/-- The start and the length of the first of the longest runs of zeros. -/
def longestZeros : List UInt16 → Nat × Nat
  | [] => (0, 0)
  | g :: gs =>
    let (start, length) := longestZeros gs
    let here := zeros (g :: gs)
    if length ≤ here then (0, here) else (start + 1, length)

/-- Eight groups in their shortest form. -/
def showLong (gs : List UInt16) : String :=
  match gs with
  | [0, 0, 0, 0, 0, 0xffff, g, h] =>
    "::ffff:" ++ showBytes [(g >>> 8).toUInt8, g.toUInt8, (h >>> 8).toUInt8, h.toUInt8]
  | gs =>
    let (start, length) := longestZeros gs
    if 1 < length then showGroups (gs.take start) ++ "::" ++ showGroups (gs.drop (start + length))
    else showGroups gs

end Address

/-- The address of a text. -/
def SocketAddress.ofText? (s : String) : Option SocketAddress := Address.ofChars? s.toList

/-- The shortest form of an address. -/
def SocketAddress.toText (a : SocketAddress) : String :=
  match a.host with
  | .short bytes => s!"{Address.showBytes bytes}:{a.port.toNat}"
  | .long groups scope =>
    if scope = 0 then s!"[{Address.showLong groups}]:{a.port.toNat}"
    else s!"[{Address.showLong groups}%{scope.toNat}]:{a.port.toNat}"

end Tutoring
