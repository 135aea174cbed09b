import Tutoring.Settings.Address

/-!
# Written hosts

The texts that stand for a host, without regard to how they are read: four bytes in decimal with
dots between them, or eight groups in hexadecimal with colons between them, in brackets. A run of
zero groups may be left out at one place, the last two groups may be written as four bytes, and a
scope may follow the groups.
-/

namespace Tutoring.Address

open Text

/-- The text writes a number with digits of the base, at least one of them. -/
def IsNumeral (digit? : Char → Option Nat) (base : Nat) (text : List Char) (n : Nat) : Prop :=
  ∃ ds, ds ≠ [] ∧ text.map digit? = ds.map some ∧ value base ds = n

/-- A byte in decimal has no superfluous zeros. -/
structure IsByte (text : List Char) (b : UInt8) : Prop where
  numeral : IsNumeral Numeral.digit? 10 text b.toNat
  plain : text.head? = some '0' → text = ['0']

/-- A group has at most four digits, of either case. -/
structure IsGroup (text : List Char) (g : UInt16) : Prop where
  numeral : IsNumeral hexValue? 16 text g.toNat
  short : text.length ≤ 4

/-- Four bytes with dots between them. -/
inductive IsDotted : List Char → List UInt8 → Prop
  | intro {s t u v : List Char} {a b c d : UInt8} (first : IsByte s a) (second : IsByte t b)
      (third : IsByte u c) (fourth : IsByte v d) :
      IsDotted (s ++ '.' :: (t ++ '.' :: (u ++ '.' :: v))) [a, b, c, d]

/-- Groups with colons between them. The last two are written as four bytes if `dots` is set, the
first byte of each being its upper half. -/
inductive IsGroups : (dots : Bool) → List Char → List UInt16 → Prop
  | last {s : List Char} {g : UInt16} (group : IsGroup s g) : IsGroups false s [g]
  | dotted {s : List Char} {a b c d : UInt8} {g h : UInt16} (bytes : IsDotted s [a, b, c, d])
      (upper : g.toNat = 256 * a.toNat + b.toNat) (lower : h.toNat = 256 * c.toNat + d.toNat) :
      IsGroups true s [g, h]
  | cons {dots : Bool} {s t : List Char} {g : UInt16} {gs : List UInt16} (group : IsGroup s g)
      (groups : IsGroups dots t gs) : IsGroups dots (s ++ ':' :: t) (g :: gs)

/-- Groups that may be none at all. -/
def IsGroups? (dots : Bool) (s : List Char) (gs : List UInt16) : Prop :=
  (dots = false ∧ s = [] ∧ gs = []) ∨ IsGroups dots s gs

/-- Eight groups. Two colons stand for at least one group of zeros, behind groups without dots. -/
inductive IsEightGroups : List Char → List UInt16 → Prop
  | all {dots : Bool} {s : List Char} {gs : List UInt16} (groups : IsGroups dots s gs)
      (eight : gs.length = 8) : IsEightGroups s gs
  | some {dots : Bool} {s t : List Char} {fs bs : List UInt16} {zeros : Nat}
      (front : IsGroups? false s fs) (back : IsGroups? dots t bs) (pos : 0 < zeros)
      (eight : fs.length + zeros + bs.length = 8) :
      IsEightGroups (s ++ ':' :: ':' :: t) (fs ++ List.replicate zeros 0 ++ bs)

/-- A scope behind a percent sign, or none. -/
inductive IsScope : List Char → UInt32 → Prop
  | absent : IsScope [] 0
  | given {s : List Char} {n : UInt32} (numeral : IsNumeral Numeral.digit? 10 s n.toNat) :
      IsScope ('%' :: s) n

/-- The text is a host. -/
inductive IsHost : List Char → HostAddress → Prop
  | short {s : List Char} {bytes : List UInt8} (dotted : IsDotted s bytes) :
      IsHost s (.short bytes)
  | long {s t : List Char} {gs : List UInt16} {n : UInt32} (groups : IsEightGroups s gs)
      (scope : IsScope t n) : IsHost ('[' :: (s ++ t ++ [']'])) (.long gs n)

end Tutoring.Address
