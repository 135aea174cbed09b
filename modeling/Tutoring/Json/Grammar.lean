import Tutoring.Json
import Tutoring.Json.Reader

/-!
# The grammar of JSON

The texts that are JSON: lists and objects of any depth, numbers of any length, and blanks wherever
tokens meet. An escape in a string needs its four hexadecimal digits but need not name a character,
so there are strings that spell no text.
-/

namespace Tutoring.Json

/-- Blanks between tokens. -/
def IsBlank (s : List Char) : Prop := ∀ c ∈ s, c ∈ [' ', '\t', '\n', '\r']

instance (s : List Char) : Decidable (IsBlank s) :=
  List.decidableBAll (fun c => c ∈ [' ', '\t', '\n', '\r']) s

/-- Digits, at least one of them. -/
structure IsDigits (s : List Char) : Prop where
  ne_nil : s ≠ []
  all : ∀ c ∈ s, c.isDigit = true

/-- The digits before the point: a zero alone, or digits of which the first one is no zero. -/
inductive IsWhole : List Char → Prop
  | zero : IsWhole ['0']
  | digits {c : Char} {s : List Char} (first : c.isDigit = true) (other : c ≠ '0')
      (all : ∀ d ∈ s, d.isDigit = true) : IsWhole (c :: s)

/-- A point and the digits behind it, or nothing. -/
inductive IsFraction : List Char → Prop
  | absent : IsFraction []
  | digits {s : List Char} (digits : IsDigits s) : IsFraction ('.' :: s)

/-- The mark of an exponent, its sign and its digits, or nothing. -/
inductive IsExponent : List Char → Prop
  | absent : IsExponent []
  | plain {e : Char} {s : List Char} (mark : e = 'e' ∨ e = 'E') (digits : IsDigits s) :
      IsExponent (e :: s)
  | signed {e c : Char} {s : List Char} (mark : e = 'e' ∨ e = 'E') (sign : c = '+' ∨ c = '-')
      (digits : IsDigits s) : IsExponent (e :: c :: s)

/-- A number without its sign. -/
inductive IsUnsigned : List Char → Prop
  | intro {n f e : List Char} (whole : IsWhole n) (fraction : IsFraction f)
      (exponent : IsExponent e) : IsUnsigned (n ++ (f ++ e))

/-- What stands between the quotes of a string. -/
inductive IsString : List Char → Prop
  | nil : IsString []
  | plain {c : Char} {s : List Char} (quote : c ≠ '"') (backslash : c ≠ '\\')
      (control : 0x20 ≤ c.toNat) (others : IsString s) : IsString (c :: s)
  | letter {c : Char} {s : List Char} (escape : c ∈ ['"', '\\', '/', 'b', 'f', 'n', 'r', 't'])
      (others : IsString s) : IsString ('\\' :: c :: s)
  | word {a b c d : Char} {n : Nat} {s : List Char} (digits : hexWord? a b c d = some n)
      (others : IsString s) : IsString ('\\' :: 'u' :: a :: b :: c :: d :: s)

/-- What stands between the quotes of a string, and the characters that it spells. Other than in
`IsString`, the two halves of a character beyond 16 bits must come together. -/
inductive IsSpelling : List Char → List Char → Prop
  | nil : IsSpelling [] []
  | plain {c : Char} {s t : List Char} (quote : c ≠ '"') (backslash : c ≠ '\\')
      (control : 0x20 ≤ c.toNat) (others : IsSpelling s t) : IsSpelling (c :: s) (c :: t)
  | letter {c d : Char} {s t : List Char} (escape : escaped? c = some d)
      (others : IsSpelling s t) : IsSpelling ('\\' :: c :: s) (d :: t)
  | word {a b c d e : Char} {s t : List Char} (digits : hexWord? a b c d = some e.toNat)
      (others : IsSpelling s t) : IsSpelling ('\\' :: 'u' :: a :: b :: c :: d :: s) (e :: t)
  | pair {a b c d a' b' c' d' : Char} {n n' : Nat} {s t : List Char}
      (digits : hexWord? a b c d = some n) (high : 0xD800 ≤ n ∧ n ≤ 0xDBFF)
      (digits' : hexWord? a' b' c' d' = some n') (low : 0xDC00 ≤ n' ∧ n' ≤ 0xDFFF)
      (others : IsSpelling s t) :
      IsSpelling
        ('\\' :: 'u' :: a :: b :: c :: d :: '\\' :: 'u' :: a' :: b' :: c' :: d' :: s)
        (Char.ofNat (0x10000 + (n - 0xD800) * 0x400 + (n' - 0xDC00)) :: t)

/-! ## Values -/

/-- The kinds of texts that values are put together from. -/
inductive Part where
  /-- A value without blanks around it. -/
  | value
  /-- A value with blanks around it. -/
  | item
  /-- One item or more, with commas between them. -/
  | items
  /-- A name, a colon and an item, with blanks around the name. -/
  | member
  /-- One member or more, with commas between them. -/
  | members

/-- The texts of each kind. -/
inductive IsJson : Part → List Char → Prop
  | word {w : String} (word : w ∈ ["null", "true", "false"]) : IsJson .value w.toList
  | number {s : List Char} (number : IsUnsigned s) : IsJson .value s
  | negative {s : List Char} (number : IsUnsigned s) : IsJson .value ('-' :: s)
  | string {s : List Char} (string : IsString s) : IsJson .value ('"' :: (s ++ ['"']))
  | emptyList {b : List Char} (blank : IsBlank b) : IsJson .value ('[' :: (b ++ [']']))
  | list {s : List Char} (items : IsJson .items s) : IsJson .value ('[' :: (s ++ [']']))
  | emptyObject {b : List Char} (blank : IsBlank b) : IsJson .value ('\x7b' :: (b ++ ['\x7d']))
  | object {s : List Char} (members : IsJson .members s) :
      IsJson .value ('\x7b' :: (s ++ ['\x7d']))
  | item {b v b' : List Char} (before : IsBlank b) (value : IsJson .value v)
      (behind : IsBlank b') : IsJson .item (b ++ (v ++ b'))
  | lastItem {s : List Char} (item : IsJson .item s) : IsJson .items s
  | items {s t : List Char} (item : IsJson .item s) (others : IsJson .items t) :
      IsJson .items (s ++ ',' :: t)
  | member {b k b' s : List Char} (before : IsBlank b) (name : IsString k) (behind : IsBlank b')
      (item : IsJson .item s) : IsJson .member (b ++ '"' :: (k ++ '"' :: (b' ++ ':' :: s)))
  | lastMember {s : List Char} (member : IsJson .member s) : IsJson .members s
  | members {s t : List Char} (member : IsJson .member s) (others : IsJson .members t) :
      IsJson .members (s ++ ',' :: t)

/-! ## Objects with known fields -/

/-- The name of a field, and the text of its value. -/
abbrev Entry := String × List Char

/-- One field, with blanks wherever they may be. -/
inductive IsEntry : Entry → List Char → Prop
  | intro {b s b' b'' v b''' : List Char} {name : String} (before : IsBlank b)
      (spelling : IsSpelling s name.toList) (behind : IsBlank b') (before' : IsBlank b'')
      (value : IsJson .value v) (behind' : IsBlank b''') :
      IsEntry (name, v) (b ++ '"' :: (s ++ '"' :: (b' ++ ':' :: (b'' ++ (v ++ b''')))))

/-- One field or more, with commas between them. -/
inductive IsEntries : List Entry → List Char → Prop
  | last {e : Entry} {s : List Char} (entry : IsEntry e s) : IsEntries [e] s
  | cons {e : Entry} {es : List Entry} {s t : List Char} (entry : IsEntry e s)
      (others : IsEntries es t) : IsEntries (e :: es) (s ++ ',' :: t)

/-- The text of an object with these fields. -/
inductive IsObjectOf : List Entry → List Char → Prop
  | empty {b b' b'' : List Char} (before : IsBlank b) (blank : IsBlank b') (behind : IsBlank b'') :
      IsObjectOf [] (b ++ '\x7b' :: (b' ++ '\x7d' :: b''))
  | intro {b s b' : List Char} {es : List Entry} (before : IsBlank b) (entries : IsEntries es s)
      (behind : IsBlank b') : IsObjectOf es (b ++ '\x7b' :: (s ++ '\x7d' :: b'))

/-- The text of an object whose fields are the ones of the value, each of them written as it is in
the value, in any order, and any number of fields with other names at any places. -/
inductive IsArrangement : Json → String → Prop
  | intro {fs : List (String × Json)} {es : List Entry} {s : String}
      (text : IsObjectOf es s.toList)
      (known : (es.filter fun e => e.1 ∈ fs.map Prod.fst).Perm (fs.map fun f => (f.1, f.2.chars))) :
      IsArrangement (.object fs) s

end Tutoring.Json
