import Tutoring.Text.Hex

/-!
# Passing over JSON values

Passing over one JSON value without keeping it, one character at a time. The scanner knows what it
is inside of and what may come next, so a value may nest as deeply as it likes. Numbers have no
bound here, and an escape in a string needs its four hexadecimal digits but need not name a
character.
-/

namespace Tutoring.Json

/-- Why a text is not accepted. -/
inductive Fault where
  /-- The text ends too early. -/
  | incomplete
  /-- The text is not JSON. -/
  | malformed
  /-- The text is JSON as far as it was read, and not what is wanted. -/
  | mismatched
  deriving DecidableEq, Repr

/-- A character that may stand between tokens. -/
def isSpace (c : Char) : Bool := c = ' ' || c = '\t' || c = '\n' || c = '\r'

/-- The text without the spaces in front. -/
def skipSpace (s : List Char) : List Char := s.dropWhile isSpace

/-- The text has at least `n` bytes. -/
def hasBytes (n : Nat) : List Char → Bool
  | [] => n = 0
  | c :: s => n ≤ c.utf8Size || hasBytes (n - c.utf8Size) s

namespace Scanner

/-- What encloses the place where the scanner stands. -/
inductive Frame where
  | list | object
  deriving DecidableEq, Repr

/-- Where the scanner stands. -/
inductive Place where
  /-- Before a value. -/
  | value
  /-- Behind the bracket that opens a list. -/
  | firstItem
  /-- Behind the brace that opens an object. -/
  | firstKey
  /-- Behind a comma in an object. -/
  | key
  /-- Behind the name of a field. -/
  | colon
  /-- Behind a value in a list or an object. -/
  | next
  /-- Before the rest of a word. -/
  | word (rest : List Char)
  /-- In a string, which may be the name of a field. -/
  | string (isKey : Bool)
  /-- Behind a backslash. -/
  | escape (isKey : Bool)
  /-- Before that many hexadecimal digits. -/
  | hex (left : Nat) (isKey : Bool)
  /-- Behind the sign of a number. -/
  | minus
  /-- Behind a leading zero. -/
  | zero
  /-- In the digits before the point. -/
  | whole
  /-- Behind the point. -/
  | point
  /-- In the digits after the point. -/
  | fraction
  /-- Behind the mark of an exponent. -/
  | exponentMark
  /-- Behind the sign of an exponent. -/
  | exponentSign
  /-- In the digits of an exponent. -/
  | exponent
  deriving DecidableEq, Repr

/-- What a character does. -/
inductive Step where
  /-- The scanner moves on. -/
  | move (place : Place) (stack : List Frame)
  /-- The value ends with this character. -/
  | finish
  /-- The value ended before this character. -/
  | finished
  /-- The character is refused. -/
  | refuse (fault : Fault)
  deriving DecidableEq, Repr

/-- The end of a value within the stack. -/
def close : List Frame → Step
  | [] => .finish
  | stack => .move .next stack

/-- The start of a value. -/
def start? (stack : List Frame) (c : Char) : Option Step :=
  match c with
  | 'n' => some (.move (.word "ull".toList) stack)
  | 't' => some (.move (.word "rue".toList) stack)
  | 'f' => some (.move (.word "alse".toList) stack)
  | '-' => some (.move .minus stack)
  | '0' => some (.move .zero stack)
  | '"' => some (.move (.string false) stack)
  | '[' => some (.move .firstItem (.list :: stack))
  | '\x7b' => some (.move .firstKey (.object :: stack))
  | c => if c.isDigit then some (.move .whole stack) else none

/-- A character behind a value that is a list item or the value of a field. -/
def behind (stack : List Frame) (c : Char) : Step :=
  if isSpace c then .move .next stack
  else
    match stack, c with
    | .list :: _, ',' => .move .value stack
    | .object :: _, ',' => .move .key stack
    | .list :: outer, ']' => close outer
    | .object :: outer, '\x7d' => close outer
    | _, _ => .refuse .malformed

/-- A character behind the digits of a number. -/
def behindNumber (stack : List Frame) (c : Char) : Step :=
  match stack with
  | [] => .finished
  | stack => behind stack c

/-- The effect of a character, with `s` behind it. -/
def step (place : Place) (stack : List Frame) (c : Char) (s : List Char) : Step :=
  match place with
  | .value =>
    if isSpace c then .move .value stack else (start? stack c).getD (.refuse .malformed)
  | .firstItem =>
    if isSpace c then .move .firstItem stack
    else if c = ']' then behind stack c
    else (start? stack c).getD (.refuse .malformed)
  | .firstKey =>
    if isSpace c then .move .firstKey stack
    else if c = '"' then .move (.string true) stack
    else if c = '\x7d' then behind stack c
    else .refuse .malformed
  | .key =>
    if isSpace c then .move .key stack
    else if c = '"' then .move (.string true) stack
    else .refuse .malformed
  | .colon =>
    if isSpace c then .move .colon stack
    else if c = ':' then .move .value stack
    else .refuse .malformed
  | .next => behind stack c
  | .word [] => .refuse .malformed
  | .word (d :: rest) =>
    if c ≠ d then .refuse .malformed
    else if rest = [] then close stack
    else .move (.word rest) stack
  | .string isKey =>
    if c = '"' then (if isKey then .move .colon stack else close stack)
    else if c = '\\' then .move (.escape isKey) stack
    else if c.toNat < 0x20 then .refuse .malformed
    else .move (.string isKey) stack
  | .escape isKey =>
    if c = 'u' then (if hasBytes 4 s then .move (.hex 3 isKey) stack else .refuse .incomplete)
    else if c ∈ ['"', '\\', '/', 'b', 'f', 'n', 'r', 't'] then .move (.string isKey) stack
    else .refuse .malformed
  | .hex left isKey =>
    if (Text.hexValue? c).isNone then .refuse .malformed
    else
      match left with
      | 0 => .move (.string isKey) stack
      | n + 1 => .move (.hex n isKey) stack
  | .minus =>
    if c = '0' then .move .zero stack
    else if c.isDigit then .move .whole stack
    else .refuse .malformed
  | .zero =>
    if c.isDigit then .refuse .malformed
    else if c = '.' then .move .point stack
    else if c = 'e' ∨ c = 'E' then .move .exponentMark stack
    else behindNumber stack c
  | .whole =>
    if c.isDigit then .move .whole stack
    else if c = '.' then .move .point stack
    else if c = 'e' ∨ c = 'E' then .move .exponentMark stack
    else behindNumber stack c
  | .point => if c.isDigit then .move .fraction stack else .refuse .malformed
  | .fraction =>
    if c.isDigit then .move .fraction stack
    else if c = 'e' ∨ c = 'E' then .move .exponentMark stack
    else behindNumber stack c
  | .exponentMark =>
    if c = '+' ∨ c = '-' then .move .exponentSign stack
    else if c.isDigit then .move .exponent stack
    else .refuse .malformed
  | .exponentSign => if c.isDigit then .move .exponent stack else .refuse .malformed
  | .exponent => if c.isDigit then .move .exponent stack else behindNumber stack c

/-- The end of the text. -/
def atEnd (place : Place) (stack : List Frame) : Except Fault (List Char) :=
  match place with
  | .minus | .point | .exponentMark | .exponentSign => .error .malformed
  | .zero | .whole | .fraction | .exponent => if stack = [] then .ok [] else .error .incomplete
  | _ => .error .incomplete

/-- Scans to the end of the outermost value; the text behind it is left over. -/
def run (place : Place) (stack : List Frame) : List Char → Except Fault (List Char)
  | [] => atEnd place stack
  | c :: s =>
    match step place stack c s with
    | .move place stack => run place stack s
    | .finish => .ok s
    | .finished => .ok (c :: s)
    | .refuse fault => .error fault

end Scanner

/-- The text behind one value. -/
def skipValue (s : List Char) : Except Fault (List Char) := Scanner.run .value [] s

end Tutoring.Json
