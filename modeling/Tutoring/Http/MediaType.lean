import Tutoring.Text.Pieces

/-!
# Media types

Whether a content type is one of JSON: `application/json` or `application/…+json`, in any letter
case and with any parameters. A content type that is not well formed is none.
-/

namespace Tutoring.Http.MediaType

/-- A character of a token. -/
def isTokenChar (c : Char) : Bool :=
  c.isAlphanum || c ∈ "!#$%&'*+-.^_\x60|~".toList

/-- A character between quotes. -/
def isQuotedChar (c : Char) : Bool := 31 < c.toNat && c.toNat ≠ 127

/-- Where a reader of parameters stands. -/
inductive Place where
  /-- Before a parameter. -/
  | before
  /-- In the name of a parameter. -/
  | name
  /-- Behind the equals sign. -/
  | value
  /-- In a value without quotes. -/
  | token
  /-- Behind an opening quote. -/
  | opened
  /-- Between quotes. -/
  | quoted
  /-- Behind a closing quote. -/
  | closed
  deriving DecidableEq, Repr

/-- Where a character leads. A value between quotes is not empty. -/
def step (p : Place) (c : Char) : Option Place :=
  match p with
  | .before => if c = ' ' then some .before else if isTokenChar c then some .name else none
  | .name => if c = '=' then some .value else if isTokenChar c then some .name else none
  | .value => if c = '"' then some .opened else if isTokenChar c then some .token else none
  | .token => if c = ';' then some .before else if isTokenChar c then some .token else none
  | .opened => if isQuotedChar c then some .quoted else none
  | .quoted => if c = '"' then some .closed else if isQuotedChar c then some .quoted else none
  | .closed => if c = ';' then some .before else if c = ' ' then some .closed else none

/-- The parameters may end here. -/
def mayEnd : Place → Bool
  | .before | .value | .token | .closed => true
  | .name | .opened | .quoted => false

/-- The text is a list of parameters. -/
def areParameters (s : List Char) : Bool := (s.foldlM step .before).any mayEnd

/-- The subtype is the one of JSON, or what stands before or after its last plus sign is. A plus
sign in front is part of the subtype. -/
def isJsonSubtype (subtype : List Char) : Bool :=
  match Text.aroundLast? '+' subtype with
  | none | some ([], _) => subtype = "json".toList
  | some (front, suffix) => front = "json".toList || suffix = "json".toList

/-- The content type is one of JSON. -/
def isJson (s : String) : Bool :=
  let s := s.toList.map Char.toLower
  match s.dropWhile isTokenChar with
  | '/' :: rest =>
    s.takeWhile isTokenChar = "application".toList && isJsonSubtype (rest.takeWhile isTokenChar) &&
      match rest.dropWhile isTokenChar with
      | [] => true
      | ';' :: parameters => areParameters parameters
      | _ => false
  | _ => false

end Tutoring.Http.MediaType
