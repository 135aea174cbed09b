import Tutoring.Json

/-!
# Requests and responses

A request is a method, a target, headers and a body. A response is a status, the methods that are
allowed if the method was not, and some content.
-/

namespace Tutoring.Http

/-- A request. -/
structure Request where
  method : String
  target : String
  /-- Names and values, in the order in which they were sent. -/
  headers : List (String × String)
  body : String
  deriving DecidableEq, Repr

/-- The first value of a header, whose name is given in lower case. -/
def Request.header? (r : Request) (name : String) : Option String :=
  (r.headers.find? fun h => h.1.toList.map Char.toLower = name.toList).map (·.2)

/-- What a response carries. -/
inductive Content where
  /-- Nothing, and no type either. -/
  | none
  | json (value : Json)
  | text (text : String)
  /-- The type of a JSON value, whose body is left out. -/
  | jsonHead
  /-- The type of a text, whose body is left out. -/
  | textHead

/-- The type of the content. -/
def Content.type? : Content → Option String
  | .none => Option.none
  | .json _ | .jsonHead => some "application/json"
  | .text _ | .textHead => some "text/plain; charset=utf-8"

/-- The content with its body left out. -/
def Content.head : Content → Content
  | .none => .none
  | .json _ | .jsonHead => .jsonHead
  | .text _ | .textHead => .textHead

/-- A response. -/
structure Response where
  status : Nat
  /-- The methods that the path has, where another one was used. -/
  allow : Option String := none
  content : Content := .none

namespace Response

/-- The response with its body left out. -/
def head (r : Response) : Response := { r with content := r.content.head }

/-- The status tells that the request was carried out. -/
def isSuccess (r : Response) : Bool := 200 ≤ r.status && r.status < 300

/-- A refusal of a request that cannot be read. What its text says is nobody's contract. -/
def unreadable (status : Nat) : Response := { status, content := .text "" }

/-- A refusal with a code and a message. -/
def refusal (status : Nat) (code message : String) : Response where
  status := status
  content := .json (.object [("code", .text code), ("message", .text message)])

end Response

end Tutoring.Http
