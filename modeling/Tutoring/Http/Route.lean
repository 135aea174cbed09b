import Tutoring.Text.Pieces

/-!
# Paths

The path of a request target and what it leads to. Paths are compared as they are written, without
resolving any escapes; a query or a fragment is not part of them.
-/

namespace Tutoring.Http

/-- A target from its path on, without query and fragment. -/
def pathOnly (s : List Char) : List Char := s.takeWhile fun c => c ≠ '?' && c ≠ '#'

/-- A character of the name of a scheme. -/
def isSchemeChar (c : Char) : Bool := c.isAlphanum || c = '+' || c = '-' || c = '.'

/-- The target behind a scheme and `://`. -/
def behindScheme? (s : List Char) : Option (List Char) :=
  match s.dropWhile isSchemeChar with
  | ':' :: '/' :: '/' :: rest => some rest
  | _ => none

/-- The path of a target. A full address without a path has the path `/`, and an authority alone has
none. -/
def path (target : List Char) : List Char :=
  match target with
  | '/' :: _ => pathOnly target
  | ['*'] => target
  | _ =>
    match behindScheme? target with
    | none => []
    | some rest =>
      match pathOnly (rest.dropWhile fun c => c ≠ '/' && c ≠ '?' && c ≠ '#') with
      | [] => ['/']
      | p => p

/-- The path of the health check. -/
def healthPath : List Char := "/health".toList

/-- What a path leads to; its parameters are still escaped. -/
inductive Route where
  /-- All lessons. -/
  | lessons
  | lesson (id : List Char)
  /-- A move of a lesson by the name of an action. -/
  | move (id name : List Char)
  | join (id : List Char)
  deriving DecidableEq, Repr

namespace Route

/-- The route of a path. A parameter at the end of a path is not empty. -/
def ofPath? (p : List Char) : Option Route :=
  match Text.pieces '/' p with
  | [[], first] => if first = "lessons".toList then some lessons else none
  | [[], first, id] => if first = "lessons".toList ∧ id ≠ [] then some (lesson id) else none
  | [[], first, id, verb] =>
    if first = "lessons".toList ∧ verb = "join".toList then some (join id) else none
  | [[], first, id, verb, name] =>
    if first = "lessons".toList ∧ verb = "transitions".toList ∧ name ≠ [] then
      some (move id name)
    else none
  | _ => none

/-- The method of a route. -/
def method : Route → String
  | lesson _ => "GET"
  | lessons | move _ _ | join _ => "POST"

end Route

/-- The methods that go with one: what can be got can also be asked for its head. -/
def methodsWith (method : String) : List String :=
  if method = "GET" then ["GET", "HEAD"] else [method]

/-- Methods as a response lists them. -/
def methodList (methods : List String) : String := ",".intercalate methods

end Tutoring.Http
