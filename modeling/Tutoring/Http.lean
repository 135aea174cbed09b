import Tutoring.Http.Auth
import Tutoring.Http.Body
import Tutoring.Http.MediaType
import Tutoring.Http.Route
import Tutoring.Text.Percent

/-!
# The interface for clients

Requests are sorted by their path and method. Everything but the health check is looked at for a
token first, also what leads nowhere. A request for lessons then needs a user; after that its
parameters and its body are read, and then it is carried out.
-/

namespace Tutoring.Http

/-- The status for a sort of error. -/
def statusOf : ErrorKind → Nat
  | .notFound => 404
  | .forbidden => 403
  | .illegalTransition | .conflict => 409
  | .validation => 400
  | .dependency => 502
  | .infrastructure => 500

/-- The response to a request that failed. -/
def errorResponse (e : LessonError) : Response where
  status := statusOf e.kind
  content := .json (errorBody e)

/-- Carries out a request and shows the result. -/
def answer {α : Type} (status : Nat) (body : α → Json) (t : LessonTask α) : Program Response := do
  match ← t.run with
  | .ok a => return { status, content := .json (body a) }
  | .error e => return errorResponse e

/-- A parameter with its escapes resolved. -/
def parameter (s : List Char) : Except Response String :=
  match Text.Percent.decode? s with
  | some text => .ok text
  | none => .error (.unreadable 400)

/-- The number of a lesson. -/
def lessonId (s : String) : Except Response LessonId :=
  (Id.read s).mapError fun _ => .refusal 400 badRequest "Invalid lesson ID"

/-- The body of a booking. Text behind it is not looked at. -/
def bookingBody (r : Request) : Except Response BookingBody :=
  if (r.header? "content-type").any fun v => isReadable v && MediaType.isJson v then
    (BookingBody.readJson.leading r.body).mapError fun
      | .incomplete | .malformed => .unreadable 400
      | .mismatched => .unreadable 422
  else .error (.unreadable 415)

/-- How requests are carried out. -/
structure Service where
  resolve : Resolver
  /-- The meeting room of a lesson. -/
  room : LessonId → String
  /-- The time. -/
  now : Timestamp

/-- What a user asks for with a request: nothing is called before the request has been read. -/
def Service.handle (s : Service) (r : Request) (user : UserId) :
    Route → Except Response (Program Response)
  | .lessons => do
    let body ← bookingBody r
    return answer 201 bookedBody (bookLesson s.now (body.ofStudent user))
  | .lesson id => do
    let id ← lessonId (← parameter id)
    return answer 200 viewBody (getLesson user id)
  | .move id name => do
    let id ← parameter id
    let name ← parameter name
    let id ← lessonId id
    return answer 200 movedBody (moveLesson s.room user id name)
  | .join id => do
    let id ← lessonId (← parameter id)
    return answer 200 admissionBody (joinLesson s.room user id)

/-- The response to a request for lessons, once its token has been looked at. -/
def Service.serve (s : Service) (r : Request) (route : Route) (user : Option UserId) :
    Program Response :=
  match user with
  | none => pure signInRequired
  | some user =>
    match s.handle r user route with
    | .ok p => p
    | .error refusal => pure refusal

/-- Goes on with a request whose token can be resolved. -/
def Service.gate (s : Service) (r : Request) (next : Option UserId → Program Response) :
    Program Response :=
  match r.user s.resolve with
  | .error refusal => pure refusal
  | .ok user => next user

/-- The response to a method that its path does not have. -/
def Response.notAllowed (method : String) (r : Response) : Response :=
  { r with allow := some (methodList (methodsWith method)) }

/-- The response as the method asks for it: `HEAD` leaves out the body. -/
def Response.shown (method : String) (r : Response) : Response :=
  if method = "HEAD" then r.head else r

/-- The health check. -/
def health (method : String) : Response :=
  if method ∈ methodsWith "GET" then
    Response.shown method { status := 200, content := .text "ok" }
  else Response.notAllowed "GET" { status := 405 }

/-- The response to a request. -/
def Service.respond (s : Service) (r : Request) : Program Response :=
  let p := path r.target.toList
  if p = healthPath then pure (health r.method)
  else
    match Route.ofPath? p with
    | none => s.gate r fun _ => pure { status := 404 }
    | some route =>
      if r.method ∈ methodsWith route.method then
        Response.shown r.method <$> s.gate r (s.serve r route)
      else
        Response.notAllowed route.method <$> s.gate r fun _ => pure { status := 405 }

end Tutoring.Http
