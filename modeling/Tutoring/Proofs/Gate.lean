import Tutoring.Proofs.Discretion
import Tutoring.Proofs.Reading

/-!
# The gate

What a request for lessons asks for is made out before anything is called: from its headers alone
who asks, and then from its path and its body what they ask for. A request that stops on the way is
answered at once.

* `Http.Request.entry`: the user whom a request is let in as, or the response that turns it away.
* `Http.Service.command`: what a user asks for with a request, if the request can be read.
* `Http.Service.respond_eq`: a request for lessons is turned away, or its command is carried out.
* `LessonRequest.meets_own`: a command acts in the name of its actor only.
* `Http.requests_are_gated`: who is not let in learns nothing and reaches nothing, and who is let in
  acts as themselves.
-/

namespace Tutoring

/-! ## Commands -/

namespace LessonRequest

/-- Who asks. -/
def actor : LessonRequest → UserId
  | book _ b => b.student
  | get user _ | join user _ | move user _ _ => user

/-- The status of a response that tells of success. -/
def status : LessonRequest → Nat
  | book _ _ => 201
  | get _ _ | join _ _ | move _ _ _ => 200

/-- What a response that tells of success carries. -/
def body : (q : LessonRequest) → q.Answer → Json
  | book _ _ => Http.bookedBody
  | get _ _ => Http.viewBody
  | join _ _ => Http.admissionBody
  | move _ _ _ => Http.movedBody

/-- Carries out a request and shows its result. -/
def carriedOut (room : LessonId → String) (q : LessonRequest) : Program Http.Response :=
  Http.answer q.status q.body (ExceptT.mk (q.program room))

end LessonRequest

/-- The call is made in the name of the user, as far as it names somebody who acts: the one who is
looked up for acting, the student of a lesson, and the guest of a meeting. -/
def Call.Own (user : UserId) : Call → Prop
  | findUser id | findTeacherByUser id => id = user
  | insertLesson draft => draft.student = user
  | issueCredential _ identity => identity = user.toText
  | _ => True

/-- All calls are made in the name of the user. -/
def ownTerms (user : UserId) : Contract := ⟨fun _ => True, fun _ c => c.Own user⟩

section Own

variable {user : UserId} {lesson : LessonId} {room : LessonId → String} {log : Log}

@[simp] theorem rely_ownTerms (e : Event) : (ownTerms user).rely e ↔ True := Iff.rfl

@[simp] theorem guar_ownTerms (c : Call) : (ownTerms user).guar log c ↔ c.Own user := Iff.rfl

theorem Access.load_own : Task.Meets (ownTerms user) (Access.load user lesson)
    (fun _ a => a.actor.user = user) (fun _ _ => True) log := by
  simp [Access.load, Call.Own]

theorem joinLesson_own : Task.Meets (ownTerms user) (joinLesson room user lesson)
    (fun _ _ => True) (fun _ _ => True) [] := by
  unfold joinLesson
  rw [Task.meets_bind]
  refine Access.load_own.mono (fun _ h => h) (fun _ _ h => h) ?_ fun _ _ h => h
  rintro log ⟨lesson, actor⟩ (rfl : actor.user = user)
  simp [Engine.current, Engine.load, issueCredential, Call.Own]

/-- **A command acts in the name of its actor only**: nobody else is looked up as the one who acts,
books a lesson or is let into a meeting. -/
theorem LessonRequest.meets_own (room : LessonId → String) (q : LessonRequest) :
    (q.program room).Meets (ownTerms q.actor) (fun _ _ => True) [] := by
  cases q with
  | book now b =>
    refine (bookLesson_calls now b).calls (fun _ h => h) fun _ c hc => ?_
    cases c with
    | findUser => exact hc
    | insertLesson => exact hc.1
    | findTeacherByUser | issueCredential => exact hc.elim
    | _ => trivial
  | get user lesson =>
    unfold program getLesson
    refine Task.Meets.calls (Q := fun _ _ => True) (E := fun _ _ => True) ?_
      (fun _ h => h) fun _ _ h => h
    rw [Task.meets_bind]
    refine Access.load_own.mono (fun _ h => h) (fun _ _ h => h) ?_ fun _ _ h => h
    intro log a _
    simp [Engine.current, Engine.available, Engine.load, Call.Own]
  | join user lesson => exact joinLesson_own.calls (fun _ h => h) fun _ _ h => h
  | move user lesson name =>
    refine (moveLesson_meets (fun _ => True) room user lesson name).calls (fun _ h => h) ?_
    intro log c hc
    cases c with
    | findUser | findTeacherByUser => exact hc.2
    | insertLesson => exact hc.elim
    | issueCredential =>
      obtain ⟨_, _, _, _, _, _, identity_eq⟩ := hc
      exact identity_eq
    | _ => trivial

end Own

namespace Http

/-! ## Who is let in -/

namespace Request

/-- The `Authorization` header of the request is a text: `Bearer `, and the token after it. -/
def Bears (r : Request) (token : String) : Prop :=
  ∃ value, r.header? "authorization" = some value ∧ isReadable value = true ∧
    value = "Bearer " ++ token

/-- The token of the request is one of the user. -/
def Shows (r : Request) (resolve : Resolver) (user : UserId) : Prop :=
  ∃ token, r.Bears token ∧ resolve token = .ok user

/-- Whose token the request has cannot be told, since the service that knows is not there. -/
def Unresolved (r : Request) (resolve : Resolver) : Prop :=
  ∃ token reason, r.Bears token ∧ resolve token = .error (.serviceUnavailable reason)

/-- The user whom a request for lessons is let in as, or the response that turns it away. -/
def entry (r : Request) (resolve : Resolver) : Except Response UserId :=
  match r.token? with
  | none => .error signInRequired
  | some token => (resolve token).mapError tokenRefusal

variable {r r' : Request} {resolve : Resolver} {user : UserId} {token : String}

theorem token?_eq_some_iff : r.token? = some token ↔ r.Bears token := by
  constructor
  · intro h
    obtain ⟨value, found, h⟩ := Option.bind_eq_some_iff.1 h
    split at h
    · rename_i readable
      obtain ⟨rest, behind, rfl⟩ := Option.map_eq_some_iff.1 h
      refine ⟨value, found, readable, String.toList_injective ?_⟩
      rw [Text.after?_eq_some_iff.1 behind]
      simp
    · cases h
  · rintro ⟨value, found, readable, rfl⟩
    have behind : Text.after? "Bearer ".toList ("Bearer " ++ token).toList = some token.toList :=
      Text.after?_eq_some_iff.2 String.toList_append
    unfold token?
    rw [found]
    show (if isReadable ("Bearer " ++ token) then _ else none) = _
    rw [if_pos readable, behind]
    exact congrArg some String.ofList_toList

theorem entry_congr (same : r'.headers = r.headers) : r'.entry resolve = r.entry resolve := by
  have token_eq : r'.token? = r.token? := by
    unfold token? header?
    rw [same]
  rw [entry, token_eq, entry]

/-- A request is let in as the user of its token. -/
theorem entry_eq_ok_iff : r.entry resolve = .ok user ↔ r.Shows resolve user := by
  unfold entry
  constructor
  · intro h
    split at h
    · cases h
    · rename_i token shown
      refine ⟨token, token?_eq_some_iff.1 shown, ?_⟩
      cases resolved : resolve token with
      | ok u =>
        rw [resolved] at h
        exact congrArg Except.ok (Except.ok.inj h)
      | error e =>
        rw [resolved] at h
        cases h
  · rintro ⟨token, bears, resolved⟩
    rw [token?_eq_some_iff.2 bears]
    dsimp only
    rw [resolved]
    rfl

theorem unresolved_iff (shown : r.token? = some token) :
    r.Unresolved resolve ↔ ∃ reason, resolve token = .error (.serviceUnavailable reason) := by
  constructor
  · rintro ⟨token', reason, bears, out⟩
    obtain rfl : token = token' :=
      Option.some.inj (shown.symm.trans (token?_eq_some_iff.2 bears))
    exact ⟨reason, out⟩
  · rintro ⟨reason, out⟩
    exact ⟨token, reason, token?_eq_some_iff.1 shown, out⟩

/-- A request is turned away with 503 if its token cannot be resolved now, and else with 401. -/
theorem status_of_entry {refusal : Response} (h : r.entry resolve = .error refusal) :
    (refusal.status = 503 ∧ r.Unresolved resolve) ∨
      (refusal.status = 401 ∧ ¬r.Unresolved resolve) := by
  unfold entry at h
  split at h
  · rename_i no_token
    obtain rfl := Except.error.inj h
    refine .inr ⟨rfl, ?_⟩
    rintro ⟨token, _, bears, -⟩
    rw [token?_eq_some_iff.2 bears] at no_token
    cases no_token
  · rename_i token shown
    rw [unresolved_iff shown]
    cases resolved : resolve token with
    | ok u =>
      rw [resolved] at h
      cases h
    | error e =>
      rw [resolved] at h
      obtain rfl := Except.error.inj h
      cases e <;> simp [tokenRefusal, Response.refusal]

end Request

/-! ## What is asked for -/

open Json (bind_eq_ok bind_eq_error)

/-- The path and the method of the request are those of a route for lessons. -/
structure Request.AimsAt (r : Request) (route : Route) : Prop where
  path : Route.ofPath? (Http.path r.target.toList) = some route
  method : r.method ∈ methodsWith route.method

/-- The place of the number of a lesson in a path. -/
def Route.lesson? : Route → Option (List Char)
  | lessons => none
  | lesson id | move id _ | join id => some id

/-- A parameter tells the number of a lesson. -/
def Tells (param : List Char) (lesson : LessonId) : Prop :=
  ∃ text, Text.Percent.decode? param = some text ∧ Id.read text = .ok lesson

namespace Service

variable {s : Service} {r : Request} {route : Route} {user : UserId}

/-- What a user asks for with a request, if the request can be read. -/
def command (s : Service) (r : Request) (user : UserId) : Route → Except Response LessonRequest
  | .lessons => do
    let body ← bookingBody r
    return .book s.now (body.ofStudent user)
  | .lesson id => do
    let id ← lessonId (← parameter id)
    return .get user id
  | .move id name => do
    let id ← parameter id
    let name ← parameter name
    let id ← lessonId id
    return .move user id name
  | .join id => do
    let id ← lessonId (← parameter id)
    return .join user id

/-- A request is handled by carrying out what it asks for. -/
theorem handle_eq (s : Service) (r : Request) (user : UserId) (route : Route) :
    s.handle r user route = LessonRequest.carriedOut s.room <$> s.command r user route := by
  cases route <;> simp only [handle, command, map_bind, map_pure] <;> rfl

theorem actor_of_command {q : LessonRequest} (h : s.command r user route = .ok q) :
    q.actor = user := by
  cases route with
  | lessons =>
    obtain ⟨body, -, h⟩ := bind_eq_ok.1 h
    obtain rfl := Except.ok.inj h
    rfl
  | lesson id | join id =>
    obtain ⟨text, -, h⟩ := bind_eq_ok.1 h
    obtain ⟨lesson, -, h⟩ := bind_eq_ok.1 h
    obtain rfl := Except.ok.inj h
    rfl
  | move id name =>
    obtain ⟨text, -, h⟩ := bind_eq_ok.1 h
    obtain ⟨name, -, h⟩ := bind_eq_ok.1 h
    obtain ⟨lesson, -, h⟩ := bind_eq_ok.1 h
    obtain rfl := Except.ok.inj h
    rfl

theorem bookingBody_refused {refusal : Response} (h : bookingBody r = .error refusal) :
    refusal.status ∈ [400, 415, 422] := by
  unfold bookingBody at h
  split at h
  · cases read : BookingBody.readJson.leading r.body with
    | ok body =>
      rw [read] at h
      cases h
    | error fault =>
      rw [read] at h
      obtain rfl := Except.error.inj h
      cases fault <;> simp [Response.unreadable]
  · obtain rfl := Except.error.inj h
    simp [Response.unreadable]

/-- A path whose number of a lesson cannot be read is answered with 400, whatever else is wrong. -/
theorem status_of_untold {refusal : Response} {param : List Char}
    (h : s.command r user route = .error refusal) (place : route.lesson? = some param) :
    refusal.status = 400 := by
  cases route with
  | lessons => cases place
  | lesson id | join id =>
    rcases bind_eq_error.1 h with h | ⟨text, -, h⟩
    · exact parameter_refused h
    · rcases bind_eq_error.1 h with h | ⟨lesson, -, h⟩
      · exact lessonId_refused h
      · cases h
  | move id name =>
    rcases bind_eq_error.1 h with h | ⟨text, -, h⟩
    · exact parameter_refused h
    · rcases bind_eq_error.1 h with h | ⟨name, -, h⟩
      · exact parameter_refused h
      · rcases bind_eq_error.1 h with h | ⟨lesson, -, h⟩
        · exact lessonId_refused h
        · cases h

/-- A request that is not understood is answered with one of these. -/
theorem status_of_command {refusal : Response} (h : s.command r user route = .error refusal) :
    refusal.status ∈ [400, 415, 422] := by
  cases place : route.lesson? with
  | some param => simp [status_of_untold h place]
  | none =>
    cases route with
    | lessons =>
      rcases bind_eq_error.1 h with h | ⟨body, -, h⟩
      · exact bookingBody_refused h
      · cases h
    | _ => cases place

theorem tells_of_read {param : List Char} {text : String} {lesson : LessonId}
    (read : parameter param = .ok text) (number : lessonId text = .ok lesson) :
    Tells param lesson := by
  unfold parameter at read
  split at read
  · rename_i decoded
    obtain rfl := Except.ok.inj read
    refine ⟨_, decoded, ?_⟩
    unfold lessonId at number
    cases found : (Id.read _ : Except _ LessonId) with
    | ok id =>
      rw [found] at number
      exact congrArg Except.ok (Except.ok.inj number)
    | error fault =>
      rw [found] at number
      cases number
  · cases read

/-- A request on a lesson is understood only if its path tells the number of the lesson. -/
theorem tells_of_command {q : LessonRequest} {param : List Char}
    (h : s.command r user route = .ok q) (place : route.lesson? = some param) :
    ∃ lesson, Tells param lesson := by
  cases route with
  | lessons => cases place
  | lesson id | join id =>
    obtain rfl := Option.some.inj place
    obtain ⟨text, read, h⟩ := bind_eq_ok.1 h
    obtain ⟨lesson, number, -⟩ := bind_eq_ok.1 h
    exact ⟨lesson, tells_of_read read number⟩
  | move id name =>
    obtain rfl := Option.some.inj place
    obtain ⟨text, read, h⟩ := bind_eq_ok.1 h
    obtain ⟨name, -, h⟩ := bind_eq_ok.1 h
    obtain ⟨lesson, number, -⟩ := bind_eq_ok.1 h
    exact ⟨lesson, tells_of_read read number⟩

/-- What a request for lessons asks for, or the response that it gets at once. -/
def asked (s : Service) (r : Request) (route : Route) : Except Response LessonRequest :=
  r.entry s.resolve >>= fun user => s.command r user route

/-- A request for lessons gets its response at once, or it is carried out. -/
theorem respond_eq (s : Service) (aimed : r.AimsAt route) :
    s.respond r = Response.shown r.method <$>
      match s.asked r route with
      | .ok q => q.carriedOut s.room
      | .error refusal => .done refusal := by
  have not_health : path r.target.toList ≠ healthPath := by
    intro health
    have there := aimed.path
    rw [health] at there
    cases there
  simp only [respond, if_neg not_health, aimed.path, if_pos aimed.method]
  congr 1
  unfold gate serve asked Request.entry Request.user
  cases r.token? with
  | none => rfl
  | some token =>
    dsimp only
    cases s.resolve token with
    | error e => rfl
    | ok user =>
      dsimp only
      rw [handle_eq]
      show _ = match s.command r user route with
        | .ok q => q.carriedOut s.room
        | .error refusal => .done refusal
      cases s.command r user route with
      | ok q => rfl
      | error refusal => rfl

/-- Every request gets its response at once, or what it asks for is carried out. -/
theorem respond_cases (s : Service) (r : Request) :
    (∃ response, s.respond r = .done response) ∨
      ∃ q : LessonRequest, s.respond r = Response.shown r.method <$> q.carriedOut s.room := by
  have at_once (f : Response → Response) (response : Response) :
      ∃ response', f <$> s.gate r (fun _ => pure response) = .done response' := by
    unfold gate
    split
    · exact ⟨_, rfl⟩
    · exact ⟨_, rfl⟩
  cases path : Route.ofPath? (Http.path r.target.toList) with
  | none =>
    refine .inl ?_
    by_cases health : Http.path r.target.toList = healthPath
    · exact ⟨Http.health r.method, by simp only [respond, if_pos health, Program.pure_eq]⟩
    · obtain ⟨response, h⟩ := at_once id { status := 404 }
      refine ⟨response, ?_⟩
      simp only [respond, if_neg health, path]
      rwa [id_map] at h
  | some route =>
    by_cases method : r.method ∈ methodsWith route.method
    · rw [respond_eq s ⟨path, method⟩]
      cases s.asked r route with
      | ok q => exact .inr ⟨q, rfl⟩
      | error refusal => exact .inl ⟨_, rfl⟩
    · refine .inl ?_
      obtain ⟨response, h⟩ := at_once (Response.notAllowed route.method) { status := 405 }
      have not_health : Http.path r.target.toList ≠ healthPath := by
        intro health
        rw [health] at path
        cases path
      refine ⟨response, ?_⟩
      simp only [respond, if_neg not_health, path, if_neg method]
      exact h

theorem asked_of_refused {refusal : Response} (h : r.entry s.resolve = .error refusal) :
    s.asked r route = .error refusal := by
  rw [asked, h]
  rfl

theorem asked_of_user (h : r.entry s.resolve = .ok user) :
    s.asked r route = s.command r user route := by
  rw [asked, h]
  rfl

end Service

/-! ## The gate -/

/-- A request for lessons comes to the gate like another request: with the same headers, to a
service with the same resolver. Its method, its path and its body are its own. -/
structure SameGate (s : Service) (r : Request) (s' : Service) (r' : Request) (route : Route) :
    Prop where
  resolve : s'.resolve = s.resolve
  headers : r'.headers = r.headers
  aimed : r'.AimsAt route

variable {s s' : Service} {r r' : Request} {route : Route}

theorem SameGate.entry_eq (h : SameGate s r s' r' route) :
    r'.entry s'.resolve = r.entry s.resolve := by
  rw [h.resolve]
  exact Request.entry_congr h.headers

theorem SameGate.respond_of_refused (h : SameGate s r s' r' route) {refusal : Response}
    (refused : r.entry s.resolve = .error refusal) :
    s'.respond r' = .done (Response.shown r'.method refusal) := by
  rw [Service.respond_eq s' h.aimed, Service.asked_of_refused (h.entry_eq.trans refused)]
  rfl

theorem SameGate.respond_of_user (h : SameGate s r s' r' route) {user : UserId}
    (entered : r.entry s.resolve = .ok user) :
    s'.respond r' = Response.shown r'.method <$>
      match s'.command r' user route with
      | .ok q => q.carriedOut s'.room
      | .error refusal => .done refusal := by
  rw [Service.respond_eq s' h.aimed, Service.asked_of_user (h.entry_eq.trans entered)]

/-- **The gate.** If the headers of a request do not show a user, then all requests for lessons that
come with these headers get one and the same refusal, whatever their paths and bodies are; they make
no call, so they get it in every world. If the headers show a user, then every such request is
answered at once since it cannot be understood, and it is not understood without the number of its
lesson; or what it asks for is carried out with that user as its actor, and in the name of nobody
else. -/
theorem requests_are_gated (s : Service) (r : Request) :
    ((∀ user, ¬r.Shows s.resolve user) →
      ∃ refusal : Response,
        ((refusal.status = 503 ∧ r.Unresolved s.resolve) ∨
          (refusal.status = 401 ∧ ¬r.Unresolved s.resolve)) ∧
        ∀ s' r' route, SameGate s r s' r' route →
          s'.respond r' = .done (Response.shown r'.method refusal)) ∧
    (∀ user, r.Shows s.resolve user →
      ∀ s' r' route, SameGate s r s' r' route →
        (∀ q, s'.command r' user route = .ok q →
          s'.respond r' = Response.shown r'.method <$> q.carriedOut s'.room ∧ q.actor = user ∧
            (q.program s'.room).Meets (ownTerms user) (fun _ _ => True) []) ∧
        (∀ refusal, s'.command r' user route = .error refusal →
          s'.respond r' = .done (Response.shown r'.method refusal) ∧
            refusal.status ∈ [400, 415, 422]) ∧
        ∀ param, route.lesson? = some param → (∀ lesson, ¬Tells param lesson) →
          ∃ refusal : Response, refusal.status = 400 ∧
            s'.respond r' = .done (Response.shown r'.method refusal)) := by
  constructor
  · intro unknown
    cases entry : r.entry s.resolve with
    | ok user => exact absurd (Request.entry_eq_ok_iff.1 entry) (unknown user)
    | error refusal =>
      exact ⟨refusal, Request.status_of_entry entry, fun _ _ _ same =>
        same.respond_of_refused entry⟩
  · intro user shows s' r' route same
    have responds := same.respond_of_user (Request.entry_eq_ok_iff.2 shows)
    have refused : ∀ refusal, s'.command r' user route = .error refusal →
        s'.respond r' = .done (Response.shown r'.method refusal) := by
      intro refusal command
      rw [responds, command]
      rfl
    refine ⟨fun q command => ?_, fun refusal command => ?_, fun param place untold => ?_⟩
    · obtain rfl : q.actor = user := Service.actor_of_command command
      exact ⟨by rw [responds, command], rfl, q.meets_own s'.room⟩
    · exact ⟨refused refusal command, Service.status_of_command command⟩
    · cases command : s'.command r' user route with
      | ok q =>
        obtain ⟨lesson, tells⟩ := Service.tells_of_command command place
        exact absurd tells (untold lesson)
      | error refusal =>
        exact ⟨refusal, Service.status_of_untold command place, refused refusal command⟩

/-- A token that is too old: the client is told so, and nothing is called. -/
example : Service.respond ⟨fun _ => .error .tokenExpired, fun _ => "", .epoch⟩ .approval =
    .done (.refusal 401 "AUTH_ERROR" "Token expired") := rfl

end Http

end Tutoring
