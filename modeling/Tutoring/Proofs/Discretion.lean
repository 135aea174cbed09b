import Tutoring.Proofs.Report

/-!
# What a refused actor learns

Whether an actor may act on a lesson at all is decided from the directory and the lesson, before
anything is asked of the state machines. An actor who is refused gets the same answer whatever is
stored there, and the meeting provider is not asked either.

* `LooksUp`: collaborators of any kind that look up people and lessons in given tables. All their
  other answers are open.
* `Program.Meets.recorded`: a program that keeps to a contract comes to its end as the contract says
  on any collaborators that answer its calls as it relies on, and they stay as they are.
* `Access.refused_meets`: what a request does for an actor who fails its guard.
* `refused_learn_nothing`: the result and the response are the same for all collaborators.
-/

namespace Tutoring

/-! ## Recorded runs -/

namespace Program

variable {α σ : Type} {reply : (c : Call) → StateM σ c.Reply} {x : σ}

/-- Answers calls and keeps the log of them. -/
def recorded (reply : (c : Call) → StateM σ c.Reply) (c : Call) : StateM (Log × σ) c.Reply :=
  fun (log, x) =>
    let (r, x') := reply c x
    (r, ⟨c, r⟩ :: log, x')

/-- Where every call that the contract allows is answered as it says, without any effect, the
program comes to its end as the contract says. -/
theorem Meets.recorded {K : Contract} {Q : Log → α → Prop} {p : Program α} {log : Log}
    (h : p.Meets K Q log)
    (serves : ∀ log c, K.guar log c → K.rely ⟨c, (reply c x).1⟩ ∧ (reply c x).2 = x) :
    ∃ a log', p.interpret (Program.recorded reply) (log, x) = (a, log', x) ∧ Q log' a := by
  induction p generalizing log with
  | done a => exact ⟨a, log, rfl, h⟩
  | call c next ih =>
    obtain ⟨allowed, rest⟩ := h
    obtain ⟨relied, same⟩ := serves log c allowed
    obtain ⟨a, log', ends, post⟩ := ih _ (rest _ relied)
    refine ⟨a, log', ?_, post⟩
    rw [← ends]
    show (next (reply c x).1).interpret (Program.recorded reply)
      (⟨c, (reply c x).1⟩ :: log, (reply c x).2) = _
    rw [same]

end Program

/-! ## Looking up people and lessons -/

/-- In the state `x`, collaborators look up users, profiles and lessons in these tables, and do not
change. -/
structure LooksUp {σ : Type} (d : Directory) (lessons : Table LessonId Lesson)
    (reply : (c : Call) → StateM σ c.Reply) (x : σ) : Prop where
  user : ∀ id, reply (.findUser id) x = (.ok (d.users.get? id), x)
  teacher : ∀ user, reply (.findTeacherByUser user) x = (.ok (d.teacherOf? user), x)
  lesson : ∀ id, reply (.findLesson id) x = (.ok (lessons.get? id), x)

/-- Stores in memory look up people and lessons in their tables, whatever else they hold. -/
theorem World.looksUp (w : World) (meet : String → String → Except MeetingError Credential) :
    LooksUp w.directory w.lessons (fun c w => w.step meet c) w :=
  ⟨fun _ => rfl, fun _ => rfl, fun _ => rfl⟩

section Access

variable {d : Directory} {lessons : Table LessonId Lesson} {user : UserId} {lesson : LessonId}
  {l : Lesson} {g : Guard}

/-- The look-ups of people and lessons, and no other calls. -/
def lookTerms (d : Directory) (lessons : Table LessonId Lesson) : Contract where
  rely
    | ⟨.findUser id, r⟩ => r = .ok (d.users.get? id)
    | ⟨.findTeacherByUser user, r⟩ => r = .ok (d.teacherOf? user)
    | ⟨.findLesson id, r⟩ => r = .ok (lessons.get? id)
    | _ => True
  guar _
    | .findUser _ | .findTeacherByUser _ | .findLesson _ => True
    | _ => False

theorem LooksUp.serves {σ : Type} {reply : (c : Call) → StateM σ c.Reply} {x : σ}
    (h : LooksUp d lessons reply x) (log : Log) (c : Call)
    (allowed : (lookTerms d lessons).guar log c) :
    (lookTerms d lessons).rely ⟨c, (reply c x).1⟩ ∧ (reply c x).2 = x := by
  cases c with
  | findUser id => exact ⟨congrArg Prod.fst (h.user id), congrArg Prod.snd (h.user id)⟩
  | findTeacherByUser user =>
    exact ⟨congrArg Prod.fst (h.teacher user), congrArg Prod.snd (h.teacher user)⟩
  | findLesson id => exact ⟨congrArg Prod.fst (h.lesson id), congrArg Prod.snd (h.lesson id)⟩
  | _ => exact allowed.elim

/-- The log of the look-ups of an actor and a lesson. -/
def Access.lookups (d : Directory) (lessons : Table LessonId Lesson) (user : UserId)
    (lesson : LessonId) : Log :=
  [⟨.findTeacherByUser user, .ok (d.teacherOf? user)⟩,
    ⟨.findLesson lesson, .ok (lessons.get? lesson)⟩, ⟨.findUser user, .ok (d.users.get? user)⟩]

/-- The lesson and its actor are loaded as the tables have them. -/
theorem Access.load_looks (stored : lessons.get? lesson = some l) :
    Task.Meets (lookTerms d lessons) (Access.load user lesson)
      (fun log a => (d.users.get? user).isSome = true ∧ log = Access.lookups d lessons user lesson ∧
        a = ⟨l, user, d.teacherOf? user⟩)
      (fun _ e => (d.users.get? user).isSome = false ∧ e = .actorNotFound user) [] := by
  simp only [Access.load, Task.meets_bind, Task.meets_ask, Task.meets_demand, Task.meets_pure]
  refine ⟨trivial, fun found hu => ?_, fun f hf => by cases hf⟩
  obtain rfl : found = d.users.get? user := Except.ok.inj hu
  refine ⟨fun u there => ⟨trivial, fun found hl => ?_, fun f hf => by cases hf⟩, fun missing => ?_⟩
  · obtain rfl : found = lessons.get? lesson := Except.ok.inj hl
    rw [stored]
    refine ⟨?_, fun missing => by cases missing⟩
    rintro _ ⟨rfl⟩
    refine ⟨trivial, fun found ht => ?_, fun f hf => by cases hf⟩
    obtain rfl : found = d.teacherOf? user := Except.ok.inj ht
    refine ⟨?_, ?_, rfl⟩
    · rw [there]
      rfl
    · rw [Access.lookups, stored]
  · rw [missing]
    exact ⟨rfl, trivial⟩

/-- A task that checks a guard first, for an actor who fails it: it ends with the refusal after the
look-ups. If there is no such user, it ends with that. -/
theorem Access.refused_meets {α : Type} {next : Access → LessonTask α}
    (stored : lessons.get? lesson = some l)
    (refused : g.permits l ⟨user, d.teacherOf? user⟩ = false) :
    Task.Meets (lookTerms d lessons)
      (Access.load user lesson >>= fun a =>
        Task.check (g.check a.lesson a.actor) >>= fun _ => next a)
      (fun _ _ => False)
      (fun log e => ((d.users.get? user).isSome = false ∧ e = .actorNotFound user) ∨
        ((d.users.get? user).isSome = true ∧ log = Access.lookups d lessons user lesson ∧
          e = g.refusal l ⟨user, d.teacherOf? user⟩)) [] := by
  have fails : g.check l ⟨user, d.teacherOf? user⟩ =
      .error (g.refusal l ⟨user, d.teacherOf? user⟩) := by
    unfold Guard.check
    rw [refused]
    rfl
  rw [Task.meets_bind]
  refine (Access.load_looks stored).mono (fun _ h => h) (fun _ _ h => h) ?_ fun _ _ h => .inl h
  rintro log a ⟨known, rfl, rfl⟩
  rw [Task.meets_bind, Task.meets_check, fails]
  refine ⟨fun _ h => (nomatch h), fun e he => .inr ⟨known, rfl, ?_⟩⟩
  exact (Except.error.inj he).symm

end Access

/-! ## Requests on a lesson -/

theorem kind_of_readMove {name : String} {e : LessonError} (h : readMove name = .error e) :
    e.kind = .validation := by
  unfold readMove at h
  split at h
  · obtain rfl := Except.error.inj h
    rfl
  · split at h
    · obtain rfl := Except.error.inj h
      rfl
    · cases h

namespace LessonRequest

/-- The request is one of the user on the lesson. -/
def Concerns (user : UserId) (lesson : LessonId) : LessonRequest → Prop
  | book _ _ => False
  | get u l | join u l | move u l _ => u = user ∧ l = lesson

/-- The request of the user on the lesson has this guard. -/
inductive Asks (user : UserId) (lesson : LessonId) : LessonRequest → Guard → Prop
  | get : Asks user lesson (.get user lesson) .eitherParty
  | join : Asks user lesson (.join user lesson) LessonAction.join.guard
  | move {name : String} {action : LessonAction} {goal : StateName}
      (read_eq : readMove name = .ok (action, goal)) :
      Asks user lesson (.move user lesson name) action.guard

variable {r : LessonRequest} {g : Guard} {user : UserId} {lesson : LessonId}

/-- A request looks up the actor and the lesson and checks its guard before anything else. -/
theorem Asks.program_eq (h : r.Asks user lesson g) (room : LessonId → String) :
    ∃ next : Access → LessonTask r.Answer, r.program room = (Access.load user lesson >>= fun a =>
      Task.check (g.check a.lesson a.actor) >>= fun _ => next a).run := by
  cases h with
  | get => exact ⟨_, rfl⟩
  | join => exact ⟨_, rfl⟩
  | move read_eq => exact ⟨_, congrArg ExceptT.run (Task.check_bind_of_ok read_eq _)⟩

/-- A request on a lesson has a guard, or it is a move that names no transition. -/
theorem Concerns.asks_or_misnamed (h : r.Concerns user lesson) (room : LessonId → String) :
    (∃ g, r.Asks user lesson g) ∨
      ∃ e, e.kind = .validation ∧ r.program room = .done (.error e) := by
  cases r with
  | book => exact h.elim
  | get u l =>
    obtain ⟨rfl, rfl⟩ := h
    exact .inl ⟨_, .get⟩
  | join u l =>
    obtain ⟨rfl, rfl⟩ := h
    exact .inl ⟨_, .join⟩
  | move u l name =>
    obtain ⟨rfl, rfl⟩ := h
    cases read_eq : readMove name with
    | ok read => exact .inl ⟨_, .move read_eq⟩
    | error e =>
      refine .inr ⟨e, kind_of_readMove read_eq, ?_⟩
      rw [program, moveLesson, read_eq]
      rfl

end LessonRequest

theorem Guard.kind_refusal (g : Guard) (l : Lesson) (a : Actor) :
    (g.refusal l a).kind = .forbidden := by
  cases g
  · unfold refusal
    dsimp only
    split <;> rfl
  · rfl
  · rfl

/-- Whoever has any of the relations is a party of the lesson. -/
theorem Guard.permits_eitherParty {g : Guard} {l : Lesson} {a : Actor}
    (h : g.permits l a = true) : Guard.eitherParty.permits l a = true := by
  cases g with
  | eitherParty => exact h
  | teacherOfLesson => exact Bool.or_eq_true_iff.2 (.inr h)
  | studentOfLesson => exact Bool.or_eq_true_iff.2 (.inl h)

theorem Guard.refuses_outsider {l : Lesson} {a : Actor}
    (outsider : Guard.eitherParty.permits l a = false) (g : Guard) : g.permits l a = false := by
  cases h : g.permits l a with
  | false => rfl
  | true => exact nomatch (Guard.permits_eitherParty h).symm.trans outsider

namespace Http

/-- What a client asks for on a lesson, once its token and its parameters have been read. -/
inductive Reads (resolve : Resolver) (req : Request) : LessonRequest → Prop
  | get {user : UserId} {id : List Char} {text : String} {lesson : LessonId}
      (route : Route.ofPath? (path req.target.toList) = some (.lesson id))
      (method : req.method ∈ methodsWith "GET") (token : req.user resolve = .ok (some user))
      (param : parameter id = .ok text) (number : lessonId text = .ok lesson) :
      Reads resolve req (.get user lesson)
  | join {user : UserId} {id : List Char} {text : String} {lesson : LessonId}
      (route : Route.ofPath? (path req.target.toList) = some (.join id))
      (method : req.method ∈ methodsWith "POST") (token : req.user resolve = .ok (some user))
      (param : parameter id = .ok text) (number : lessonId text = .ok lesson) :
      Reads resolve req (.join user lesson)
  | move {user : UserId} {id action : List Char} {text name : String} {lesson : LessonId}
      (route : Route.ofPath? (path req.target.toList) = some (.move id action))
      (method : req.method ∈ methodsWith "POST") (token : req.user resolve = .ok (some user))
      (param : parameter id = .ok text) (named : parameter action = .ok name)
      (number : lessonId text = .ok lesson) :
      Reads resolve req (.move user lesson name)

/-- A request that can be read is carried out, and its result is shown. -/
theorem Reads.respond_eq {s : Service} {req : Request} {r : LessonRequest}
    (h : Reads s.resolve req r) : ∃ status, ∃ body : r.Answer → Json,
      s.respond req = Response.shown req.method <$>
        answer status body (ExceptT.mk (r.program s.room)) := by
  have carried_out {route : Route} {user : UserId} {p : Program Response}
      (there : Route.ofPath? (path req.target.toList) = some route)
      (method : req.method ∈ methodsWith route.method)
      (token : req.user s.resolve = .ok (some user)) (handled : s.handle req user route = .ok p) :
      s.respond req = Response.shown req.method <$> p := by
    have not_health : path req.target.toList ≠ healthPath := by
      intro health
      rw [health] at there
      cases there
    simp only [Service.respond, if_neg not_health, there, if_pos method, Service.gate, token,
      Service.serve, handled]
  cases h with
  | @get user id text lesson route method token param number =>
    refine ⟨200, viewBody, carried_out route method token ?_⟩
    simp only [Service.handle, param]
    show (lessonId text >>= _) = _
    rw [number]
    rfl
  | @join user id text lesson route method token param number =>
    refine ⟨200, admissionBody, carried_out route method token ?_⟩
    simp only [Service.handle, param]
    show (lessonId text >>= _) = _
    rw [number]
    rfl
  | @move user id action text name lesson route method token param named number =>
    refine ⟨200, movedBody, carried_out route method token ?_⟩
    simp only [Service.handle, param, named]
    show (lessonId text >>= _) = _
    rw [number]
    rfl

end Http

/-! ## Requests that are refused -/

section Refused

variable {d : Directory} {lessons : Table LessonId Lesson} {user : UserId} {lesson : LessonId}
  {l : Lesson} {g : Guard} {r : LessonRequest}

/-- The result of a request that its guard refuses. -/
theorem LessonRequest.Asks.meets (asks : r.Asks user lesson g) (room : LessonId → String)
    (stored : lessons.get? lesson = some l) (known : (d.users.get? user).isSome = true)
    (refused : g.permits l ⟨user, d.teacherOf? user⟩ = false) :
    (r.program room).Meets (lookTerms d lessons)
      (fun log result => log = Access.lookups d lessons user lesson ∧
        result = .error (g.refusal l ⟨user, d.teacherOf? user⟩)) [] := by
  obtain ⟨next, shape⟩ := asks.program_eq room
  rw [shape]
  refine Program.Meets.mono (Access.refused_meets stored refused) (fun _ h => h) (fun _ _ h => h) ?_
  rintro log (e | a) ended
  · rcases ended with ⟨unknown, _⟩ | ⟨_, rfl, rfl⟩
    · exact nomatch unknown.symm.trans known
    · exact ⟨rfl, rfl⟩
  · exact ended.elim

/-- The response to a request that its guard refuses. -/
theorem LessonRequest.Asks.meets_respond {s : Http.Service} {req : Http.Request}
    (asks : r.Asks user lesson g) (reads : Http.Reads s.resolve req r)
    (stored : lessons.get? lesson = some l) (known : (d.users.get? user).isSome = true)
    (refused : g.permits l ⟨user, d.teacherOf? user⟩ = false) :
    (s.respond req).Meets (lookTerms d lessons)
      (fun log response => log = Access.lookups d lessons user lesson ∧ response =
        .shown req.method (Http.errorResponse (g.refusal l ⟨user, d.teacherOf? user⟩))) [] := by
  obtain ⟨status, body, shape⟩ := reads.respond_eq
  rw [shape, map_eq_pure_bind, Program.meets_bind]
  refine Http.meets_answer.2 ?_
  refine Program.Meets.mono (asks.meets s.room stored known refused) (fun _ h => h)
    (fun _ _ h => h) ?_
  rintro log _ ⟨rfl, rfl⟩
  exact ⟨rfl, rfl⟩

/-- The result of a request on a lesson for a user who is no party of the lesson, or who does not
exist: there is no word about the state. -/
theorem LessonRequest.Concerns.meets (concerns : r.Concerns user lesson) (room : LessonId → String)
    (stored : lessons.get? lesson = some l)
    (outsider : Guard.eitherParty.permits l ⟨user, d.teacherOf? user⟩ = false) :
    (r.program room).Meets (lookTerms d lessons)
      (fun _ result => ∃ e, result = .error e ∧ e.kind ≠ .illegalTransition) [] := by
  rcases concerns.asks_or_misnamed room with
    ⟨g, asks⟩ | ⟨e, validation, shape⟩
  · obtain ⟨next, shape⟩ := asks.program_eq room
    rw [shape]
    refine Program.Meets.mono (Access.refused_meets stored (Guard.refuses_outsider outsider g))
      (fun _ h => h) (fun _ _ h => h) ?_
    rintro log (e | a) ended
    · refine ⟨e, rfl, ?_⟩
      rcases ended with ⟨_, rfl⟩ | ⟨_, _, rfl⟩
      · exact nofun
      · rw [Guard.kind_refusal]
        exact nofun
    · exact ended.elim
  · rw [shape]
    refine ⟨e, rfl, ?_⟩
    rw [validation]
    exact nofun

theorem Access.collaborator_lookups : ∀ e ∈ Access.lookups d lessons user lesson,
    e.call.collaborator = .directory ∨ e.call.collaborator = .lessons := by
  simp [Access.lookups, Call.collaborator]

end Refused

/-- **Who is refused learns nothing about the state of a lesson.** Let an actor fail the guard of a
request on a lesson. Then the result, the response and all calls are the same for any collaborators
that look up people and lessons alike, whatever they answer about items, machines and meetings; they
are not asked about these, and nothing changes. No request of an outsider is ever answered by what
the state does not allow. -/
theorem refused_learn_nothing {d : Directory} {lessons : Table LessonId Lesson} {user : UserId}
    {lesson : LessonId} {l : Lesson} (stored : lessons.get? lesson = some l) :
    (∀ r g, LessonRequest.Asks user lesson r g → (d.users.get? user).isSome = true →
      g.permits l ⟨user, d.teacherOf? user⟩ = false →
      ∃ (e : LessonError) (log : Log), e.kind = .forbidden ∧
        (∀ c ∈ log, c.call.collaborator = .directory ∨ c.call.collaborator = .lessons) ∧
        ∀ (σ : Type) (reply : (c : Call) → StateM σ c.Reply) (x : σ), LooksUp d lessons reply x →
          (∀ room, (r.program room).interpret (Program.recorded reply) ([], x) =
            (.error e, log, x)) ∧
          ∀ (s : Http.Service) req, Http.Reads s.resolve req r →
            (s.respond req).interpret (Program.recorded reply) ([], x) =
              (.shown req.method (Http.errorResponse e), log, x)) ∧
    (Guard.eitherParty.permits l ⟨user, d.teacherOf? user⟩ = false →
      ∀ r : LessonRequest, r.Concerns user lesson →
      ∀ (σ : Type) (reply : (c : Call) → StateM σ c.Reply) (x : σ), LooksUp d lessons reply x →
        ∀ room, ∃ (e : LessonError) (log : Log),
          (r.program room).interpret (Program.recorded reply) ([], x) = (.error e, log, x) ∧
          e.kind ≠ .illegalTransition) := by
  constructor
  · intro r g asks known refused
    refine ⟨g.refusal l ⟨user, d.teacherOf? user⟩, Access.lookups d lessons user lesson,
      Guard.kind_refusal _ _ _, Access.collaborator_lookups, ?_⟩
    intro σ reply x looks
    constructor
    · intro room
      obtain ⟨_, _, ends, rfl, rfl⟩ :=
        (asks.meets room stored known refused).recorded looks.serves
      exact ends
    · intro s req reads
      obtain ⟨_, _, ends, rfl, rfl⟩ :=
        (asks.meets_respond reads stored known refused).recorded looks.serves
      exact ends
  · intro outsider r concerns σ reply x looks room
    obtain ⟨_, log, ends, e, rfl, kind⟩ :=
      (concerns.meets room stored outsider).recorded looks.serves
    exact ⟨e, log, ends, kind⟩

/-- The student of the small world asks to approve the lesson. -/
def Http.Request.approval : Http.Request where
  method := "POST"
  target := "/lessons/1/transitions/approve"
  headers := [("authorization", "Bearer student")]
  body := ""

/-- The student is told the same whether the item of the lesson is there or not, and so is a
stranger. -/
theorem refused_learn_nothing_approval :
    ∃ (e : LessonError) (log : Log), e.kind = .forbidden ∧
      ∀ w ∈ [World.sample, { World.sample with items := .empty }],
        (Http.Service.respond ⟨fun _ => .ok (.ofInt 1), fun _ => "", .epoch⟩ .approval).interpret
            (Program.recorded fun c w => w.step (fun _ _ => .error (.unavailable "")) c) ([], w) =
          (Http.errorResponse e, log, w) ∧
        ∃ (e' : LessonError) (log' : Log),
          ((LessonRequest.get (.ofInt 3) (.ofInt 1)).program fun _ => "").interpret
              (Program.recorded fun c w => w.step (fun _ _ => .error (.unavailable "")) c) ([], w) =
            (.error e', log', w) ∧ e'.kind ≠ .illegalTransition := by
  have stored : World.sample.lessons.get? (.ofInt 1) =
    some ⟨⟨.ofInt 1, .ofInt 1, .ofInt 1, .ofInt 1, .ofInt 1, .epoch⟩, .ofInt 1⟩ := rfl
  have asks : LessonRequest.Asks (.ofInt 1) (.ofInt 1) (.move (.ofInt 1) (.ofInt 1) "approve")
    LessonAction.approve.guard := .move rfl
  have reads : Http.Reads (fun _ => .ok (.ofInt 1)) .approval
    (.move (.ofInt 1) (.ofInt 1) "approve") := .move rfl (by decide) rfl rfl rfl rfl
  obtain ⟨e, log, kind, -, same⟩ :=
    (refused_learn_nothing (d := World.sample.directory) stored).1 _ _ asks rfl rfl
  refine ⟨e, log, kind, fun w hw => ?_⟩
  have looks : LooksUp World.sample.directory World.sample.lessons
      (fun c (w : World) => w.step (fun _ _ => .error (.unavailable "")) c) w := by
    rcases List.mem_cons.1 hw with rfl | hw
    · exact World.looksUp _ _
    · obtain rfl := List.mem_singleton.1 hw
      exact World.looksUp { World.sample with items := .empty } _
  refine ⟨(same _ _ w looks).2 _ _ reads, ?_⟩
  exact (refused_learn_nothing (d := World.sample.directory) stored).2 rfl
    (.get (.ofInt 3) (.ofInt 1)) ⟨rfl, rfl⟩ _ _ w looks _

end Tutoring
