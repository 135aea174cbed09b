import Tutoring.Proofs.Authorization

/-!
# Who is let into a meeting

A credential is asked for by a join, which has seen the lesson going on, or by a start, which has
moved the lesson there itself. Other requests may change the state at any time, so what is shown is
a moment within the same request at which the lesson was going on.

* `LessonRequest.meets_entryTerms`: a request asks for one credential at most, with its last call,
  and only when its log bears out that the actor is entitled to it (`LessonRequest.Entitled`).
* `Run.moment_of_seen`, `Run.moment_of_moved`: what a log bears out was so in a world of the run.
* `credentials_for_parties`: every credential that a run asks for.
-/

namespace Tutoring

/-! ## Asking once -/

/-- The call asks for a credential. -/
def Call.admits : Call → Bool
  | .issueCredential _ _ => true
  | _ => false

/-- What a log has asked of the meeting provider. -/
def Log.admissions (log : Log) : Log := log.filter (·.call.admits)

theorem Log.admissions_cons_of_plain {e : Event} {log : Log} (h : e.call.admits = false) :
    Log.admissions (e :: log) = log.admissions :=
  List.filter_cons_of_neg (by simp [h])

/-- Nothing is called once a credential has been asked for. -/
def askOnce : Contract := ⟨fun _ => True, fun log _ => log.admissions = []⟩

section Once

variable {ε α : Type} {K : Contract} {log : Log}

/-- A program that never asks for a credential leaves it to a later part to ask for one. -/
theorem Program.Meets.unasked {α : Type} {p : Program α} {Q : Log → α → Prop}
    (h : p.Meets K Q log) (plain : ∀ log c, K.guar log c → c.admits = false)
    (unasked : log.admissions = []) :
    p.Meets ⟨K.rely, fun log c => c.admits = false ∧ log.admissions = []⟩
      (fun log a => Q log a ∧ log.admissions = []) log := by
  refine (h.keeping (I := fun log => log.admissions = []) unasked ?_).mono (fun _ he => he)
    (fun log c hc => ⟨plain log c hc.1, hc.2⟩) fun _ _ h => h
  intro log e unasked allowed _
  rw [Log.admissions_cons_of_plain (plain log e.call allowed)]
  exact unasked

theorem Task.Meets.unasked {t : Task ε α} {Q : Log → α → Prop} {E : Log → ε → Prop}
    (h : Task.Meets K t Q E log) (rely : ∀ e, K.rely e)
    (plain : ∀ log c, K.guar log c → c.admits = false) (unasked : log.admissions = []) :
    Task.Meets askOnce t (fun log a => Q log a ∧ log.admissions = []) (fun _ _ => True) log := by
  refine Program.Meets.mono (Program.Meets.unasked h plain unasked) (fun e _ => rely e)
    (fun _ _ hc => hc.2) ?_
  rintro log (e | a) ⟨ended, unasked⟩
  · trivial
  · exact ⟨ended, unasked⟩

theorem moveLesson_once (room : LessonId → String) (user : UserId) (lesson : LessonId)
    (name : String) :
    (moveLesson room user lesson name).run.Meets askOnce (fun _ _ => True) [] := by
  have loads : Task.Meets (getTerms fun _ => True) (Access.load user lesson)
      (fun log a => Log.Still [] log ∧ Access.Loaded user lesson log a)
      (fun log e => Log.Still [] log ∧ e.started = false) [] :=
    Access.load_meets trivial (fun _ _ => trivial) (fun _ _ => trivial)
  refine Program.Meets.mono (Q := Task.Ends (fun _ _ => True) fun _ _ => True) ?_ (fun _ h => h)
    (fun _ _ h => h) fun _ _ _ => trivial
  show Task.Meets askOnce (moveLesson room user lesson name) _ _ []
  simp only [moveLesson, Task.meets_bind, Task.meets_check]
  refine ⟨?_, fun _ _ => trivial⟩
  rintro ⟨action, goal⟩ -
  refine (loads.unasked (fun _ => trivial) ?_ rfl).mono (fun _ h => h) (fun _ _ h => h) ?_
    fun _ _ h => h
  · intro log c allowed
    cases c with
    | issueCredential => exact allowed.elim
    | _ => rfl
  rintro log access ⟨-, unasked⟩
  simp only [LessonTask.meets_engine, Engine.current, Engine.load, issueCredential,
    Task.meets_bind, Task.meets_ask, Task.meets_demand, Task.meets_ite, Task.meets_map,
    Task.meets_pure]
  refine ⟨fun _ _ => ⟨unasked, fun answer _ => ⟨?_, fun _ => trivial⟩, fun _ _ => trivial⟩,
    fun _ _ => trivial⟩
  rintro ⟨found, observed⟩ -
  refine ⟨fun _ _ => ?_, fun _ _ => trivial⟩
  refine ((Engine.transition_meets (fun _ => True) _ _ goal _).unasked (fun _ => trivial) ?_
    (by exact unasked)).mono (fun _ h => h) (fun _ _ h => h) ?_ fun _ _ _ => trivial
  · intro log c allowed
    cases c with
    | issueCredential => exact allowed.elim
    | _ => rfl
  · rintro log reached ⟨-, unasked⟩
    exact ⟨fun _ => ⟨unasked, fun _ _ => trivial, fun _ _ => trivial⟩, fun _ => trivial⟩

end Once

/-! ## Who is entitled -/

/-- A join has seen the lesson going on, and a start has moved it there. -/
def LessonRequest.Entitled (room : LessonId → String) (r : LessonRequest) (log : Log)
    (place identity : String) : Prop :=
  match r with
  | join user lesson => ∃ access observed, Access.Loaded user lesson log access ∧
    Engine.Seen access.lesson.item observed log ∧
    LessonAction.join.authorize access.lesson access.actor observed.name = .ok () ∧
    place = room access.lesson.id ∧ identity = user.toText
  | move user lesson name => ∃ action access reached,
    Achieved user lesson name log action access reached ∧ action.issuesCredential = true ∧
      place = room access.lesson.id ∧ identity = user.toText
  | _ => False

/-- A request asks for one credential at most, which it is entitled to. -/
def LessonRequest.entryTerms (room : LessonId → String) (r : LessonRequest) : Contract where
  rely _ := True
  guar log c := log.admissions = [] ∧
    match c with
    | .issueCredential place identity => r.Entitled room log place identity
    | _ => True

section Requests

variable {room : LessonId → String} {user : UserId} {lesson : LessonId}

theorem joinLesson_enters (room : LessonId → String) (user : UserId) (lesson : LessonId) :
    (joinLesson room user lesson).run.Meets
      ((LessonRequest.join user lesson).entryTerms room) (fun _ _ => True) [] := by
  refine Program.Meets.mono (Q := Task.Ends (fun _ _ => True) fun _ _ => True) ?_ (fun _ h => h)
    (fun _ _ h => h) fun _ _ _ => trivial
  show Task.Meets _ (joinLesson room user lesson) _ _ []
  simp only [joinLesson, Access.load, LessonTask.meets_engine, Engine.current, Engine.load,
    issueCredential, Task.meets_bind, Task.meets_ask, Task.meets_demand, Task.meets_check,
    Task.meets_pure]
  refine ⟨⟨rfl, trivial⟩, fun _ _ => ⟨fun _ _ => ?_, fun _ => trivial⟩, fun _ _ => trivial⟩
  refine ⟨⟨rfl, trivial⟩, fun answer _ => ⟨?_, fun _ => trivial⟩, fun _ _ => trivial⟩
  rintro l rfl
  refine ⟨⟨rfl, trivial⟩, fun teacher _ => ⟨fun _ guard => ?_, fun _ _ => trivial⟩,
    fun _ _ => trivial⟩
  refine ⟨⟨rfl, trivial⟩, fun answer _ => ⟨?_, fun _ => trivial⟩, fun _ _ => trivial⟩
  rintro ⟨found, observed⟩ rfl
  refine ⟨fun _ state => ⟨⟨rfl, ?_⟩, fun _ _ => trivial, fun _ _ => trivial⟩, fun _ _ => trivial⟩
  refine ⟨⟨l, user, teacher⟩, observed, ⟨by simp, by simp, rfl⟩, ⟨found, List.mem_cons_self⟩, ?_,
    rfl, rfl⟩
  rw [LessonAction.authorize, guard]
  exact state

theorem LessonRequest.meets_entryTerms (room : LessonId → String) (r : LessonRequest) :
    (r.program room).Meets (r.entryTerms room) (fun _ _ => True) [] := by
  have never {K : Contract} {Q : Log → Except LessonError r.Answer → Prop}
      (h : (r.program room).Meets K Q []) (rely : ∀ e, K.rely e)
      (plain : ∀ log c, K.guar log c → c.admits = false) :
      (r.program room).Meets (r.entryTerms room) (fun _ _ => True) [] := by
    refine (h.unasked plain rfl).mono (fun e _ => rely e) (fun log c hc => ⟨hc.2, ?_⟩)
      fun _ _ _ => trivial
    cases c with
    | issueCredential => exact nomatch hc.1
    | _ => trivial
  cases r with
  | book now b =>
    refine never (bookLesson_meets (fun _ => True) now b) (fun _ => trivial) fun log c hc => ?_
    cases c with
    | issueCredential => exact hc.elim
    | _ => rfl
  | get user lesson =>
    refine never (getLesson_meets (fun _ => True) user lesson) (fun _ => trivial) fun log c hc => ?_
    cases c with
    | issueCredential => exact hc.elim
    | _ => rfl
  | join user lesson => exact joinLesson_enters room user lesson
  | move user lesson name =>
    have moves := moveLesson_meets (fun _ => True) room user lesson name
    refine (Program.Meets.both moves (moveLesson_once room user lesson name)).mono
      (fun _ _ => ⟨trivial, trivial⟩) (fun log c hc => ⟨hc.2, ?_⟩) fun _ _ _ => trivial
    cases c with
    | issueCredential => exact hc.1
    | _ => trivial

end Requests

/-! ## Moments of a run -/

/-- The item is in the state. -/
def World.IsIn (w : World) (id : ItemId) (n : StateName) : Prop :=
  ∃ item, w.items.get? id = some item ∧ item.state = n.id

section Run

variable {room : LessonId → String} {requests : List LessonRequest} {start w : World}
  {trace : Trace} {i : Nat}

/-- A call of a request has led to a world in which the item is in the state. -/
structure Moment (room : LessonId → String) (requests : List LessonRequest) (start : World)
    (trace : Trace) (i : Nat) (e : Event) (id : ItemId) (n : StateName) (w : World) : Prop where
  earlier : ∃ earlier, (i, e) :: earlier <:+ trace ∧
    Run (LessonRequest.program room) requests start ((i, e) :: earlier) w
  isIn : w.IsIn id n

/-- An item was in the state that a request has seen it in. -/
theorem Run.moment_of_seen (run : Run (LessonRequest.program room) requests start trace w)
    {id : ItemId} {state : State} (seen : Engine.Seen id state (trace.own i)) :
    ∃ e w₁, Moment room requests start trace i e id state.name w₁ := by
  obtain ⟨found, hm⟩ := seen
  obtain ⟨later, earlier, w₁, split, upto⟩ := run.occurred (Trace.mem_own.1 hm)
  obtain ⟨there, known⟩ := World.item?_eq_some.1 upto.read_item.1
  exact ⟨_, _, ⟨earlier, ⟨later, split.symm⟩, upto⟩, found, there, (State.id_eq_of_ofId? known).2⟩

/-- An item was in the state that a request has moved it to, right after the move. -/
theorem Run.moment_of_moved (run : Run (LessonRequest.program room) requests start trace w)
    {id : ItemId} {source : StateId} {n : StateName}
    (moved : (trace.own i).moves = [(id, source, n.id)]) :
    ∃ w₁, Moment room requests start trace i ⟨.swapState id source n.id, .ok true⟩ id n w₁ := by
  have hm : (id, source, n.id) ∈ (trace.own i).moves := by simp [moved]
  obtain ⟨e, he, move⟩ := List.mem_filterMap.1 hm
  obtain rfl := Event.eq_of_move move
  obtain ⟨later, earlier, w₁, split, upto⟩ := run.occurred (Trace.mem_own.1 he)
  obtain ⟨w₀, _, _, _, _, _, reacts⟩ := upto.last
  obtain ⟨item, -, -, -, rfl⟩ := reacts.effect.moved
  refine ⟨_, ⟨earlier, ⟨later, split.symm⟩, upto⟩, { item with state := n.id }, ?_, rfl⟩
  show (w₀.items.insert id _).get? id = _
  rw [Table.get?_insert, if_pos rfl]

end Run

/-! ## Every credential of a run -/

theorem LessonAction.ongoing_of_join {l : Lesson} {actor : Actor} {n : StateName}
    (h : join.authorize l actor n = .ok ()) : n = .ongoing := by
  have state := state_ok_of_authorize h
  cases n <;> first | rfl | cases state

theorem LessonAction.eq_start {a : LessonAction} {n : StateName} (moves : a.target? = some n)
    (issues : a.issuesCredential = true) : a = .start ∧ n = .ongoing := by
  cases a with
  | start => exact ⟨rfl, (Option.some.inj moves).symm⟩
  | join => cases moves
  | _ => cases issues

/-- The request lets its user into the meeting of a lesson. The user has to pass the guard, and the
event is the one that brings the lesson into the meeting: for a start it is the request's own
move. -/
inductive LessonRequest.Enters (user : UserId) (lesson : LessonId) (l : Lesson) :
    LessonRequest → Guard → Event → Prop
  | join {e : Event} : Enters user lesson l (.join user lesson) .eitherParty e
  | start {name : String} {source : StateId} (read_eq : LessonAction.read name = .ok .start) :
      Enters user lesson l (.move user lesson name) .teacherOfLesson
        ⟨.swapState l.item source StateName.ongoing.id, .ok true⟩

section Entry

variable {room : LessonId → String} {requests : List LessonRequest} {start w : World}
  {trace : Trace} {i : Nat} {r : LessonRequest} {place identity : String}

/-- A request that is entitled to a credential is one that lets a party into the meeting of a lesson
that was going on in the meantime. -/
theorem Run.enters (run : Run (LessonRequest.program room) requests start trace w)
    (entitled : r.Entitled room (trace.own i) place identity) :
    ∃ user lesson l g e w₁, r.Enters user lesson l g e ∧
      (i, ⟨.findLesson lesson, .ok (some l)⟩) ∈ trace ∧
      g.permits l ⟨user, start.directory.teacherOf? user⟩ = true ∧ place = room l.id ∧
      identity = user.toText ∧ Moment room requests start trace i e l.item .ongoing w₁ := by
  have honest := run.own_honest i
  cases r with
  | book | get => exact entitled.elim
  | join user lesson =>
    obtain ⟨access, observed, loaded, seen, authorized, place_eq, identity_eq⟩ := entitled
    have ongoing := LessonAction.ongoing_of_join authorized
    rw [loaded.actor_eq honest] at authorized
    obtain ⟨e, w₁, moment⟩ := run.moment_of_seen seen
    rw [ongoing] at moment
    exact ⟨user, lesson, access.lesson, _, e, w₁, .join, Trace.mem_own.1 loaded.lesson_mem,
      Guard.permits_of_check (LessonAction.guard_ok_of_authorize authorized), place_eq, identity_eq,
      moment⟩
  | move user lesson name =>
    obtain ⟨action, access, reached, ⟨goal, observed, granted, named, source, moved⟩, issues,
      place_eq, identity_eq⟩ := entitled
    obtain ⟨read_eq, target_eq⟩ := readMove_eq_ok granted.read_eq
    obtain ⟨rfl, rfl⟩ := LessonAction.eq_start target_eq issues
    have authorized := granted.authorized
    rw [granted.loaded.actor_eq honest] at authorized
    rw [named.eq honest] at moved
    obtain ⟨w₁, moment⟩ := run.moment_of_moved moved
    exact ⟨user, lesson, access.lesson, _, _, w₁, .start read_eq,
      Trace.mem_own.1 granted.loaded.lesson_mem,
      Guard.permits_of_check (LessonAction.guard_ok_of_authorize authorized), place_eq, identity_eq,
      moment⟩

/-- **Credentials go to the parties of a lesson that is going on.** Every credential of a run is
asked for by a join or a start, for the meeting room of the lesson that the request has found, and
for its own user, who is a party of the lesson, and its teacher in the case of a start. Some call
that the request has made before led to a world in which the lesson was going on; for a start, this
was its own move. No request asks for a second credential. -/
theorem credentials_for_parties (run : Run (LessonRequest.program room) requests start trace w) :
    (∀ i place identity reply, (i, ⟨.issueCredential place identity, reply⟩) ∈ trace →
      ∃ before r user lesson l g e w₁,
        (i, ⟨.issueCredential place identity, reply⟩) :: before <:+ trace ∧
        requests[i]? = some r ∧ r.Enters user lesson l g e ∧
        (i, ⟨.findLesson lesson, .ok (some l)⟩) ∈ before ∧
        g.permits l ⟨user, start.directory.teacherOf? user⟩ = true ∧
        place = room l.id ∧ identity = user.toText ∧
        Moment room requests start before i e l.item .ongoing w₁) ∧
    ∀ i r, requests[i]? = some r → (trace.own i).admissions.length ≤ 1 := by
  constructor
  · intro i place identity reply asked
    obtain ⟨later, before, _, split, upto⟩ := run.occurred asked
    obtain ⟨w₀, r, _, run₀, request, pending, _⟩ := upto.last
    have entitled : r.Entitled room (Trace.own i before) place identity :=
      (pending.guar (r.meets_entryTerms room) fun _ _ => trivial).2
    obtain ⟨user, lesson, l, g, e, w₁, enters, rest⟩ := run₀.enters entitled
    exact ⟨before, r, user, lesson, l, g, e, w₁, ⟨later, split.symm⟩, request, enters, rest⟩
  · intro i r request
    obtain ⟨q, after⟩ := run.after request
    refine after.invariant (I := fun log => log.admissions.length ≤ 1) (r.meets_entryTerms room)
      (fun _ _ => trivial) (Nat.zero_le 1) ?_
    rintro log e - ⟨unasked, -⟩ -
    cases asks : e.call.admits with
    | false =>
      rw [Log.admissions_cons_of_plain asks, unasked]
      exact Nat.zero_le 1
    | true =>
      have once : Log.admissions (e :: log) = e :: log.admissions :=
        List.filter_cons_of_pos (by simp [asks])
      rw [once, unasked]
      exact Nat.le_refl 1

end Entry

/-- A teacher starts a lesson, and is let into its meeting. -/
theorem credentials_for_parties_start :
    ∃ trace w, Run (LessonRequest.program fun _ => "lesson-1")
        [.move (.ofInt 2) (.ofInt 1) "start"] .sample trace w ∧
      (∃ reply, (0, ⟨.issueCredential "lesson-1" "2", reply⟩) ∈ trace) ∧
      ∃ before user lesson l g e w₁,
        LessonRequest.Enters user lesson l (.move (.ofInt 2) (.ofInt 1) "start") g e ∧
        g.permits l ⟨user, World.sample.directory.teacherOf? user⟩ = true ∧
        Moment (fun _ => "lesson-1") [.move (.ofInt 2) (.ofInt 1) "start"] .sample before 0 e l.item
          .ongoing w₁ := by
  have none_served : Run (LessonRequest.program fun _ => "lesson-1")
    [.move (.ofInt 2) (.ofInt 1) "start"] .sample [] .sample := .start
  have served := none_served.serve (i := 0) (r := .move (.ofInt 2) (.ofInt 1) "start")
    (fun _ _ => .ok ⟨"lesson-1", ""⟩) 10 rfl .start
  have run : Run (LessonRequest.program fun _ => "lesson-1")
    [.move (.ofInt 2) (.ofInt 1) "start"] .sample
    ((0, ⟨.issueCredential "lesson-1" "2", .ok ⟨"lesson-1", ""⟩⟩) :: _) _ := served.1
  obtain ⟨before, r, user, lesson, l, g, e, w₁, -, request, enters, -, permits, -, -, moment⟩ :=
    (credentials_for_parties run).1 0 "lesson-1" "2" (.ok ⟨"lesson-1", ""⟩) List.mem_cons_self
  obtain rfl := Option.some.inj request
  exact ⟨_, _, run, ⟨_, List.mem_cons_self⟩, before, user, lesson, l, g, e, w₁, enters, permits,
    moment⟩

end Tutoring
