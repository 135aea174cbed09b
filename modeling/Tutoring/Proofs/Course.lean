import Tutoring.Proofs.Discretion
import Tutoring.Proofs.Offer
import Tutoring.Proofs.Precedence

/-!
# Requests one after the other

Each request is carried out from beginning to end before the next one comes. The meeting provider
answers every one of them as it likes: a request asks it once at most, so the provider is given anew
for each.

* `Turn`, `World.play`: the requests, and the world after them.
* `World.record`: a task with the log of its calls. The log is one of the program
  (`World.record_eq`), so what a contract says of logs holds of it.
* `attempt_of_meets`: a task that only looks things up leaves the world as it is and ends as its
  contract says.
* `Booking.outcome`, `moveLesson_outcome`: what a booking and a move come to in any world.
* `Turn.leads`: all that a request can do to a world. An invariant of such runs has one case for
  each kind of change.
-/

namespace Tutoring

/-! ## A task and its calls -/

section Record

variable {ε α : Type} (meet : String → String → Except MeetingError Credential)

/-- Carries out a task with nothing in between, and keeps its calls. -/
def World.record (w : World) (t : Task ε α) : Except ε α × Log × World :=
  (t.run.interpret (Program.recorded (World.answer meet))).run ([], w)

theorem Program.After.recorded {p q : Program α} {log : Log} (h : p.After log q) (w : World) :
    ∃ log', q.interpret (Program.recorded (World.answer meet)) (log, w) =
        ((q.interpret (World.answer meet) w).1, log', (q.interpret (World.answer meet) w).2) ∧
      p.After log' (.done (q.interpret (World.answer meet) w).1) := by
  induction q generalizing log w with
  | done a => exact ⟨log, rfl, h⟩
  | call c next ih => exact ih (w.step meet c).1 (h.reply _) (w.step meet c).2

/-- Keeping the calls changes nothing, and they are those of the program. -/
theorem World.record_eq (w : World) (t : Task ε α) :
    ∃ log, w.record meet t = ((w.attempt meet t).1, log, (w.attempt meet t).2) ∧
      t.run.After log (.done (w.attempt meet t).1) :=
  Program.After.recorded meet .start w

/-! ## Looking things up -/

/-- No call is allowed that could change a store. -/
def Contract.Looks (K : Contract) : Prop :=
  ∀ log c, K.guar log c → ∀ r, Event.changes ⟨c, r⟩ = false

/-- Whatever does not change a store may be called. -/
def lookingTerms : Contract := ⟨fun _ => True, fun _ c => ∀ r, Event.changes ⟨c, r⟩ = false⟩

theorem looks_lookingTerms : lookingTerms.Looks := fun _ _ allowed => allowed

theorem looks_getTerms (R : Event → Prop) : (getTerms R).Looks := by
  intro log c allowed r
  cases c with
  | findUser | findTeacherByUser | findLesson | findItem | nextStates => rfl
  | _ => exact allowed.elim

theorem looks_joinTerms (R : Event → Prop) : (joinTerms R).Looks := by
  intro log c allowed r
  cases c with
  | findUser | findTeacherByUser | findLesson | findItem | issueCredential => rfl
  | _ => exact allowed.elim

/-- A task that only looks things up leaves the world as it is, and ends as its contract says. -/
theorem World.attempt_of_meets {t : Task ε α} {Q : Log → α → Prop} {E : Log → ε → Prop}
    {K : Contract} (h : Task.Meets K t Q E []) (rely : ∀ e, K.rely e) (looks : K.Looks)
    (w : World) : ∃ r log, w.attempt meet t = (r, w) ∧ Task.Ends Q E log r := by
  have served (log : Log) (c : Call) (allowed : K.guar log c) :
      K.rely ⟨c, (World.answer meet c w).1⟩ ∧ (World.answer meet c w).2 = w := by
    refine ⟨rely _, World.Effect.eq_of_idle (World.Reacts.effect (.served meet)) ?_⟩
    exact looks log c allowed _
  obtain ⟨r, log, ends, post⟩ := Program.Meets.recorded h served
  obtain ⟨log', same, -⟩ := w.record_eq meet t
  obtain ⟨result, rest⟩ := Prod.mk.inj (same.symm.trans ends)
  exact ⟨r, log, Prod.ext result (Prod.mk.inj rest).2, post⟩

end Record

/-! ## Turns -/

/-- A request that is carried out alone, and how the meeting provider answers in the meantime. -/
structure Turn where
  request : LessonRequest
  meet : String → String → Except MeetingError Credential

/-- The request of a turn as a task. -/
def Turn.task (room : LessonId → String) (t : Turn) : LessonTask t.request.Answer :=
  ExceptT.mk (t.request.program room)

/-- What a turn is answered in a world. -/
def Turn.result (room : LessonId → String) (w : World) (t : Turn) :
    Except LessonError t.request.Answer :=
  (w.attempt t.meet (t.task room)).1

/-- The world after a turn. -/
def Turn.after (room : LessonId → String) (w : World) (t : Turn) : World :=
  (w.attempt t.meet (t.task room)).2

/-- The world after turns. -/
def World.play (room : LessonId → String) (w : World) (turns : List Turn) : World :=
  turns.foldl (Turn.after room) w

theorem World.play_append (room : LessonId → String) (w : World) (turns later : List Turn) :
    w.play room (turns ++ later) = (w.play room turns).play room later :=
  List.foldl_append

/-! ## What a booking comes to -/

/-- A slot that is not open is not taken. -/
theorem World.step_reserveSlot_missed {meet : String → String → Except MeetingError Credential}
    {w : World} {x : SlotId} (missed : ¬∃ s, w.slots.get? x = some s ∧ s.available = true) :
    w.step meet (.reserveSlot x) = (.ok false, w) := by
  simp only [step, reserve]
  cases found : w.slots.get? x with
  | none => rfl
  | some s =>
    have closed : ¬s.available = true := fun free => missed ⟨s, found, free⟩
    simp only [if_neg closed]
    rfl

namespace Booking

variable {meet : String → String → Except MeetingError Credential} {w : World} {b : Booking}

/-- The world after a lesson has been booked for a slot. -/
def stored (w : World) (x : SlotId) (s : Slot) (m : Machine) (l : Lesson) : World :=
  { w with
    slots := w.slots.insert x s.closed
    items := w.items.insert w.nextItem ⟨w.nextItem, m.id, m.start⟩
    nextItem := w.nextItem.succ
    lessons := w.lessons.insert w.nextLesson l
    nextLesson := w.nextLesson.succ }

/-- What a booking comes to, whatever the records of the world look like: nothing has changed, or
the lesson of the records that were found is stored. -/
inductive Outcome (w : World) (now : Timestamp) (b : Booking) :
    Except LessonError BookedLesson × World → Prop
  | refused (e : LessonError) : Outcome w now b (.error e, w)
  | accepted {u : User} {t : Teacher} {c : Category} {s x : Slot} {m : Machine} {l : Lesson}
      (student : w.directory.users.get? b.student = some u)
      (teacher : w.directory.teachers.get? b.teacher = some t) (other : t.user ≠ b.student)
      (slot : w.slots.get? s.id = some x) (free : x.available = true)
      (machine : w.catalog.machineNamed? .lesson = some m)
      (lesson : l = ⟨⟨b.student, t.id, c.id, s.id, w.nextItem, now⟩, w.nextLesson⟩) :
      Outcome w now b (.ok ⟨l, .pending⟩, stored w s.id x m l)

/-- Checking the records of a booking changes nothing. -/
theorem verify_looks : Task.Meets lookingTerms b.verify (fun _ _ => True) (fun _ _ => True) [] := by
  simp only [verify, Task.meets_bind, Task.meets_ask, Task.meets_demand, Task.meets_ite,
    Task.meets_throw, Task.meets_pure]
  simp [lookingTerms, Event.changes]

/-- The records that have passed are those of the world. -/
theorem found_of_verify {t : Teacher} {c : Category} {s : Slot} {w' : World}
    (h : w.attempt meet b.verify = (.ok (t, c, s), w')) :
    (∃ u, w.directory.users.get? b.student = some u) ∧
      w.directory.teachers.get? b.teacher = some t ∧ t.user ≠ b.student := by
  simp only [verify, World.attempt_bind_ok, World.attempt_ask_ok, World.attempt_demand_ok,
    World.attempt_ite_ok, World.attempt_throw_ok, World.attempt_pure_ok, World.step, Prod.mk.injEq,
    Except.ok.injEq, false_and, and_false, exists_false, or_false, false_or] at h
  obtain ⟨_, _, ⟨rfl, rfl⟩, u, _, ⟨student, rfl⟩, _, _, ⟨rfl, rfl⟩, t', _, ⟨teacher, rfl⟩, other,
    h⟩ := h
  obtain ⟨_, _, ⟨rfl, rfl⟩, c', _, ⟨-, rfl⟩, -, _, _, ⟨rfl, rfl⟩, -, h⟩ := h
  obtain ⟨_, _, ⟨rfl, rfl⟩, s', _, ⟨-, rfl⟩, -, -, ⟨rfl, -, -⟩, -⟩ := h
  exact ⟨⟨u, student⟩, teacher, other⟩

theorem outcome (meet : String → String → Except MeetingError Credential) (w : World)
    (now : Timestamp) (b : Booking) : Outcome w now b (w.attempt meet (bookLesson now b)) := by
  obtain ⟨r, -, verified, -⟩ :=
    World.attempt_of_meets meet verify_looks (fun _ => trivial) looks_lookingTerms w
  rw [bookLesson]
  cases r with
  | error e =>
    rw [World.attempt_bind_of_error verified]
    exact .refused e
  | ok found =>
    obtain ⟨t, c, s⟩ := found
    obtain ⟨⟨u, student⟩, teacher, other⟩ := found_of_verify verified
    rw [World.attempt_bind_of_ok verified]
    dsimp only
    by_cases opened : ∃ x, w.slots.get? s.id = some x ∧ x.available = true
    · obtain ⟨x, slot, free⟩ := opened
      rw [World.attempt_bind_of_ok (World.attempt_ask_ok.2 (World.step_reserveSlot slot free)),
        if_pos rfl]
      cases machine : w.catalog.machineNamed? .lesson with
      | none =>
        have failed : (w.taken s.id x).attempt meet (LessonTask.engine (Engine.create .lesson)) =
            (.error (.transition (.unknownMachine .lesson)), w.taken s.id x) := by
          rw [LessonTask.engine, World.attempt_adapt,
            World.attempt_create_none (w := w.taken s.id x) machine]
          rfl
        rw [World.attempt_bind_of_error (attempt_orUndo_error failed),
          World.release_taken slot free]
        exact .refused _
      | some m =>
        have made : (w.taken s.id x).attempt meet (LessonTask.engine (Engine.create .lesson)) =
            (.ok ⟨w.nextItem, m.id, m.start⟩, ((w.taken s.id x).addItem m.id m.start).2) :=
          World.attempt_engine_ok.2 (World.attempt_create_ok machine)
        rw [World.attempt_bind_of_ok (attempt_orUndo_ok made none)]
        -- Storing the lesson does not fail.
        rw [World.attempt_bind_of_ok (attempt_orUndo_ok rfl _)]
        exact .accepted student teacher other slot free machine rfl
    · rw [World.attempt_bind_of_ok (World.attempt_ask_ok.2 (World.step_reserveSlot_missed opened))]
      exact .refused _

end Booking

/-! ## What requests on a lesson come to -/

section Lesson

variable (meet : String → String → Except MeetingError Credential) {w : World}
  (room : LessonId → String)

theorem World.attempt_load (w : World) (user : UserId) (lesson : LessonId) :
    ∃ r, w.attempt meet (Access.load user lesson) = (r, w) ∧
      ∀ e, r = .error e → e.started = false := by
  have loads : Task.Meets (getTerms fun _ => True) (Access.load user lesson)
      (fun log access => Log.Still [] log ∧ Access.Loaded user lesson log access)
      (fun log e => Log.Still [] log ∧ e.started = false) [] :=
    Access.load_meets trivial (fun _ _ => trivial) (fun _ _ => trivial)
  obtain ⟨r, log, ends, post⟩ :=
    World.attempt_of_meets meet loads (fun _ => trivial) (looks_getTerms _) w
  refine ⟨r, ends, ?_⟩
  rintro e rfl
  exact post.2

/-- The steps that an action on a lesson begins with, whether it moves the lesson or not. -/
def LessonTask.enter {β : Type} (user : UserId) (lesson : LessonId) (a : LessonAction)
    (rest : Access → State → LessonTask β) : LessonTask β := do
  let access ← Access.load user lesson
  Task.check (a.guard.check access.lesson access.actor)
  let state ← .engine (Engine.current access.lesson.item)
  Task.check (a.checkState access.lesson access.actor state.name)
  rest access state

/-- How a lesson is moved once the action has been found to be allowed. -/
def LessonTask.moveOn (a : LessonAction) (goal : StateName) (access : Access) (seen : State) :
    LessonTask MovedLesson := do
  let expected := if a.pinsState then some seen.id else none
  let state ← .engine (Engine.transition access.lesson.item expected goal)
  let meeting ←
    if a.issuesCredential then
      some <$> issueCredential room access.lesson.id access.actor.user true
    else pure none
  return { lesson := access.lesson.id, action := a, state := state.name, meeting }

theorem moveLesson_eq {name : String} {a : LessonAction} {goal : StateName} (user : UserId)
    (lesson : LessonId) (read_eq : readMove name = .ok (a, goal)) :
    moveLesson room user lesson name = .enter user lesson a (.moveOn room a goal) := by
  unfold moveLesson
  rw [Task.check_bind_of_ok read_eq]
  rfl

theorem joinLesson_eq (user : UserId) (lesson : LessonId) :
    joinLesson room user lesson = .enter user lesson .join fun access _ => do
      return { lesson := access.lesson.id
               meeting := ← issueCredential room access.lesson.id access.actor.user false } := rfl

/-- An action that is allowed goes on with the lesson and the state that are there. -/
theorem World.Sees.attempt_enter {β : Type} {user : UserId} {lesson : LessonId} {l : Lesson}
    {item : Item} {state : State} {a : LessonAction} {rest : Access → State → LessonTask β}
    (sees : w.Sees user lesson l item state)
    (authorized : a.authorize l ⟨user, w.directory.teacherOf? user⟩ state.name = .ok ()) :
    w.attempt meet (LessonTask.enter user lesson a rest) =
      w.attempt meet (rest ⟨l, user, w.directory.teacherOf? user⟩ state) := by
  obtain ⟨guarded, allowed⟩ := LessonAction.authorize_eq_ok.1 authorized
  have loads : w.attempt meet (Access.load user lesson) =
      (.ok ⟨l, user, w.directory.teacherOf? user⟩, w) :=
    attempt_load_ok.2 ⟨sees.known, ⟨l, sees.stored, rfl⟩, rfl⟩
  have seen : w.attempt meet (LessonTask.engine (Engine.current l.item)) = (.ok state, w) :=
    attempt_engine_ok.2 (attempt_current_ok.2 ⟨⟨item, sees.there⟩, rfl⟩)
  rw [LessonTask.enter, attempt_bind_of_ok loads, guarded, Task.check_bind_of_ok rfl,
    attempt_bind_of_ok seen, allowed, Task.check_bind_of_ok rfl]

/-- A transition that nobody interferes with moves the item along an edge, or changes nothing. -/
theorem World.attempt_moves {id : ItemId} {item : Item} {state : State}
    (there : w.item? id = some (item, state)) (expected : Option StateId) (next : StateName) :
    (∃ e, w.attempt meet (LessonTask.engine (Engine.transition id expected next)) =
        (.error (.transition e), w)) ∨
      w.catalog.hasEdge item.machine state.id next.id = true ∧
        w.attempt meet (LessonTask.engine (Engine.transition id expected next)) =
          (.ok (.ofName next),
            { w with items := w.items.insert id { item with state := next.id } }) := by
  rw [LessonTask.engine, attempt_adapt, attempt_transition there]
  cases w.catalog.machine? item.machine with
  | none => exact .inl ⟨_, rfl⟩
  | some m =>
    cases named : w.catalog.stateOf? item.machine next with
    | none => exact .inl ⟨_, rfl⟩
    | some target =>
      obtain rfl := Catalog.eq_of_stateOf? named
      dsimp only
      split
      · next h => exact .inr ⟨h.2, rfl⟩
      · exact .inl ⟨_, rfl⟩

/-- What a lesson that was moved is answered with: where a credential is due, it depends on the
meeting provider. -/
def movedAnswer (user : UserId) (l : Lesson) (action : LessonAction)
    (goal : StateName) : Except LessonError MovedLesson :=
  if action.issuesCredential then
    ((meet (room l.id) user.toText).map fun c => ⟨l.id, action, goal, some c⟩).mapError
      fun e => .meetingUnavailable l.id true e.toText
  else .ok ⟨l.id, action, goal, none⟩

theorem attempt_issue (w : World) (l : Lesson) (action : LessonAction) (goal : StateName) :
    w.attempt meet (do
      let meeting ←
        if action.issuesCredential then some <$> issueCredential room l.id user true else pure none
      return { lesson := l.id, action, state := goal, meeting : MovedLesson }) =
      (movedAnswer meet room user l action goal, w) := by
  unfold movedAnswer
  cases action.issuesCredential with
  | false => rfl
  | true =>
    simp only [if_true, issueCredential, map_eq_pure_bind, bind_assoc, pure_bind]
    rw [World.attempt_bind, World.attempt_ask]
    dsimp only [World.step]
    cases meet (room l.id) user.toText with
    | error e => rfl
    | ok c => rfl

/-- What a move comes to: nothing has changed, or the item of the lesson has gone along an edge. -/
inductive MoveOutcome (w : World) (user : UserId) (lesson : LessonId) (name : String) :
    Except LessonError MovedLesson × World → Prop
  | refused {e : LessonError} (unstarted : e.started = false) :
      MoveOutcome w user lesson name (.error e, w)
  | moved {action : LessonAction} {goal : StateName} {l : Lesson} {item : Item} {state : State}
      (read_eq : readMove name = .ok (action, goal)) (stored : w.lessons.get? lesson = some l)
      (there : w.item? l.item = some (item, state))
      (edge : w.catalog.hasEdge item.machine state.id goal.id = true) :
      MoveOutcome w user lesson name (movedAnswer meet room user l action goal,
        { w with items := w.items.insert l.item { item with state := goal.id } })

/-- The steps that an action begins with come to nothing, or the lesson and its state are seen and
the action is allowed. -/
theorem World.attempt_enter {β : Type} (w : World) (user : UserId) (lesson : LessonId)
    (a : LessonAction) (rest : Access → State → LessonTask β) :
    (∃ e, e.started = false ∧
        w.attempt meet (LessonTask.enter user lesson a rest) = (.error e, w)) ∨
      ∃ l item state, w.Sees user lesson l item state ∧
        a.authorize l ⟨user, w.directory.teacherOf? user⟩ state.name = .ok () := by
  obtain ⟨r, loads, unstarted⟩ := w.attempt_load meet user lesson
  rw [LessonTask.enter]
  cases r with
  | error e =>
    rw [attempt_bind_of_error loads]
    exact .inl ⟨e, unstarted e rfl, rfl⟩
  | ok access =>
    obtain ⟨known, ⟨l, stored, rfl⟩, -⟩ := attempt_load_ok.1 loads
    rw [attempt_bind_of_ok loads]
    cases guarded : a.guard.check l ⟨user, w.directory.teacherOf? user⟩ with
    | error e => exact .inl ⟨e, Guard.started_of_check guarded, rfl⟩
    | ok =>
      rw [Task.check_bind_of_ok rfl]
      cases there : w.item? l.item with
      | none =>
        have absent : w.attempt meet (LessonTask.engine (Engine.current l.item)) =
            (.error (.transition (.itemNotFound l.item)), w) := by
          rw [LessonTask.engine, attempt_adapt, Engine.current,
            attempt_bind_of_error (attempt_loadItem_none there)]
          rfl
        rw [attempt_bind_of_error absent]
        exact .inl ⟨_, rfl, rfl⟩
      | some found =>
        obtain ⟨item, state⟩ := found
        have seen : w.attempt meet (LessonTask.engine (Engine.current l.item)) = (.ok state, w) :=
          attempt_engine_ok.2 (attempt_current_ok.2 ⟨⟨item, there⟩, rfl⟩)
        rw [attempt_bind_of_ok seen]
        cases allowed : a.checkState l ⟨user, w.directory.teacherOf? user⟩ state.name with
        | error e => exact .inl ⟨e, LessonAction.started_of_checkState allowed, rfl⟩
        | ok =>
          have party := Guard.permits_eitherParty (Guard.permits_of_check guarded)
          refine .inr ⟨l, item, state, ⟨known, stored, if_pos party, there⟩, ?_⟩
          exact LessonAction.authorize_eq_ok.2 ⟨guarded, allowed⟩

theorem moveLesson_outcome (w : World) (user : UserId) (lesson : LessonId) (name : String) :
    MoveOutcome meet room w user lesson name
      (w.attempt meet (moveLesson room user lesson name)) := by
  cases read_eq : readMove name with
  | error e =>
    rw [moveLesson, read_eq]
    exact .refused (started_of_readMove read_eq)
  | ok read =>
    obtain ⟨action, goal⟩ := read
    rw [moveLesson_eq room user lesson read_eq]
    obtain ⟨e, unstarted, refused⟩ | ⟨l, item, state, sees, authorized⟩ :=
      w.attempt_enter meet user lesson action (LessonTask.moveOn room action goal)
    · rw [refused]
      exact .refused unstarted
    · rw [sees.attempt_enter meet authorized, LessonTask.moveOn]
      obtain ⟨e, failed⟩ | ⟨edge, moved⟩ := World.attempt_moves meet sees.there
        (if action.pinsState = true then some state.id else none) goal
      · rw [World.attempt_bind_of_error failed]
        exact .refused rfl
      · rw [World.attempt_bind_of_ok moved, attempt_issue]
        exact .moved read_eq sees.stored sees.there edge

/-- A look at a lesson changes nothing. -/
theorem World.attempt_getLesson (w : World) (user : UserId) (lesson : LessonId) :
    (w.attempt meet (getLesson user lesson)).2 = w := by
  obtain ⟨r, -, ends, -⟩ := World.attempt_of_meets meet
    (getLesson_meets (fun _ => True) user lesson) (fun _ => trivial) (looks_getTerms _) w
  exact congrArg Prod.snd ends

/-- A join changes nothing. -/
theorem World.attempt_joinLesson (w : World) (user : UserId) (lesson : LessonId) :
    (w.attempt meet (joinLesson room user lesson)).2 = w := by
  obtain ⟨r, -, ends, -⟩ := World.attempt_of_meets meet
    (joinLesson_meets (fun _ => True) room user lesson) (fun _ => trivial) (looks_joinTerms _) w
  exact congrArg Prod.snd ends

end Lesson

/-! ## What a turn does -/

/-- All that a turn can do to a world. -/
inductive Turn.Leads (room : LessonId → String) (w : World) (t : Turn) : World → Prop
  | still : Leads room w t w
  | books {x : SlotId} {s : Slot} {m : Machine} {l : Lesson} (slot : w.slots.get? x = some s)
      (free : s.available = true) (item : l.item = w.nextItem) (id : l.id = w.nextLesson) :
      Leads room w t (Booking.stored w x s m l)
  | moves {user : UserId} {lesson : LessonId} {name : String} {action : LessonAction}
      {goal : StateName} {l : Lesson} {item : Item} {state : State}
      (request : t.request = .move user lesson name) (read_eq : readMove name = .ok (action, goal))
      (stored : w.lessons.get? lesson = some l) (there : w.item? l.item = some (item, state))
      (edge : w.catalog.hasEdge item.machine state.id goal.id = true)
      (told : action.issuesCredential = false → ∃ a, t.result room w = .ok a) :
      Leads room w t { w with items := w.items.insert l.item { item with state := goal.id } }

/-- There is nothing else that a turn can do. -/
theorem Turn.leads (room : LessonId → String) (w : World) (t : Turn) :
    t.Leads room w (t.after room w) := by
  obtain ⟨request, meet⟩ := t
  cases request with
  | book now b =>
    have outcome := Booking.outcome meet w now b
    show Leads room w _ (w.attempt meet (bookLesson now b)).2
    generalize w.attempt meet (bookLesson now b) = r at outcome
    cases outcome with
    | refused => exact .still
    | accepted student teacher other slot free machine lesson =>
      subst lesson
      exact .books slot free rfl rfl
  | get user lesson =>
    have same : after room w ⟨.get user lesson, meet⟩ = w := w.attempt_getLesson meet user lesson
    rw [same]
    exact .still
  | join user lesson =>
    have same : after room w ⟨.join user lesson, meet⟩ = w :=
      w.attempt_joinLesson meet room user lesson
    rw [same]
    exact .still
  | move user lesson name =>
    have outcome := moveLesson_outcome meet room w user lesson name
    show Leads room w _ (w.attempt meet (moveLesson room user lesson name)).2
    generalize attempted : w.attempt meet (moveLesson room user lesson name) = r at outcome
    cases outcome with
    | refused => exact .still
    | moved read_eq stored there edge =>
      refine .moves rfl read_eq stored there edge fun plain => ?_
      have result : Turn.result room w ⟨.move user lesson name, meet⟩ = _ :=
        congrArg Prod.fst attempted
      rw [result]
      simp [movedAnswer, plain]

theorem Turn.after_catalog (room : LessonId → String) (w : World) (t : Turn) :
    (t.after room w).catalog = w.catalog := by
  have leads := t.leads room w
  generalize t.after room w = w' at leads
  cases leads <;> rfl

end Tutoring
