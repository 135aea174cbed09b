import Tutoring.Proofs.Isolation
import Tutoring.Proofs.Offer

/-!
# What a look at a lesson shows

A look reads the item of the lesson twice. The state that it shows, and that the policy is asked
about, is the one of the first reading; the edges are those that lead out of the state of the second
one. If the lesson is moved in between, the view may be one of no moment at all.

* `World.SameRecords`: requests on lessons move items; they make and remove nothing
  (`Run.sameRecords`).
* `Shown`: the whole log of a look that has shown a view (`getLesson_shown`).
* `World.Shows`: a look that nobody interferes with shows the same state and the same actions.
  `Run.sees_of_reading` and `Run.offers_of_shows` tell what it shows at a moment of a run.
* `view_is_snapshot_iff`: a view is one of a moment during the look if and only if the edges of the
  second reading offer the same actions as those of the first one.
-/

namespace Tutoring

/-! ## Records that stay -/

/-- The call makes or removes a record. -/
def Call.records : Call → Bool
  | .insertLesson _ | .insertItem _ _ | .deleteItem _ => true
  | _ => false

/-- The same lessons, and the same items in whatever states, each of the machine that it was of. -/
structure World.SameRecords (w w' : World) : Prop where
  lessons_eq : w'.lessons = w.lessons
  machine_eq : ∀ id, (w'.items.get? id).map (·.machine) = (w.items.get? id).map (·.machine)

theorem World.Effect.sameRecords {w w' : World} {e : Event} (h : w.Effect e w')
    (moves : e.call.records = false) : w.SameRecords w' := by
  cases h with
  | addLesson | addItem | removeItem => cases moves
  | @move id item next found edge =>
    refine ⟨rfl, fun k => ?_⟩
    show ((w.items.insert id { item with state := next }).get? k).map (·.machine) = _
    rw [Table.get?_insert]
    split
    · rename_i same
      rw [same, found]
      rfl
    · rfl
  | _ => exact ⟨rfl, fun _ => rfl⟩

/-- A request on a lesson that is there makes and removes nothing. -/
theorem LessonRequest.records_eq_false {room : LessonId → String} {r : LessonRequest} {log : Log}
    {c : Call} {next} (on_lesson : r.lesson? ≠ none)
    (h : (r.program room).After log (.call c next)) : c.records = false := by
  have scope : r.scope.guar log c := h.guar (r.meets_scope room) fun _ _ => trivial
  cases c with
  | insertLesson | insertItem | deleteItem => exact absurd scope on_lesson
  | _ => rfl

section Run

variable {room : LessonId → String} {requests : List LessonRequest} {start w : World}
  {trace : Trace} {i : Nat} {lesson : LessonId} {l : Lesson}

theorem Run.sameRecords (run : Run (LessonRequest.program room) requests start trace w)
    (on_lessons : ∀ r ∈ requests, r.lesson? ≠ none) : start.SameRecords w := by
  induction run with
  | start => exact ⟨rfl, fun _ => rfl⟩
  | step _ request pending reacts ih =>
    have on_lesson := on_lessons _ (List.mem_of_getElem? request)
    have step := reacts.effect.sameRecords (LessonRequest.records_eq_false on_lesson pending)
    exact ⟨step.lessons_eq.trans ih.lessons_eq,
      fun id => (step.machine_eq id).trans (ih.machine_eq id)⟩

/-- A lesson that was found has been there from the start. -/
theorem Run.found_lesson (run : Run (LessonRequest.program room) requests start trace w)
    (on_lessons : ∀ r ∈ requests, r.lesson? ≠ none)
    (found : (i, ⟨.findLesson lesson, .ok (some l)⟩) ∈ trace) :
    start.lessons.get? lesson = some l := by
  obtain ⟨later, earlier, _, rfl, occurred⟩ := run.occurred found
  obtain ⟨w₀, _, _, before, _, _, reacts⟩ := occurred.last
  rw [← (before.sameRecords on_lessons).lessons_eq]
  exact (reacts.answer_eq (f := (·.lessons.get? lesson)) fun _ _ => rfl).1

/-- An item that was read has belonged to its machine from the start. -/
theorem Run.seen_machine {id : ItemId} {item : Item} {seen : State}
    (run : Run (LessonRequest.program room) requests start trace w)
    (on_lessons : ∀ r ∈ requests, r.lesson? ≠ none)
    (read : (i, ⟨.findItem id, .ok (some (item, seen))⟩) ∈ trace) :
    (start.items.get? id).map (·.machine) = some item.machine := by
  obtain ⟨later, earlier, w₁, rfl, occurred⟩ := run.occurred read
  obtain ⟨there, _⟩ := occurred.read_item
  obtain ⟨stored, -⟩ := World.item?_eq_some.1 there
  rw [← (occurred.sameRecords on_lessons).machine_eq, stored]
  rfl

end Run

/-! ## What a look has seen -/

/-- What a look at a lesson has seen, up to its last call, and the view that it shows. -/
inductive Shown (user : UserId) (lesson : LessonId) : Log → LessonView → Prop
  | intro {u : User} {l : Lesson} {teacher : Option Teacher} {item item' : Item}
      {first second : State} {next : List State}
      (party : Guard.eitherParty.check l ⟨user, teacher⟩ = .ok ()) :
      Shown user lesson
        [⟨.nextStates item'.machine second.id, .ok next⟩,
          ⟨.findItem l.item, .ok (some (item', second))⟩,
          ⟨.findItem l.item, .ok (some (item, first))⟩,
          ⟨.findTeacherByUser user, .ok teacher⟩,
          ⟨.findLesson lesson, .ok (some l)⟩, ⟨.findUser user, .ok (some u)⟩]
        ⟨l, first.name, offeredActions l ⟨user, teacher⟩ first.name (next.map (·.name))⟩

theorem getLesson_shown (user : UserId) (lesson : LessonId) :
    Task.Meets ⟨fun _ => True, fun _ _ => True⟩ (getLesson user lesson) (Shown user lesson)
      (fun _ _ => True) [] := by
  simp only [getLesson, Access.load, Engine.current, Engine.available, Engine.load,
    Task.meets_bind, Task.meets_check, LessonTask.meets_engine, Task.meets_ask, Task.meets_demand,
    Task.meets_pure]
  refine ⟨trivial, fun _ _ => ⟨?_, fun _ => trivial⟩, fun _ _ => trivial⟩
  rintro u rfl
  refine ⟨trivial, fun _ _ => ⟨?_, fun _ => trivial⟩, fun _ _ => trivial⟩
  rintro l rfl
  refine ⟨trivial, fun teacher _ => ⟨fun _ party => ?_, fun _ _ => trivial⟩, fun _ _ => trivial⟩
  refine ⟨trivial, fun _ _ => ⟨?_, fun _ => trivial⟩, fun _ _ => trivial⟩
  rintro ⟨item, first⟩ rfl
  refine ⟨trivial, fun _ _ => ⟨?_, fun _ => trivial⟩, fun _ _ => trivial⟩
  rintro ⟨item', second⟩ rfl
  exact ⟨trivial, fun next _ => .intro party, fun _ _ => trivial⟩

/-! ## What is shown at a moment -/

namespace World

variable {meet : String → String → Except MeetingError Credential} {w : World} {user : UserId}
  {lesson : LessonId} {l : Lesson} {item : Item} {state : State} {view : LessonView}

/-- The actions that are offered to a user when the policy is asked about one state of the lesson,
and the edges are those that lead out of another one. -/
def offers (w : World) (user : UserId) (l : Lesson) (machine : MachineId) (shown left : State) :
    List LessonAction :=
  offeredActions l ⟨user, w.directory.teacherOf? user⟩ shown.name
    ((w.catalog.nextStates machine left.id).map (·.name))

theorem Sees.look (sees : w.Sees user lesson l item state) :
    w.attempt meet (getLesson user lesson) =
      (.ok ⟨l, state.name, w.offers user l item.machine state state⟩, w) := by
  simp only [getLesson, attempt_bind_ok, attempt_load_ok, attempt_check_ok, attempt_engine_ok,
    attempt_current_ok, attempt_available_ok, attempt_pure_ok]
  exact ⟨_, w, ⟨sees.known, ⟨l, sees.stored, rfl⟩, rfl⟩, (), w, ⟨sees.party, rfl⟩, state, w,
    ⟨⟨item, sees.there⟩, rfl⟩, _, w, ⟨⟨item, state, sees.there, rfl⟩, rfl⟩, rfl, rfl⟩

/-- A look that nobody interferes with shows this state and these actions. -/
def Shows (w : World) (meet : String → String → Except MeetingError Credential) (user : UserId)
    (lesson : LessonId) (view : LessonView) : Prop :=
  ∃ alone w', w.attempt meet (getLesson user lesson) = (.ok alone, w') ∧
    alone.state = view.state ∧ alone.actions = view.actions

theorem Shows.sees (h : w.Shows meet user lesson view) :
    ∃ l item state, w.Sees user lesson l item state ∧ view.state = state.name ∧
      view.actions = w.offers user l item.machine state state := by
  obtain ⟨alone, w', looked, state_eq, actions_eq⟩ := h
  obtain ⟨rfl, l, item, state, sees, -⟩ := sees_of_attempt looked
  obtain ⟨same, -⟩ := Prod.mk.inj (looked.symm.trans sees.look)
  obtain rfl := Except.ok.inj same
  exact ⟨l, item, state, sees, state_eq.symm, actions_eq.symm⟩

end World

section Run

variable {room : LessonId → String} {requests : List LessonRequest} {start w : World}
  {meet : String → String → Except MeetingError Credential} {trace : Trace} {i : Nat}
  {user : UserId} {lesson : LessonId} {l : Lesson} {item : Item} {first : State}
  {view : LessonView}

theorem Run.offers_eq {m : MachineId} {shown left : State}
    (run : Run (LessonRequest.program room) requests start trace w) :
    w.offers user l m shown left = start.offers user l m shown left := by
  unfold World.offers
  rw [run.directory_eq, run.catalog_eq]

/-- What is shown at a moment are the actions of the state that is shown. -/
theorem Run.offers_of_shows {m : MachineId}
    (run : Run (LessonRequest.program room) requests start trace w)
    (on_lessons : ∀ r ∈ requests, r.lesson? ≠ none)
    (stored : start.lessons.get? lesson = some l)
    (machine : (start.items.get? l.item).map (·.machine) = some m)
    (shows : w.Shows meet user lesson view) :
    view.actions = start.offers user l m (.ofName view.state) (.ofName view.state) := by
  obtain ⟨l', item', state, sees, state_eq, actions_eq⟩ := shows.sees
  have same := run.sameRecords on_lessons
  obtain rfl : l' = l := by
    have stored' := sees.stored
    rw [same.lessons_eq, stored] at stored'
    exact (Option.some.inj stored').symm
  obtain ⟨there, known⟩ := World.item?_eq_some.1 sees.there
  have machine_eq : item'.machine = m := by
    have here := same.machine_eq l'.item
    rw [there, machine] at here
    exact Option.some.inj here
  have named : State.ofName view.state = state := by
    rw [state_eq]
    exact (State.eq_ofName_of_ofId? known).symm
  rw [actions_eq, named, machine_eq, run.offers_eq]

/-- A party that has just read the item of the lesson sees it in the state that was read. -/
theorem Run.sees_of_reading
    (run : Run (LessonRequest.program room) requests start
      ((i, ⟨.findItem l.item, .ok (some (item, first))⟩) :: trace) w)
    (on_lessons : ∀ r ∈ requests, r.lesson? ≠ none)
    (known : ∃ u, start.directory.users.get? user = some u)
    (stored : start.lessons.get? lesson = some l)
    (party : Guard.eitherParty.check l ⟨user, start.directory.teacherOf? user⟩ = .ok ()) :
    w.Sees user lesson l item first := by
  obtain ⟨there, _⟩ := run.read_item
  refine ⟨?_, ?_, ?_, there⟩
  · rw [run.directory_eq]
    exact known
  · rw [(run.sameRecords on_lessons).lessons_eq]
    exact stored
  · rw [run.directory_eq]
    exact party

/-- What a look that has shown a view tells about the world at the start. -/
structure World.Looked (start : World) (user : UserId) (lesson : LessonId) (view : LessonView)
    (l : Lesson) (item : Item) (first second : State) : Prop where
  known : ∃ u, start.directory.users.get? user = some u
  stored : start.lessons.get? lesson = some l
  party : Guard.eitherParty.check l ⟨user, start.directory.teacherOf? user⟩ = .ok ()
  machine : (start.items.get? l.item).map (·.machine) = some item.machine
  by_name : State.ofName first.name = first
  view_eq : view = ⟨l, first.name, start.offers user l item.machine first second⟩

/-- A look that succeeds among other requests has read the item of the lesson twice. -/
theorem Run.looked (run : Run (LessonRequest.program room) requests start trace w)
    (on_lessons : ∀ r ∈ requests, r.lesson? ≠ none)
    (ended : (getLesson user lesson).run.After (trace.own i) (.done (.ok view))) :
    ∃ l item item' first second edges older,
      trace.own i = edges :: ⟨.findItem l.item, .ok (some (item', second))⟩ ::
        ⟨.findItem l.item, .ok (some (item, first))⟩ :: older ∧
      start.Looked user lesson view l item first second := by
  have shown : Shown user lesson (trace.own i) view :=
    Program.After.post (Q := Task.Ends (Shown user lesson) fun _ _ => True) ended
      (getLesson_shown user lesson) fun _ _ => trivial
  have honest := run.own_honest i
  have happened : ∀ e ∈ trace.own i, (i, e) ∈ trace := fun _ => Trace.mem_own.1
  generalize trace.own i = log at *
  cases shown with
  | @intro u l teacher item item' first second next party =>
  have known : some u = start.directory.users.get? user :=
    (honest ⟨.findUser user, .ok (some u)⟩ (by simp)).answer_eq
      (f := fun d _ => d.users.get? user) fun _ _ => rfl
  obtain rfl : teacher = start.directory.teacherOf? user :=
    (honest ⟨.findTeacherByUser user, .ok teacher⟩ (by simp)).answer_eq
      (f := fun d _ => d.teacherOf? user) fun _ _ => rfl
  obtain rfl : next = start.catalog.nextStates item'.machine second.id :=
    (honest ⟨.nextStates item'.machine second.id, .ok next⟩ (by simp)).answer_eq
      (f := fun _ k => k.nextStates item'.machine second.id) fun _ _ => rfl
  have by_name := (honest ⟨.findItem l.item, .ok (some (item, first))⟩ (by simp)).findItem
  have machine : (start.items.get? l.item).map (·.machine) = some item.machine :=
    run.seen_machine on_lessons (happened ⟨.findItem l.item, .ok (some (item, first))⟩ (by simp))
  have machine' : (start.items.get? l.item).map (·.machine) = some item'.machine :=
    run.seen_machine on_lessons (happened ⟨.findItem l.item, .ok (some (item', second))⟩ (by simp))
  have same_machine : item'.machine = item.machine :=
    Option.some.inj (machine'.symm.trans machine)
  refine ⟨l, item, item', first, second, _, _, rfl, ⟨u, known.symm⟩, ?_, party, machine, ?_, ?_⟩
  · exact run.found_lesson on_lessons (happened _ (by simp))
  · rw [State.ofName, ← by_name]
  · rw [← same_machine]
    rfl

end Run

/-! ## Snapshots -/

/-- A moment of a run at which the request at a place is under way. -/
def Trace.During (i : Nat) (trace moment : Trace) : Prop :=
  moment <:+ trace ∧ Trace.own i moment ≠ [] ∧ Trace.own i moment ≠ Trace.own i trace

/-- **What a view is made of.** A look that succeeds among other requests on lessons has read the
item of the lesson twice. It shows the state of the first reading, and the actions that the policy
allows there and to which edges lead from the state of the second one. A look alone would have shown
the same state and the same actions at a moment during the look if and only if the edges of the
first reading offer these actions as well. -/
theorem view_is_snapshot_iff {room : LessonId → String} {requests : List LessonRequest}
    {start w : World} {trace : Trace} {i : Nat} {user : UserId} {lesson : LessonId}
    {view : LessonView} (meet : String → String → Except MeetingError Credential)
    (run : Run (LessonRequest.program room) requests start trace w)
    (request : requests[i]? = some (.get user lesson))
    (others : ∀ r ∈ requests.eraseIdx i, r.lesson? ≠ none)
    (ended : (getLesson user lesson).run.After (trace.own i) (.done (.ok view))) :
    ∃ l item item' first second edges older,
      trace.own i = edges :: ⟨.findItem l.item, .ok (some (item', second))⟩ ::
        ⟨.findItem l.item, .ok (some (item, first))⟩ :: older ∧
      view = ⟨l, first.name, start.offers user l item.machine first second⟩ ∧
      ((∃ moment w₁, trace.During i moment ∧
          Run (LessonRequest.program room) requests start moment w₁ ∧
          w₁.Shows meet user lesson view) ↔
        start.offers user l item.machine first second =
          start.offers user l item.machine first first) := by
  have on_lessons : ∀ r ∈ requests, r.lesson? ≠ none := by
    intro r hr
    obtain ⟨j, hj⟩ := List.mem_iff_getElem?.1 hr
    by_cases same : j = i
    · subst same
      obtain rfl := Option.some.inj (request.symm.trans hj)
      nofun
    · exact others r (List.mem_eraseIdx_iff_getElem?.2 ⟨j, same, hj⟩)
  obtain ⟨l, item, item', first, second, edges, older, own_eq, looked⟩ :=
    run.looked on_lessons ended
  obtain rfl := looked.view_eq
  refine ⟨l, item, item', first, second, edges, older, own_eq, rfl, ?_, ?_⟩
  · rintro ⟨moment, w₁, -, before, shows⟩
    have alone := before.offers_of_shows on_lessons looked.stored looked.machine shows
    rw [looked.by_name] at alone
    exact alone
  · intro same
    -- The moment of the first reading will do.
    obtain ⟨later, earlier, rfl, -, earlier_eq⟩ := Trace.split_own [_, _] own_eq
    obtain ⟨w₁, upto⟩ := run.upto
    have sees := upto.sees_of_reading on_lessons looked.known looked.stored looked.party
    refine ⟨_, w₁, ⟨List.suffix_append _ _, ?_, ?_⟩, upto, _, _, sees.look, rfl, ?_⟩
    · rw [Trace.own_cons_self]
      exact List.cons_ne_nil _ _
    · rw [own_eq, Trace.own_cons_self, earlier_eq]
      intro shorter
      have lengths := congrArg List.length shorter
      simp at lengths
    · show w₁.offers user l item.machine first first = _
      rw [upto.offers_eq, same]

/-- The teacher of the small world looks at the lesson and starts it. -/
def LessonRequest.glances : List LessonRequest :=
  [.get (.ofInt 2) (.ofInt 1), .move (.ofInt 2) (.ofInt 1) "start"]

/-- The lesson of the small world. -/
def Lesson.sample : Lesson :=
  ⟨⟨.ofInt 1, .ofInt 1, .ofInt 1, .ofInt 1, .ofInt 1, .epoch⟩, .ofInt 1⟩

/-- The lesson is started between the two readings of the look: the view shows a planned lesson that
could be finished, and no look alone shows that at any moment of any run. -/
theorem view_of_no_moment :
    ∃ trace w,
      Run (LessonRequest.program fun _ => "lesson-1") LessonRequest.glances .sample trace w ∧
      (getLesson (.ofInt 2) (.ofInt 1)).run.After (trace.own 0)
        (.done (.ok ⟨.sample, .planned, [.cancel, .finish]⟩)) ∧
      ∀ meet moment w₁,
        Run (LessonRequest.program fun _ => "lesson-1") LessonRequest.glances .sample moment w₁ →
          ¬w₁.Shows meet (.ofInt 2) (.ofInt 1) ⟨.sample, .planned, [.cancel, .finish]⟩ := by
  have none_served : Run (LessonRequest.program fun _ => "lesson-1") LessonRequest.glances .sample
    [] .sample := .start
  obtain ⟨run₁, after₁⟩ := none_served.serve (i := 0) (r := .get (.ofInt 2) (.ofInt 1))
    (fun _ _ => .ok ⟨"lesson-1", ""⟩) 4 rfl .start
  obtain ⟨run₂, _⟩ := run₁.serve (i := 1) (r := .move (.ofInt 2) (.ofInt 1) "start")
    (fun _ _ => .ok ⟨"lesson-1", ""⟩) 10 rfl .start
  obtain ⟨run₃, after₃⟩ := run₂.serve (i := 0) (r := .get (.ofInt 2) (.ofInt 1))
    (fun _ _ => .ok ⟨"lesson-1", ""⟩) 2 rfl after₁
  refine ⟨_, _, run₃, after₃, fun meet moment w₁ run shows => ?_⟩
  have alone := run.offers_of_shows (l := .sample) (m := .ofInt 1) (by decide) rfl rfl shows
  exact absurd alone (by decide)

/-- The lesson is started before the look reads its item: the view is one of a moment. -/
theorem view_is_snapshot_iff_started :
    ∃ trace w,
      Run (LessonRequest.program fun _ => "lesson-1") LessonRequest.glances .sample trace w ∧
      (getLesson (.ofInt 2) (.ofInt 1)).run.After (trace.own 0)
        (.done (.ok ⟨.sample, .ongoing, [.cancel, .finish, .join]⟩)) ∧
      ∃ (moment : Trace) (w₁ : World), trace.During 0 moment ∧
        w₁.Shows (fun _ _ => .ok ⟨"lesson-1", ""⟩) (.ofInt 2) (.ofInt 1)
          ⟨.sample, .ongoing, [.cancel, .finish, .join]⟩ := by
  have none_served : Run (LessonRequest.program fun _ => "lesson-1") LessonRequest.glances .sample
    [] .sample := .start
  obtain ⟨run₁, after₁⟩ := none_served.serve (i := 0) (r := .get (.ofInt 2) (.ofInt 1))
    (fun _ _ => .ok ⟨"lesson-1", ""⟩) 3 rfl .start
  obtain ⟨run₂, _⟩ := run₁.serve (i := 1) (r := .move (.ofInt 2) (.ofInt 1) "start")
    (fun _ _ => .ok ⟨"lesson-1", ""⟩) 10 rfl .start
  obtain ⟨run₃, after₃⟩ := run₂.serve (i := 0) (r := .get (.ofInt 2) (.ofInt 1))
    (fun _ _ => .ok ⟨"lesson-1", ""⟩) 3 rfl after₁
  obtain ⟨l, item, item', first, second, edges, older, own_eq, view_eq, snapshot⟩ :=
    view_is_snapshot_iff (i := 0) (fun _ _ => .ok ⟨"lesson-1", ""⟩) run₃ rfl (by decide) after₃
  obtain ⟨rfl, -⟩ := LessonView.mk.inj view_eq
  obtain ⟨-, rest⟩ := List.cons.inj own_eq
  obtain ⟨r₁, rest⟩ := List.cons.inj rest
  obtain ⟨r₂, rest⟩ := List.cons.inj rest
  cases r₁
  cases r₂
  obtain ⟨moment, w₁, during, -, shows⟩ := snapshot.2 rfl
  exact ⟨_, _, run₃, after₃, moment, w₁, during, shows⟩

end Tutoring
