import Tutoring.Proofs.Requests

/-!
# No move without authority

What a move checks is the state that it observed, and what it leaves is the state that the item is
in when the swap comes, after any number of calls of other requests. Two things close the gap: an
action whose policy looks at the state is pinned to the observed one, and every other action is
allowed in all states or in none.

* `LessonAction.authorize_eq_of_not_pinned`: the policy of the other actions does not look at the
  state.
* `Granted.authorized_in`: what was allowed in the observed state is allowed in the state that is
  left.
* `Run.authorized_move`: every move of a run is an authorized one.
-/

namespace Tutoring

/-! ## The policy -/

theorem Guard.permits_of_check {g : Guard} {l : Lesson} {actor : Actor}
    (h : g.check l actor = .ok ()) : g.permits l actor = true := by
  unfold Guard.check at h
  split at h
  · assumption
  · cases h

namespace LessonAction

variable {a : LessonAction} {l : Lesson} {actor : Actor} {m n : StateName}

/-- An action that is not pinned to a state is allowed in all states or in none. -/
theorem authorize_eq_of_not_pinned (h : a.pinsState = false) (m n : StateName) :
    a.authorize l actor m = a.authorize l actor n := by
  cases a <;> first | rfl | cases h

theorem guard_ok_of_authorize (h : a.authorize l actor n = .ok ()) :
    a.guard.check l actor = .ok () := by
  unfold authorize at h
  cases hg : a.guard.check l actor with
  | ok => rfl
  | error e =>
    rw [hg] at h
    cases h

theorem state_ok_of_authorize (h : a.authorize l actor n = .ok ()) :
    a.checkState l actor n = .ok () := by
  have hg := guard_ok_of_authorize h
  unfold authorize at h
  rw [hg] at h
  exact h

/-- Only the teacher may take a lesson from ongoing to cancelled. -/
theorem teacher_of_ongoing_cancelled (target : a.target? = some .cancelled)
    (h : a.authorize l actor .ongoing = .ok ()) :
    Guard.teacherOfLesson.permits l actor = true := by
  obtain rfl : a = cancel := by cases a <;> first | rfl | cases target
  exact Guard.permits_of_check (state_ok_of_authorize h)

end LessonAction

theorem readMove_eq_ok {name : String} {action : LessonAction} {goal : StateName}
    (h : readMove name = .ok (action, goal)) :
    LessonAction.read name = .ok action ∧ action.target? = some goal := by
  unfold readMove at h
  cases hr : LessonAction.read name with
  | error lowered =>
    rw [hr] at h
    cases h
  | ok a =>
    cases ht : a.target? with
    | none => simp [hr, ht] at h
    | some t =>
      obtain ⟨rfl, rfl⟩ : a = action ∧ t = goal := by simpa [hr, ht] using h
      exact ⟨rfl, ht⟩

/-! ## The state that is left -/

variable {d : Directory} {k : Catalog} {user : UserId} {lesson : LessonId} {name : String}
  {log : Log} {action : LessonAction} {goal : StateName} {access : Access} {observed seen : State}

theorem Engine.Seen.id_eq {item : ItemId} (h : Engine.Seen item seen log)
    (honest : ∀ e ∈ log, World.Honest d k e) : seen.id = seen.name.id :=
  let ⟨_, hm⟩ := h
  (honest _ hm).findItem

theorem Engine.Named.eq {state : State} (h : Engine.Named goal state log)
    (honest : ∀ e ∈ log, World.Honest d k e) : state = .ofName goal :=
  let ⟨_, hm⟩ := h
  (honest _ hm).findMachineState

theorem Access.Loaded.actor_eq (h : Access.Loaded user lesson log access)
    (honest : ∀ e ∈ log, World.Honest d k e) : access.actor = ⟨user, d.teacherOf? user⟩ := by
  have teacher : access.actor.teacher = d.teacherOf? user :=
    (honest _ h.teacher_mem).answer_eq (f := fun d _ => d.teacherOf? user) fun _ _ => rfl
  rw [← teacher, ← h.user_eq]

/-- What was allowed in the observed state is allowed in the state that the swap leaves. -/
theorem Granted.authorized_in (h : Granted user lesson name log action goal access observed)
    (honest : ∀ e ∈ log, World.Honest d k e) (hseen : Engine.Seen access.lesson.item seen log)
    (pinned : action.pinsState = true → seen.id = observed.id) :
    action.authorize access.lesson ⟨user, d.teacherOf? user⟩ seen.name = .ok () := by
  rw [← h.loaded.actor_eq honest]
  cases pins : action.pinsState with
  | false =>
    rw [LessonAction.authorize_eq_of_not_pinned pins seen.name observed.name]
    exact h.authorized
  | true =>
    have same : seen.name.id = observed.name.id := by
      rw [← hseen.id_eq honest, ← h.seen.id_eq honest, pinned pins]
    rw [StateName.id_injective same]
    exact h.authorized

/-! ## Moves of a run -/

/-- A lesson was found by a request, and it is still stored unless its number has been given out
since. -/
def Trace.LessonFound (trace : Trace) (w : World) (i : Nat) (lesson : LessonId) (l : Lesson) :
    Prop :=
  ∃ later earlier, trace = later ++ (i, ⟨.findLesson lesson, .ok (some l)⟩) :: earlier ∧
    ((∀ j draft, (j, ⟨.insertLesson draft, .ok (draft.numbered lesson)⟩) ∉ later) →
      w.lessons.get? lesson = some l)

/-- The swap that turns one world into another is an authorized move: the lesson that owns the item
is moved by an action that is allowed to the actor in the very state that the item leaves. -/
structure AuthorizedMove (w w' : World) (id : ItemId) (source target : StateId) (user : UserId)
    (name : String) (l : Lesson) (action : LessonAction) (left goal : StateName) : Prop where
  action_eq : LessonAction.read name = .ok action
  goal_eq : action.target? = some goal
  item_eq : l.item = id
  source_eq : source = left.id
  target_eq : target = goal.id
  /-- The item leaves its state along an edge of its machine. -/
  moved : ∃ item, w.items.get? id = some item ∧ item.state = left.id ∧
    w.catalog.hasEdge item.machine left.id goal.id = true ∧
    w'.items.get? id = some { item with state := goal.id }
  authorized : action.authorize l ⟨user, w.directory.teacherOf? user⟩ left = .ok ()

/-- **Every move of a run is authorized** in the state that the item is in when it is moved,
whatever other requests have done since that state was observed. -/
theorem Run.authorized_move {room : LessonId → String} {requests : List LessonRequest}
    {start w' : World} {trace : Trace} {i : Nat} {id : ItemId} {source target : StateId}
    (run : Run (LessonRequest.program room) requests start
      ((i, ⟨.swapState id source target, .ok true⟩) :: trace) w') :
    ∃ w user lesson name l action left goal,
      Run (LessonRequest.program room) requests start trace w ∧
      requests[i]? = some (.move user lesson name) ∧ trace.LessonFound w i lesson l ∧
      AuthorizedMove w w' id source target user name l action left goal ∧
      (left = .ongoing → goal = .cancelled →
        Guard.teacherOfLesson.permits l ⟨user, w.directory.teacherOf? user⟩ = true) := by
  obtain ⟨w, r, next, before, request, pending, reacts⟩ := run.last
  obtain ⟨user, lesson, name, rfl, action, goal, access, observed, granted, rfl, seen, wanted,
    hseen, hnamed, rfl, rfl, pinned⟩ := LessonRequest.swap_cleared pending
  have honest := before.own_honest i
  have authorized := granted.authorized_in honest hseen pinned
  rw [← before.directory_eq] at authorized
  obtain ⟨action_eq, goal_eq⟩ := readMove_eq_ok granted.read_eq
  have source_eq : seen.id = seen.name.id := hseen.id_eq honest
  have target_eq : wanted.id = goal.id := congrArg State.id (hnamed.eq honest)
  obtain ⟨item, found, state, edge, rfl⟩ := reacts.effect.moved
  refine ⟨w, user, lesson, name, access.lesson, action, seen.name, goal, before, request, ?_,
    ⟨action_eq, goal_eq, rfl, source_eq, target_eq, ?_, authorized⟩, ?_⟩
  · obtain ⟨later, earlier, rfl⟩ := List.append_of_mem (Trace.mem_own.1 granted.loaded.lesson_mem)
    exact ⟨later, earlier, rfl, before.lesson_kept⟩
  · rw [source_eq] at state
    rw [source_eq, target_eq] at edge
    refine ⟨item, found, state, edge, ?_⟩
    rw [Table.get?_insert, if_pos rfl, target_eq]
  · intro ongoing cancelled
    rw [ongoing] at authorized
    exact LessonAction.teacher_of_ongoing_cancelled (cancelled ▸ goal_eq) authorized

/-- A teacher starts a lesson that was planned. -/
theorem Run.authorized_move_start :
    ∃ trace w' w l, Run (LessonRequest.program fun _ => "") [.move (.ofInt 2) (.ofInt 1) "start"]
      .sample ((0, ⟨.swapState (.ofInt 1) StateName.planned.id StateName.ongoing.id, .ok true⟩)
        :: trace) w' ∧
      AuthorizedMove w w' (.ofInt 1) StateName.planned.id StateName.ongoing.id (.ofInt 2) "start" l
        .start .planned .ongoing := by
  have none_served : Run (LessonRequest.program fun _ => "")
    [.move (.ofInt 2) (.ofInt 1) "start"] .sample [] .sample := .start
  have served := none_served.serve (i := 0) (r := .move (.ofInt 2) (.ofInt 1) "start")
    (fun _ _ => .error (.unavailable "")) 9 rfl .start
  have run : Run (LessonRequest.program fun _ => "") [.move (.ofInt 2) (.ofInt 1) "start"] .sample
    ((0, ⟨.swapState (.ofInt 1) StateName.planned.id StateName.ongoing.id, .ok true⟩) :: _) _ :=
    served.1
  obtain ⟨w, user, lesson, name, l, action, left, goal, _, request, _, move, -⟩ :=
    run.authorized_move
  obtain ⟨rfl, rfl, rfl⟩ := LessonRequest.move.inj (Option.some.inj request)
  obtain rfl : LessonAction.start = action := Except.ok.inj move.action_eq
  obtain rfl : StateName.ongoing = goal := Option.some.inj move.goal_eq
  obtain rfl : StateName.planned = left := StateName.id_injective move.source_eq
  exact ⟨_, _, w, l, run, move⟩

end Tutoring
