import Tutoring.Proofs.Attempt
import Tutoring.Proofs.Authorization
import Tutoring.Proofs.Provision

/-!
# The offered actions are the possible ones

A look at a lesson offers actions by what the policy allows and by the names of the states that the
machine leads on to. Taking an action goes another way: the machine is looked up, the state is
resolved within it, and the edge is checked by numbers. If nobody else comes in between, an action
succeeds if and only if it was offered.

* `World.Sees`: what a look at a lesson has found.
* `World.Sees.move_iff`, `World.Sees.join_iff`: when an action succeeds, in terms of that.
* `offered_actions_possible`: the two agree, for the machines of any blueprints.
-/

namespace Tutoring

theorem LessonAction.authorize_eq_ok {a : LessonAction} {l : Lesson} {actor : Actor}
    {n : StateName} :
    a.authorize l actor n = .ok () ↔
      a.guard.check l actor = .ok () ∧ a.checkState l actor n = .ok () := by
  refine ⟨fun h => ⟨guard_ok_of_authorize h, state_ok_of_authorize h⟩, ?_⟩
  rintro ⟨guarded, allowed⟩
  rw [authorize, guarded, allowed]
  rfl

theorem readMove_toText {a : LessonAction} {goal : StateName} (h : a.target? = some goal) :
    readMove a.toText = .ok (a, goal) := by
  cases a with
  | join => cases h
  | _ =>
    obtain rfl := Option.some.inj h
    rfl

/-- What a look at a lesson has found. -/
structure World.Sees (w : World) (user : UserId) (lesson : LessonId) (l : Lesson) (item : Item)
    (state : State) : Prop where
  known : ∃ u, w.directory.users.get? user = some u
  stored : w.lessons.get? lesson = some l
  party : Guard.eitherParty.check l ⟨user, w.directory.teacherOf? user⟩ = .ok ()
  there : w.item? l.item = some (item, state)

namespace World

variable {meet : String → String → Except MeetingError Credential} {w w' : World} {user : UserId}
  {lesson : LessonId} {view : LessonView} {room : LessonId → String}

theorem sees_of_attempt (h : w.attempt meet (getLesson user lesson) = (.ok view, w')) :
    w' = w ∧ ∃ l item state, w.Sees user lesson l item state ∧
      view.actions = offeredActions l ⟨user, w.directory.teacherOf? user⟩ state.name
        ((w.catalog.nextStates item.machine state.id).map (·.name)) := by
  simp only [getLesson, attempt_bind_ok, attempt_load_ok, attempt_check_ok, attempt_engine_ok,
    attempt_current_ok, attempt_available_ok, attempt_pure_ok] at h
  obtain ⟨_, _, ⟨known, ⟨l, stored, rfl⟩, rfl⟩, _, _, ⟨party, rfl⟩, state, _,
    ⟨⟨item, there⟩, rfl⟩, _, _, ⟨⟨item', state', again, rfl⟩, rfl⟩, rfl, rfl⟩ := h
  obtain ⟨rfl, rfl⟩ := Prod.mk.inj (Option.some.inj (there.symm.trans again))
  exact ⟨rfl, l, item, state, ⟨known, stored, party, there⟩, rfl⟩

namespace Sees

variable {l : Lesson} {item : Item} {state : State} {a : LessonAction} {goal : StateName}

/-- The steps that taking an action begins with, whether the action moves the lesson or not. -/
theorem enter_ok {β : Type} {b : β} {rest : Access → State → LessonTask β}
    (sees : w.Sees user lesson l item state) :
    w.attempt meet (Access.load user lesson >>= fun x =>
        Task.check (a.guard.check x.lesson x.actor) >>= fun _ =>
        LessonTask.engine (Engine.current x.lesson.item) >>= fun s =>
        Task.check (a.checkState x.lesson x.actor s.name) >>= fun _ => rest x s) = (.ok b, w') ↔
      a.authorize l ⟨user, w.directory.teacherOf? user⟩ state.name = .ok () ∧
        w.attempt meet (rest ⟨l, user, w.directory.teacherOf? user⟩ state) = (.ok b, w') := by
  simp only [attempt_bind_ok, attempt_load_ok, attempt_check_ok, attempt_engine_ok,
    attempt_current_ok]
  constructor
  · rintro ⟨_, _, ⟨_, ⟨l', stored, rfl⟩, rfl⟩, _, _, ⟨guarded, rfl⟩, state', _,
      ⟨⟨item', there⟩, rfl⟩, _, _, ⟨allowed, rfl⟩, goes_on⟩
    obtain rfl := Option.some.inj (stored.symm.trans sees.stored)
    obtain ⟨-, rfl⟩ := Prod.mk.inj (Option.some.inj (there.symm.trans sees.there))
    exact ⟨LessonAction.authorize_eq_ok.2 ⟨guarded, allowed⟩, goes_on⟩
  · rintro ⟨authorized, goes_on⟩
    obtain ⟨guarded, allowed⟩ := LessonAction.authorize_eq_ok.1 authorized
    exact ⟨_, w, ⟨sees.known, ⟨l, sees.stored, rfl⟩, rfl⟩, (), w, ⟨guarded, rfl⟩, state, w,
      ⟨⟨item, sees.there⟩, rfl⟩, (), w, ⟨allowed, rfl⟩, goes_on⟩

theorem join_iff (sees : w.Sees user lesson l item state)
    (answers : ∀ room identity, ∃ c, meet room identity = .ok c) :
    (∃ admitted w', w.attempt meet (joinLesson room user lesson) = (.ok admitted, w')) ↔
      LessonAction.join.authorize l ⟨user, w.directory.teacherOf? user⟩ state.name = .ok () := by
  refine (exists_congr fun _ => exists_congr fun _ => sees.enter_ok (a := .join)).trans ?_
  simp only [attempt_bind_ok, attempt_issueCredential_ok, attempt_pure_ok]
  constructor
  · rintro ⟨_, _, authorized, _⟩
    exact authorized
  · intro authorized
    obtain ⟨c, issued⟩ := answers (room l.id) user.toText
    exact ⟨_, w, authorized, c, w, ⟨issued, rfl⟩, rfl, rfl⟩

theorem move_iff (sees : w.Sees user lesson l item state) (target : a.target? = some goal)
    (answers : ∀ room identity, ∃ c, meet room identity = .ok c) :
    (∃ moved w', w.attempt meet (moveLesson room user lesson a.toText) = (.ok moved, w')) ↔
      a.authorize l ⟨user, w.directory.teacherOf? user⟩ state.name = .ok () ∧
        (∃ m, w.catalog.machine? item.machine = some m) ∧
        w.catalog.hasEdge item.machine state.id goal.id = true := by
  unfold moveLesson
  rw [Task.check_bind_of_ok (readMove_toText target)]
  refine (exists_congr fun _ => exists_congr fun _ => sees.enter_ok).trans ?_
  simp only [attempt_bind_ok, attempt_engine_ok, attempt_ite_ok, attempt_map_ok,
    attempt_issueCredential_ok, attempt_pure_ok]
  have pinned : ∀ s ∈ (if a.pinsState = true then some state.id else none), s = state.id := by
    intro s hs
    split at hs
    · exact (Option.some.inj hs).symm
    · cases hs
  have moves : (∃ reached w', w.attempt meet (Engine.transition l.item
    (if a.pinsState = true then some state.id else none) goal) = (.ok reached, w')) ↔ _ :=
    attempt_transition_iff sees.there pinned
  rw [← moves]
  constructor
  · rintro ⟨_, _, authorized, reached, w₁, moved, _⟩
    exact ⟨authorized, reached, w₁, moved⟩
  · rintro ⟨authorized, reached, w₁, moved⟩
    by_cases issues : a.issuesCredential = true
    · obtain ⟨c, issued⟩ := answers (room l.id) user.toText
      exact ⟨_, w₁, authorized, reached, w₁, moved,
        .inl ⟨issues, some c, w₁, ⟨c, ⟨issued, rfl⟩, rfl⟩, rfl, rfl⟩⟩
    · exact ⟨_, w₁, authorized, reached, w₁, moved, .inr ⟨issues, none, w₁, ⟨rfl, rfl⟩, rfl, rfl⟩⟩

end Sees

/-! ## What is offered and what succeeds -/

/-- The user takes the action on the lesson, and it succeeds: a move by the name of the action, or a
join. -/
def Takes (w : World) (meet : String → String → Except MeetingError Credential)
    (room : LessonId → String) (user : UserId) (lesson : LessonId) (a : LessonAction) : Prop :=
  match a.target? with
  | some _ => ∃ moved w', w.attempt meet (moveLesson room user lesson a.toText) = (.ok moved, w')
  | none => ∃ admitted w', w.attempt meet (joinLesson room user lesson) = (.ok admitted, w')

/-- An action succeeds if the policy allows it and the machine has the edge. -/
theorem Sees.takes_iff {l : Lesson} {item : Item} {state : State} {blueprints : List Blueprint}
    (sees : w.Sees user lesson l item state) (provisioned : w.catalog = .ofBlueprints blueprints)
    (answers : ∀ room identity, ∃ c, meet room identity = .ok c) (a : LessonAction) :
    w.Takes meet room user lesson a ↔
      a.authorize l ⟨user, w.directory.teacherOf? user⟩ state.name = .ok () ∧
        ∀ goal, a.target? = some goal →
          w.catalog.hasEdge item.machine state.id goal.id = true := by
  unfold Takes
  cases target : a.target? with
  | none =>
    obtain rfl : a = .join := by cases a <;> first | rfl | cases target
    exact (sees.join_iff answers).trans ⟨fun h => ⟨h, fun _ h => nomatch h⟩, And.left⟩
  | some goal =>
    refine (sees.move_iff target answers).trans (and_congr_right fun _ => ?_)
    constructor
    · rintro ⟨_, edge⟩ _ ⟨rfl⟩
      exact edge
    · intro leads
      have edge := leads goal rfl
      -- An item may belong to no machine, but then there is no edge that could be offered.
      refine ⟨?_, edge⟩
      rw [provisioned] at edge ⊢
      exact Catalog.machine?_of_hasEdge edge

end World

theorem mem_offeredActions {l : Lesson} {actor : Actor} {state : StateName}
    {next : List StateName} {a : LessonAction} :
    a ∈ offeredActions l actor state next ↔ a.authorize l actor state = .ok () ∧
      ∀ goal, a.target? = some goal → goal ∈ next := by
  have listed : a ∈ LessonAction.all := by cases a <;> decide
  have allowed : (a.authorize l actor state).isOk = true ↔ a.authorize l actor state = .ok () := by
    cases a.authorize l actor state <;> simp [Except.isOk, Except.toBool]
  unfold offeredActions
  rw [List.mem_filter, Bool.and_eq_true, allowed, Option.all_eq_true]
  simp [listed]

/-- **The offered actions are the possible ones.** In a world with the machines of any blueprints
and with a provider of meetings that answers, an action succeeds right after a look at the lesson if
and only if it was offered there. The actions are offered in their order, none of them twice, and
looking changes nothing. -/
theorem offered_actions_possible {blueprints : List Blueprint}
    {meet : String → String → Except MeetingError Credential} {w w' : World} {user : UserId}
    {lesson : LessonId} {view : LessonView} (room : LessonId → String)
    (provisioned : w.catalog = .ofBlueprints blueprints)
    (answers : ∀ room identity, ∃ c, meet room identity = .ok c)
    (looked : w.attempt meet (getLesson user lesson) = (.ok view, w')) :
    w' = w ∧ (∀ a, a ∈ view.actions ↔ w'.Takes meet room user lesson a) ∧
      view.actions.Sublist LessonAction.all ∧ view.actions.Nodup := by
  obtain ⟨rfl, l, item, state, sees, offered⟩ := World.sees_of_attempt looked
  refine ⟨rfl, fun a => ?_, ?_, ?_⟩
  · rw [offered, mem_offeredActions, sees.takes_iff provisioned answers]
    simp only [Catalog.mem_nextStates_iff]
  · rw [offered]
    exact List.filter_sublist
  · rw [offered]
    exact List.Nodup.sublist List.filter_sublist (by decide)

/-- The teacher of the planned lesson is offered to cancel or to start it, and can do just that. -/
theorem offered_actions_possible_planned :
    ∃ view w, World.sample.attempt (fun room _ => .ok ⟨room, ""⟩)
        (getLesson (.ofInt 2) (.ofInt 1)) = (.ok view, w) ∧ view.actions = [.cancel, .start] ∧
      w.Takes (fun room _ => .ok ⟨room, ""⟩) (fun _ => "") (.ofInt 2) (.ofInt 1) .start ∧
      ¬w.Takes (fun room _ => .ok ⟨room, ""⟩) (fun _ => "") (.ofInt 2) (.ofInt 1) .finish := by
  have looked : World.sample.attempt (fun room _ => .ok ⟨room, ""⟩)
    (getLesson (.ofInt 2) (.ofInt 1)) = (.ok ⟨_, .planned, [.cancel, .start]⟩, _) := rfl
  have provisioned : World.sample.catalog = .ofBlueprints Blueprint.defaultCatalog := rfl
  obtain ⟨-, possible, -⟩ := offered_actions_possible (fun _ => "") provisioned
    (fun room _ => ⟨⟨room, ""⟩, rfl⟩) looked
  exact ⟨_, _, looked, rfl, (possible .start).1 (by decide), fun h =>
    absurd ((possible .finish).2 h) (by decide)⟩

end Tutoring
