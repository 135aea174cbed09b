import Tutoring.Proofs.Access

/-!
# The contract of a move

A move checks what it may do, has the engine move the item, and may ask for a credential after that.
Its contract holds whatever the collaborators answer.

* `Cleared`: all that has to stand in the log before the request may ask for a swap: the lesson, the
  profile of the actor, an observed state in which the action is allowed, and for an action that is
  pinned to what was observed, the same state as the one that the swap leaves.
* `moveLesson_meets`: the request asks for no swap that it is not cleared for and for no credential
  before it has moved the item. It succeeds, or says that the lesson was started, if and only if it
  has moved the item.
-/

namespace Tutoring

variable {R : Event → Prop} {user : UserId} {lesson : LessonId} {name : String} {log log' : Log}

/-- In this log the action of a name was found to be allowed, in a state that was observed. -/
structure Granted (user : UserId) (lesson : LessonId) (name : String) (log : Log)
    (action : LessonAction) (goal : StateName) (access : Access) (observed : State) : Prop where
  read_eq : readMove name = .ok (action, goal)
  loaded : Access.Loaded user lesson log access
  seen : Engine.Seen access.lesson.item observed log
  authorized : action.authorize access.lesson access.actor observed.name = .ok ()

/-- Everything is there that a request needs to swap the state of an item. -/
def Cleared (user : UserId) (lesson : LessonId) (name : String) (log : Log) (item : ItemId)
    (source target : StateId) : Prop :=
  ∃ action goal access observed, Granted user lesson name log action goal access observed ∧
    item = access.lesson.item ∧ ∃ seen wanted, Engine.Seen item seen log ∧
      Engine.Named goal wanted log ∧ source = seen.id ∧ target = wanted.id ∧
      (action.pinsState = true → source = observed.id)

/-- The request has moved the item of its lesson, by an action that was allowed. -/
def Achieved (user : UserId) (lesson : LessonId) (name : String) (log : Log)
    (action : LessonAction) (access : Access) (reached : State) : Prop :=
  ∃ goal observed, Granted user lesson name log action goal access observed ∧
    Engine.Named goal reached log ∧
    ∃ source, log.moves = [(access.lesson.item, source, reached.id)]

/-- An action that was allowed once stays so in every later log. -/
theorem Granted.mono {action : LessonAction} {goal : StateName} {access : Access}
    {observed : State} (h : Granted user lesson name log action goal access observed)
    (old : log <:+ log') : Granted user lesson name log' action goal access observed :=
  let ⟨found, hm⟩ := h.seen
  ⟨h.read_eq, h.loaded.mono old, ⟨found, old.subset hm⟩, h.authorized⟩

/-- What the request has done stands, if the next event is no swap. -/
theorem Achieved.cons {e : Event} {action : LessonAction} {access : Access} {reached : State}
    (h : Achieved user lesson name log action access reached) (he : e.move? = none) :
    Achieved user lesson name (e :: log) action access reached := by
  obtain ⟨goal, observed, granted, named, source, moved⟩ := h
  refine ⟨goal, observed, granted.mono (List.suffix_cons e log), named.cons, source, ?_⟩
  rw [Log.moves_cons_of_none he, moved]

/-- The calls of a move. Nothing has moved before any of them but the last one, which asks for the
way into the meeting of a lesson that was started. -/
def moveTerms (R : Event → Prop) (room : LessonId → String) (user : UserId) (lesson : LessonId)
    (name : String) : Contract where
  rely := R
  guar log
    | .findUser u | .findTeacherByUser u => log.moves = [] ∧ u = user
    | .findLesson l => log.moves = [] ∧ l = lesson
    | .findItem _ | .findMachine _ | .findMachineState _ _ | .transitionExists _ _ _ =>
      log.moves = []
    | .swapState item source target =>
      log.moves = [] ∧ Cleared user lesson name log item source target
    | .issueCredential place identity => ∃ action access reached,
      Achieved user lesson name log action access reached ∧ action.issuesCredential = true ∧
        place = room access.lesson.id ∧ identity = user.toText
    | _ => False

/-- A move that succeeds has moved the item to the state that it tells of. -/
def MoveSucceeded (user : UserId) (lesson : LessonId) (name : String) (log : Log)
    (m : MovedLesson) : Prop :=
  ∃ access reached, Achieved user lesson name log m.action access reached ∧
    m.lesson = access.lesson.id ∧ m.state = reached.name

/-- A move that fails has moved nothing, unless the error tells that the lesson was started. -/
def MoveFailed (log : Log) (e : LessonError) : Prop :=
  if e.started then ∃ m, log.moves = [m] else log.moves = []

theorem MoveFailed.of_not_started {e : LessonError} (h : log.moves = []) (he : e.started = false) :
    MoveFailed log e := by
  unfold MoveFailed
  rw [he]
  exact h

private theorem grant {action : LessonAction} {goal : StateName} {access : Access}
    {observed : State} (read_eq : readMove name = .ok (action, goal))
    (loaded : Access.Loaded user lesson log access)
    (seen : Engine.Seen access.lesson.item observed log)
    (guard : action.guard.check access.lesson access.actor = .ok ())
    (state : action.checkState access.lesson access.actor observed.name = .ok ()) :
    Granted user lesson name log action goal access observed := by
  refine ⟨read_eq, loaded, seen, ?_⟩
  unfold LessonAction.authorize
  rw [guard]
  exact state

private theorem transition_in_move {room : LessonId → String} {action : LessonAction}
    {goal : StateName} {access : Access} {observed : State} (unmoved : log.moves = [])
    (granted : Granted user lesson name log action goal access observed) :
    Task.Meets (moveTerms R room user lesson name)
      (Engine.transition access.lesson.item
        (if action.pinsState then some observed.id else none) goal)
      (fun log' reached => Achieved user lesson name log' action access reached)
      (fun log' _ => log'.moves = []) log := by
  refine (Engine.transition_meets R _ _ goal log).mono (fun _ h => h) ?_ ?_ ?_
  · intro log' c hc
    cases c with
    | swapState i source target =>
      obtain ⟨still, rfl, seen, wanted, hseen, hnamed, rfl, rfl, expected⟩ := hc
      refine ⟨still.moves_eq.trans unmoved, action, goal, access, observed, granted.mono still.old,
        rfl, seen, wanted, hseen, hnamed, rfl, rfl, fun pins => ?_⟩
      rw [if_pos pins] at expected
      exact (expected _ rfl).symm
    | findItem i => exact hc.1.moves_eq.trans unmoved
    | findMachine m => exact hc.moves_eq.trans unmoved
    | findMachineState m n => exact hc.moves_eq.trans unmoved
    | transitionExists m s t => exact hc.moves_eq.trans unmoved
    | _ => exact hc.elim
  · rintro log' reached ⟨old, hnamed, source, moved⟩
    refine ⟨goal, observed, granted.mono old, hnamed, source, ?_⟩
    rw [moved, unmoved]
  · intro log' _ still
    exact still.moves_eq.trans unmoved

/-- **The contract of a move.** Whatever is answered, it swaps no state that it is not cleared for,
and its result tells whether the item has moved. -/
theorem moveLesson_meets (R : Event → Prop) (room : LessonId → String) (user : UserId)
    (lesson : LessonId) (name : String) :
    Task.Meets (moveTerms R room user lesson name) (moveLesson room user lesson name)
      (MoveSucceeded user lesson name) MoveFailed [] := by
  unfold moveLesson
  rw [Task.meets_bind, Task.meets_check]
  refine ⟨?_, fun e he => .of_not_started rfl (started_of_readMove he)⟩
  rintro ⟨action, goal⟩ read_eq
  rw [Task.meets_bind]
  have loads : Task.Meets (moveTerms R room user lesson name) (Access.load user lesson)
      (fun log access => Log.Still [] log ∧ Access.Loaded user lesson log access)
      (fun log e => Log.Still [] log ∧ e.started = false) [] :=
    Access.load_meets ⟨rfl, rfl⟩ (fun _ still => ⟨still.moves_eq, rfl⟩)
      (fun _ still => ⟨still.moves_eq, rfl⟩)
  refine loads.mono (fun _ h => h) (fun _ _ h => h) ?_
    (fun log e h => .of_not_started h.1.moves_eq h.2)
  rintro log access ⟨still, loaded⟩
  have unmoved : log.moves = [] := still.moves_eq
  simp only [Task.meets_bind, Task.meets_check, LessonTask.meets_engine, Engine.current,
    Engine.load, issueCredential, Task.meets_ask, Task.meets_demand, Task.meets_ite,
    Task.meets_map, Task.meets_pure]
  refine ⟨fun _ guard => ⟨unmoved, fun answer _ => ⟨?_, fun _ => ?_⟩, fun _ _ => ?_⟩,
    fun e he => .of_not_started unmoved (Guard.started_of_check he)⟩
  · rintro ⟨found, observed⟩ rfl
    refine ⟨fun _ state => ?_,
      fun e he => .of_not_started unmoved (LessonAction.started_of_checkState he)⟩
    have granted := grant read_eq (loaded.mono (List.suffix_cons _ log))
      ⟨found, List.mem_cons_self⟩ guard state
    refine (transition_in_move (by exact unmoved) granted).mono (fun _ h => h) (fun _ _ h => h) ?_
      (fun log e unmoved => .of_not_started unmoved rfl)
    intro log reached achieved
    refine ⟨fun issues => ⟨?_, fun meeting _ => ?_, fun e _ => ?_⟩, fun _ => ?_⟩
    · exact ⟨action, access, reached, achieved, issues, rfl, by rw [loaded.user_eq]⟩
    · exact ⟨access, reached, achieved.cons rfl, rfl, rfl⟩
    · obtain ⟨goal, observed, granted, named, source, moved⟩ := achieved
      exact ⟨_, moved⟩
    · exact ⟨access, reached, achieved, rfl, rfl⟩
  · exact .of_not_started unmoved rfl
  · exact .of_not_started unmoved rfl

end Tutoring
