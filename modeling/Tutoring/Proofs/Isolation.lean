import Mathlib.Logic.Function.Basic
import Tutoring.Proofs.Numbers

/-!
# Lessons on their own

Requests on one lesson and requests on another one share the stores, but not what they read or write
there. So the requests on a lesson fare as they would with nobody else around, and it does not
matter in which order they take turns with the others.

* `Progress`: the world together with what is left to do of every request, which take turns with
  their calls (`Progress.play`). Every way to take turns is a run (`Progress.Backed`).
* `LessonRequest.scope`: a request on a lesson looks that lesson up and reads and moves the item of
  the lesson that it has found. Only bookings make and remove records.
* `Apart`: no request but those on the lesson comes upon its item.
* `World.Alike.step`, `Progress.Shadow.turn`: calls within the lesson do the same in two worlds in
  which the lesson and its item are alike, and other calls leave these alone.
-/

namespace Tutoring

/-! ## Taking turns -/

/-- The world, and what is left to do of every request. -/
structure Progress (requests : List LessonRequest) where
  world : World
  left : (i : Fin requests.length) → Program (Except LessonError (requests.get i).Answer)

namespace Progress

variable {requests : List LessonRequest} {room : LessonId → String}
  {meet : String → String → Except MeetingError Credential} {s : Progress requests}
  {i : Fin requests.length}

/-- Nothing has been done yet. -/
def start (room : LessonId → String) (requests : List LessonRequest) (w : World) :
    Progress requests :=
  ⟨w, fun i => (requests.get i).program room⟩

/-- The next call of a request is served. A request that is done makes no call. -/
def turn (meet : String → String → Except MeetingError Credential) (s : Progress requests)
    (i : Fin requests.length) : Progress requests :=
  match s.left i with
  | .done _ => s
  | .call c next =>
    ⟨(s.world.step meet c).2, Function.update s.left i (next (s.world.step meet c).1)⟩

/-- The requests take turns. -/
def play (meet : String → String → Except MeetingError Credential) (s : Progress requests)
    (turns : List (Fin requests.length)) : Progress requests :=
  turns.foldl (turn meet) s

/-- What turns lead to from the start. -/
def after (room : LessonId → String) (meet : String → String → Except MeetingError Credential)
    (w : World) (turns : List (Fin requests.length)) : Progress requests :=
  (start room requests w).play meet turns

theorem turn_of_done {a : Except LessonError (requests.get i).Answer} (h : s.left i = .done a) :
    s.turn meet i = s := by
  simp only [turn, h]

theorem world_turn {c : Call} {next} (h : s.left i = .call c next) :
    (s.turn meet i).world = (s.world.step meet c).2 := by
  simp only [turn, h]

theorem left_turn_self {c : Call} {next} (h : s.left i = .call c next) :
    (s.turn meet i).left i = next (s.world.step meet c).1 := by
  simp only [turn, h, Function.update_self]

theorem left_turn_of_ne {j : Fin requests.length} (h : j ≠ i) :
    (s.turn meet i).left j = s.left j := by
  unfold turn
  split
  · rfl
  · exact Function.update_of_ne h _ _

/-- What has been done is a run. -/
structure Backed (room : LessonId → String) (w : World) (trace : Trace) (s : Progress requests) :
    Prop where
  run : Run (LessonRequest.program room) requests w trace s.world
  after : ∀ i, ((requests.get i).program room).After (trace.own i) (s.left i)

theorem Backed.start {w : World} : Backed room w [] (start room requests w) :=
  ⟨.start, fun _ => .start⟩

theorem getElem?_get (i : Fin requests.length) : requests[(i : Nat)]? = some (requests.get i) :=
  List.getElem?_eq_getElem i.isLt

/-- A call that is served goes on with the run. -/
theorem Backed.call {w : World} {trace : Trace} (h : Backed room w trace s) {c : Call} {next}
    (left : s.left i = .call c next) :
    Backed room w ((↑i, ⟨c, (s.world.step meet c).1⟩) :: trace) (s.turn meet i) := by
  have pending := h.after i
  rw [left] at pending
  refine ⟨?_, fun j => ?_⟩
  · rw [world_turn left]
    exact h.run.step (getElem?_get i) pending (.served meet)
  · by_cases hj : j = i
    · subst hj
      rw [left_turn_self left, Trace.own_cons_self]
      exact pending.reply _
    · rw [left_turn_of_ne hj, Trace.own_cons_of_ne fun heq => hj (Fin.ext heq.symm)]
      exact h.after j

theorem Backed.turn {w : World} {trace : Trace} (h : Backed room w trace s)
    (meet : String → String → Except MeetingError Credential) (i : Fin requests.length) :
    ∃ trace', Backed room w trace' (s.turn meet i) := by
  cases left : s.left i with
  | done a =>
    rw [turn_of_done left]
    exact ⟨trace, h⟩
  | call c next => exact ⟨_, h.call left⟩

end Progress

/-! ## What a request comes upon -/

namespace LessonRequest

/-- The lesson that a request addresses. -/
def lesson? : LessonRequest → Option LessonId
  | book _ _ => none
  | get _ lesson | join _ lesson | move _ lesson _ => some lesson

/-- The item of the lesson that the request has found. -/
def Finds (r : LessonRequest) (log : Log) (id : ItemId) : Prop :=
  ∃ lesson l, r.lesson? = some lesson ∧ ⟨.findLesson lesson, .ok (some l)⟩ ∈ log ∧ l.item = id

/-- A request on a lesson looks up that lesson, and it reads and moves the item of the lesson that
it has found. Records are made and removed, and slots are taken and released, by bookings alone. -/
def scope (r : LessonRequest) : Contract where
  rely _ := True
  guar log
    | .findLesson lesson => r.lesson? = some lesson
    | .findItem id | .swapState id _ _ => r.Finds log id
    | .findSlot _ | .reserveSlot _ | .releaseSlot _ | .insertLesson _ | .insertItem _ _
    | .deleteItem _ => r.lesson? = none
    | _ => True

variable {room : LessonId → String} {r : LessonRequest} {user : UserId} {lesson : LessonId}
  {log log' : Log} {id : ItemId}

theorem Finds.mono (h : r.Finds log id) (old : log <:+ log') : r.Finds log' id :=
  let ⟨lesson, l, addressed, found, item⟩ := h
  ⟨lesson, l, addressed, old.subset found, item⟩

theorem load_in_scope (addressed : r.lesson? = some lesson) :
    Task.Meets r.scope (Access.load user lesson) (fun log a => r.Finds log a.lesson.item)
      (fun _ _ => True) [] := by
  have loads : Task.Meets r.scope (Access.load user lesson)
      (fun log a => Log.Still [] log ∧ Access.Loaded user lesson log a)
      (fun log e => Log.Still [] log ∧ e.started = false) [] :=
    Access.load_meets trivial (fun _ _ => addressed) (fun _ _ => trivial)
  refine loads.mono (fun _ h => h) (fun _ _ h => h) ?_ fun _ _ _ => trivial
  rintro log a ⟨-, loaded⟩
  exact ⟨lesson, a.lesson, addressed, loaded.lesson_mem, rfl⟩

theorem load_item_in_scope (finds : r.Finds log id) :
    Task.Meets r.scope (Engine.load id) (fun log' _ => r.Finds log' id) (fun _ _ => True) log := by
  simp only [Engine.load, Task.meets_bind, Task.meets_ask, Task.meets_demand]
  refine ⟨finds, fun answer _ => ⟨fun _ _ => ?_, fun _ => trivial⟩, fun _ _ => trivial⟩
  exact finds.mono (List.suffix_cons _ log)

theorem transition_in_scope (finds : r.Finds log id) (expected : Option StateId)
    (next : StateName) :
    Task.Meets r.scope (Engine.transition id expected next) (fun _ _ => True) (fun _ _ => True)
      log := by
  refine (Engine.transition_meets (fun _ => True) id expected next log).mono (fun _ h => h) ?_
    (fun _ _ _ => trivial) fun _ _ _ => trivial
  intro log' c allowed
  cases c with
  | findItem i =>
    obtain ⟨still, rfl⟩ := allowed
    exact finds.mono still.old
  | swapState i source target =>
    obtain ⟨still, rfl, -⟩ := allowed
    exact finds.mono still.old
  | findMachine | findMachineState | transitionExists => trivial
  | _ => exact allowed.elim

/-- **The scope of all requests.** -/
theorem meets_scope (room : LessonId → String) (r : LessonRequest) :
    (r.program room).Meets r.scope (fun _ _ => True) [] := by
  cases r with
  | book now b =>
    refine (bookLesson_meets (fun _ => True) now b).calls (fun _ h => h) fun log c hc => ?_
    cases c with
    | findLesson | findItem | swapState => exact hc.elim
    | findSlot | reserveSlot | releaseSlot | insertLesson | insertItem | deleteItem => rfl
    | _ => trivial
  | get user lesson =>
    refine Task.Meets.calls (Q := fun _ _ => True) (E := fun _ _ => True)
      (t := getLesson user lesson) ?_ (fun _ h => h) fun _ _ h => h
    simp only [getLesson, Engine.current, Engine.available, Task.meets_bind, Task.meets_check,
      LessonTask.meets_engine, Task.meets_ask, Task.meets_pure]
    refine (load_in_scope rfl).mono (fun _ h => h) (fun _ _ h => h) ?_ fun _ _ _ => trivial
    intro log access finds
    refine ⟨fun _ _ => ?_, fun _ _ => trivial⟩
    refine (load_item_in_scope finds).mono (fun _ h => h) (fun _ _ h => h) ?_ fun _ _ _ => trivial
    intro log _ finds
    refine (load_item_in_scope finds).mono (fun _ h => h) (fun _ _ h => h) ?_ fun _ _ _ => trivial
    exact fun _ _ _ => ⟨trivial, fun _ _ => trivial, fun _ _ => trivial⟩
  | join user lesson =>
    refine Task.Meets.calls (Q := fun _ _ => True) (E := fun _ _ => True)
      (t := joinLesson room user lesson) ?_ (fun _ h => h) fun _ _ h => h
    simp only [joinLesson, Engine.current, issueCredential, Task.meets_bind, Task.meets_check,
      LessonTask.meets_engine, Task.meets_ask, Task.meets_pure]
    refine (load_in_scope rfl).mono (fun _ h => h) (fun _ _ h => h) ?_ fun _ _ _ => trivial
    intro log access finds
    refine ⟨fun _ _ => ?_, fun _ _ => trivial⟩
    refine (load_item_in_scope finds).mono (fun _ h => h) (fun _ _ h => h) ?_ fun _ _ _ => trivial
    intro log _ finds
    exact ⟨fun _ _ => ⟨trivial, fun _ _ => trivial, fun _ _ => trivial⟩, fun _ _ => trivial⟩
  | move user lesson name =>
    refine Task.Meets.calls (Q := fun _ _ => True) (E := fun _ _ => True)
      (t := moveLesson room user lesson name) ?_ (fun _ h => h) fun _ _ h => h
    simp only [moveLesson, Engine.current, issueCredential, Task.meets_bind, Task.meets_check,
      LessonTask.meets_engine, Task.meets_ask, Task.meets_ite, Task.meets_map, Task.meets_pure]
    refine ⟨fun _ _ => ?_, fun _ _ => trivial⟩
    refine (load_in_scope rfl).mono (fun _ h => h) (fun _ _ h => h) ?_ fun _ _ _ => trivial
    intro log access finds
    refine ⟨fun _ _ => ?_, fun _ _ => trivial⟩
    refine (load_item_in_scope finds).mono (fun _ h => h) (fun _ _ h => h) ?_ fun _ _ _ => trivial
    intro log _ finds
    refine ⟨fun _ _ => ?_, fun _ _ => trivial⟩
    refine (transition_in_scope finds _ _).mono (fun _ h => h) (fun _ _ h => h) ?_
      fun _ _ _ => trivial
    intro log reached _
    exact ⟨fun _ => ⟨trivial, fun _ _ => trivial, fun _ _ => trivial⟩, fun _ => trivial⟩

end LessonRequest

/-! ## The item of a lesson -/

/-- The lesson is there, and its item is the one of no other lesson that is there or has been found,
nor has it been made anew. -/
structure Apart (start : World) (lesson : LessonId) (l : Lesson) (trace : Trace) (w : World) :
    Prop where
  stored : w.lessons.get? lesson = some l
  item_iff : ∀ k l', w.lessons.get? k = some l' → (l'.item = l.item ↔ k = lesson)
  found_iff : ∀ i k l', (i, ⟨.findLesson k, .ok (some l')⟩) ∈ trace →
    (l'.item = l.item ↔ k = lesson)
  unmade : l.item ∉ trace.calls.made
  nextItem : w.nextItem.value.toInt = start.nextItem.value.toInt + trace.calls.made.length
  nextLesson : w.nextLesson.value.toInt = start.nextLesson.value.toInt + trace.calls.stored.length

namespace Apart

variable {start w w' : World} {lesson : LessonId} {l : Lesson} {trace : Trace} {i : Nat} {e : Event}
  {r : LessonRequest}

theorem of_orderly (orderly : w.Orderly) (stored : w.lessons.get? lesson = some l) :
    Apart w lesson l [] w where
  stored := stored
  item_iff k l' there := by
    constructor
    · exact orderly.distinct k l' lesson l there stored
    · rintro rfl
      rw [Option.some.inj (there.symm.trans stored)]
  found_iff _ _ _ h := nomatch h
  unmade := List.not_mem_nil
  nextItem := (Int.add_zero _).symm
  nextLesson := (Int.add_zero _).symm

theorem found_cons (h : Apart start lesson l trace w) (reacts : w.Reacts e.call e.reply w') :
    ∀ j k l', (j, ⟨.findLesson k, .ok (some l')⟩) ∈ (i, e) :: trace →
      (l'.item = l.item ↔ k = lesson) := by
  intro j k l' hm
  rcases List.mem_cons.1 hm with heq | hm
  · obtain ⟨rfl, rfl⟩ := Prod.mk.inj heq
    obtain ⟨stored, -⟩ := reacts.answer_eq (f := (·.lessons.get? k)) fun _ _ => rfl
    exact h.item_iff k l' stored
  · exact h.found_iff j k l' hm

/-- A call that makes no item and stores no lesson. -/
theorem frame (h : Apart start lesson l trace w) (reacts : w.Reacts e.call e.reply w')
    (made : e.made? = none) (stored : e.stored? = none) (lessons : w'.lessons = w.lessons)
    (nextItem : w'.nextItem = w.nextItem) (nextLesson : w'.nextLesson = w.nextLesson) :
    Apart start lesson l ((i, e) :: trace) w' := by
  have made_eq : (Trace.calls ((i, e) :: trace)).made = trace.calls.made :=
    Log.made_cons_of_none made
  have stored_eq : (Trace.calls ((i, e) :: trace)).stored = trace.calls.stored :=
    Log.stored_cons_of_none stored
  refine ⟨?_, ?_, h.found_cons reacts, ?_, ?_, ?_⟩
  · rw [lessons]
    exact h.stored
  · rw [lessons]
    exact h.item_iff
  · rw [made_eq]
    exact h.unmade
  · rw [nextItem, made_eq]
    exact h.nextItem
  · rw [nextLesson, stored_eq]
    exact h.nextLesson

/-- A new item is under a number that comes after the one of the item. -/
theorem addItem (h : Apart start lesson l trace w) {machine : MachineId} {state : StateId}
    (item_lt : l.item.value < start.nextItem.value)
    (few : start.nextItem.value.toInt + (trace.calls.made.length + 1 : Nat) < Id.limit) :
    Apart start lesson l
      ((i, ⟨.insertItem machine state, .ok ⟨w.nextItem, machine, state⟩⟩) :: trace)
      (w.addItem machine state).2 := by
  refine ⟨h.stored, h.item_iff, fun j k l' hm => ?_, ?_, ?_, h.nextLesson⟩
  · rcases List.mem_cons.1 hm with heq | hm
    · cases heq
    · exact h.found_iff j k l' hm
  · show l.item ∉ w.nextItem :: trace.calls.made
    refine List.not_mem_cons_of_ne_of_not_mem (fun same => ?_) h.unmade
    have lt := Int64.lt_iff_toInt_lt.1 item_lt
    rw [same, h.nextItem] at lt
    omega
  · show w.nextItem.succ.value.toInt = _ + ((w.nextItem :: trace.calls.made).length : Int)
    rw [Id.toInt_succ, h.nextItem, List.length_cons]
    · omega
    · rw [h.nextItem]
      omega

/-- A new lesson is under a number of its own, and its item is one that its request has made. -/
theorem addLesson (h : Apart start lesson l trace w) {draft : LessonDraft}
    (lesson_lt : lesson.value < start.nextLesson.value)
    (few : start.nextLesson.value.toInt + (trace.calls.stored.length + 1 : Nat) < Id.limit)
    (own : draft.item ∈ trace.calls.made) :
    Apart start lesson l ((i, ⟨.insertLesson draft, .ok (draft.numbered w.nextLesson)⟩) :: trace)
      (w.addLesson draft).2 := by
  have other : lesson ≠ w.nextLesson := by
    rintro rfl
    have lt := Int64.lt_iff_toInt_lt.1 lesson_lt
    rw [h.nextLesson] at lt
    omega
  have lessons (k : LessonId) : (w.addLesson draft).2.lessons.get? k =
      if k = w.nextLesson then some (draft.numbered w.nextLesson) else w.lessons.get? k :=
    Table.get?_insert _ _ _ _
  refine ⟨?_, fun k l' there => ?_, fun j k l' hm => ?_, h.unmade, h.nextItem, ?_⟩
  · rw [lessons, if_neg other]
    exact h.stored
  · rw [lessons] at there
    split at there
    · rename_i hk
      obtain rfl := Option.some.inj there
      constructor
      · intro same
        exact absurd (same ▸ own) h.unmade
      · rintro rfl
        exact absurd hk other
    · exact h.item_iff k l' there
  · rcases List.mem_cons.1 hm with heq | hm
    · cases heq
    · exact h.found_iff j k l' hm
  · show w.nextLesson.succ.value.toInt = _ +
      ((draft.numbered w.nextLesson :: trace.calls.stored).length : Int)
    rw [Id.toInt_succ, h.nextLesson, List.length_cons]
    · omega
    · rw [h.nextLesson]
      omega

/-- Every call of a request leaves the item to its lesson. -/
theorem step (h : Apart start lesson l trace w) (item_lt : l.item.value < start.nextItem.value)
    (lesson_lt : lesson.value < start.nextLesson.value)
    (items : start.nextItem.value.toInt + (Trace.calls ((i, e) :: trace)).made.length < Id.limit)
    (lessons :
      start.nextLesson.value.toInt + (Trace.calls ((i, e) :: trace)).stored.length < Id.limit)
    (allowed : r.recordTerms.guar (trace.own i) e.call) (reacts : w.Reacts e.call e.reply w') :
    Apart start lesson l ((i, e) :: trace) w' := by
  have effect : w.Effect e w' := reacts.effect
  cases effect with
  | addItem machine state => exact h.addItem item_lt items
  | addLesson draft =>
    obtain ⟨_, _, _, underway, _⟩ := allowed
    refine h.addLesson lesson_lt lessons (Trace.mem_made_of_own (i := i) ?_)
    rw [underway.made_eq]
    exact List.mem_singleton_self _
  | idle idle =>
    obtain ⟨made, stored, -⟩ := Event.unmade_of_idle idle
    exact h.frame reacts made stored rfl rfl rfl
  | _ => exact h.frame reacts rfl rfl rfl rfl rfl

end Apart

section Run

variable {room : LessonId → String} {requests : List LessonRequest} {start w : World}
  {trace : Trace} {lesson : LessonId} {l : Lesson}

theorem Run.apart (run : Run (LessonRequest.program room) requests start trace w)
    (orderly : start.Orderly) (stored : start.lessons.get? lesson = some l)
    (items : start.nextItem.value.toInt + requests.length < Id.limit)
    (lessons : start.nextLesson.value.toInt + requests.length < Id.limit) :
    Apart start lesson l trace w := by
  induction run with
  | start => exact .of_orderly orderly stored
  | @step trace w w' i r c next reply before request pending reacts ih =>
    have few := (before.step request pending reacts).records_le
    have allowed : r.recordTerms.guar (trace.own i) c :=
      pending.guar (r.meets_recordTerms room) fun e he => (before.own_honest i e he).faithful
    exact ih.step (orderly.item_lt _ _ stored) (orderly.lesson_lt _ _ stored) (by omega) (by omega)
      allowed reacts

end Run

/-! ## Two worlds -/

/-- The lesson and the item are the same in both worlds, and so is what never changes. -/
structure World.Alike (lesson : LessonId) (item : ItemId) (w w' : World) : Prop where
  directory_eq : w'.directory = w.directory
  catalog_eq : w'.catalog = w.catalog
  lesson_eq : w'.lessons.get? lesson = w.lessons.get? lesson
  item_eq : w'.items.get? item = w.items.get? item

/-- The call is about the lesson and its item, or about what never changes. -/
def Call.Within (lesson : LessonId) (item : ItemId) : Call → Prop
  | .findLesson k => k = lesson
  | .findItem id | .swapState id _ _ => id = item
  | .findSlot _ | .reserveSlot _ | .releaseSlot _ | .insertLesson _ | .insertItem _ _
  | .deleteItem _ => False
  | _ => True

namespace World

variable {lesson : LessonId} {item : ItemId} {w w' : World}

theorem Alike.swap (h : Alike lesson item w w') (expected next : StateId) :
    (w'.swap item expected next).1 = (w.swap item expected next).1 ∧
      Alike lesson item (w.swap item expected next).2 (w'.swap item expected next).2 := by
  unfold World.swap
  rw [h.item_eq, h.catalog_eq]
  cases w.items.get? item with
  | none => exact ⟨rfl, h⟩
  | some found =>
    by_cases ok : found.state = expected ∧ w.catalog.hasEdge found.machine expected next
    · simp only [if_pos ok]
      refine ⟨trivial, h.directory_eq, rfl, h.lesson_eq, ?_⟩
      simp only [Table.get?_insert, if_true]
    · simp only [if_neg ok]
      exact ⟨trivial, h⟩

/-- A call within the lesson does the same in both worlds. -/
theorem Alike.step (h : Alike lesson item w w')
    (meet : String → String → Except MeetingError Credential) {c : Call}
    (within : c.Within lesson item) :
    (w'.step meet c).1 = (w.step meet c).1 ∧
      Alike lesson item (w.step meet c).2 (w'.step meet c).2 := by
  cases c with
  | findLesson k =>
    obtain rfl : k = lesson := within
    exact ⟨congrArg Except.ok h.lesson_eq, h⟩
  | findItem id =>
    obtain rfl : id = item := within
    refine ⟨congrArg Except.ok ?_, h⟩
    unfold item?
    rw [h.item_eq]
  | swapState id expected next =>
    obtain rfl : id = item := within
    obtain ⟨same, alike⟩ := h.swap expected next
    exact ⟨congrArg Except.ok same, alike⟩
  | findUser | findTeacher | findTeacherByUser | findCategory | findSkill =>
    refine ⟨?_, h⟩
    simp only [World.step, h.directory_eq]
  | findMachineByName | findMachine | findMachineState | transitionExists | nextStates =>
    refine ⟨?_, h⟩
    simp only [World.step, h.catalog_eq]
  | issueCredential room identity => exact ⟨rfl, h⟩
  | _ => exact within.elim

/-- An item stays as it is, unless it is made, moved or removed. -/
theorem Effect.item_kept {e : Event} (h : w.Effect e w')
    (unmade : ∀ x, e.made? = some x → x.id ≠ item)
    (unmoved : ∀ m, e.move? = some m → m.1 ≠ item) (unremoved : e.removed? ≠ some item) :
    w'.items.get? item = w.items.get? item := by
  cases h with
  | addItem machine state =>
    have other := unmade _ rfl
    exact (Table.get?_insert _ _ _ _).trans (if_neg fun same => other same.symm)
  | removeItem id =>
    have other : item ≠ id := by
      rintro rfl
      exact unremoved rfl
    exact (Table.get?_erase _ _ _).trans (if_neg other)
  | move found edge =>
    have other := unmoved _ rfl
    exact (Table.get?_insert _ _ _ _).trans (if_neg fun same => other same.symm)
  | _ => rfl

end World

namespace Apart

variable {start w w' : World} {trace : Trace} {lesson : LessonId} {l : Lesson}
  {r : LessonRequest} {i : Nat} {c : Call}
  {reply : c.Reply}

/-- A request on the lesson keeps to the lesson and its item. -/
theorem within (h : Apart start lesson l trace w) (addressed : r.lesson? = some lesson)
    (allowed : r.scope.guar (trace.own i) c) : c.Within lesson l.item := by
  have on_item {id : ItemId} (finds : r.Finds (trace.own i) id) : id = l.item := by
    obtain ⟨k, l', on, found, rfl⟩ := finds
    have hk : k = lesson := Option.some.inj (on.symm.trans addressed)
    exact (h.found_iff i k l' (Trace.mem_own.1 found)).2 hk
  cases c with
  | findLesson k => exact Option.some.inj (allowed.symm.trans addressed)
  | findItem id => exact on_item allowed
  | swapState id expected next => exact on_item allowed
  | findSlot | reserveSlot | releaseSlot | insertLesson | insertItem | deleteItem =>
    exact nomatch addressed.symm.trans allowed
  | _ => trivial

/-- No other request touches the item. -/
theorem spares (h : Apart start lesson l ((i, ⟨c, reply⟩) :: trace) w')
    (elsewhere : r.lesson? ≠ some lesson) (scope : r.scope.guar (trace.own i) c)
    (records : r.recordTerms.guar (trace.own i) c) (reacts : w.Reacts c reply w') :
    w'.items.get? l.item = w.items.get? l.item := by
  refine reacts.effect.item_kept ?_ ?_ ?_
  · intro x made same
    refine h.unmade ?_
    show l.item ∈ Log.made (⟨c, reply⟩ :: trace.calls)
    rw [Log.made_cons_of_some made, same]
    exact List.mem_cons_self
  · rintro ⟨id, source, target⟩ moved rfl
    obtain ⟨rfl, -⟩ := Event.mk.inj (Event.eq_of_move moved)
    obtain ⟨k, l', on, found, same⟩ := scope
    have hk : k = lesson :=
      (h.found_iff i k l' (List.mem_cons_of_mem _ (Trace.mem_own.1 found))).1 same
    exact elsewhere (hk ▸ on)
  · intro removed
    cases c with
    | deleteItem id =>
      have hid : id = l.item := by
        cases reply with
        | error f => cases removed
        | ok u => exact Option.some.inj removed
      obtain ⟨_, _, _, _, made, _⟩ := records
      refine h.unmade (Trace.mem_made_of_own (i := i) ?_)
      rw [Trace.own_cons_self, Log.made_cons_of_none rfl, made, hid]
      exact List.mem_singleton_self _
    | _ => cases removed

end Apart

/-! ## With others and alone -/

section Shadow

variable {room : LessonId → String} {requests : List LessonRequest} {start : World}
  {meet : String → String → Except MeetingError Credential} {trace : Trace}
  {s s' : Progress requests} {lesson : LessonId} {l : Lesson} {i : Fin requests.length}

/-- As far as the lesson goes, it is the same. -/
structure Progress.Shadow (lesson : LessonId) (item : ItemId) (s s' : Progress requests) :
    Prop where
  alike : World.Alike lesson item s.world s'.world
  left_eq : ∀ i, (requests.get i).lesson? = some lesson → s'.left i = s.left i

namespace Progress.Shadow

/-- A request on the lesson takes its turn on both sides. -/
theorem turn (h : Shadow lesson l.item s s') (backed : s.Backed room start trace)
    (apart : Apart start lesson l trace s.world)
    (addressed : (requests.get i).lesson? = some lesson) :
    Shadow lesson l.item (s.turn meet i) (s'.turn meet i) := by
  have same := h.left_eq i addressed
  cases left : s.left i with
  | done a =>
    rw [turn_of_done left, turn_of_done (same.trans left)]
    exact h
  | call c next =>
    have pending := backed.after i
    rw [left] at pending
    have within : c.Within lesson l.item := apart.within addressed
      (pending.guar ((requests.get i).meets_scope room) fun _ _ => trivial)
    obtain ⟨reply, alike⟩ := h.alike.step meet within
    have left' : s'.left i = .call c next := same.trans left
    refine ⟨?_, fun j on => ?_⟩
    · rw [world_turn left, world_turn left']
      exact alike
    · by_cases hj : j = i
      · subst hj
        rw [left_turn_self left, left_turn_self left', reply]
      · rw [left_turn_of_ne hj, left_turn_of_ne hj]
        exact h.left_eq j on

/-- A request that is not on the lesson takes a turn, and the other side waits. -/
theorem wait (h : Shadow lesson l.item s s') (backed : s.Backed room start trace)
    (apart : ∀ {trace w}, Run (LessonRequest.program room) requests start trace w →
      Apart start lesson l trace w)
    (elsewhere : (requests.get i).lesson? ≠ some lesson) :
    Shadow lesson l.item (s.turn meet i) s' := by
  cases left : s.left i with
  | done a =>
    rw [turn_of_done left]
    exact h
  | call c next =>
    have pending := backed.after i
    rw [left] at pending
    have reacts : s.world.Reacts c (s.world.step meet c).1 (s.world.step meet c).2 := .served meet
    have run' := backed.run.step (getElem?_get i) pending reacts
    have scope := pending.guar ((requests.get i).meets_scope room) fun _ _ => trivial
    have records := pending.guar ((requests.get i).meets_recordTerms room)
      fun e he => (backed.run.own_honest i e he).faithful
    have item := (apart run').spares elsewhere scope records reacts
    have effect := reacts.effect
    refine ⟨?_, fun j on => ?_⟩
    · rw [world_turn left]
      refine ⟨?_, ?_, ?_, ?_⟩
      · rw [effect.directory_eq, h.alike.directory_eq]
      · rw [effect.catalog_eq, h.alike.catalog_eq]
      · rw [(apart run').stored, h.alike.lesson_eq, (apart backed.run).stored]
      · rw [item, h.alike.item_eq]
    · have hj : j ≠ i := by
        rintro rfl
        exact elsewhere on
      rw [left_turn_of_ne hj]
      exact h.left_eq j on

end Progress.Shadow

/-- The turns that requests on a lesson take. -/
def LessonRequest.turnsOn (lesson : LessonId) (turns : List (Fin requests.length)) :
    List (Fin requests.length) :=
  turns.filter fun i => (requests.get i).lesson? = some lesson

namespace LessonRequest

variable {turns : List (Fin requests.length)}

theorem turnsOn_cons_of_on (on : (requests.get i).lesson? = some lesson) :
    turnsOn lesson (i :: turns) = i :: turnsOn lesson turns :=
  List.filter_cons_of_pos (decide_eq_true on)

theorem turnsOn_cons_of_off (off : (requests.get i).lesson? ≠ some lesson) :
    turnsOn lesson (i :: turns) = turnsOn lesson turns :=
  List.filter_cons_of_neg fun on => off (of_decide_eq_true on)

/-- Two turns of requests on different lessons may be exchanged. -/
theorem turnsOn_exchange {j : Fin requests.length}
    (different : (requests.get i).lesson? ≠ (requests.get j).lesson?)
    (before after : List (Fin requests.length)) :
    turnsOn lesson (before ++ j :: i :: after) = turnsOn lesson (before ++ i :: j :: after) := by
  have here : turnsOn lesson (j :: i :: after) = turnsOn lesson (i :: j :: after) := by
    by_cases hi : (requests.get i).lesson? = some lesson
    · have hj : (requests.get j).lesson? ≠ some lesson := fun hj => different (hi.trans hj.symm)
      rw [turnsOn_cons_of_off hj, turnsOn_cons_of_on hi, turnsOn_cons_of_on hi,
        turnsOn_cons_of_off hj]
    · by_cases hj : (requests.get j).lesson? = some lesson
      · rw [turnsOn_cons_of_on hj, turnsOn_cons_of_off hi, turnsOn_cons_of_off hi,
          turnsOn_cons_of_on hj]
      · rw [turnsOn_cons_of_off hj, turnsOn_cons_of_off hi, turnsOn_cons_of_off hi,
          turnsOn_cons_of_off hj]
  unfold turnsOn at here ⊢
  rw [List.filter_append, List.filter_append, here]

end LessonRequest

theorem Progress.Shadow.play (h : Shadow lesson l.item s s') (backed : s.Backed room start trace)
    (apart : ∀ {trace w}, Run (LessonRequest.program room) requests start trace w →
      Apart start lesson l trace w) (turns : List (Fin requests.length)) :
    Shadow lesson l.item (s.play meet turns)
      (s'.play meet (LessonRequest.turnsOn lesson turns)) := by
  induction turns generalizing s s' trace with
  | nil => exact h
  | cons i turns ih =>
    obtain ⟨trace', backed'⟩ := backed.turn meet i
    by_cases on : (requests.get i).lesson? = some lesson
    · rw [LessonRequest.turnsOn_cons_of_on on]
      exact ih (h.turn backed (apart backed.run) on) backed'
    · rw [LessonRequest.turnsOn_cons_of_off on]
      exact ih (h.wait backed apart on) backed'

/-- On both sides the same is left of every request on the lesson, and its item is the same. -/
def Progress.Agree (lesson : LessonId) (item : ItemId) (s s' : Progress requests) : Prop :=
  (∀ i, (requests.get i).lesson? = some lesson → s'.left i = s.left i) ∧
    s'.world.items.get? item = s.world.items.get? item

theorem Progress.Shadow.agree (h : Shadow lesson l.item s s') : Agree lesson l.item s s' :=
  ⟨h.left_eq, h.alike.item_eq⟩

theorem Progress.Agree.of_common {s₁ s₂ : Progress requests} {item : ItemId}
    (h₁ : Agree lesson item s₁ s) (h₂ : Agree lesson item s₂ s) : Agree lesson item s₁ s₂ :=
  ⟨fun i on => (h₂.1 i on).symm.trans (h₁.1 i on), h₂.2.symm.trans h₁.2⟩

end Shadow

/-- **Lessons do not interfere.** Let requests take turns in any way, over a world with a lesson. As
for the requests on the lesson, nothing changes when all other requests are left out: the same is
left of each of them, so they have the same results, and the item of the lesson is the same. In the
same way nothing changes when the turns of others come at other places, and in particular when two
turns of requests on different lessons are exchanged. -/
theorem lessons_do_not_interfere {w : World} (requests : List LessonRequest)
    (room : LessonId → String) (meet : String → String → Except MeetingError Credential)
    (orderly : w.Orderly) (items : w.nextItem.value.toInt + requests.length < Id.limit)
    (lessons : w.nextLesson.value.toInt + requests.length < Id.limit) {lesson : LessonId}
    {l : Lesson} (stored : w.lessons.get? lesson = some l) (turns : List (Fin requests.length)) :
    Progress.Agree lesson l.item (.after room meet w turns)
        (.after room meet w (LessonRequest.turnsOn lesson turns)) ∧
      (∀ turns', LessonRequest.turnsOn lesson turns' = LessonRequest.turnsOn lesson turns →
        Progress.Agree lesson l.item (.after room meet w turns) (.after room meet w turns')) ∧
      ∀ before i j rest, turns = before ++ i :: j :: rest →
        (requests.get i).lesson? ≠ (requests.get j).lesson? →
        Progress.Agree lesson l.item (.after room meet w turns)
          (.after room meet w (before ++ j :: i :: rest)) := by
  have same : Progress.Shadow lesson l.item (Progress.start room requests w)
      (Progress.start room requests w) := ⟨⟨rfl, rfl, rfl, rfl⟩, fun _ _ => rfl⟩
  have alone (turns : List (Fin requests.length)) : Progress.Agree lesson l.item
      (.after room meet w turns) (.after room meet w (LessonRequest.turnsOn lesson turns)) :=
    (same.play .start (fun run => run.apart orderly stored items lessons) turns).agree
  have among (turns') (on_eq : LessonRequest.turnsOn lesson turns' =
      LessonRequest.turnsOn lesson turns) : Progress.Agree lesson l.item
      (.after room meet w turns) (.after room meet w turns') :=
    (alone turns).of_common (on_eq ▸ alone turns')
  refine ⟨alone turns, among, ?_⟩
  rintro before i j rest rfl different
  exact among _ (LessonRequest.turnsOn_exchange different before rest)

/-- The student of the small world books another lesson, and the teacher starts the planned one. -/
def LessonRequest.samples : List LessonRequest :=
  [.book .epoch .sample, .move (.ofInt 2) (.ofInt 1) "start"]

/-- The two take turns, call by call. The start comes to the same end as without the booking. -/
theorem lessons_do_not_interfere_booking :
    ∃ s : Progress LessonRequest.samples, ∃ item booked moved,
      s = .after (fun _ => "lesson-1") (fun _ _ => .ok ⟨"lesson-1", ""⟩) .sample
        (List.replicate 10 (List.finRange LessonRequest.samples.length)).flatten ∧
      s.left ⟨0, by decide⟩ = .done (.ok booked) ∧ s.left ⟨1, by decide⟩ = .done (.ok moved) ∧
      s.world.items.get? (.ofInt 1) = some item ∧ item.state = StateName.ongoing.id := by
  have stored : World.sample.lessons.get? (.ofInt 1) =
    some ⟨⟨.ofInt 1, .ofInt 1, .ofInt 1, .ofInt 1, .ofInt 1, .epoch⟩, .ofInt 1⟩ := rfl
  obtain ⟨⟨left, item⟩, -⟩ := lessons_do_not_interfere LessonRequest.samples
    (fun _ => "lesson-1") (fun _ _ => .ok ⟨"lesson-1", ""⟩) World.sample_orderly (by decide)
    (by decide) stored
    (List.replicate 10 (List.finRange LessonRequest.samples.length)).flatten
  exact ⟨_, _, _, _, rfl, rfl, (left ⟨1, by decide⟩ rfl).symm.trans rfl, item.symm.trans rfl, rfl⟩

end Tutoring
