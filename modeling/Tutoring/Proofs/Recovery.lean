import Mathlib.Data.List.Nodup
import Mathlib.Data.List.Perm.Subperm
import Tutoring.Proofs.Admission
import Tutoring.Proofs.Course
import Tutoring.Proofs.Transition

/-!
# A started lesson is recovered by joining it

When the meeting provider fails a start, the lesson has been started all the same. It cannot be
started again, and it need not be: whatever comes in the meantime, other than its end, its parties
get in by a join as soon as the provider answers.

* `World.Tallied`: what has been booked, each lesson with a slot, an item and a number of its own. A
  slot is not booked twice and there are `Id.count` of them, so the numbers do not run out, however
  long the run is.
* `World.Underway`: a lesson that is going on. Only a finish or a cancellation of the lesson ends it
  (`World.Underway.turn`).
* `World.Recoverable`: a lesson that is going on cannot be started, and can be joined just when the
  provider answers.
* `started_lessons_recover`: a lesson whose start was failed by the provider stays recoverable.
-/

namespace Tutoring

/-! ## Numbers do not run out -/

namespace Id

variable {entity : Entity}

/-- How many record numbers of one kind there are. -/
def count : Nat := 18446744073709551616

theorem mod_eq_of_ofInt {m n : Nat} (h : (ofInt m : Id entity) = ofInt n) :
    m % count = n % count := by
  have value : Int64.ofInt m = Int64.ofInt n := congrArg Id.value h
  have same : (Int64.ofInt m).toInt = (Int64.ofInt n).toInt := congrArg Int64.toInt value
  rw [Int64.toInt_ofInt, Int64.toInt_ofInt] at same
  have rest : (m : Int) % Int64.size = n % Int64.size := by
    rw [← Int.bmod_emod, same, Int.bmod_emod]
  unfold Int64.size at rest
  unfold count
  omega

/-- There are no more different numbers than that. -/
theorem length_le_count {ids : List (Id entity)} (nodup : ids.Nodup) : ids.length ≤ count := by
  have known : ids.map (·.value.toBitVec.toNat) ⊆ List.range count := by
    intro n hn
    obtain ⟨id, -, rfl⟩ := List.mem_map.1 hn
    exact List.mem_range.2 id.value.toBitVec.isLt
  have different : (ids.map (·.value.toBitVec.toNat)).Nodup := by
    refine nodup.map fun a b same => ?_
    obtain ⟨a⟩ := a
    obtain ⟨b⟩ := b
    exact congrArg Id.mk (Int64.toBitVec_inj.1 (BitVec.eq_of_toNat_eq same))
  have few := (different.subperm known).length_le
  rwa [List.length_map, List.length_range] at few

end Id

/-- What has been booked from empty stores: the lessons and their items are numbered alike, from 1
on, and every lesson has closed a slot. -/
structure World.Tallied (w : World) (n : Nat) : Prop where
  nextItem : w.nextItem = .ofInt ((n + 1 : Nat) : Int)
  nextLesson : w.nextLesson = .ofInt ((n + 1 : Nat) : Int)
  given : ∀ k l, w.lessons.get? k = some l →
    ∃ j < n, k = .ofInt ((j + 1 : Nat) : Int) ∧ l.item = .ofInt ((j + 1 : Nat) : Int)
  closed : ∃ xs : List SlotId, xs.Nodup ∧ xs.length = n ∧
    ∀ x ∈ xs, ∃ s, w.slots.get? x = some s ∧ s.available = false

namespace World.Tallied

variable {w : World} {n : Nat} {lesson lesson' : LessonId} {l l' : Lesson}

theorem start (d : Directory) (slots : Table SlotId Slot) (catalog : Catalog) :
    (World.start d slots catalog).Tallied 0 where
  nextItem := rfl
  nextLesson := rfl
  given _ _ stored := by cases stored
  closed := ⟨[], List.nodup_nil, rfl, nofun⟩

/-- No two lessons have the same item. -/
theorem distinct (tallied : w.Tallied n) (stored : w.lessons.get? lesson = some l)
    (stored' : w.lessons.get? lesson' = some l') (same : l.item = l'.item) : lesson = lesson' := by
  obtain ⟨j, hj, rfl, item⟩ := tallied.given _ _ stored
  obtain ⟨j', hj', rfl, item'⟩ := tallied.given _ _ stored'
  obtain ⟨xs, nodup, length, -⟩ := tallied.closed
  have few := Id.length_le_count nodup
  have wraps := Id.mod_eq_of_ofInt (item.symm.trans (same.trans item'))
  obtain rfl : j = j' := by
    unfold Id.count at few wraps
    omega
  rfl

theorem not_mem_of_open {xs : List SlotId} {x : SlotId} {s : Slot}
    (closed : ∀ x ∈ xs, ∃ s, w.slots.get? x = some s ∧ s.available = false)
    (slot : w.slots.get? x = some s) (free : s.available = true) : x ∉ xs := by
  intro hx
  obtain ⟨s', slot', taken⟩ := closed x hx
  obtain rfl := Option.some.inj (slot.symm.trans slot')
  exact nomatch free.symm.trans taken

/-- As long as a slot is open, there are numbers left. -/
theorem lt_count (tallied : w.Tallied n) {x : SlotId} {s : Slot}
    (slot : w.slots.get? x = some s) (free : s.available = true) : n < Id.count := by
  obtain ⟨xs, nodup, rfl, closed⟩ := tallied.closed
  exact Id.length_le_count (nodup.cons (not_mem_of_open closed slot free))

/-- A booking does not touch the lessons that are there. -/
theorem fresh (tallied : w.Tallied n) {x : SlotId} {s : Slot} (slot : w.slots.get? x = some s)
    (free : s.available = true) (stored : w.lessons.get? lesson = some l) :
    lesson ≠ w.nextLesson ∧ l.item ≠ w.nextItem := by
  have few := tallied.lt_count slot free
  obtain ⟨j, hj, rfl, item⟩ := tallied.given _ _ stored
  rw [tallied.nextLesson, tallied.nextItem, item]
  have apart {entity : Entity} :
      (.ofInt ((j + 1 : Nat) : Int) : Id entity) ≠ .ofInt ((n + 1 : Nat) : Int) := by
    intro same
    have wraps := Id.mod_eq_of_ofInt same
    unfold Id.count at few wraps
    omega
  exact ⟨apart, apart⟩

theorem turn {room : LessonId → String} {t : Turn} {w' : World} (tallied : w.Tallied n)
    (leads : t.Leads room w w') : ∃ n', w'.Tallied n' := by
  cases leads with
  | still => exact ⟨n, tallied⟩
  | moves => exact ⟨n, tallied.nextItem, tallied.nextLesson, tallied.given, tallied.closed⟩
  | @books x s m l slot free item id =>
    obtain ⟨xs, nodup, length, closed⟩ := tallied.closed
    have next {entity : Entity} (id : Id entity) (given : id = .ofInt ((n + 1 : Nat) : Int)) :
        id.succ = .ofInt ((n + 1 + 1 : Nat) : Int) := by
      rw [given, Id.succ, Id.ofInt, Id.ofInt, Int.natCast_add (n + 1) 1, Int64.ofInt_add]
      rfl
    refine ⟨n + 1, next _ tallied.nextItem, next _ tallied.nextLesson, ?_, x :: xs,
      nodup.cons (not_mem_of_open closed slot free), congrArg (· + 1) length, ?_⟩
    · intro k l' stored
      have stored : (w.lessons.insert w.nextLesson l).get? k = some l' := stored
      rw [Table.get?_insert] at stored
      split at stored
      · next same =>
        obtain rfl := Option.some.inj stored
        exact ⟨n, Nat.lt_succ_self n, same.trans tallied.nextLesson, item.trans tallied.nextItem⟩
      · obtain ⟨j, hj, numbers⟩ := tallied.given k l' stored
        exact ⟨j, Nat.lt_succ_of_lt hj, numbers⟩
    · intro y hy
      show ∃ s', (w.slots.insert x s.closed).get? y = some s' ∧ _
      rw [Table.get?_insert]
      split
      · exact ⟨_, rfl, rfl⟩
      · next other =>
        exact closed y ((List.mem_cons.1 hy).resolve_left other)

end World.Tallied

/-! ## A lesson that is going on -/

section Default

variable {machine : MachineId} {source : StateId} {goal : StateName}

/-- Of the default machines only that of lessons leads to `ongoing`. -/
theorem Catalog.lesson_of_ongoing
    (edge : (ofBlueprints Blueprint.defaultCatalog).hasEdge machine source StateName.ongoing.id =
      true) : machine = .ofInt 1 := by
  obtain ⟨b, k, at_k, rfl, e, declared, same⟩ := Catalog.hasEdge_ofBlueprints.1 edge
  obtain ⟨first, last⟩ := e
  obtain rfl := StateName.id_injective (Prod.mk.inj same).2
  simp only [Blueprint.At, Blueprint.defaultCatalog, List.zipIdx_cons, List.zipIdx_nil,
    List.mem_cons, List.not_mem_nil, or_false, Prod.mk.injEq] at at_k
  obtain ⟨rfl, rfl⟩ | ⟨rfl, rfl⟩ := at_k
  · rfl
  · simp [Blueprint.skill] at declared

/-- A lesson that is going on can only end. -/
theorem Catalog.end_of_ongoing
    (edge : (ofBlueprints Blueprint.defaultCatalog).hasEdge (.ofInt 1) StateName.ongoing.id
      goal.id = true) : goal = .finished ∨ goal = .cancelled := by
  revert edge
  cases goal <;> decide

end Default

/-- The state that an action leads to tells the action. -/
theorem LessonAction.eq_of_target? {a b : LessonAction} {goal : StateName}
    (h : a.target? = some goal) (h' : b.target? = some goal) : a = b := by
  have injective : ∀ a b : LessonAction, a.target?.isSome → a.target? = b.target? → a = b := by
    intro a b
    cases a <;> cases b <;> decide
  exact injective a b (Option.isSome_of_eq_some h) (h.trans h'.symm)

/-- The lesson is stored, and its item is one of the machine of lessons and is going on. -/
structure World.Underway (w : World) (lesson : LessonId) (l : Lesson) : Prop where
  stored : w.lessons.get? lesson = some l
  item : ∃ item, w.items.get? l.item = some item ∧ item.machine = .ofInt 1 ∧
    item.state = StateName.ongoing.id

/-- The turn finishes or cancels the lesson. -/
def Turn.Ends (room : LessonId → String) (lesson : LessonId) (w : World) (t : Turn) : Prop :=
  ∃ user name action, t.request = .move user lesson name ∧ LessonAction.read name = .ok action ∧
    (action = .finish ∨ action = .cancel) ∧ ∃ a, t.result room w = .ok a

namespace World.Underway

variable {room : LessonId → String} {w w' : World} {t : Turn} {n : Nat} {lesson : LessonId}
  {l : Lesson}

/-- Only its end is the end of a lesson that is going on. -/
theorem turn (underway : w.Underway lesson l) (tallied : w.Tallied n)
    (provisioned : w.catalog = .ofBlueprints Blueprint.defaultCatalog) (leads : t.Leads room w w')
    (goes_on : ¬t.Ends room lesson w) : w'.Underway lesson l := by
  obtain ⟨item, there, machine, state⟩ := underway.item
  cases leads with
  | still => exact underway
  | books slot free =>
    obtain ⟨new_lesson, new_item⟩ := tallied.fresh slot free underway.stored
    refine ⟨?_, item, ?_, machine, state⟩
    · exact (Table.get?_insert ..).trans ((if_neg new_lesson).trans underway.stored)
    · exact (Table.get?_insert ..).trans ((if_neg new_item).trans there)
  | @moves user lesson' name action goal l' item' state' request read_eq stored there' edge told =>
    refine ⟨underway.stored, ?_⟩
    show ∃ i, (w.items.insert l'.item _).get? l.item = some i ∧ _
    rw [Table.get?_insert]
    split
    · next same =>
      exfalso
      obtain rfl := tallied.distinct underway.stored stored same
      obtain rfl := Option.some.inj (underway.stored.symm.trans stored)
      obtain ⟨found, known⟩ := World.item?_eq_some.1 there'
      obtain rfl := Option.some.inj (there.symm.trans found)
      rw [provisioned, machine, (State.id_eq_of_ofId? known).1, state] at edge
      obtain ⟨named, target⟩ := readMove_eq_ok read_eq
      have ends : action = .finish ∨ action = .cancel := by
        obtain rfl | rfl := Catalog.end_of_ongoing edge
        · exact .inl (LessonAction.eq_of_target? target rfl)
        · exact .inr (LessonAction.eq_of_target? target rfl)
      refine goes_on ⟨user, name, action, request, named, ends, told ?_⟩
      obtain rfl | rfl := ends
      · rfl
      · rfl
    · exact ⟨item, there, machine, state⟩

end World.Underway

/-! ## What remains possible -/

/-- A move asks for a credential only after it has moved the item. -/
theorem Log.unasked_of_unmoved {room : LessonId → String} {user : UserId} {lesson : LessonId}
    {name : String} {log : Log} {q : Program (Except LessonError MovedLesson)}
    (h : (moveLesson room user lesson name).run.After log q) :
    log.moves = [] → log.admissions = [] := by
  refine h.invariant (I := fun log => log.moves = [] → log.admissions = [])
    (moveLesson_meets (fun _ => True) room user lesson name) (fun _ _ => trivial) (fun _ => rfl) ?_
  rintro log ⟨c, r⟩ unasked allowed - unmoved
  cases c with
  | issueCredential place identity =>
    obtain ⟨action, access, reached, ⟨goal, observed, -, -, source, moved⟩, -⟩ := allowed
    rw [Log.moves_cons_of_none rfl, moved] at unmoved
    cases unmoved
  | swapState =>
    rw [Log.admissions_cons_of_plain rfl]
    exact unasked allowed.1
  | _ =>
    rw [Log.moves_cons_of_none rfl] at unmoved
    rw [Log.admissions_cons_of_plain rfl]
    exact unasked unmoved

/-- A move that fails without having started the lesson has not asked for a credential. -/
theorem World.unasked_of_unstarted {room : LessonId → String} {user : UserId} {lesson : LessonId}
    {name : String} {meet : String → String → Except MeetingError Credential} {w w' : World}
    {e : LessonError} (failed : w.attempt meet (moveLesson room user lesson name) = (.error e, w'))
    (unstarted : e.started = false) :
    ∃ log, w.record meet (moveLesson room user lesson name) = (.error e, log, w') ∧
      log.admissions = [] := by
  obtain ⟨log, recorded, after⟩ := w.record_eq meet (moveLesson room user lesson name)
  rw [failed] at recorded after
  have ended : MoveFailed log e :=
    after.post (moveLesson_meets (fun _ => True) room user lesson name) fun _ _ => trivial
  rw [MoveFailed, if_neg (by simp [unstarted])] at ended
  exact ⟨log, recorded, Log.unasked_of_unmoved after ended⟩

/-- The lesson is going on. It cannot be started, and a party of it gets into the meeting just when
the provider answers. -/
structure World.Recoverable (room : LessonId → String) (w : World) (lesson : LessonId)
    (l : Lesson) : Prop where
  stored : w.lessons.get? lesson = some l
  ongoing : w.IsIn l.item .ongoing
  /-- A start by the teacher is refused. It changes nothing, and does not ask the provider. -/
  refuses : ∀ meet user name, (∃ u, w.directory.users.get? user = some u) →
    Guard.teacherOfLesson.permits l ⟨user, w.directory.teacherOf? user⟩ = true →
    LessonAction.read name = .ok .start →
    ∃ e log, w.record meet (moveLesson room user lesson name) = (.error e, log, w) ∧
      e.kind = .illegalTransition ∧ log.admissions = []
  /-- A join by a party changes nothing either, and succeeds if and only if the provider answers. -/
  joins : ∀ meet user, (∃ u, w.directory.users.get? user = some u) →
    Guard.eitherParty.permits l ⟨user, w.directory.teacherOf? user⟩ = true →
    ((∃ a, (w.attempt meet (joinLesson room user lesson)).1 = .ok a) ↔
      ∃ c, meet (room l.id) user.toText = .ok c) ∧
    (w.attempt meet (joinLesson room user lesson)).2 = w

theorem World.Underway.recoverable {room : LessonId → String} {w : World} {lesson : LessonId}
    {l : Lesson} (underway : w.Underway lesson l)
    (provisioned : w.catalog = .ofBlueprints Blueprint.defaultCatalog) :
    w.Recoverable room lesson l := by
  obtain ⟨item, there, machine, state⟩ := underway.item
  have seen : w.item? l.item = some (item, .ofName .ongoing) := by
    refine World.item?_eq_some.2 ⟨there, ?_⟩
    rw [state]
    exact State.ofId?_id .ongoing
  have sees {user : UserId} (known : ∃ u, w.directory.users.get? user = some u)
      (party : Guard.eitherParty.permits l ⟨user, w.directory.teacherOf? user⟩ = true) :
      w.Sees user lesson l item (.ofName .ongoing) :=
    ⟨known, underway.stored, if_pos party, seen⟩
  refine ⟨underway.stored, ⟨item, there, state⟩, ?_, ?_⟩
  · intro meet user name known teacher named
    have read_eq : readMove name = .ok (.start, .ongoing) := by
      rw [readMove, named]
      rfl
    have authorized : LessonAction.start.authorize l ⟨user, w.directory.teacherOf? user⟩ .ongoing =
        .ok () := LessonAction.authorize_eq_ok.2 ⟨if_pos teacher, rfl⟩
    have decided : Engine.Decides w l.item item .ongoing _ (.illegalTransition .ongoing .ongoing)
        (w.attempt meet (Engine.transition l.item none .ongoing)) :=
      Engine.transition_decides provisioned (by decide) there List.mem_cons_self machine state
    have refused : w.attempt meet (LessonTask.engine (Engine.transition l.item none .ongoing)) =
        (.error (.transition (.illegalTransition .ongoing .ongoing)), w) := by
      rw [LessonTask.engine, World.attempt_adapt, decided.refuses (by decide)]
      rfl
    have failed : w.attempt meet (moveLesson room user lesson name) =
        (.error (.transition (.illegalTransition .ongoing .ongoing)), w) := by
      rw [moveLesson_eq room user lesson read_eq,
        (sees known (Guard.permits_eitherParty teacher)).attempt_enter meet authorized]
      exact World.attempt_bind_of_error refused _
    obtain ⟨log, recorded, unasked⟩ := World.unasked_of_unstarted failed rfl
    exact ⟨_, log, recorded, rfl, unasked⟩
  · intro meet user known party
    have authorized : LessonAction.join.authorize l ⟨user, w.directory.teacherOf? user⟩ .ongoing =
        .ok () := LessonAction.authorize_eq_ok.2 ⟨if_pos party, rfl⟩
    refine ⟨?_, w.attempt_joinLesson meet room user lesson⟩
    rw [joinLesson_eq, (sees known party).attempt_enter meet authorized, issueCredential,
      World.attempt_bind, World.attempt_ask]
    dsimp only [World.step]
    cases meet (room l.id) user.toText with
    | error e =>
      constructor
      · rintro ⟨a, let_in⟩
        cases let_in
      · rintro ⟨c, answered⟩
        cases answered
    | ok c => exact ⟨fun _ => ⟨c, rfl⟩, fun _ => ⟨_, rfl⟩⟩

/-! ## Whatever comes in the meantime -/

section Course

variable {room : LessonId → String} {w : World} {n : Nat} {lesson : LessonId} {l : Lesson}

theorem World.play_catalog (turns : List Turn) : (w.play room turns).catalog = w.catalog := by
  induction turns generalizing w with
  | nil => rfl
  | cons t turns ih => exact ih.trans (t.after_catalog room w)

theorem World.Tallied.play (tallied : w.Tallied n) (turns : List Turn) :
    ∃ n', (w.play room turns).Tallied n' := by
  induction turns generalizing w n with
  | nil => exact ⟨n, tallied⟩
  | cons t turns ih =>
    obtain ⟨n', tallied'⟩ := tallied.turn (t.leads room w)
    exact ih tallied'

/-- A lesson that is going on does so until it is finished or cancelled. -/
theorem World.Underway.play {turns : List Turn} (underway : w.Underway lesson l)
    (tallied : w.Tallied n) (provisioned : w.catalog = .ofBlueprints Blueprint.defaultCatalog)
    (goes_on : ∀ earlier t later, turns = earlier ++ t :: later →
      ¬t.Ends room lesson (w.play room earlier)) : (w.play room turns).Underway lesson l := by
  induction turns generalizing w n with
  | nil => exact underway
  | cons t turns ih =>
    have leads := t.leads room w
    obtain ⟨n', tallied'⟩ := tallied.turn leads
    refine ih (underway.turn tallied provisioned leads (goes_on [] t turns rfl)) tallied'
      ((t.after_catalog room w).trans provisioned) fun earlier t' later split => ?_
    exact goes_on (t :: earlier) t' later (congrArg (t :: ·) split)

/-- A start that was failed by the meeting provider has started the lesson. -/
theorem World.underway_of_start {t : Turn} {user : UserId} {name reason : String} {k : LessonId}
    (provisioned : w.catalog = .ofBlueprints Blueprint.defaultCatalog)
    (request : t.request = .move user lesson name) (named : LessonAction.read name = .ok .start)
    (failed : t.result room w = .error (.meetingUnavailable k true reason)) :
    ∃ l, (t.after room w).Underway lesson l := by
  obtain ⟨_, meet⟩ := t
  obtain rfl := request
  have outcome := moveLesson_outcome meet room w user lesson name
  have failed : (w.attempt meet (moveLesson room user lesson name)).1 = _ := failed
  show ∃ l, (w.attempt meet (moveLesson room user lesson name)).2.Underway lesson l
  generalize w.attempt meet (moveLesson room user lesson name) = r at outcome failed
  cases outcome with
  | refused unstarted =>
    obtain rfl := Except.error.inj failed
    cases unstarted
  | @moved action goal l item state read_eq stored there edge =>
    obtain ⟨named', target⟩ := readMove_eq_ok read_eq
    obtain rfl := Except.ok.inj (named.symm.trans named')
    obtain rfl := Option.some.inj target
    rw [provisioned] at edge
    exact ⟨l, stored, _, (Table.get?_insert ..).trans (if_pos rfl), Catalog.lesson_of_ongoing edge,
      rfl⟩

end Course

/-- **A started lesson is recovered by joining it.** Requests come one after the other, from empty
stores with the default machines, and the meeting provider answers each of them as it likes. If it
has failed a start of a lesson after the lesson had been started, and no finish and no cancellation
of the lesson has succeeded since, then whatever else has come in between, the lesson is going on,
cannot be started again, and can be joined by its parties just when the provider answers. -/
theorem started_lessons_recover (room : LessonId → String) {d : Directory}
    {slots : Table SlotId Slot} {w : World} {before : List Turn} {start : Turn}
    (between : List Turn) {user : UserId} {lesson k : LessonId} {name reason : String}
    (empty : w = .start d slots (.ofBlueprints Blueprint.defaultCatalog))
    (request : start.request = .move user lesson name) (named : LessonAction.read name = .ok .start)
    (failed : start.result room (w.play room before) = .error (.meetingUnavailable k true reason))
    (goes_on : ∀ earlier t later, between = earlier ++ t :: later →
      ¬t.Ends room lesson (w.play room (before ++ start :: earlier))) :
    ∃ l, (w.play room (before ++ start :: between)).Recoverable room lesson l := by
  have provisioned : w.catalog = .ofBlueprints Blueprint.defaultCatalog := by
    rw [empty]
    rfl
  have tallied : w.Tallied 0 := empty ▸ .start d slots _
  have play (turns : List Turn) : w.play room (before ++ start :: turns) =
      (start.after room (w.play room before)).play room turns := World.play_append ..
  simp only [play] at goes_on ⊢
  have ready : (w.play room before).catalog = _ := (World.play_catalog before).trans provisioned
  obtain ⟨n, counted⟩ := tallied.play before
  obtain ⟨n', started⟩ := counted.turn (start.leads room _)
  obtain ⟨l, underway⟩ := World.underway_of_start ready request named failed
  have started_catalog := (start.after_catalog room _).trans ready
  refine ⟨l, (underway.play started started_catalog goes_on).recoverable ?_⟩
  exact (World.play_catalog between).trans started_catalog

/-- A turn in which the meeting provider lets everybody in. -/
@[reducible] def Turn.up (request : LessonRequest) : Turn :=
  ⟨request, fun room _ => .ok ⟨room, ""⟩⟩

/-- A turn in which the meeting provider is down. -/
@[reducible] def Turn.down (request : LessonRequest) : Turn :=
  ⟨request, fun _ _ => .error (.unavailable "")⟩

/-- The people of the small world before anything is booked. -/
def World.opening : World :=
  .start World.sample.directory World.sample.slots (.ofBlueprints Blueprint.defaultCatalog)

/-- A lesson is booked, approved and started, and the provider goes down before the start. Then the
teacher starts it once more, and the student tries to join. -/
def World.outage : World :=
  World.opening.play (fun _ => "")
    ([.up (.book .epoch .sample), .up (.move (.ofInt 2) (.ofInt 1) "approve")] ++
      .down (.move (.ofInt 2) (.ofInt 1) "start") ::
        [.up (.move (.ofInt 2) (.ofInt 1) "start"), .down (.join (.ofInt 1) (.ofInt 1))])

/-- Once the provider is back, the student gets in. -/
theorem started_lessons_recover_outage :
    (∃ l, World.outage.Recoverable (fun _ => "") (.ofInt 1) l) ∧
      ∃ a, (World.outage.attempt (fun room _ => .ok ⟨room, ""⟩)
        (joinLesson (fun _ => "") (.ofInt 1) (.ofInt 1))).1 = .ok a := by
  have failed : Turn.result (fun _ => "")
      (World.opening.play (fun _ => "")
        [.up (.book .epoch .sample), .up (.move (.ofInt 2) (.ofInt 1) "approve")])
      (.down (.move (.ofInt 2) (.ofInt 1) "start")) =
      .error (.meetingUnavailable (.ofInt 1) true (MeetingError.unavailable "").toText) := by
    decide +kernel
  have goes_on : ∀ earlier t later,
      [.up (.move (.ofInt 2) (.ofInt 1) "start"), .down (.join (.ofInt 1) (.ofInt 1))] =
        earlier ++ t :: later → ∀ w, ¬Turn.Ends (fun _ => "") (.ofInt 1) w t := by
    rintro earlier t later split w ⟨user, name, action, request, named, ends, -⟩
    have ht : t ∈ earlier ++ t :: later := List.mem_append_right _ List.mem_cons_self
    rw [← split, List.mem_pair] at ht
    obtain rfl | rfl := ht
    · obtain ⟨rfl, -, rfl⟩ := LessonRequest.move.inj request
      have start : LessonAction.read "start" = .ok .start := rfl
      obtain rfl := Except.ok.inj (named.symm.trans start)
      simp at ends
    · cases request
  obtain ⟨l, recoverable⟩ := started_lessons_recover (fun _ => "") _ rfl rfl rfl failed
    fun earlier t later split => goes_on earlier t later split _
  have party : (World.outage.lessons.get? (.ofInt 1)).all fun l =>
      Guard.eitherParty.permits l ⟨.ofInt 1, World.outage.directory.teacherOf? (.ofInt 1)⟩ := by
    decide +kernel
  have recoverable : World.outage.Recoverable (fun _ => "") (.ofInt 1) l := recoverable
  rw [recoverable.stored] at party
  have known : (World.outage.directory.users.get? (.ofInt 1)).isSome := by decide +kernel
  exact ⟨⟨l, recoverable⟩, (recoverable.joins (fun room _ => .ok ⟨room, ""⟩) (.ofInt 1)
    (Option.isSome_iff_exists.1 known) party).1.2 ⟨_, rfl⟩⟩

end Tutoring
