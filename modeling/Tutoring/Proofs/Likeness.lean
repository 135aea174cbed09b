import Mathlib.Data.Option.Basic
import Tutoring.Proofs.Compensation

/-!
# Replies that are alike

Two runs of one request may get different replies and still come to the same end: a request does not
look at everything that it is told. A `Likeness` says how far replies may differ, and what follows
for the results.

* `Program.Alike`: two programs make the same calls, as long as the replies are alike, and end
  alike. The rules for tasks follow the way tasks are put together (`Task.Alike.bind`).
* `Engine.transition_alike`, `bookLesson_alike` and the like: one lemma for each part of a request.
* `LessonRequest.alike`: every request is like itself.
-/

namespace Tutoring

/-- How far two replies may differ. -/
structure Likeness where
  /-- Times at which lessons were booked. -/
  time : Timestamp → Timestamp → Prop
  /-- Failures of stores. -/
  failure : Failure → Failure → Prop

namespace Likeness

variable (L : Likeness)

/-- Lessons that differ in the time of their booking at most. -/
def Lessons (l l' : Lesson) : Prop :=
  ∃ booked, L.time l.createdAt booked ∧ l' = { l with createdAt := booked }

/-- Views of lessons that differ in the time of the booking at most. -/
def Views (v v' : LessonView) : Prop :=
  ∃ l, L.Lessons v.lesson l ∧ v' = { v with lesson := l }

/-- What a booking looks at in a slot: not when it begins and ends. -/
def place (s : Slot) : SlotId × TeacherId × Bool := (s.id, s.teacher, s.available)

/-- Answers that are alike: of a skill only matters whether it is active, and of a slot its place. -/
def Answers : (c : Call) → c.Answer → c.Answer → Prop
  | .findSkill _ _, a, a' => a.map (·.active) = a'.map (·.active)
  | .findSlot _, a, a' => a.map place = a'.map place
  | .findLesson _, a, a' => Option.Rel L.Lessons a a'
  | _, a, a' => a = a'

/-- Errors of a call that are alike. -/
def Errors (c : Call) (e e' : c.Error) : Prop :=
  e = e' ∨ ∃ f f', L.failure f f' ∧ c.failed? f = some (.error e) ∧ c.failed? f' = some (.error e')

/-- Replies that are alike. Nobody looks at the replies to what undoes a booking. -/
inductive Replies (c : Call) : c.Reply → c.Reply → Prop
  | undo {r r' : c.Reply} (h : c.undoes = true) : Replies c r r'
  | ok {a a' : c.Answer} (h : L.Answers c a a') : Replies c (.ok a) (.ok a')
  | error {e e' : c.Error} (h : L.Errors c e e') : Replies c (.error e) (.error e')

/-- Errors of the engine that are alike. -/
inductive EngineErrors : EngineError → EngineError → Prop
  | same (e : EngineError) : EngineErrors e e
  | store {f f' : Failure} (h : L.failure f f') : EngineErrors (.store f) (.store f')

/-- Errors of requests that are alike. -/
inductive LessonErrors : LessonError → LessonError → Prop
  | same (e : LessonError) : LessonErrors e e
  | store {f f' : Failure} (h : L.failure f f') : LessonErrors (.store f) (.store f')
  | transition {e e' : EngineError} (h : L.EngineErrors e e') :
      LessonErrors (.transition e) (.transition e')

end Likeness

/-! ## Programs and tasks -/

section Alike

variable {L : Likeness} {ε ε' α α' β β' : Type}

/-- Two programs make the same calls, as long as the replies are alike, and their results are
related. -/
inductive Program.Alike (L : Likeness) (Q : α → α' → Prop) : Program α → Program α' → Prop
  | done {a : α} {a' : α'} (h : Q a a') : Alike L Q (.done a) (.done a')
  | call {c : Call} {next : c.Reply → Program α} {next' : c.Reply → Program α'}
      (h : ∀ r r', L.Replies c r r' → Alike L Q (next r) (next' r')) :
      Alike L Q (.call c next) (.call c next')

/-- Programs that are alike go on alike, if they do from any two related results. -/
theorem Program.Alike.bind {Q : α → α' → Prop} {R : β → β' → Prop} {p : Program α}
    {p' : Program α'} {f : α → Program β} {f' : α' → Program β'} (h : Program.Alike L Q p p')
    (onward : ∀ a a', Q a a' → Program.Alike L R (f a) (f' a')) :
    Program.Alike L R (p >>= f) (p' >>= f') := by
  induction h with
  | done h => exact onward _ _ h
  | call _ ih => exact .call ih

/-- Results of two tasks that are related: both are values, or both are errors. -/
inductive Task.EndsAlike (E : ε → ε' → Prop) (Q : α → α' → Prop) :
    Except ε α → Except ε' α' → Prop
  | ok {a : α} {a' : α'} (h : Q a a') : EndsAlike E Q (.ok a) (.ok a')
  | error {e : ε} {e' : ε'} (h : E e e') : EndsAlike E Q (.error e) (.error e')

/-- Two tasks make the same calls, as long as the replies are alike, and their results are
related. -/
def Task.Alike (L : Likeness) (E : ε → ε' → Prop) (Q : α → α' → Prop) (t : Task ε α)
    (t' : Task ε' α') : Prop :=
  Program.Alike L (EndsAlike E Q) t.run t'.run

namespace Task.Alike

variable {E : ε → ε → Prop} {Q : α → α' → Prop} {R : β → β' → Prop}

theorem pure {a : α} {a' : α'} (h : Q a a') :
    Task.Alike L E Q (Pure.pure a : Task ε α) (Pure.pure a' : Task ε α') := .done (.ok h)

theorem throw {e e' : ε} (h : E e e') :
    Task.Alike L E Q (MonadExcept.throw e : Task ε α) (MonadExcept.throw e' : Task ε α') :=
  .done (.error h)

/-- Nothing comes after an error. -/
theorem throw_bind {e e' : ε} {f : α → Task ε β} {f' : α' → Task ε β'} (h : E e e') :
    Task.Alike L E R (MonadExcept.throw e >>= f) (MonadExcept.throw e' >>= f') :=
  .done (.error h)

/-- Tasks that are alike go on alike from related values; after errors nothing comes. -/
theorem bind {t : Task ε α} {t' : Task ε α'} {f : α → Task ε β} {f' : α' → Task ε β'}
    (h : Task.Alike L E Q t t') (onward : ∀ a a', Q a a' → Task.Alike L E R (f a) (f' a')) :
    Task.Alike L E R (t >>= f) (t' >>= f') := by
  unfold Task.Alike
  rw [ExceptT.run_bind, ExceptT.run_bind]
  refine Program.Alike.bind h ?_
  rintro _ _ (h | h)
  · exact onward _ _ h
  · exact .done (.error h)

theorem map {t : Task ε α} {f : α → β} (h : Task.Alike L E Eq t t) :
    Task.Alike L E Eq (f <$> t) (f <$> t) := by
  rw [map_eq_pure_bind]
  refine .bind h ?_
  rintro a _ rfl
  exact .pure rfl

/-- A check of the same things has the same result. -/
theorem check {r : Except ε α} (refl : ∀ e, E e e) :
    Task.Alike L E Eq (Task.check r) (Task.check r) := by
  cases r with
  | ok a => exact .done (.ok rfl)
  | error e => exact .done (.error (refl e))

/-- What is demanded is there for both, or for neither. -/
theorem demand {e : ε} {o : Option α} {o' : Option α'} (refl : E e e) (h : Option.Rel Q o o') :
    Task.Alike L E Q (Task.demand e o) (Task.demand e o') := by
  cases h with
  | some h => exact .done (.ok h)
  | none => exact .done (.error refl)

theorem demand_same {e : ε} {o : Option α} (refl : E e e) :
    Task.Alike L E Eq (Task.demand e o) (Task.demand e o) := by
  cases o with
  | none => exact .throw refl
  | some a => exact .pure rfl

/-- One call, if it is not one that undoes a booking. -/
theorem ask {c : Call} {wrap : c.Error → ε} (plain : c.undoes = false)
    (wraps : ∀ e e', L.Errors c e e' → E (wrap e) (wrap e')) :
    Task.Alike L E (L.Answers c) (Task.ask c wrap) (Task.ask c wrap) := by
  refine .call ?_
  rintro _ _ (undoes | h | h)
  · exact nomatch plain.symm.trans undoes
  · exact .done (.ok h)
  · exact .done (.error (wraps _ _ h))

/-- One call of a store, whose failures are wrapped up as they are. -/
theorem ask_store {c : Call} {wrap : c.Error → ε} {store : Failure → ε} (plain : c.undoes = false)
    (refl : ∀ e, E e e) (failures : ∀ f f', L.failure f f' → E (store f) (store f'))
    (wraps : ∀ f, (c.failed? f).map (Except.mapError wrap) = some (.error (store f))) :
    Task.Alike L E (L.Answers c) (Task.ask c wrap) (Task.ask c wrap) := by
  refine ask plain ?_
  rintro e _ (rfl | ⟨f, f', h, hf, hf'⟩)
  · exact refl _
  · have stored := wraps f
    have stored' := wraps f'
    rw [hf] at stored
    rw [hf'] at stored'
    obtain hw : wrap e = store f := Except.error.inj (Option.some.inj stored)
    obtain hw' : wrap _ = store f' := Except.error.inj (Option.some.inj stored')
    rw [hw, hw']
    exact failures f f' h

/-- Two decisions are alike if they are about the same thing. -/
theorem ite {c c' : Prop} [Decidable c] [Decidable c'] {t u : Task ε α} {t' u' : Task ε α'}
    (same : c' ↔ c) (pos : c → Task.Alike L E Q t t') (neg : ¬c → Task.Alike L E Q u u') :
    Task.Alike L E Q (if c then t else u) (if c' then t' else u') := by
  by_cases h : c
  · rw [if_pos h, if_pos (same.2 h)]
    exact pos h
  · rw [if_neg h, if_neg (mt same.1 h)]
    exact neg h

end Task.Alike

/-! ## The engine -/

namespace Engine

theorem ask_alike {c : Call} {wrap : c.Error → EngineError} (plain : c.undoes = false)
    (wraps : ∀ f, (c.failed? f).map (Except.mapError wrap) = some (.error (.store f))) :
    Task.Alike L L.EngineErrors (L.Answers c) (Task.ask c wrap) (Task.ask c wrap) :=
  .ask_store plain .same (fun _ _ h => .store h) wraps

theorem load_alike (item : ItemId) :
    Task.Alike L L.EngineErrors Eq (load item) (load item) := by
  refine .bind (ask_alike rfl fun _ => rfl) ?_
  rintro o _ rfl
  exact .demand_same (.same _)

theorem current_alike (item : ItemId) :
    Task.Alike L L.EngineErrors Eq (current item) (current item) := by
  refine .bind (load_alike item) ?_
  rintro found _ rfl
  exact .pure rfl

/-- All attempts of a swap look only at answers that are the same. -/
theorem swap_alike (item : ItemId) (machine : Machine) (expected : Option StateId) (target : State)
    (next : StateName) (attempts : Nat) (seen : State) :
    Task.Alike L L.EngineErrors Eq (swap item machine expected target next attempts seen)
      (swap item machine expected target next attempts seen) := by
  induction attempts generalizing seen with
  | zero => exact .throw (.same _)
  | succ attempts ih =>
    simp only [swap]
    refine .ite .rfl (fun _ => .throw_bind (.same _)) fun _ => ?_
    refine .bind (ask_alike (c := .transitionExists _ _ _) rfl fun _ => rfl) ?_
    rintro edge _ rfl
    refine .ite .rfl (fun _ => ?_) fun _ => .throw_bind (.same _)
    refine .bind (ask_alike rfl fun _ => rfl) ?_
    rintro moved _ rfl
    refine .ite .rfl (fun _ => .pure rfl) fun _ => ?_
    refine .bind (current_alike item) ?_
    rintro seen _ rfl
    exact ih seen

theorem machineOf_alike (item : Item) :
    Task.Alike L L.EngineErrors Eq (machineOf item) (machineOf item) := by
  refine .bind (ask_alike rfl fun _ => rfl) ?_
  rintro machine _ rfl
  exact .demand_same (.same _)

/-- A transition makes the same calls, and fails alike. -/
theorem transition_alike (item : ItemId) (expected : Option StateId) (next : StateName) :
    Task.Alike L L.EngineErrors Eq (transition item expected next)
      (transition item expected next) := by
  unfold transition
  refine .bind (load_alike item) ?_
  rintro ⟨found, seen⟩ _ rfl
  refine .bind (machineOf_alike found) ?_
  rintro machine _ rfl
  refine .bind (ask_alike rfl fun _ => rfl) ?_
  rintro target _ rfl
  refine .bind (.demand_same (.same _)) ?_
  rintro target _ rfl
  exact swap_alike item machine expected target next maxAttempts seen

theorem available_alike (item : ItemId) :
    Task.Alike L L.EngineErrors Eq (available item) (available item) := by
  refine .bind (load_alike item) ?_
  rintro ⟨found, seen⟩ _ rfl
  exact ask_alike (c := .nextStates _ _) rfl fun _ => rfl

theorem create_alike (machine : MachineName) :
    Task.Alike L L.EngineErrors Eq (create machine) (create machine) := by
  refine .bind (ask_alike rfl fun _ => rfl) ?_
  rintro m _ rfl
  refine .bind (.demand_same (.same _)) ?_
  rintro m _ rfl
  exact ask_alike (c := .insertItem _ _) rfl fun _ => rfl

end Engine

/-! ## Requests -/

/-- A task of the engine stays like another one within a request. -/
theorem LessonTask.engine_alike {Q : α → α' → Prop} {t : Engine.EngineTask α}
    {t' : Engine.EngineTask α'} (h : Task.Alike L L.EngineErrors Q t t') :
    Task.Alike L L.LessonErrors Q (LessonTask.engine t) (LessonTask.engine t') := by
  refine Program.Alike.bind h ?_
  rintro _ _ (h | h)
  · exact .done (.ok h)
  · exact .done (.error (.transition h))

theorem LessonTask.ask_alike {c : Call} {wrap : c.Error → LessonError}
    (plain : c.undoes = false)
    (wraps : ∀ f, (c.failed? f).map (Except.mapError wrap) = some (.error (.store f))) :
    Task.Alike L L.LessonErrors (L.Answers c) (Task.ask c wrap) (Task.ask c wrap) :=
  .ask_store plain .same (fun _ _ h => .store h) wraps

open LessonTask (ask_alike engine_alike)

namespace Likeness

/-- Lessons that are alike, for the same actor. -/
def Accesses (L : Likeness) (a a' : Access) : Prop :=
  ∃ l, L.Lessons a.lesson l ∧ a' = { a with lesson := l }

variable {l l' : Lesson}

/-- No guard looks at the time of the booking. -/
theorem Lessons.check_eq (h : L.Lessons l l') (g : Guard) (actor : Actor) :
    g.check l' actor = g.check l actor := by
  obtain ⟨booked, -, rfl⟩ := h
  cases g <;> rfl

/-- No policy looks at the time of the booking. -/
theorem Lessons.checkState_eq (h : L.Lessons l l') (a : LessonAction) (actor : Actor)
    (current : StateName) : a.checkState l' actor current = a.checkState l actor current := by
  unfold LessonAction.checkState
  split
  · rfl
  · exact h.check_eq _ _
  · rfl

/-- The actions on offer do not depend on the time of the booking. -/
theorem Lessons.offered_eq (h : L.Lessons l l') (actor : Actor) (state : StateName)
    (next : List StateName) :
    offeredActions l' actor state next = offeredActions l actor state next := by
  unfold offeredActions LessonAction.authorize
  simp only [h.check_eq, h.checkState_eq]

theorem any_active {s s' : Option TeacherSkill}
    (h : s.map (·.active) = s'.map (·.active)) :
    s'.any (·.active) = true ↔ s.any (·.active) = true := by
  cases s <;> cases s' <;> simp_all

theorem rel_place {s s' : Option Slot} (h : s.map place = s'.map place) :
    Option.Rel (fun s s' => place s' = place s) s s' := by
  cases s <;> cases s' <;> simp_all

/-- Slots of one place differ only in when they begin and end. -/
theorem of_place {s s' : Slot} (h : place s' = place s) :
    s'.id = s.id ∧ s'.teacher = s.teacher ∧ s'.available = s.available := by
  simpa [place] using h

theorem Lessons.id_eq (h : L.Lessons l l') : l'.id = l.id := by
  obtain ⟨booked, -, rfl⟩ := h
  rfl

theorem Lessons.item_eq (h : L.Lessons l l') : l'.item = l.item := by
  obtain ⟨booked, -, rfl⟩ := h
  rfl

end Likeness

/-- An actor gets at a lesson that differs in the time of its booking at most. -/
theorem Access.load_alike (user : UserId) (lesson : LessonId) :
    Task.Alike L L.LessonErrors L.Accesses (Access.load user lesson) (Access.load user lesson) := by
  unfold Access.load
  refine .bind (ask_alike rfl fun _ => rfl) ?_
  rintro found _ rfl
  refine .bind (.demand_same (.same _)) ?_
  rintro _ _ rfl
  refine .bind (ask_alike rfl fun _ => rfl) fun found found' alike => ?_
  refine .bind (.demand (.same _) alike) fun l l' alike => ?_
  refine .bind (ask_alike rfl fun _ => rfl) ?_
  rintro teacher _ rfl
  exact .pure ⟨l', alike, rfl⟩

theorem issueCredential_alike (room : LessonId → String) (lesson : LessonId) (user : UserId)
    (started : Bool) : Task.Alike L L.LessonErrors Eq (issueCredential room lesson user started)
      (issueCredential room lesson user started) := by
  refine .ask (c := .issueCredential _ _) rfl ?_
  rintro e _ (rfl | ⟨_, _, _, hf, _⟩)
  · exact .same _
  · cases hf

/-- A view shows the time of the booking, and depends on nothing else that differs. -/
theorem getLesson_alike (user : UserId) (lesson : LessonId) :
    Task.Alike L L.LessonErrors L.Views (getLesson user lesson) (getLesson user lesson) := by
  unfold getLesson
  refine .bind (Access.load_alike user lesson) ?_
  rintro ⟨l, actor⟩ _ ⟨l', alike, rfl⟩
  simp only [alike.check_eq, alike.item_eq, alike.offered_eq]
  refine .bind (.check .same) fun _ _ _ => ?_
  refine .bind (engine_alike (Engine.current_alike l.item)) ?_
  rintro state _ rfl
  refine .bind (engine_alike (Engine.available_alike l.item)) ?_
  rintro next _ rfl
  exact .pure ⟨l', alike, rfl⟩

theorem joinLesson_alike (room : LessonId → String) (user : UserId) (lesson : LessonId) :
    Task.Alike L L.LessonErrors Eq (joinLesson room user lesson) (joinLesson room user lesson) := by
  unfold joinLesson
  refine .bind (Access.load_alike user lesson) ?_
  rintro ⟨l, actor⟩ _ ⟨l', alike, rfl⟩
  simp only [alike.check_eq, alike.checkState_eq, alike.item_eq, alike.id_eq]
  refine .bind (.check .same) fun _ _ _ => ?_
  refine .bind (engine_alike (Engine.current_alike l.item)) ?_
  rintro state _ rfl
  refine .bind (.check .same) fun _ _ _ => ?_
  refine .bind (issueCredential_alike room l.id actor.user false) ?_
  rintro meeting _ rfl
  exact .pure rfl

/-- A move makes the same calls and has the same result. -/
theorem moveLesson_alike (room : LessonId → String) (user : UserId) (lesson : LessonId)
    (name : String) : Task.Alike L L.LessonErrors Eq (moveLesson room user lesson name)
      (moveLesson room user lesson name) := by
  unfold moveLesson
  refine .bind (.check .same) ?_
  rintro ⟨action, target⟩ _ rfl
  refine .bind (Access.load_alike user lesson) ?_
  rintro ⟨l, actor⟩ _ ⟨l', alike, rfl⟩
  simp only [alike.check_eq, alike.checkState_eq, alike.item_eq, alike.id_eq]
  refine .bind (.check .same) fun _ _ _ => ?_
  refine .bind (engine_alike (Engine.current_alike l.item)) ?_
  rintro seen _ rfl
  refine .bind (.check .same) fun _ _ _ => ?_
  refine .bind (engine_alike (Engine.transition_alike l.item _ target)) ?_
  rintro state _ rfl
  refine .ite .rfl (fun _ => ?_) fun _ => .pure rfl
  refine .bind (.map (issueCredential_alike room l.id actor.user true)) ?_
  rintro meeting _ rfl
  exact .pure rfl

namespace Booking

/-- The checks of a booking find the same things, and slots of one place. -/
theorem verify_alike (b : Booking) :
    Task.Alike L L.LessonErrors
      (fun x x' => x'.1 = x.1 ∧ x'.2.1 = x.2.1 ∧ Likeness.place x'.2.2 = Likeness.place x.2.2)
      b.verify b.verify := by
  unfold verify
  refine .bind (ask_alike rfl fun _ => rfl) ?_
  rintro found _ rfl
  refine .bind (.demand_same (.same _)) fun _ _ _ => ?_
  refine .bind (ask_alike rfl fun _ => rfl) ?_
  rintro found _ rfl
  refine .bind (.demand_same (.same _)) ?_
  rintro teacher _ rfl
  refine .ite .rfl (fun _ => .throw_bind (.same _)) fun _ => ?_
  refine .bind (ask_alike rfl fun _ => rfl) ?_
  rintro found _ rfl
  refine .bind (.demand_same (.same _)) ?_
  rintro category _ rfl
  refine .ite .rfl (fun _ => ?_) fun _ => .throw_bind (.same _)
  refine .bind (ask_alike rfl fun _ => rfl) fun skill skill' active => ?_
  refine .ite (Likeness.any_active active) (fun _ => ?_) fun _ => .throw_bind (.same _)
  refine .bind (ask_alike rfl fun _ => rfl) fun found found' alike => ?_
  refine .bind (.demand (.same _) (Likeness.rel_place alike)) fun slot slot' alike => ?_
  obtain ⟨id_eq, teacher_eq, free_eq⟩ := Likeness.of_place alike
  rw [id_eq, teacher_eq, free_eq]
  refine .ite .rfl (fun _ => .throw_bind (.same _)) fun _ => ?_
  refine .ite .rfl (fun _ => .pure ⟨rfl, rfl, alike⟩) fun _ => .throw_bind (.same _)

/-- However the calls of the undoing are answered, the same ones are made. -/
theorem undo_alike (slot : SlotId) (item : Option ItemId) :
    Program.Alike L Eq (undo slot item) (undo slot item) := by
  cases item with
  | none => exact .call fun _ _ _ => .done rfl
  | some item => exact .call fun _ _ _ => .call fun _ _ _ => .done rfl

/-- A step that is undone when it fails is like another one if the step is. -/
theorem orUndo_alike {Q : α → α' → Prop} {step : LessonTask α} {step' : LessonTask α'}
    (h : Task.Alike L L.LessonErrors Q step step') (slot : SlotId) (item : Option ItemId) :
    Task.Alike L L.LessonErrors Q (orUndo step slot item) (orUndo step' slot item) := by
  refine Program.Alike.bind h ?_
  rintro _ _ (h | h)
  · exact .done (.ok h)
  · exact .bind (undo_alike slot item) fun _ _ _ => .done (.error h)

end Booking

/-- A booking makes the same calls and has the same result. -/
theorem bookLesson_alike (now : Timestamp) (b : Booking) :
    Task.Alike L L.LessonErrors Eq (bookLesson now b) (bookLesson now b) := by
  unfold bookLesson
  refine .bind b.verify_alike ?_
  rintro ⟨teacher, category, slot⟩ ⟨_, _, slot'⟩ ⟨rfl, rfl, alike⟩
  obtain ⟨id_eq, -, -⟩ := Likeness.of_place alike
  dsimp only
  rw [id_eq]
  refine .bind (ask_alike rfl fun _ => rfl) ?_
  rintro taken _ rfl
  refine .ite .rfl (fun _ => ?_) fun _ => .throw_bind (.same _)
  refine .bind (Booking.orUndo_alike (engine_alike (Engine.create_alike .lesson)) _ _) ?_
  rintro item _ rfl
  refine .bind (Booking.orUndo_alike (ask_alike (c := .insertLesson _) rfl fun _ => rfl) _ _) ?_
  rintro lesson _ rfl
  exact .pure rfl

/-- How the answers to a request may differ: a view shows the time of the booking. -/
def Likeness.Results (L : Likeness) : (q : LessonRequest) → q.Answer → q.Answer → Prop
  | .get _ _ => L.Views
  | .book _ _ | .join _ _ | .move _ _ _ => Eq

/-- **Requests are robust.** When the replies to a request are alike, it makes the same calls and has
the same result, but for the time in a view and the texts of failures. -/
theorem LessonRequest.alike (room : LessonId → String) (q : LessonRequest) :
    Program.Alike L (Task.EndsAlike L.LessonErrors (L.Results q)) (q.program room)
      (q.program room) := by
  cases q with
  | book now b => exact bookLesson_alike now b
  | get user lesson => exact getLesson_alike user lesson
  | join user lesson => exact joinLesson_alike room user lesson
  | move user lesson name => exact moveLesson_alike room user lesson name

end Alike

end Tutoring
