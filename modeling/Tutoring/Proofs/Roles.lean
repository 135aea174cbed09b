import Tutoring.Proofs.Offer
import Tutoring.Proofs.Ownership

/-!
# Roles mean what they say

A booking goes from a profile to its user, and a guard goes back from the user to a profile. Where
no two profiles have the same user, the two ways agree. Where a user has several profiles, the
search may find any of them, but never one that teaches a lesson that the user has booked.

* `Directory.MayFind`: what the search for the profile of a user may come to, in whichever order the
  profiles are gone through.
* `Run.booked`: the lesson that a booking stores, its student and its teacher.
* `Roles`: what the guards say of an actor. `roles_mean_what_they_say`: they say it of every lesson
  that was booked.
-/

namespace Tutoring

/-! ## Searching for a profile -/

namespace Directory

variable {d : Directory} {user : UserId} {profile : Option Teacher}

/-- What the search for the profile of a user may come to. -/
def MayFind (d : Directory) (user : UserId) : Option Teacher → Prop
  | some t => ∃ k, d.teachers.get? k = some t ∧ t.user = user
  | none => ∀ k t, d.teachers.get? k = some t → t.user ≠ user

/-- No two profiles have the same user. -/
def ProfilesDiffer (d : Directory) : Prop :=
  ∀ k k' t t', d.teachers.get? k = some t → d.teachers.get? k' = some t' → t.user = t'.user →
    k = k'

theorem teacherOf?_mayFind (d : Directory) (user : UserId) :
    d.MayFind user (d.teacherOf? user) := by
  cases found : d.teacherOf? user with
  | none =>
    intro k t stored same
    have other := Table.find?_eq_none_iff.1 found k t stored
    exact absurd same (of_decide_eq_false other)
  | some t =>
    obtain ⟨k, stored, same⟩ := Table.get?_of_find? found
    exact ⟨k, stored, of_decide_eq_true same⟩

/-- What is found is the profile under a number if and only if the user of that profile is the one
who was searched for. -/
theorem MayFind.teaches_iff (may : d.MayFind user profile) (keyed : d.TeachersKeyed)
    (differ : d.ProfilesDiffer) (id : TeacherId) :
    (profile.any fun t => t.id = id) = true ↔ ∃ t, d.teachers.get? id = some t ∧ t.user = user := by
  cases profile with
  | none =>
    constructor
    · intro found
      cases found
    · rintro ⟨t, stored, same⟩
      exact absurd same (may id t stored)
  | some t =>
    obtain ⟨k, stored, same⟩ := may
    obtain rfl := keyed k t stored
    rw [Option.any_some, decide_eq_true_iff]
    constructor
    · rintro rfl
      exact ⟨t, stored, same⟩
    · rintro ⟨t', stored', same'⟩
      exact differ _ _ _ _ stored stored' (same.trans same'.symm)

/-- Whatever is found, the profile under a number is not found for somebody else than its user. -/
theorem MayFind.user_of_teaches (may : d.MayFind user profile) (keyed : d.TeachersKeyed)
    {id : TeacherId} {t : Teacher} (stored : d.teachers.get? id = some t)
    (found : (profile.any fun t => t.id = id) = true) : t.user = user := by
  cases profile with
  | none => cases found
  | some t' =>
    obtain ⟨k, stored', same⟩ := may
    obtain rfl := keyed k t' stored'
    rw [Option.any_some, decide_eq_true_iff] at found
    rw [found] at stored'
    rw [← same, Option.some.inj (stored.symm.trans stored')]

end Directory

/-! ## Who has booked a lesson, and with whom -/

/-- The lesson that a booking stores is for the student who asked, with somebody else's profile. -/
theorem Run.booked {room : LessonId → String} {requests : List LessonRequest} {start w : World}
    {trace : Trace} {i : Nat} {draft : LessonDraft} {l : Lesson}
    (run : Run (LessonRequest.program room) requests start trace w)
    (keyed : start.directory.TeachersKeyed)
    (stored : (i, ⟨.insertLesson draft, .ok l⟩) ∈ trace) :
    ∃ now b, requests[i]? = some (.book now b) ∧ l.student = b.student ∧
      ∃ t, start.directory.teachers.get? l.teacher = some t ∧ t.user ≠ b.student := by
  obtain ⟨later, earlier, _, -, upto⟩ := run.occurred stored
  obtain ⟨w₀, r, next, before, request, pending, reacts⟩ := upto.last
  have faithful : Event.Faithful ⟨.insertLesson draft, .ok l⟩ :=
    (run.honest _ stored).faithful
  obtain ⟨now, b, rfl, -, student, t, found, teacher, other⟩ :=
    pending.guar (r.meets_recordTerms room) fun e he => (before.own_honest i e he).faithful
  obtain rfl : l.toLessonDraft = draft := faithful
  have entered : some t = start.directory.teachers.get? b.teacher :=
    (before.own_honest i _ found).answer_eq (f := fun d _ => d.teachers.get? b.teacher)
      fun _ _ => rfl
  have teacher : l.teacher = b.teacher := teacher.symm.trans (keyed _ t entered.symm)
  rw [teacher]
  exact ⟨now, b, request, student, t, entered.symm, other⟩

/-! ## What the guards say of an actor -/

/-- The guards say of an actor of a lesson what their names say, where `student` has booked it. -/
structure Roles (d : Directory) (l : Lesson) (student : UserId) (actor : Actor) : Prop where
  student_iff : Guard.studentOfLesson.permits l actor = true ↔ actor.user = student
  /-- The profile under the number of the teacher is the actor's. -/
  teacher_iff : d.ProfilesDiffer → (Guard.teacherOfLesson.permits l actor = true ↔
    ∃ t, d.teachers.get? l.teacher = some t ∧ t.user = actor.user)
  party_iff : d.ProfilesDiffer → (Guard.eitherParty.permits l actor = true ↔
    actor.user = student ∨ ∃ t, d.teachers.get? l.teacher = some t ∧ t.user = actor.user)
  /-- Nobody is both, however many profiles they have. -/
  exclusive : ¬(Guard.studentOfLesson.permits l actor = true ∧
    Guard.teacherOfLesson.permits l actor = true)
  /-- So the student does not cancel the lesson while it is going on. -/
  cancels : LessonAction.cancel.authorize l actor .ongoing = .ok () → actor.user ≠ student

theorem Guard.eitherParty_iff {l : Lesson} {actor : Actor} :
    eitherParty.permits l actor = true ↔
      studentOfLesson.permits l actor = true ∨ teacherOfLesson.permits l actor = true :=
  Bool.or_eq_true_iff

/-- The guards go by the student and the profile of a lesson, whichever profile of the actor has
been found. -/
theorem Roles.of_profile {d : Directory} {l : Lesson} {student user : UserId}
    {profile : Option Teacher} {t : Teacher} (keyed : d.TeachersKeyed)
    (may : d.MayFind user profile) (booked : l.student = student)
    (stored : d.teachers.get? l.teacher = some t) (other : t.user ≠ student) :
    Roles d l student ⟨user, profile⟩ := by
  have student_iff : Guard.studentOfLesson.permits l ⟨user, profile⟩ = true ↔ user = student := by
    rw [← booked]
    exact decide_eq_true_iff.trans eq_comm
  have apart (teaches : Guard.teacherOfLesson.permits l ⟨user, profile⟩ = true) : user ≠ student :=
    may.user_of_teaches keyed stored teaches ▸ other
  refine ⟨student_iff, fun differ => may.teaches_iff keyed differ l.teacher, fun differ => ?_,
    fun both => apart both.2 (student_iff.1 both.1), fun cancelled => ?_⟩
  · rw [Guard.eitherParty_iff, student_iff]
    exact or_congr_right (may.teaches_iff keyed differ l.teacher)
  · exact apart (LessonAction.teacher_of_ongoing_cancelled rfl cancelled)

/-- **Roles mean what they say.** A booking has stored a lesson, in whichever run of requests.
Whoever exists is loaded with the lesson and with a profile of theirs, if they have one, and then
the guards say of them just what they are to the lesson. Nobody is both its student and its
teacher. -/
theorem roles_mean_what_they_say {room : LessonId → String} {requests : List LessonRequest}
    {start w : World} {trace : Trace} {i : Nat} {draft : LessonDraft} {l : Lesson}
    (run : Run (LessonRequest.program room) requests start trace w)
    (keyed : start.directory.TeachersKeyed)
    (booked : (i, ⟨.insertLesson draft, .ok l⟩) ∈ trace) :
    ∃ now b, requests[i]? = some (.book now b) ∧
      (∀ user profile, start.directory.MayFind user profile →
        Roles start.directory l b.student ⟨user, profile⟩) ∧
      ∀ meet user, (∃ u, w.directory.users.get? user = some u) → w.lessons.get? l.id = some l →
        ∃ profile, start.directory.MayFind user profile ∧
          w.attempt meet (Access.load user l.id) = (.ok ⟨l, user, profile⟩, w) := by
  obtain ⟨now, b, request, student, t, stored, other⟩ := run.booked keyed booked
  refine ⟨now, b, request, fun user profile may => ?_, fun meet user known there => ?_⟩
  · exact .of_profile keyed may student stored other
  · refine ⟨w.directory.teacherOf? user, ?_, World.attempt_load_ok.2 ⟨known, ⟨l, there, rfl⟩, rfl⟩⟩
    rw [run.directory_eq]
    exact Directory.teacherOf?_mayFind start.directory user

/-- The student of the small world books a lesson. They are its student, and the owner of the
profile is its teacher, who is loaded with it. -/
theorem roles_mean_what_they_say_booked :
    ∃ trace w l, Run (LessonRequest.program fun _ => "") [.book .epoch .sample] .sample trace w ∧
      Guard.studentOfLesson.permits l ⟨.ofInt 1, none⟩ = true ∧
      Guard.teacherOfLesson.permits l ⟨.ofInt 2, some ⟨.ofInt 1, .ofInt 2⟩⟩ = true ∧
      ∃ profile, w.attempt (fun _ _ => .error (.unavailable "")) (Access.load (.ofInt 2) l.id) =
        (.ok ⟨l, .ofInt 2, profile⟩, w) := by
  have none_served : Run (LessonRequest.program fun _ => "") [.book .epoch .sample] .sample []
    .sample := .start
  obtain ⟨run, -⟩ := none_served.serve (i := 0) (r := .book .epoch .sample)
    (fun _ _ => .error (.unavailable "")) 9 rfl .start
  have keyed : World.sample.directory.TeachersKeyed := Directory.teachersKeyed_empty.addTeacher _
  have only (k t) (stored : World.sample.directory.teachers.get? k = some t) :
      k = .ofInt 1 ∧ t = ⟨.ofInt 1, .ofInt 2⟩ := by
    have stored : (Table.empty.insert (.ofInt 1) _).get? k = some t := stored
    rw [Table.get?_insert] at stored
    split at stored
    · exact ⟨‹_›, (Option.some.inj stored).symm⟩
    · cases stored
  have differ : World.sample.directory.ProfilesDiffer := fun k k' t t' stored stored' _ =>
    (only k t stored).1.trans (only k' t' stored').1.symm
  obtain ⟨now, b, request, roles, loads⟩ := roles_mean_what_they_say run keyed List.mem_cons_self
  obtain ⟨rfl, rfl⟩ := LessonRequest.book.inj (Option.some.inj request)
  have stranger : World.sample.directory.MayFind (.ofInt 1) none := by
    intro k t stored
    rw [(only k t stored).2]
    decide
  have owner : World.sample.directory.MayFind (.ofInt 2) (some ⟨.ofInt 1, .ofInt 2⟩) :=
    ⟨.ofInt 1, rfl, rfl⟩
  obtain ⟨profile, -, loaded⟩ := loads (fun _ _ => .error (.unavailable "")) (.ofInt 2) ⟨_, rfl⟩ rfl
  exact ⟨_, _, _, run, (roles _ _ stranger).student_iff.2 rfl,
    ((roles _ _ owner).teacher_iff differ).2 ⟨_, rfl, rfl⟩, profile, loaded⟩

end Tutoring
