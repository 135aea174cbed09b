import Tutoring.Proofs.Course
import Tutoring.Proofs.Snapshot

/-!
# What a booking reports and what it has stored

The student who looks at a lesson right after booking it finds the lesson that the booking has
answered, in the start state of the machine of lessons. The booking itself answers `pending`, which
is the same state only where the machine starts there.

* `Catalog.machineNamed?_ofBlueprints`: the machine that items of a name are made of, and its
  blueprint.
* `bookings_report_what_is_stored`: what a look right after a booking shows, compared with what the
  booking has answered.
-/

namespace Tutoring

theorem Catalog.machineNamed?_ofBlueprints {blueprints : List Blueprint} {name : MachineName}
    {m : Machine} (named : (ofBlueprints blueprints).machineNamed? name = some m) :
    ∃ b, blueprints.find? (·.name = name) = some b ∧ m.start = b.start.id := by
  unfold machineNamed? ofBlueprints at named
  rw [List.find?_map] at named
  obtain ⟨⟨b, k⟩, found, rfl⟩ := Option.map_eq_some_iff.1 named
  refine ⟨b, ?_, rfl⟩
  rw [← List.zipIdx_map_fst 1 blueprints, List.find?_map]
  exact congrArg (Option.map (·.1)) found

/-- **What a booking reports is what was stored, but for the state.** When a booking that nobody
interferes with succeeds, the student finds the lesson right afterwards, the same in every field, in
the state that the machine of lessons starts in. That is the state that the booking has answered if
and only if the machine starts in `pending`. -/
theorem bookings_report_what_is_stored (meet : String → String → Except MeetingError Credential)
    {blueprints : List Blueprint} {w w' : World} {now : Timestamp} {b : Booking}
    {made : BookedLesson} (provisioned : w.catalog = .ofBlueprints blueprints)
    (booked : w.attempt meet (bookLesson now b) = (.ok made, w')) :
    ∃ bp view, blueprints.find? (·.name = .lesson) = some bp ∧
      (∀ meet, w'.attempt meet (getLesson b.student made.lesson.id) = (.ok view, w')) ∧
      view.lesson = made.lesson ∧ view.state = bp.start ∧
      (made.state = view.state ↔ bp.start = .pending) := by
  have outcome := Booking.outcome meet w now b
  rw [booked] at outcome
  cases outcome with
  | @accepted u t c s x m l student teacher other slot free machine lesson =>
    rw [provisioned] at machine
    obtain ⟨bp, named, start⟩ := Catalog.machineNamed?_ofBlueprints machine
    have own : l.student = b.student := by rw [lesson]
    have number : l.id = w.nextLesson := by rw [lesson]
    have made_of : l.item = w.nextItem := by rw [lesson]
    have party (teacher : Option Teacher) :
        Guard.eitherParty.permits l ⟨b.student, teacher⟩ = true :=
      Guard.permits_eitherParty (g := .studentOfLesson) (decide_eq_true own)
    have sees : (Booking.stored w s.id x m l).Sees b.student l.id l ⟨w.nextItem, m.id, m.start⟩
        (.ofName bp.start) := by
      refine ⟨⟨u, student⟩, (Table.get?_insert ..).trans (if_pos number), if_pos (party _), ?_⟩
      refine World.item?_eq_some.2 ⟨(Table.get?_insert ..).trans (if_pos made_of), ?_⟩
      rw [start]
      exact State.ofId?_id bp.start
    exact ⟨bp, _, named, fun _ => sees.look, rfl, rfl, eq_comm⟩

/-- With the default machines the booking answers the state that the student then sees. -/
theorem bookings_report_what_is_stored_default :
    ∃ made view w', World.sample.attempt (fun _ _ => .error (.unavailable ""))
        (bookLesson .epoch .sample) = (.ok made, w') ∧
      w'.attempt (fun _ _ => .error (.unavailable "")) (getLesson (.ofInt 1) made.lesson.id) =
        (.ok view, w') ∧ view.lesson = made.lesson ∧ made.state = view.state := by
  have booked : World.sample.attempt (fun _ _ => .error (.unavailable ""))
    (bookLesson .epoch .sample) = (.ok ⟨_, .pending⟩, _) := rfl
  obtain ⟨bp, view, named, looked, same, -, told⟩ := bookings_report_what_is_stored _ rfl booked
  obtain rfl := Option.some.inj named
  exact ⟨_, view, _, booked, looked _, same, told.2 rfl⟩

/-- The small world with a machine of lessons that need no approval. -/
def World.unapproved : World :=
  { World.sample with catalog := .ofBlueprints [⟨.lesson, .planned, [(.planned, .ongoing)]⟩] }

/-- A lesson that needs no approval is reported as pending, and is planned. -/
theorem booking_reports_no_start :
    ∃ made view w', World.unapproved.attempt (fun _ _ => .error (.unavailable ""))
        (bookLesson .epoch .sample) = (.ok made, w') ∧
      w'.attempt (fun _ _ => .error (.unavailable "")) (getLesson (.ofInt 1) made.lesson.id) =
        (.ok view, w') ∧
      made.state = .pending ∧ view.state = .planned :=
  ⟨_, _, _, rfl, rfl, rfl, rfl⟩

end Tutoring
