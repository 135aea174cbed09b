import Tutoring.Meeting.Provider
import Tutoring.World

/-!
# Rehearsals

A world in which things go wrong on cue. Cues are tied to kinds of calls: a call fails, its answer
is lost, or another writer moves an item just before it. They make visible what requests do about
it.

A call visits the cues of its kind in their order. A cue that is still waiting counts down, one that
is used up does nothing, and any other one acts. A failure or a loss ends the visit.
-/

namespace Tutoring

/-- What a cue does to a call. -/
inductive Disturbance where
  /-- The call fails without effect. -/
  | fail (failure : Failure)
  /-- The call answers that nothing was found or done, and has no effect. A call that has no such
  answer is made as usual. -/
  | lose
  /-- Another writer moves an item before the call. -/
  | move (item : ItemId) (target : StateName)
  deriving DecidableEq

/-- A disturbance of calls of one kind. -/
structure Cue where
  kind : Call.Kind
  /-- How many calls it waits. -/
  wait : Nat := 0
  /-- How often it acts. -/
  times : Nat := 1
  disturbance : Disturbance
  deriving DecidableEq

namespace Cue

/-- How a visit ends. -/
inductive Verdict where
  | proceed
  | fail (failure : Failure)
  | lose
  deriving DecidableEq

/-- What a call meets: the cues as they are left, the moves of other writers, and how it ends. -/
def visit (kind : Call.Kind) : List Cue → List Cue × List (ItemId × StateName) × Verdict
  | [] => ([], [], .proceed)
  | cue :: cues =>
    let onward (cue : Cue) :=
      let (rest, moves, verdict) := visit kind cues
      (cue :: rest, moves, verdict)
    if cue.kind ≠ kind then onward cue
    else if 0 < cue.wait then onward { cue with wait := cue.wait - 1 }
    else if cue.times = 0 then onward cue
    else
      let used := { cue with times := cue.times - 1 }
      match cue.disturbance with
      | .fail f => (used :: cues, [], .fail f)
      | .lose => (used :: cues, [], .lose)
      | .move item target =>
        let (rest, moves, verdict) := onward used
        (rest, (item, target) :: moves, verdict)

end Cue

/-- The move of another writer, who takes the item from whichever state it is in. Nothing happens
when there is no such edge. -/
def World.intrude (w : World) (item : ItemId) (target : StateName) : World :=
  match w.items.get? item with
  | some i => (w.swap item i.state target.id).2
  | none => w

/-- A world with the cues that are left and its provider of meetings. -/
structure Rehearsal where
  world : World
  cues : List Cue
  meetings : Meetings

namespace Rehearsal

/-- Makes a call, without any cues. There is no reply to a credential whose lifetime ends at no
point in time. -/
def perform (now : Timestamp) (r : Rehearsal) (c : Call) : Option c.Reply × Rehearsal :=
  match c with
  | .issueCredential room identity =>
    let (reply, meetings) := r.meetings.grant now room identity
    (reply, { r with meetings })
  | c =>
    let (reply, world) := r.world.step (fun _ _ => .error (.unavailable "")) c
    (some reply, { r with world })

/-- Makes a call, with whatever disturbs it. -/
def reply (now : Timestamp) (c : Call) : OptionT (StateM Rehearsal) c.Reply := fun r =>
  let (cues, moves, verdict) := Cue.visit c.kind r.cues
  let r := { r with cues, world := moves.foldl (fun w m => w.intrude m.1 m.2) r.world }
  let disturbed : Option c.Reply :=
    match verdict with
    | .proceed => none
    | .fail f => c.failed? f
    | .lose => c.nothing?.map .ok
  match disturbed with
  | some reply => (some reply, r)
  | none => r.perform now c

end Rehearsal

end Tutoring
