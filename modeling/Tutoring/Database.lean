import Tutoring.Database.Outcome
import Tutoring.Database.Statement
import Tutoring.Meeting.Provider
import Tutoring.Program

/-!
# Stores in a database

The calls of stores, answered by a database: a statement is sent for each of them, and the outcome
is read. What goes wrong is reported as a failure of the database, with a text that says what was
being done. Here the outcomes are laid down in advance, one for each statement.
-/

namespace Tutoring.Database

/-- What a call is for, as failures put it. -/
def purpose : Call → String
  | .findUser _ => "fetch user"
  | .findTeacher _ | .findTeacherByUser _ => "fetch teacher"
  | .findCategory _ => "fetch category"
  | .findSkill _ _ => "fetch teacher skill"
  | .findSlot _ => "fetch slot"
  | .reserveSlot _ => "reserve slot"
  | .releaseSlot _ => "release slot"
  | .insertLesson _ => "save lesson"
  | .findLesson _ => "fetch lesson"
  | .findMachineByName _ | .findMachine _ => "find state machine"
  | .findMachineState _ _ => "resolve state"
  | .transitionExists _ _ _ => "check transition"
  | .nextStates _ _ => "list transitions"
  | .insertItem _ _ => "create state machine item"
  | .deleteItem _ => "delete state machine item"
  | .findItem _ => "find state machine item"
  | .swapState _ _ _ => "update state machine item"
  | .issueCredential _ _ => "issue credential"

/-- The failure that a fault is reported as. -/
def failure (c : Call) : Fault → Failure
  | .unknownState e => .database (Fault.unknownState e).toText
  | .unknownMachine e => .database (Fault.unknownMachine e).toText
  | f => .database s!"Failed to {purpose c}: {f.toText}"

/-- The answer to a call, read from the outcome of its statement. A conditional change was made if
it changed exactly one row. -/
def answer : (c : Call) → Outcome → Option (Reading c.Answer)
  | .findUser _, o => some (o.find? readUser)
  | .findTeacher _, o | .findTeacherByUser _, o => some (o.find? readTeacher)
  | .findCategory _, o => some (o.find? readCategory)
  | .findSkill teacher category, o => some <| o.find? fun row =>
    return { teacher, category, active := ← row.bool 0 (numbered 0) }
  | .findSlot _, o => some (o.find? readSlot)
  | .reserveSlot _, o => some ((· == 1) <$> o.changed)
  | .releaseSlot _, o => some ((fun _ => ()) <$> o.changed)
  | .insertLesson draft, o => some do
    return draft.numbered (← (← o.first).id 0 (numbered 0))
  | .findLesson _, o => some (o.find? readLesson)
  | .findMachineByName _, o | .findMachine _, o => some (o.find? readMachine)
  | .findMachineState _ _, o => some (o.find? fun row => readStateRow row >>= readState)
  | .transitionExists _ _ _, o => some do (← o.first).bool 0 (numbered 0)
  | .nextStates _ _, o => some do
    let rows ← (← o.all).mapM readStateRow
    rows.mapM readState
  | .insertItem machine state, o => some do
    return { id := ← (← o.first).id 0 (numbered 0), machine, state }
  | .deleteItem _, o => some ((fun _ => ()) <$> o.changed)
  | .findItem _, o => some (o.find? readItem)
  | .swapState _ _ _, o => some ((· == 1) <$> o.changed)
  | .issueCredential _ _, _ => none

/-- A database whose outcomes are laid down, with the provider of meetings. -/
structure Script where
  outcomes : List Outcome
  /-- The statements so far. -/
  sent : List Statement
  meetings : Meetings

namespace Script

/-- The outcome of the next statement. -/
def next (s : Script) : Outcome := s.outcomes.headD (.refused "no outcome laid down")

/-- The script after a statement. -/
def advance (s : Script) (q : Statement) : Script :=
  { s with outcomes := s.outcomes.tail, sent := s.sent ++ [q] }

/-- Makes a call. There is no reply when a point in time would be needed that the calendar does not
have. -/
def reply (now : Timestamp) : (c : Call) → OptionT (StateM Script) c.Reply
  | .issueCredential room identity => fun s =>
    let (reply, meetings) := s.meetings.grant now room identity
    (reply, { s with meetings })
  | c => fun s =>
    match statement? c, answer c s.next with
    | some q, some (.ok a) => (some (.ok a), s.advance q)
    | some q, some (.error .unknownTime) => (none, s.advance q)
    | some q, some (.error f) => (c.failed? (failure c f), s.advance q)
    | _, _ => (none, s)

end Script

end Tutoring.Database
