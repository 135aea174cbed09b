import Tutoring.Lesson
import Tutoring.Lesson.Action
import Tutoring.Machine.Error

/-!
# Errors of lesson requests

Every error has a code, which decides its kind, and a text. Clients are not told what went wrong
inside: the text for them is a fixed one for every error of the infrastructure.
-/

namespace Tutoring

/-- Why a lesson request did not succeed. -/
inductive LessonError where
  | actorNotFound (user : UserId)
  | lessonNotFound (lesson : LessonId)
  | teacherNotFound (teacher : TeacherId)
  | categoryNotFound (category : CategoryId)
  | slotNotFound (slot : SlotId)
  /-- A teacher is required and the actor has no profile. -/
  | actorNotTeacher (user : UserId)
  /-- The actor's profile does not teach the lesson. -/
  | notRelatedTeacher (lesson : LessonId) (actor : UserId)
  /-- The actor is not the party of the lesson that is required. -/
  | notRelatedUser (lesson : LessonId) (actor : UserId)
  /-- No action has the name. -/
  | unknownAction (name : String)
  /-- The action does not move a lesson. -/
  | notATransition (action : LessonAction)
  | selfBooking
  | categoryInactive (category : CategoryId)
  | skillInactive (teacher : TeacherId) (category : CategoryId)
  | slotNotOwned (slot : SlotId) (teacher : TeacherId)
  | slotUnavailable (slot : SlotId)
  /-- The state refuses the action. -/
  | actionNotAllowed (action : LessonAction) (current : StateName)
  /-- The state machine did not move. -/
  | transition (error : EngineError)
  /-- The meeting provider failed; `started` tells whether the lesson had been started before. -/
  | meetingUnavailable (lesson : LessonId) (started : Bool) (reason : String)
  /-- A store failed. -/
  | store (failure : Failure)
  deriving DecidableEq, Repr

namespace LessonError

/-- The code of the error; what comes from inside keeps its own. -/
def code : LessonError → ErrorCode
  | actorNotFound _ => .userNotFound
  | lessonNotFound _ => .lessonNotFound
  | teacherNotFound _ => .teacherNotFound
  | categoryNotFound _ => .categoryNotFound
  | slotNotFound _ => .scheduleSlotNotFound
  | actorNotTeacher _ => .actorNotTeacher
  | notRelatedTeacher _ _ => .notRelatedTeacher
  | notRelatedUser _ _ => .notRelatedUser
  | unknownAction _ | notATransition _ => .validationFailed
  | selfBooking => .selfBooking
  | categoryInactive _ => .categoryInactive
  | skillInactive _ _ => .skillInactive
  | slotNotOwned _ _ => .slotNotOwned
  | slotUnavailable _ => .slotUnavailable
  | actionNotAllowed _ _ => .actionNotAllowed
  | transition e => e.code
  | meetingUnavailable _ _ _ => .meetingProviderError
  | store f => f.code

/-- The sort of the error. -/
def kind (e : LessonError) : ErrorKind := e.code.kind

/-- The error in words, for the operator. -/
def toText : LessonError → String
  | actorNotFound user => s!"User {user} not found"
  | lessonNotFound lesson => s!"Lesson {lesson} not found"
  | teacherNotFound teacher => s!"Teacher {teacher} not found"
  | categoryNotFound category => s!"Category {category} not found"
  | slotNotFound slot => s!"Schedule slot {slot} not found"
  | actorNotTeacher user => s!"User {user} is not a teacher"
  | notRelatedTeacher lesson actor => s!"User {actor} is not the teacher of lesson {lesson}"
  | notRelatedUser lesson actor => s!"User {actor} is not related to lesson {lesson}"
  | unknownAction name => s!"Unknown lesson action '{name}'"
  | notATransition action => s!"'{action}' does not change lesson state"
  | selfBooking => "A teacher cannot book a lesson with themselves"
  | categoryInactive category => s!"Category {category} is not active"
  | skillInactive teacher category =>
    s!"Teacher {teacher} has no active skill in category {category}"
  | slotNotOwned slot teacher => s!"Schedule slot {slot} does not belong to teacher {teacher}"
  | slotUnavailable slot => s!"Schedule slot {slot} is no longer available"
  | actionNotAllowed action current => s!"Cannot {action} a lesson that is {current}"
  | transition e => e.toText
  | meetingUnavailable lesson _ reason => s!"Meeting unavailable for lesson {lesson}: {reason}"
  | store f => f.toText

instance : ToString LessonError := ⟨toText⟩

/-- What clients are told about every error of the infrastructure. -/
def internalMessage : String := "Internal server error"

/-- The error in words, for clients. -/
def message (e : LessonError) : String :=
  if e.kind = .infrastructure then internalMessage
  else
    match e with
    | store f => f.message
    | e => e.toText

/-- The same request may succeed when it is simply sent again. A lesson that was started before its
credential failed cannot be started again. -/
def isRetryable : LessonError → Bool
  | meetingUnavailable _ started _ => !started
  | e => e.kind = .dependency || e.kind = .infrastructure

end LessonError

end Tutoring
