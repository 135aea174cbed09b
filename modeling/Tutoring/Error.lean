/-!
# Errors shared by all parts

An error has a code that clients see, and every code has a kind that says what sort of answer it
deserves. A `Failure` is what a collaborator reports (a store, a database): a code, a text for the
operator and details by name. A `FieldError` says why a value is not acceptable.
-/

namespace Tutoring

/-- The sort of an error. -/
inductive ErrorKind where
  /-- A record that was referred to does not exist. -/
  | notFound
  /-- The actor exists and may not do this. -/
  | forbidden
  /-- The state does not allow this. -/
  | illegalTransition
  /-- Another writer came first. -/
  | conflict
  /-- The request is malformed or breaks a rule. -/
  | validation
  /-- An outside service failed. -/
  | dependency
  /-- Storage or something else inside failed. -/
  | infrastructure
  deriving DecidableEq, Repr

/-- The codes that clients see. -/
inductive ErrorCode where
  | validationFailed | selfBooking | categoryInactive | skillInactive | slotNotOwned
  | userNotFound | teacherNotFound | categoryNotFound | scheduleSlotNotFound | lessonNotFound
  | stateMachineNotFound | stateMachineItemNotFound | stateNotFound
  | invalidStateTransition | actionNotAllowed | slotUnavailable
  | unauthorized | actorNotTeacher | notRelatedTeacher | notRelatedUser
  | meetingProviderError
  | databaseError | internalError
  deriving DecidableEq, Repr

namespace ErrorCode

/-- The sort of error that a code stands for. -/
def kind : ErrorCode → ErrorKind
  | validationFailed | selfBooking | categoryInactive | skillInactive | slotNotOwned => .validation
  | userNotFound | teacherNotFound | categoryNotFound | scheduleSlotNotFound | lessonNotFound
  | stateMachineNotFound | stateMachineItemNotFound | stateNotFound => .notFound
  | invalidStateTransition | actionNotAllowed => .illegalTransition
  | slotUnavailable => .conflict
  | unauthorized | actorNotTeacher | notRelatedTeacher | notRelatedUser => .forbidden
  | meetingProviderError => .dependency
  | databaseError | internalError => .infrastructure

/-- The code as clients see it. -/
def toText : ErrorCode → String
  | validationFailed => "VALIDATION_FAILED"
  | selfBooking => "SELF_BOOKING"
  | categoryInactive => "CATEGORY_INACTIVE"
  | skillInactive => "SKILL_INACTIVE"
  | slotNotOwned => "SLOT_NOT_OWNED"
  | userNotFound => "USER_NOT_FOUND"
  | teacherNotFound => "TEACHER_NOT_FOUND"
  | categoryNotFound => "CATEGORY_NOT_FOUND"
  | scheduleSlotNotFound => "SCHEDULE_SLOT_NOT_FOUND"
  | lessonNotFound => "LESSON_NOT_FOUND"
  | stateMachineNotFound => "STATE_MACHINE_NOT_FOUND"
  | stateMachineItemNotFound => "STATE_MACHINE_ITEM_NOT_FOUND"
  | stateNotFound => "STATE_NOT_FOUND"
  | invalidStateTransition => "INVALID_STATE_TRANSITION"
  | actionNotAllowed => "ACTION_NOT_ALLOWED"
  | slotUnavailable => "SLOT_UNAVAILABLE"
  | unauthorized => "UNAUTHORIZED"
  | actorNotTeacher => "ACTOR_NOT_TEACHER"
  | notRelatedTeacher => "NOT_RELATED_TEACHER"
  | notRelatedUser => "NOT_RELATED_USER"
  | meetingProviderError => "MEETING_PROVIDER_ERROR"
  | databaseError => "DATABASE_ERROR"
  | internalError => "INTERNAL_ERROR"

instance : ToString ErrorCode := ⟨toText⟩

end ErrorCode

/-- Why the value of a field is not acceptable. -/
inductive FieldError where
  /-- There is no value. -/
  | emptyField (field : String)
  /-- The value is not of the right form. -/
  | invalidFormat (field reason : String)
  deriving DecidableEq, Repr

namespace FieldError

/-- The name of the field. -/
def field : FieldError → String
  | emptyField field | invalidFormat field _ => field

/-- What the user is told. -/
def message : FieldError → String
  | emptyField field => s!"Field '{field}' cannot be empty"
  | invalidFormat field reason => s!"Field '{field}' has invalid format: {reason}"

instance : ToString FieldError := ⟨message⟩

end FieldError

/-- What a collaborator reports when it fails. -/
structure Failure where
  code : ErrorCode
  message : String
  /-- Values by name; a name comes once. -/
  details : List (String × String) := []
  deriving DecidableEq, Repr

namespace Failure

/-- A failure of the database. -/
def database (message : String) : Failure := { code := .databaseError, message }

/-- The failure with the value of a detail set. -/
def withDetail (f : Failure) (name value : String) : Failure :=
  { f with details := f.details.filter (·.1 ≠ name) ++ [(name, value)] }

/-- The value of a field breaks a rule. -/
def validation (field message : String) : Failure :=
  { code := .validationFailed, message : Failure }.withDetail "field" field

/-- A field error as a failure. -/
def ofFieldError (e : FieldError) : Failure := validation e.field e.message

/-- The sort of the failure. -/
def kind (f : Failure) : ErrorKind := f.code.kind

/-- Code and text. -/
def toText (f : Failure) : String := s!"[{f.code}] {f.message}"

instance : ToString Failure := ⟨toText⟩

end Failure

end Tutoring
