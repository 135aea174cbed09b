/-!
# Meetings

A lesson takes place in a meeting room of a provider, which issues credentials to enter it.
-/

namespace Tutoring

/-- What a user needs to enter a meeting room. -/
structure Credential where
  room : String
  token : String
  deriving DecidableEq, Repr

/-- Why a provider issued no credential. -/
inductive MeetingError where
  /-- The provider could not be reached. -/
  | unavailable (reason : String)
  /-- The provider did not accept the request. -/
  | rejected (reason : String)
  deriving DecidableEq, Repr

namespace MeetingError

/-- The error in words. -/
def toText : MeetingError → String
  | unavailable reason => s!"Meeting provider unavailable: {reason}"
  | rejected reason => s!"Meeting provider rejected the request: {reason}"

instance : ToString MeetingError := ⟨toText⟩

end MeetingError

end Tutoring
