import Tutoring.Json
import Tutoring.Json.Reader
import Tutoring.Timestamp.Printer
import Tutoring.Timestamp.Reader

/-!
# Timestamps as JSON

A timestamp is a string.
-/

namespace Tutoring.Timestamp

/-- A timestamp as JSON. -/
def toJson (t : Timestamp) : Json := .text t.toText

/-- Reads a timestamp. -/
def readJson : Json.Reader Timestamp := Json.readString.filterMap ofText?

end Tutoring.Timestamp
