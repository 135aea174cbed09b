import Tutoring.Settings
import Tutoring.Text.After
import Tutoring.Text.Lowercase
import Tutoring.Text.Numeral

/-!
# Settings from environment variables

The variable `TUTORLY__SERVER__PORT` sets the port in the section of the server. Names are taken in
lower case, and of two variables of the same name the later one counts. A name may go on below a
setting; such a setting then has parts instead of a value, and only the deployment may be given that
way. Values are texts, from which numbers and truth values are read.
-/

namespace Tutoring.Environment

/-- A value and the path of its setting. -/
structure Entry where
  path : List String
  value : String
  deriving DecidableEq, Repr

/-- What the names of settings start with. -/
def start : List Char := "tutorly__".toList

/-- The steps of a path, which are separated by two underscores or by a dot. -/
def steps : List Char → List (List Char)
  | [] => [[]]
  | '_' :: '_' :: s => [] :: steps s
  | c :: s =>
    if c = '.' then [] :: steps s
    else
      match steps s with
      | step :: rest => (c :: step) :: rest
      | [] => [[c]]

/-- A character of a step. -/
def isStepChar (c : Char) : Bool := c.isAlphanum || c = '_' || c = '-'

/-- The step of a path may be the name of a setting. -/
def isStep (s : List Char) : Bool := s ≠ [] && s.all isStepChar

/-- The entry of a variable, if it is meant for the settings. -/
def entry? (name value : String) : Option Entry := do
  let rest ← Text.after? start (Text.lower name.toList)
  if (steps rest).all isStep then some ⟨(steps rest).map String.ofList, value⟩ else none

/-- The entries of all variables. -/
def entries (given : List (String × String)) : List Entry :=
  given.filterMap fun v => entry? v.1 v.2

/-- The settings cannot be read from the variables. -/
structure Unreadable where
  deriving DecidableEq, Repr

/-- Something read from the variables. -/
abbrev Reading (α : Type) : Type := Except Unreadable α

/-- The value at a path, if it has one and no parts. -/
def value? (es : List Entry) (path : List String) : Reading (Option String) :=
  if es.any fun e => path.length < e.path.length && e.path.take path.length = path then throw {}
  else return (es.reverse.find? (·.path = path)).map (·.value)

/-- A value that is read from its text. -/
def read {α : Type} (es : List Entry) (path : List String) (ofText? : String → Option α) :
    Reading (Option α) := do
  match ← value? es path with
  | none => return none
  | some text =>
    match ofText? text with
    | some a => return some a
    | none => throw {}

/-- A value that must be there. -/
def required {α : Type} (a? : Option α) : Reading α :=
  match a? with
  | some a => return a
  | none => throw {}

/-! ## Values -/

/-- A text in lower case. -/
def lowered (s : String) : String := String.ofList (Text.lower s.toList)

/-- A number up to `high`. The words for yes stand for one, and the words for no for zero. -/
def number? (high : Nat) (s : String) : Option Nat :=
  if lowered s ∈ ["true", "on", "yes"] then some 1
  else if lowered s ∈ ["false", "off", "no"] then some 0
  else (Text.Numeral.readNat high s.toList).toOption

/-- A truth value. -/
def bool? (s : String) : Option Bool :=
  if lowered s ∈ ["1", "true", "on", "yes"] then some true
  else if lowered s ∈ ["0", "false", "off", "no"] then some false
  else none

/-- The deployment of that name, in any letter case. -/
def deployment? (s : String) : Option Deployment := Deployment.ofText? (lowered s)

/-- A deployment as a value, or as the only part of its setting. -/
def deployment (es : List Entry) (path : List String) : Reading (Option Deployment) := do
  match (es.filter fun e => path.length < e.path.length && e.path.take path.length = path).map
      fun e => e.path.drop path.length with
  | [] => read es path deployment?
  | part :: parts =>
    match part.head? >>= deployment? with
    | some d =>
      if (parts.all fun p => p.head? = part.head?) && !es.any (·.path = path) then return some d
      else throw {}
    | none => throw {}

/-! ## Sections -/

/-- The section is not set to a value of its own. -/
def asSection (es : List Entry) (name : String) : Reading Unit :=
  if es.any (·.path = [name]) then throw {} else return ()

/-- A text. -/
def text (es : List Entry) (path : List String) : Reading (Option String) := read es path some

/-- A number of 64 bits. -/
def uint64 (es : List Entry) (path : List String) : Reading (Option UInt64) :=
  read es path fun s => Nat.toUInt64 <$> number? (UInt64.size - 1) s

/-- A number of 32 bits. -/
def uint32 (es : List Entry) (path : List String) : Reading (Option UInt32) :=
  read es path fun s => Nat.toUInt32 <$> number? (UInt32.size - 1) s

/-- A number of 16 bits. -/
def uint16 (es : List Entry) (path : List String) : Reading (Option UInt16) :=
  read es path fun s => Nat.toUInt16 <$> number? (UInt16.size - 1) s

/-- The settings of the server. -/
def server (es : List Entry) : Reading ServerSettings := do
  asSection es "server"
  let d : ServerSettings := {}
  return {
    host := (← text es ["server", "host"]).getD d.host
    port := (← uint16 es ["server", "port"]).getD d.port
    deployment := (← deployment es ["server", "environment"]).getD d.deployment
    logLevel := (← text es ["server", "log_level"]).getD d.logLevel
    timeout := (← uint64 es ["server", "request_timeout_secs"]).getD d.timeout
    origins := ← text es ["server", "cors_origins"] }

/-- The settings of the database. -/
def database (es : List Entry) : Reading DatabaseSettings := do
  asSection es "database"
  let d : DatabaseSettings := {}
  return {
    url := ← required (← text es ["database", "url"])
    minConnections := (← uint32 es ["database", "min_connections"]).getD d.minConnections
    maxConnections := (← uint32 es ["database", "max_connections"]).getD d.maxConnections
    acquireTimeout := (← uint64 es ["database", "acquire_timeout_secs"]).getD d.acquireTimeout
    idleTimeout := (← uint64 es ["database", "idle_timeout_secs"]).getD d.idleTimeout
    runMigrations :=
      (← read es ["database", "run_migrations"] bool?).getD d.runMigrations }

/-- The settings of identity. -/
def auth (es : List Entry) : Reading AuthSettings := do
  asSection es "auth"
  let d : AuthSettings := {}
  return {
    secret := ← required (← text es ["auth", "jwt_secret"])
    issuer := (← text es ["auth", "issuer"]).getD d.issuer
    audience := (← text es ["auth", "audience"]).getD d.audience }

/-- The settings of meetings. -/
def meeting (es : List Entry) : Reading MeetingSettings := do
  asSection es "meeting"
  let d : MeetingSettings := {}
  return {
    apiKey := ← required (← text es ["meeting", "api_key"])
    apiSecret := ← required (← text es ["meeting", "api_secret"])
    roomPrefix := (← text es ["meeting", "room_prefix"]).getD d.roomPrefix
    tokenLifetime := (← uint64 es ["meeting", "token_ttl_secs"]).getD d.tokenLifetime }

/-- All settings, from the names and values of variables. -/
def settings (given : List (String × String)) : Reading Settings := do
  let es := entries given
  return {
    server := ← server es
    database := ← database es
    auth := ← auth es
    meeting := ← meeting es }

end Tutoring.Environment
