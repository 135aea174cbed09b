import Tutoring.Settings.Error

/-!
# Settings of the database
-/

namespace Tutoring

/-- Settings of the database and its pool of connections. -/
structure DatabaseSettings where
  url : String := ""
  minConnections : UInt32 := 2
  maxConnections : UInt32 := 10
  /-- How long to wait for a connection, in seconds. -/
  acquireTimeout : UInt64 := 5
  /-- How long a connection may be idle, in seconds. -/
  idleTimeout : UInt64 := 600
  /-- The schema is brought up to date at the start. -/
  runMigrations : Bool := false
  deriving DecidableEq, Repr

namespace DatabaseSettings

/-- The largest pool. -/
def maxPool : UInt32 := 100

/-- Checks the settings of the database. -/
def validate (d : DatabaseSettings) : Except SettingsError Unit := do
  if d.url.isEmpty then throw (.missing "DATABASE__URL")
  unless "postgres://".isPrefixOf d.url || "postgresql://".isPrefixOf d.url do
    throw .invalidDatabaseUrl
  if d.maxConnections < d.minConnections then throw .invalidPoolSize
  if maxPool < d.maxConnections then throw .poolTooLarge

end DatabaseSettings

end Tutoring
