/-!
# Errors of settings
-/

namespace Tutoring

/-- Why settings are not acceptable. -/
inductive SettingsError where
  /-- A setting that must not be empty. -/
  | missing (name : String)
  | invalidPort
  | invalidTimeout
  | invalidAddress (address : String)
  | invalidDatabaseUrl
  | invalidPoolSize
  | poolTooLarge
  | weakSecret
  | invalidTokenLifetime
  | invalidRoomPrefix
  deriving DecidableEq, Repr

namespace SettingsError

/-- The error in words. -/
def toText : SettingsError → String
  | missing name => s!"Required configuration missing: {name}"
  | invalidPort => "Invalid port number"
  | invalidTimeout => "Invalid request timeout"
  | invalidAddress address => s!"Invalid socket address: {address}"
  | invalidDatabaseUrl => "Invalid database URL format"
  | invalidPoolSize => "Pool min_connections exceeds max_connections"
  | poolTooLarge => "Pool size exceeds maximum allowed (100)"
  | weakSecret => "JWT secret must be at least 32 bytes in production"
  | invalidTokenLifetime => "Meeting token TTL must be between 60 and 86400 seconds"
  | invalidRoomPrefix => "Meeting room prefix may only contain ASCII letters, digits, '-' and '_'"

instance : ToString SettingsError := ⟨toText⟩

end SettingsError

end Tutoring
