import Tutoring.Json.Record
import Tutoring.Settings

/-!
# Settings from JSON

Every section is a record. Settings with a default may be left out, and so may the whole section of
the server.
-/

namespace Tutoring

open Json

/-- Reads a number of 16 bits. -/
def readUInt16 : Reader UInt16 := (readNat (UInt16.size - 1)).map Nat.toUInt16

/-- Reads a number of 32 bits. -/
def readUInt32 : Reader UInt32 := (readNat (UInt32.size - 1)).map Nat.toUInt32

/-- Reads a number of 64 bits. -/
def readUInt64 : Reader UInt64 := (readNat (UInt64.size - 1)).map Nat.toUInt64

namespace ServerSettings

/-- The fields of the server's settings. -/
def fields : Fields [String, UInt16, Deployment, String, UInt64, Option String] :=
  let d : ServerSettings := {}
  .cons (.withDefault "host" readString d.host) <|
  .cons (.withDefault "port" readUInt16 d.port) <|
  .cons (.withDefault "environment" (readName Deployment.ofText?) d.deployment) <|
  .cons (.withDefault "log_level" readString d.logLevel) <|
  .cons (.withDefault "request_timeout_secs" readUInt64 d.timeout) <|
  .cons (.optional "cors_origins" readString) .nil

/-- Reads the server's settings. -/
def readJson : Reader ServerSettings :=
  fields.read.map fun (host, port, deployment, logLevel, timeout, origins, ()) =>
    { host, port, deployment, logLevel, timeout, origins }

end ServerSettings

namespace DatabaseSettings

/-- The fields of the database's settings. -/
def fields : Fields [String, UInt32, UInt32, UInt64, UInt64, Bool] :=
  let d : DatabaseSettings := {}
  .cons (.required "url" readString) <|
  .cons (.withDefault "min_connections" readUInt32 d.minConnections) <|
  .cons (.withDefault "max_connections" readUInt32 d.maxConnections) <|
  .cons (.withDefault "acquire_timeout_secs" readUInt64 d.acquireTimeout) <|
  .cons (.withDefault "idle_timeout_secs" readUInt64 d.idleTimeout) <|
  .cons (.withDefault "run_migrations" readBool d.runMigrations) .nil

/-- Reads the database's settings. -/
def readJson : Reader DatabaseSettings :=
  fields.read.map fun
    (url, minConnections, maxConnections, acquireTimeout, idleTimeout, runMigrations, ()) =>
      { url, minConnections, maxConnections, acquireTimeout, idleTimeout, runMigrations }

end DatabaseSettings

namespace AuthSettings

/-- The fields of the settings of identity. -/
def fields : Fields [String, String, String] :=
  let d : AuthSettings := {}
  .cons (.required "jwt_secret" readString) <|
  .cons (.withDefault "issuer" readString d.issuer) <|
  .cons (.withDefault "audience" readString d.audience) .nil

/-- Reads the settings of identity. -/
def readJson : Reader AuthSettings :=
  fields.read.map fun (secret, issuer, audience, ()) => { secret, issuer, audience }

end AuthSettings

namespace MeetingSettings

/-- The fields of the settings of meetings. -/
def fields : Fields [String, String, String, UInt64] :=
  let d : MeetingSettings := {}
  .cons (.required "api_key" readString) <|
  .cons (.required "api_secret" readString) <|
  .cons (.withDefault "room_prefix" readString d.roomPrefix) <|
  .cons (.withDefault "token_ttl_secs" readUInt64 d.tokenLifetime) .nil

/-- Reads the settings of meetings. -/
def readJson : Reader MeetingSettings :=
  fields.read.map fun (apiKey, apiSecret, roomPrefix, tokenLifetime, ()) =>
    { apiKey, apiSecret, roomPrefix, tokenLifetime }

end MeetingSettings

namespace Settings

/-- The sections. -/
def fields : Fields [ServerSettings, DatabaseSettings, AuthSettings, MeetingSettings] :=
  .cons (.withDefault "server" ServerSettings.readJson {}) <|
  .cons (.required "database" DatabaseSettings.readJson) <|
  .cons (.required "auth" AuthSettings.readJson) <|
  .cons (.required "meeting" MeetingSettings.readJson) .nil

/-- Reads all settings. -/
def readJson : Reader Settings :=
  fields.read.map fun (server, database, auth, meeting, ()) => { server, database, auth, meeting }

end Settings

end Tutoring
