import Gatehouse.Settings.Auth

/-!
# Settings of the whole program

The sections for the server, the database, the credential store, tokens and passwords, and logging.
Only the database address and the secrets have no default.
-/

namespace Gatehouse.Settings

/-- Settings of the server. -/
structure ServerSettings where
  host : String := "0.0.0.0"
  port : Nat := 8080
  /-- The seconds that open connections get at the end. -/
  shutdownGrace : Nat := 30
  deriving DecidableEq, Repr

/-- Settings of the database. -/
structure DatabaseSettings where
  url : String
  maxConnections : Nat := 20
  minConnections : Nat := 2
  /-- The seconds that connecting may take. -/
  connectTimeout : Nat := 5
  /-- The seconds after which an idle connection is closed. -/
  idleTimeout : Nat := 300
  /-- The milliseconds that a statement may take. -/
  statementTimeout : Nat := 3000
  deriving DecidableEq, Repr

/-- Settings of the credential store. -/
structure StoreSettings where
  provider : String := "redis"
  /-- The milliseconds that a call may take. -/
  operationTimeout : Nat := 2000
  /-- The address of the Redis server. -/
  redisUrl : String := "redis://127.0.0.1:6379"
  /-- What every key on the Redis server begins with. -/
  keyStart : String := "usersvc:"
  /-- The most entries of the store in memory. -/
  maxCapacity : Nat := 100000
  deriving DecidableEq, Repr

/-- Settings of logging. -/
structure LoggingSettings where
  /-- The least level that is logged. -/
  level : String := "info"
  format : String := "json"
  deriving DecidableEq, Repr

/-- Settings of the whole program. -/
structure AppSettings where
  server : ServerSettings
  database : DatabaseSettings
  store : StoreSettings
  auth : AuthSettings
  logging : LoggingSettings
  deriving DecidableEq, Repr

section

variable {ρ : Type} (source : Source ρ)

/-- Reads the settings of the server. -/
def ServerSettings.read (v : ρ) : Option ServerSettings := do
  let fs ← source.fields? ["host", "port", "shutdown_grace_seconds"] v
  let dflt : ServerSettings := {}
  let host ← Source.withDefault fs "host" dflt.host source.text?
  let port ← Source.withDefault fs "port" dflt.port (source.natBelow? 65536)
  let grace ← Source.withDefault fs "shutdown_grace_seconds" dflt.shutdownGrace
    (source.natBelow? Value.bound64)
  return ⟨host, port, grace⟩

/-- Reads the settings of the database. -/
def DatabaseSettings.read (v : ρ) : Option DatabaseSettings := do
  let fs ← source.fields?
    ["url", "max_connections", "min_connections", "connect_timeout_seconds",
      "idle_timeout_seconds", "statement_timeout_ms"] v
  let url ← Source.required fs "url" source.text?
  let dflt : DatabaseSettings := { url }
  let count := source.natBelow? bound32
  let time := source.natBelow? Value.bound64
  let most ← Source.withDefault fs "max_connections" dflt.maxConnections count
  let fewest ← Source.withDefault fs "min_connections" dflt.minConnections count
  let connect ← Source.withDefault fs "connect_timeout_seconds" dflt.connectTimeout time
  let idle ← Source.withDefault fs "idle_timeout_seconds" dflt.idleTimeout time
  let statement ← Source.withDefault fs "statement_timeout_ms" dflt.statementTimeout time
  return ⟨url, most, fewest, connect, idle, statement⟩

/-- Reads the address and key start of the Redis server. -/
def StoreSettings.readRedis (v : ρ) : Option (String × String) := do
  let fs ← source.fields? ["url", "key_prefix"] v
  let dflt : StoreSettings := {}
  let url ← Source.withDefault fs "url" dflt.redisUrl source.text?
  let keyStart ← Source.withDefault fs "key_prefix" dflt.keyStart source.text?
  return (url, keyStart)

/-- Reads the capacity of the store in memory. -/
def StoreSettings.readMemory (v : ρ) : Option Nat := do
  let fs ← source.fields? ["max_capacity"] v
  let dflt : StoreSettings := {}
  Source.withDefault fs "max_capacity" dflt.maxCapacity (source.natBelow? Value.bound64)

/-- Reads the settings of the credential store. -/
def StoreSettings.read (v : ρ) : Option StoreSettings := do
  let fs ← source.fields? ["provider", "operation_timeout_ms", "redis", "memory"] v
  let dflt : StoreSettings := {}
  let provider ← Source.withDefault fs "provider" dflt.provider source.text?
  let timeout ← Source.withDefault fs "operation_timeout_ms" dflt.operationTimeout
    (source.natBelow? Value.bound64)
  let (url, keyStart) ← Source.withDefault fs "redis" (dflt.redisUrl, dflt.keyStart)
    (StoreSettings.readRedis source)
  let capacity ← Source.withDefault fs "memory" dflt.maxCapacity (StoreSettings.readMemory source)
  return ⟨provider, timeout, url, keyStart, capacity⟩

/-- Reads the settings of logging. -/
def LoggingSettings.read (v : ρ) : Option LoggingSettings := do
  let fs ← source.fields? ["level", "format"] v
  let dflt : LoggingSettings := {}
  let level ← Source.withDefault fs "level" dflt.level source.text?
  let format ← Source.withDefault fs "format" dflt.format source.text?
  return ⟨level, format⟩

/-- Reads the settings of the whole program. -/
def AppSettings.read (v : ρ) : Option AppSettings := do
  let fs ← source.fields? ["server", "database", "cache", "auth", "logging"] v
  let server ← Source.withDefault fs "server" {} (ServerSettings.read source)
  let database ← Source.required fs "database" (DatabaseSettings.read source)
  let store ← Source.withDefault fs "cache" {} (StoreSettings.read source)
  let auth ← Source.required fs "auth" (AuthSettings.read source)
  let logging ← Source.withDefault fs "logging" {} (LoggingSettings.read source)
  return ⟨server, database, store, auth, logging⟩

end

/-- The JSON form of the settings of the whole program. -/
def AppSettings.toJson (s : AppSettings) : Json :=
  .record [
    ("server", .record [("host", .str s.server.host), ("port", .nat s.server.port),
      ("shutdown_grace_seconds", .nat s.server.shutdownGrace)]),
    ("database", .record [("url", .str s.database.url),
      ("max_connections", .nat s.database.maxConnections),
      ("min_connections", .nat s.database.minConnections),
      ("connect_timeout_seconds", .nat s.database.connectTimeout),
      ("idle_timeout_seconds", .nat s.database.idleTimeout),
      ("statement_timeout_ms", .nat s.database.statementTimeout)]),
    ("cache", .record [("provider", .str s.store.provider),
      ("operation_timeout_ms", .nat s.store.operationTimeout),
      ("redis", .record [("url", .str s.store.redisUrl), ("key_prefix", .str s.store.keyStart)]),
      ("memory", .record [("max_capacity", .nat s.store.maxCapacity)])]),
    ("auth", s.auth.toJson),
    ("logging", .record [("level", .str s.logging.level), ("format", .str s.logging.format)])]

end Gatehouse.Settings
