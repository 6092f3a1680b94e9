import LinkShortener.Address.Socket
import LinkShortener.Cache.Basic
import LinkShortener.Settings.Basic
import LinkShortener.Store.ConnectionOptions
import LinkShortener.Store.Database

/-!
# Starting the service

The service connects to the database, brings the tables up to date, connects to the cache and then
listens. It starts without a cache that cannot be reached, and not at all without the rest.
-/

namespace LinkShortener

/-- Why the service does not start. -/
inductive StartupError where
  | database (error : DatabaseError)
  | migrations (error : DatabaseError)
  | listenAddress (text : String)
  /-- A fault of the program, with what it says. -/
  | crash (text : String)

namespace StartupError

def chainOf (error : DatabaseError) : List String :=
  error.describe :: error.causes

/-- The messages, outermost first. -/
def chain : StartupError → List String
  | .database error => "Failed to connect to database" :: chainOf error
  | .migrations error =>
    "Failed to run database migrations" ::
      ("while executing migrations: " ++ error.describe) :: chainOf error
  | .listenAddress text =>
    ["Invalid LISTEN address '" ++ text ++ "'", "invalid socket address syntax"]
  | .crash text => [text]

end StartupError

namespace Startup

/-- Why the settings of the connections rule out any connection, if they do. -/
def poolError? (settings : Settings) (options : ConnectionOptions) : Option StartupError :=
  if !(Duration.ofSeconds settings.connectTimeout).fitsClock then
    some (.crash Duration.clockOverflowText)
  else if settings.maxConnections = 0 then some (.crash "capacity must be non-zero")
  else if settings.connectTimeout = 0 then some (.database .poolTimedOut)
  else if options.encryption.isMandatory then
    some (.database (.encryption "server does not support TLS"))
  else none

def connectDatabase (settings : Settings) (database : Database) :
    Except StartupError Unit × Database :=
  match ConnectionOptions.ofText settings.databaseUrl with
  | .error error => (.error (.database error), database)
  | .ok options =>
    match poolError? settings options with
    | some error => (.error error, database)
    | none =>
      let attempts := Database.connectAttempts settings.connectTimeout
      let (outcome, database) := database.connectWithin attempts
      (outcome.mapError .database, database)

def connectCache (settings : Settings) (failing : List String) : Cache × List Event :=
  match settings.redisUrl with
  | none => (.ofBackend .disabled, [.cacheDisabled])
  | some url =>
    match Cache.connect url settings.cacheTtlSeconds failing with
    | .ok cache => (cache, [.cacheConnected settings.cacheTtlSeconds, .cacheEnabled])
    | .error error => (.ofBackend .disabled, [.cacheUnavailable error])

/-- How often the record of migrations is used: to find out what was done, and then twice for each
migration that is still to do. -/
def migrationSteps (isMigrated : Bool) : Nat :=
  3 + if isMigrated then 0 else 2 * Statement.migrationCount

/-- The first failure of a statement that is sent so many times. -/
def failureWithin? (name : String) : Nat → List Fault → Option DatabaseError
  | 0, _ => none
  | count + 1, faults =>
    match Fault.next name faults with
    | (none, faults) => failureWithin? name count faults
    | (some .dropped, _) => some .connectionLost
    | (some (.refused report), _) => some (.reported report)
    | (some (.unacknowledged report), _) => some (.reported report)

/-- Starts the service: the address that it listens on, or why it does not start, and the events.
The listed commands of the cache fail. -/
def run (settings : Settings) (database : Database) (isMigrated : Bool) (failing : List String) :
    Except StartupError SocketAddress × List Event :=
  match connectDatabase settings database with
  | (.error error, _) => (.error error, [])
  | (.ok (), database) =>
    match failureWithin? "migrate" (migrationSteps isMigrated) database.faults with
    | some error => (.error (.migrations error), [.databaseConnected])
    | none =>
      let (_, events) := connectCache settings failing
      let events := [.databaseConnected, .migrationsApplied] ++ events
      match SocketAddress.ofText? settings.listenAddress.toList with
      | some address => (.ok address, events)
      | none => (.error (.listenAddress settings.listenAddress), events)

end Startup

end LinkShortener
