import LinkShortener.Operator.Serving
import LinkShortener.Operator.Session

/-!
# The command line

Runs one command of the operator, or the service where the only word is `serve`, on an empty
database. Everything that is decided is decided by the definitions that are imported.
-/

namespace LinkShortener

def variableNames : List String :=
  ["DATABASE_URL", "DB_HOST", "DB_PORT", "DB_USER", "DB_PASSWORD", "DB_NAME", "DB_MAX_CONNECTIONS",
    "DB_CONNECT_TIMEOUT", "DB_IDLE_TIMEOUT", "DB_MAX_LIFETIME", "REDIS_URL", "REDIS_HOST",
    "REDIS_PORT", "REDIS_DB", "REDIS_PASSWORD", "CACHE_TTL_SECONDS", "LISTEN", "BASE_URL",
    "HTTPS_ENABLED", "SERVER_DOMAIN", "SERVER_PORT", "BEHIND_PROXY", "ALLOW_REGISTRATION",
    "REQUEST_TIMEOUT_SECONDS", "RUST_LOG", "LOG_FORMAT", "CLICOLOR_FORCE"]

def processEnvironment : IO Environment := do
  let bindings ← variableNames.filterMapM fun name => do
    return (← IO.getEnv name).map fun value => (name, Text.encodeUtf8 value)
  return ⟨bindings⟩

/-- What a command line leads to. An empty database has no keys, so its own clock serves as the
present. -/
def finish (environment : Environment) (words : List String) : Operator.Finished :=
  let database := Database.opened ⟨0, 0⟩
  if words = ["serve"] then Operator.serve environment database
  else (Operator.runWords environment database.clock words database).1

end LinkShortener

/-- Prints what the command line leads to, and ends with its code. -/
def main (words : List String) : IO UInt32 := do
  let finished := LinkShortener.finish (← LinkShortener.processEnvironment) words
  IO.print finished.output
  IO.eprint finished.errors
  return finished.code.toUInt32
