import LinkShortener.Store.Error
import LinkShortener.Json.Basic
import LinkShortener.Time.Duration
import LinkShortener.Uuid

/-!
# Events

Everything that the service writes to its log. An event keeps the values it is about; its record is
the line that an operator reads.
-/

namespace LinkShortener

/-- Something that happened and is worth a line in the log. -/
inductive Event where
  | retrying (attempt maxAttempts : Nat) (delay : Duration) (error : StoreError)
  | rollbackFailed (error : StoreError)
  | slugConstraintHit (constraint : Option String)
  | constraintViolated (constraint : Option String)
  | storeFailed (error : StoreError)
  | noFreeSlug (attempts : Nat)
  | shortUrlCreated (id : Uuid) (slug : String)
  | shortUrlReplayed (id : Uuid) (slug : String) (key : Uuid)
  | userHandled (id : Uuid) (replay : Bool)
  | hashingTaskFailed
  | cacheHit (slug : String)
  | cacheMiss (slug : String)
  | cacheLookup (slug : String) (hit : Bool)
  | cacheReadFailed (slug error : String)
  | cacheWriteFailed (slug error : String)
  | databaseUnhealthy (error : String)
  | handlerCrashed (detail : String)
  | settingsLine (text : String)
  | databaseConnected
  | migrationsApplied
  | cacheDisabled
  | cacheUnavailable (error : String)
  | cacheConnected (ttlSeconds : Nat)
  | cacheEnabled

/-- How much an event matters. -/
inductive Severity where
  | debug
  | info
  | warning
  | error

def Severity.name : Severity → String
  | .debug => "DEBUG"
  | .info => "INFO"
  | .warning => "WARN"
  | .error => "ERROR"

structure LogRecord where
  severity : Severity
  message : String
  fields : List (String × Json)

namespace Event

/-- The line that an event is written as. -/
def record : Event → LogRecord
  | .retrying attempt maxAttempts delay error =>
    ⟨.warning, "retryable error detected, trying again",
      [("attempt", .ofNat attempt), ("max_attempts", .ofNat maxAttempts),
        ("delay_ms", .ofNat delay.milliseconds), ("error", .string error.message)]⟩
  | .rollbackFailed error =>
    ⟨.warning, "transaction rollback failed", [("error", .string error.message)]⟩
  | .slugConstraintHit constraint =>
    ⟨.warning, "short url insert hit a unique constraint",
      [("constraint", .string (Text.Quoted.ofOption constraint))]⟩
  | .constraintViolated constraint =>
    ⟨.warning, "unique constraint violation",
      [("constraint", .string (Text.Quoted.ofOption constraint))]⟩
  | .storeFailed error =>
    ⟨.error, "database operation failed",
      [("kind", .string error.kind.describe), ("retryable", .bool error.retryable),
        ("error", .string error.message)]⟩
  | .noFreeSlug attempts => ⟨.warning, "no free slug found", [("attempts", .ofNat attempts)]⟩
  | .shortUrlCreated id slug =>
    ⟨.info, "short url created", [("id", .string id.toText), ("slug", .string slug)]⟩
  | .shortUrlReplayed id slug key =>
    ⟨.info, "idempotent replay",
      [("id", .string id.toText), ("slug", .string slug), ("idempotency_key", .string key.toText)]⟩
  | .userHandled id replay =>
    ⟨.info, "user registration handled", [("id", .string id.toText), ("replay", .bool replay)]⟩
  | .hashingTaskFailed => ⟨.error, "password hashing task failed", []⟩
  | .cacheHit slug => ⟨.debug, "cache hit", [("slug", .string slug)]⟩
  | .cacheMiss slug => ⟨.debug, "cache miss", [("slug", .string slug)]⟩
  | .cacheLookup slug hit => ⟨.debug, "cache lookup", [("slug", .string slug), ("hit", .bool hit)]⟩
  | .cacheReadFailed slug error =>
    ⟨.warning, "Redis GET failed", [("slug", .string slug), ("error", .string error)]⟩
  | .cacheWriteFailed slug error =>
    ⟨.warning, "Redis SET failed", [("slug", .string slug), ("error", .string error)]⟩
  | .databaseUnhealthy error =>
    ⟨.warning, "database health check failed", [("error", .string error)]⟩
  | .handlerCrashed detail =>
    ⟨.error, "recovered from handler panic", [("panic", .string detail)]⟩
  | .settingsLine text => ⟨.info, text, []⟩
  | .databaseConnected => ⟨.info, "Connected to database", []⟩
  | .migrationsApplied => ⟨.info, "Migrations applied", []⟩
  | .cacheDisabled => ⟨.info, "Cache disabled (NullCache)", []⟩
  | .cacheUnavailable error =>
    ⟨.warning, "Failed to connect to Redis: " ++ error ++ ". Using NullCache.", []⟩
  | .cacheConnected ttlSeconds =>
    ⟨.info, "Connected to Redis", [("ttl_seconds", .ofNat ttlSeconds)]⟩
  | .cacheEnabled => ⟨.info, "Cache enabled (Redis)", []⟩

end Event

end LinkShortener
