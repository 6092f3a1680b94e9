import LinkShortener.Interruption
import LinkShortener.Text.Quoted

/-!
# Errors of the store

What went wrong, independent of the database that reported it, and whether another attempt may
succeed. Retrying looks at nothing but that flag.
-/

namespace LinkShortener

inductive StoreError.Kind where
  | transient
  | uniqueViolation (constraint : Option String)
  | idempotencyMismatch
  | notFound
  | cancelled
  | deadlineExceeded
  | fatal
  deriving DecidableEq

structure StoreError where
  kind : StoreError.Kind
  retryable : Bool
  message : String
  deriving DecidableEq

namespace StoreError

/-- The name of a kind in logs. -/
def Kind.describe : Kind → String
  | .transient => "Transient"
  | .uniqueViolation constraint =>
    "UniqueViolation \x7b constraint: " ++ Text.Quoted.ofOption constraint ++ " \x7d"
  | .idempotencyMismatch => "IdempotencyMismatch"
  | .notFound => "NotFound"
  | .cancelled => "Cancelled"
  | .deadlineExceeded => "DeadlineExceeded"
  | .fatal => "Fatal"

/-- Another attempt may succeed. -/
def transient (message : String) : StoreError := ⟨.transient, true, message⟩

/-- No attempt will succeed. -/
def fatal (message : String) : StoreError := ⟨.fatal, false, message⟩

/-- A row with the same value exists. -/
def uniqueViolation (constraint : Option String) (message : String) : StoreError :=
  ⟨.uniqueViolation constraint, false, message⟩

def idempotencyMismatch : StoreError :=
  ⟨.idempotencyMismatch, false, "idempotency key already used for a different request"⟩

def cancelled : StoreError := ⟨.cancelled, false, "operation cancelled"⟩

/-- The caller's time is over. It counts as retryable because the wait before the next attempt ends
at once with the same interruption. -/
def deadlineExceeded : StoreError := ⟨.deadlineExceeded, true, "deadline exceeded"⟩

/-- Every attempt failed although each error was retryable. -/
def retriesExhausted (attempts : Nat) (last : StoreError) : StoreError :=
  ⟨.deadlineExceeded, false,
    "deadline exceeded after " ++ toString attempts ++ " attempts: " ++ last.message⟩

/-- The error that an interruption of the caller turns into. -/
def ofInterruption : Interruption → StoreError
  | .cancelled => cancelled
  | .deadlinePassed => deadlineExceeded

end StoreError

end LinkShortener
