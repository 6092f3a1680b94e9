import LinkShortener.Retry.Policy
import LinkShortener.Retry.Race

/-!
# Retried transactions

A unit of work runs in a transaction of its own. When it fails in a way that another attempt may
mend, it is run again in a fresh transaction after a wait, until the budget of attempts is used up.
Everything but a rollback races the caller's context.
-/

namespace LinkShortener.Retry

/-- The calls that open and close the transactions of a store. -/
structure Transactions (σ : Type) where
  opening : Nat → σ → Call σ Unit
  committing : Nat → σ → Call σ Unit
  rollingBack : Nat → σ → Call σ Unit

variable {σ α : Type}

/-- Undoes the open transaction. An error of that is logged and changes nothing else. -/
def undo (transactions : Transactions σ) : Run σ Unit := do
  match ← Run.caught (Run.perform transactions.rollingBack) with
  | .ok () => return ()
  | .error error => Run.note (.rollbackFailed error)

/-- One attempt: the work in a transaction of its own, which is committed if the work succeeds and
undone if not. A transaction whose commit failed is closed already. -/
def attempt (transactions : Transactions σ) (work : Run σ α) : Run σ α := do
  Run.checkContext
  Run.race transactions.opening
  match ← Run.caught work with
  | .ok value =>
    Run.race transactions.committing
    return value
  | .error error =>
    undo transactions
    throw (.error error)

/-- Waits after a failed attempt, unless the context ends before. -/
def backOff (policy : Policy) (number : Nat) (error : StoreError) : Run σ Unit := do
  match policy.backoff? number with
  | none => throw (.crash overflowText)
  | some delay =>
    Run.note (.retrying (number + 1) policy.maxAttempts delay error)
    Run.race fun _ store => Call.wait delay.nanoseconds store

/-- Runs the attempt with the given number, and then as many more as remain. -/
def attemptsFrom (transactions : Transactions σ) (policy : Policy) (work : Run σ α) (number : Nat) :
    Nat → Run σ α
  | 0 => throw (.error .deadlineExceeded)
  | remaining + 1 => do
    match ← Run.caught (attempt transactions work) with
    | .ok value => return value
    | .error error =>
      if !error.retryable then
        throw (.error error)
      else if remaining = 0 then
        throw (.error (.retriesExhausted policy.maxAttempts error))
      else
        backOff policy number error
        attemptsFrom transactions policy work (number + 1) remaining

/-- Runs a unit of work with retries. -/
def execute (transactions : Transactions σ) (policy : Policy) (work : Run σ α) : Run σ α :=
  attemptsFrom transactions policy work 0 policy.maxAttempts

end LinkShortener.Retry
