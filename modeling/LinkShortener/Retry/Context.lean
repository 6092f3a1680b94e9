import LinkShortener.Interruption
import LinkShortener.Store.Error

/-!
# Contexts of requests

A request carries a context that tells when its caller stops waiting: at a deadline, or when the
caller cancels it. Times are nanoseconds from the start of the run.
-/

namespace LinkShortener.Retry

/-- When the caller of a request stops waiting. -/
structure Context where
  deadline : Option Nat
  cancelledAt : Option Nat
  deriving DecidableEq

namespace Context

/-- A context that never ends by itself. -/
def background : Context := ⟨none, none⟩

/-- A context that ends at the given time. -/
def withDeadline (deadline : Nat) : Context := ⟨some deadline, none⟩

/-- Cancels the context at the given time, unless it is cancelled before. -/
def cancelBy (context : Context) (time : Nat) : Context :=
  { context with
    cancelledAt := some (match context.cancelledAt with
      | some earlier => min earlier time
      | none => time) }

def isCancelledAt (context : Context) (now : Nat) : Bool :=
  context.cancelledAt.any (· ≤ now)

def isPastDeadlineAt (context : Context) (now : Nat) : Bool :=
  context.deadline.any (· ≤ now)

/-- Why the context is over, if it is. Cancelling counts before the deadline. -/
def check (context : Context) (now : Nat) : Option Interruption :=
  if context.isCancelledAt now then some .cancelled
  else if context.isPastDeadlineAt now then some .deadlinePassed
  else none

/-- The moment at which the context is over. -/
def endsAt (context : Context) : Option Nat :=
  match context.deadline, context.cancelledAt with
  | some deadline, some cancelled => some (min deadline cancelled)
  | some deadline, none => some deadline
  | none, cancelled => cancelled

/-- Why somebody who waits for the end of a context is woken. When the caller has cancelled and the
deadline has passed as well, either can be the reason, and the tie decides. -/
def reason (context : Context) (now : Nat) (tie : Bool) : Interruption :=
  if context.isCancelledAt now && (tie || !context.isPastDeadlineAt now) then .cancelled
  else .deadlinePassed

end Context

/-- Waiting for the end of a context for at most so long: why it ended, and the time then. -/
def Context.finishWithin (context : Context) (now patience : Nat) : Option Interruption × Nat :=
  match context.endsAt with
  | some moment =>
    let time := max now moment
    if time ≤ now + patience then (some (context.reason time true), time)
    else (none, now + patience)
  | none => (none, now + patience)

end LinkShortener.Retry
