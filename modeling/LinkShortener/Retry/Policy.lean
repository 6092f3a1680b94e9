import LinkShortener.Time.Duration

/-!
# Retry policies

How often a unit of work is attempted and how long to wait in between. The wait doubles with every
attempt, and a random part of less than a quarter is added so that clients do not retry in step.
-/

namespace LinkShortener.Retry

/-- A source of the random part of a wait. -/
abbrev Jitter := Duration → Duration

/-- A budget of attempts and the schedule of waits. -/
structure Policy where
  maxAttempts : Nat
  initialDelay : Duration
  jitter : Jitter
  atLeastOne : 1 ≤ maxAttempts

namespace Policy

/-- A policy; there is always one attempt. -/
def ofAttempts (attempts : Nat) (initialDelay : Duration) (jitter : Jitter) : Policy where
  maxAttempts := max attempts 1
  initialDelay := initialDelay
  jitter := jitter
  atLeastOne := Nat.le_max_right attempts 1

/-- The power of two by which the wait after an attempt exceeds the first wait, in 32 bits. -/
def growth (attempt : Nat) : Nat := min (Nat.pow 2 (min attempt 32)) 4294967295

/-- The wait after an attempt without its random part. Attempts are numbered from zero. -/
def baseDelay (policy : Policy) (attempt : Nat) : Duration :=
  policy.initialDelay.scaled (growth attempt)

/-- The wait after an attempt. A random part of a quarter or more is not used. There is no wait
where the sum would be longer than the longest duration. -/
def backoff? (policy : Policy) (attempt : Nat) : Option Duration :=
  let delay := policy.baseDelay attempt
  let sample := policy.jitter delay
  let addition := if sample.nanoseconds < delay.quarter.nanoseconds then sample else Duration.zero
  delay.sum? addition

/-- Whether a wait is at least the one without a random part, and less than a quarter longer. -/
def isSpread (policy : Policy) (attempt : Nat) (wait : Duration) : Bool :=
  let delay := policy.baseDelay attempt
  delay.nanoseconds ≤ wait.nanoseconds &&
    wait.nanoseconds < delay.nanoseconds + delay.quarter.nanoseconds

end Policy

namespace Jitter

/-- No random part. -/
def none : Jitter := fun _ => Duration.zero

/-- The same random part whatever the wait. -/
def fixed (sample : Duration) : Jitter := fun _ => sample

/-- The bound of a random part: a quarter of the wait in nanoseconds, of which 64 bits are kept. -/
def bound (delay : Duration) : Nat := delay.quarter.nanoseconds % 18446744073709551616

/-- A random part below the bound, from a random number. -/
def random (number : Nat) : Jitter := fun delay =>
  if bound delay = 0 then Duration.zero else ⟨number % bound delay⟩

end Jitter

/-- The policy where none is set: three attempts, and 150 milliseconds before the second. -/
def Policy.standard (jitter : Jitter) : Policy :=
  Policy.ofAttempts 3 (Duration.ofMilliseconds 150) jitter

/-- What is said when a wait would be longer than the longest duration. -/
def overflowText : String := "overflow when adding durations"

end LinkShortener.Retry
