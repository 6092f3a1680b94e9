import LinkShortener.Event
import LinkShortener.Retry.Context

/-!
# Races between calls and contexts

A call to a store takes time. It races the end of the caller's context: whichever comes first
decides, and a call that loses is abandoned. When both come at one moment, either may win, so a run
is determined only together with a list that settles these ties.
-/

namespace LinkShortener.Retry

/-- Why a run ends without a value. -/
inductive Stop where
  | error (error : StoreError)
  /-- A fault of the program itself, with what it says. -/
  | crash (text : String)
  deriving DecidableEq

/-- A call to a store that has the given state: how long it takes, whether the caller cancels its
context while it runs, how it ends, and the state when it has ended or is abandoned midway. -/
structure Call (σ α : Type) where
  duration : Nat
  cancels : Bool
  outcome : Except Stop α
  completed : σ
  abandoned : σ

/-- The longest time that a timer runs, in nanoseconds: thirty years of 365 days. -/
def longestTimer : Nat := 946080000000000000

/-- A call that only waits, for at most as long as a timer runs. -/
def Call.wait {σ : Type} (duration : Nat) (state : σ) : Call σ Unit where
  duration := min duration longestTimer
  cancels := false
  outcome := .ok ()
  completed := state
  abandoned := state

/-- Everything that a run depends on and changes. -/
structure Situation (σ : Type) where
  store : σ
  /-- Nanoseconds from the start of the run. -/
  now : Nat
  context : Context
  /-- How ties are settled: true where the call wins, or where cancelling is the reason. -/
  ties : List Bool
  log : List Event

/-- A computation on a situation that can stop. -/
abbrev Run (σ α : Type) := ExceptT Stop (StateM (Situation σ)) α

namespace Run

variable {σ α : Type}

def note (event : Event) : Run σ Unit :=
  modify fun situation => { situation with log := situation.log ++ [event] }

/-- Settles a tie. Ties beyond the list go to the call. -/
def settle : Run σ Bool := do
  let situation ← get
  match situation.ties with
  | [] => return true
  | tie :: rest =>
    set { situation with ties := rest }
    return tie

/-- Runs a call to its end, whatever happens to the context. -/
def perform (call : Nat → σ → Call σ α) : Run σ α := do
  let situation ← get
  let call := call situation.now situation.store
  let finish := situation.now + call.duration
  set { situation with
    store := call.completed
    now := finish
    context := if call.cancels then situation.context.cancelBy finish else situation.context }
  match call.outcome with
  | .ok value => return value
  | .error stop => throw stop

/-- The context ended first. -/
def interrupt (time : Nat) (store : σ) : Run σ α := do
  modify fun situation => { situation with store, now := time }
  let situation ← get
  let bothReady := situation.context.isCancelledAt time && situation.context.isPastDeadlineAt time
  let tie ← if bothReady then settle else pure true
  throw (.error (.ofInterruption (situation.context.reason time tie)))

/-- Races a call against the end of the context. A call that is not looked at leaves no trace. -/
def race (call : Nat → σ → Call σ α) : Run σ α := do
  let situation ← get
  let started := call situation.now situation.store
  let finish := situation.now + started.duration
  match situation.context.endsAt with
  | none => perform call
  | some moment =>
    if moment ≤ situation.now then
      if ← settle then
        if started.duration = 0 then perform call else interrupt situation.now started.abandoned
      else interrupt situation.now situation.store
    else if finish < moment then perform call
    else if moment < finish then interrupt moment started.abandoned
    else if ← settle then perform call
    else interrupt moment started.abandoned

/-- Stops if the context is over. -/
def checkContext : Run σ Unit := do
  let situation ← get
  match situation.context.check situation.now with
  | some interruption => throw (.error (.ofInterruption interruption))
  | none => return ()

/-- Hands an error to the caller as a value. A crash goes on. -/
def caught (run : Run σ α) : Run σ (Except StoreError α) := ExceptT.mk do
  match ← run.run with
  | .ok value => return .ok (.ok value)
  | .error (.error error) => return .ok (.error error)
  | .error (.crash text) => return .error (.crash text)

end Run

end LinkShortener.Retry
