import LinkShortener.Json.Basic
import LinkShortener.Retry.Executor

/-!
# Scripted stores

A store that does what a script says: each attempt lists how long its phases take and how they end.
It keeps a trace of the phases and the writes of the transactions that were committed.
-/

namespace LinkShortener.Retry

/-- What one phase of an attempt does, after its delay. -/
structure Phase where
  delay : Nat
  cancels : Bool
  outcome : Except Stop Json

/-- A phase that succeeds at once. -/
def Phase.plain : Phase := ⟨0, false, .ok .null⟩

/-- The phases of one attempt, and what its work writes. -/
structure ScriptedAttempt where
  opening : Phase
  work : Phase
  committing : Phase
  rollingBack : Phase
  writes : List Json

/-- An attempt that succeeds at once and writes nothing. -/
def ScriptedAttempt.plain : ScriptedAttempt := ⟨.plain, .plain, .plain, .plain, []⟩

structure ScriptedStore where
  script : List ScriptedAttempt
  current : ScriptedAttempt
  pending : List Json
  committed : List Json
  trace : List (Nat × String)

namespace ScriptedStore

def ofScript (script : List ScriptedAttempt) : ScriptedStore where
  script := script
  current := .plain
  pending := []
  committed := []
  trace := []

/-- Notes the start of a phase. -/
def traced (store : ScriptedStore) (now : Nat) (phase : String) : ScriptedStore :=
  { store with trace := store.trace ++ [(now, phase)] }

/-- The call that a phase makes, with the state after its start and after its success. -/
def call {α : Type} (phase : Phase) (convert : Json → α) (started finished : ScriptedStore) :
    Call ScriptedStore α where
  duration := min phase.delay longestTimer
  cancels := phase.cancels
  outcome := phase.outcome.map convert
  completed := match phase.outcome with
    | .ok _ => finished
    | .error _ => started
  abandoned := started

/-- Opens a transaction with the next attempt of the script. Past its end every phase succeeds. -/
def opening (now : Nat) (store : ScriptedStore) : Call ScriptedStore Unit :=
  let current := store.script.headD .plain
  let started :=
    { store.traced now "begin" with script := store.script.tail, current, pending := [] }
  call current.opening (fun _ => ()) started started

/-- The work adds its writes to the transaction before it takes its time. -/
def work (now : Nat) (store : ScriptedStore) : Call ScriptedStore Json :=
  let started :=
    { store.traced now "work" with pending := store.pending ++ store.current.writes }
  call store.current.work id started started

def committing (now : Nat) (store : ScriptedStore) : Call ScriptedStore Unit :=
  let started := store.traced now "commit"
  call store.current.committing (fun _ => ()) started
    { started with committed := started.committed ++ started.pending, pending := [] }

def rollingBack (now : Nat) (store : ScriptedStore) : Call ScriptedStore Unit :=
  let started := store.traced now "rollback"
  call store.current.rollingBack (fun _ => ()) started { started with pending := [] }

def transactions : Transactions ScriptedStore := ⟨opening, committing, rollingBack⟩

/-- Runs the scripted work with retries; the result and the situation at the end. -/
def run (script : List ScriptedAttempt) (policy : Policy) (context : Context) :
    Except Stop Json × Situation ScriptedStore :=
  let start : Situation ScriptedStore :=
    { store := ofScript script, now := 0, context, ties := [], log := [] }
  (execute transactions policy (Run.race work)).run.run start

end ScriptedStore

end LinkShortener.Retry
