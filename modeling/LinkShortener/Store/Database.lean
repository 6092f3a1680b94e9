import LinkShortener.Retry.Executor
import LinkShortener.Store.Work

/-!
# The database

Tables behind a connection, with a clock. A transaction works on a copy of the tables, which takes
their place when it is committed. Faults make statements fail: refused by the server, cut off with
the connection, or done and yet reported as failed. Between two transactions time may pass and other
clients may change the tables.
-/

namespace LinkShortener

/-- How a statement fails. -/
inductive Failure where
  /-- The server refuses it. -/
  | refused (report : ServerReport)
  /-- The connection is closed instead. -/
  | dropped
  /-- The server does it and reports a failure all the same. -/
  | unacknowledged (report : ServerReport)

/-- A statement that will fail: how, how many times, and after how many executions. -/
structure Fault where
  statement : String
  failure : Failure
  times : Nat
  skip : Nat

def Failure.mark : Failure → String
  | .refused report => report.sqlstate.getD ""
  | .dropped => "drop"
  | .unacknowledged report => report.sqlstate.getD ""

/-- The failure of the next execution of a statement, and the faults that are left. The first fault
for the statement that has not struck as often as it will decides. -/
def Fault.next (name : String) : List Fault → Option Failure × List Fault
  | [] => (none, [])
  | fault :: rest =>
    if fault.statement = name ∧ 0 < fault.times then
      if 0 < fault.skip then (none, { fault with skip := fault.skip - 1 } :: rest)
      else (some fault.failure, { fault with times := fault.times - 1 } :: rest)
    else
      let (failure, rest) := Fault.next name rest
      (failure, fault :: rest)

/-- What happens to the store while a client does not use it: time passes, and other clients change
the tables. -/
structure Interlude where
  micros : Nat
  change : Tables → Tables

/-- A transaction that took effect: when, on which tables, and the tables after it. -/
structure Commit where
  now : Instant
  before : Tables
  after : Tables

/-- The tables behind a connection. -/
structure Database where
  tables : Tables
  clock : Instant
  /-- The tables as the open transaction sees them. -/
  working : Option Tables
  isConnected : Bool
  isClosed : Bool
  faults : List Fault
  /-- What happens before each of the next transactions. Past the end of the list nothing does. -/
  interludes : List Interlude
  /-- The transactions that took effect. -/
  commits : List Commit
  /-- The statements that reached the server, failed ones with a mark. -/
  trace : List String
  /-- Nanoseconds that a statement takes at a moment. -/
  latency : Instant → String → Nat

namespace Database

/-- Empty tables behind an open connection, with a clock in microseconds. -/
def opened (clock : Instant) : Database where
  tables := .empty
  clock := clock.inMicros
  working := none
  isConnected := true
  isClosed := false
  faults := []
  interludes := []
  commits := []
  trace := []
  latency := fun _ _ => 0

/-- Notes that a statement reached the server. -/
def traced (database : Database) (entry : String) : Database :=
  { database with trace := database.trace ++ [entry] }

/-- Looks for a fault of a statement, and notes the statement in the trace. -/
def strike (database : Database) (name : String) : Option Failure × Database :=
  let (failure, faults) := Fault.next name database.faults
  let database := { database with faults }
  match failure with
  | none => (none, database.traced name)
  | some failure => (some failure, database.traced (name ++ "!" ++ failure.mark))

/-- Whether a server that turns a connection away may accept it a little later, because it has too
many connections or is starting up. -/
def isBusy (report : ServerReport) : Bool :=
  report.sqlstate == some "53300" || report.sqlstate == some "57P03"

/-- How often a busy server is asked for a connection from a moment on, before the time allowed for
it is over. After each attempt the wait doubles, up to a fifth of the time allowed; all times are in
milliseconds. -/
def attemptsFrom (patience elapsed wait : Nat) : Nat :=
  if elapsed < patience ∧ 0 < wait then
    1 + attemptsFrom patience (elapsed + wait) (min (wait * 2) (patience / 5))
  else 0
termination_by patience - elapsed

/-- How often a busy server is asked for a connection within the seconds allowed for it. -/
def connectAttempts (seconds : Nat) : Nat := attemptsFrom (seconds * 1000) 0 10

/-- The seconds in which a lost connection has to be replaced. -/
def reconnectTimeout : Nat := 30

/-- Asks the server for a connection so many times at most. -/
def connectWithin : Nat → Database → Except DatabaseError Unit × Database
  | 0, database => (.error .poolTimedOut, database)
  | attempts + 1, database =>
    let (failure, faults) := Fault.next "connect" database.faults
    let database := { database with faults }
    let refused (report : ServerReport) : Except DatabaseError Unit × Database :=
      let database := database.traced ("connect!" ++ (Failure.refused report).mark)
      if isBusy report then connectWithin attempts database
      else (.error (.reported report), database)
    match failure with
    | none => (.ok (), { database with isConnected := true })
    | some .dropped => (.error .connectionLost, database.traced "connect!drop")
    | some (.refused report) => refused report
    | some (.unacknowledged report) => refused report

/-- Connects again if the connection was lost. A closed pool gives no connection. -/
def connect (database : Database) : Except DatabaseError Unit × Database :=
  if database.isClosed then (.error .poolClosed, database)
  else if database.isConnected then (.ok (), database)
  else database.connectWithin (connectAttempts reconnectTimeout)

/-- The connection is gone, and with it the open transaction. -/
def lost (database : Database) : Database :=
  { database with isConnected := false, working := none }

/-- The mark of a statement that the server itself refuses. -/
def refusalMark : DatabaseError → String
  | .reported report => report.sqlstate.getD ""
  | _ => ""

/-- Runs a statement on the given tables and puts the tables after it where `keep` says. -/
def serve (statement : Statement) (tables : Tables) (keep : Database → Tables → Database)
    (database : Database) : Except DatabaseError statement.Answer × Database :=
  let (failure, struck) := database.strike statement.name
  match failure with
  | some (.refused report) => (.error (.reported report), struck)
  | some .dropped => (.error .connectionLost, struck.lost)
  | some (.unacknowledged report) =>
    match statement.run tables database.clock with
    | .ok (_, tables) => (.error (.reported report), keep struck tables)
    | .error _ => (.error (.reported report), struck)
  | none =>
    match statement.run tables database.clock with
    | .ok (answer, tables) => (.ok answer, keep struck tables)
    | .error error =>
      (.error error,
        { struck with
          trace := database.trace ++ [statement.name ++ "!" ++ refusalMark error] })

/-- Runs a statement in the open transaction. -/
def query (statement : Statement) (database : Database) :
    Except DatabaseError statement.Answer × Database :=
  if database.isConnected then
    serve statement (database.working.getD database.tables)
      (fun database tables => { database with working := some tables }) database
  else (.error .connectionLost, database)

/-- Runs a statement outside of any transaction. -/
def queryAlone (statement : Statement) (database : Database) :
    Except DatabaseError statement.Answer × Database :=
  match database.connect with
  | (.error error, database) => (.error error, database)
  | (.ok (), database) =>
    serve statement database.tables (fun database tables => { database with tables }) database

/-- The database after the next interlude. -/
def resumed (database : Database) : Database :=
  match database.interludes with
  | [] => database
  | interlude :: rest =>
    { database with
      interludes := rest
      clock := database.clock.laterByMicros interlude.micros
      tables := interlude.change database.tables }

/-- Opens a transaction. -/
def begin (database : Database) : Except DatabaseError Unit × Database :=
  match database.resumed.connect with
  | (.error error, database) => (.error error, database)
  | (.ok (), database) =>
    match database.strike "begin" with
    | (none, database) => (.ok (), { database with working := some database.tables })
    | (some .dropped, database) => (.error .connectionLost, database.lost)
    | (some (.refused report), database) => (.error (.reported report), database)
    | (some (.unacknowledged report), database) => (.error (.reported report), database)

/-- The open transaction takes effect. -/
def committed (database : Database) : Database :=
  let tables := database.working.getD database.tables
  { database with
    tables
    working := none
    commits := database.commits ++ [⟨database.clock, database.tables, tables⟩] }

/-- The open transaction is undone. -/
def undone (database : Database) : Database := { database with working := none }

/-- Commits the open transaction. When that fails the transaction is closed already. -/
def commit (database : Database) : Except DatabaseError Unit × Database :=
  if !database.isConnected then (.error .connectionLost, database.undone)
  else match database.strike "commit" with
    | (none, database) => (.ok (), database.committed)
    | (some .dropped, database) => (.error .connectionLost, database.lost)
    | (some (.refused report), database) => (.error (.reported report), database.undone)
    | (some (.unacknowledged report), database) => (.error (.reported report), database.committed)

/-- Undoes the open transaction, which is undone even when that fails. -/
def rollback (database : Database) : Except DatabaseError Unit × Database :=
  if !database.isConnected then (.error .connectionLost, database.undone)
  else match database.strike "rollback" with
    | (none, database) => (.ok (), database.undone)
    | (some .dropped, database) => (.error .connectionLost, database.lost)
    | (some (.refused report), database) => (.error (.reported report), database.undone)
    | (some (.unacknowledged report), database) => (.error (.reported report), database.undone)

/-- An operation as a call that takes its time. -/
def call {α : Type} (name : String) (abandon : Database → Database)
    (operation : Database → Except DatabaseError α × Database) (database : Database) :
    Retry.Call Database α :=
  let (outcome, completed) := operation database
  { duration := database.latency database.clock name
    cancels := false
    outcome := outcome.mapError fun error => .error error.classify
    completed := completed
    abandoned := abandon database }

/-- What an abandoned commit leaves: no effect, unless the server does it unheard. -/
def abandonCommit (database : Database) : Database :=
  match database.strike "commit" with
  | (some (.unacknowledged _), database) => database.committed
  | (_, database) => database.undone

def transactions : Retry.Transactions Database where
  opening _ := call "begin" (fun database => (database.traced "begin").undone) begin
  committing _ := call "commit" abandonCommit commit
  rollingBack _ := call "rollback" undone rollback

end Database

/-- Sends the statements of a unit of work one by one, each racing the caller's context. -/
def Work.send {α : Type} : Work α → Retry.Run Database α
  | .finished value => pure value
  | .failed error => throw (.error error)
  | .query statement next => do
    let answer ← Retry.Run.race fun _ =>
      Database.call statement.name (fun database => database.traced statement.name)
        (Database.query statement)
    (next answer).send

namespace Database

/-- Runs a unit of work in a transaction, with retries. -/
def transact {α : Type} (policy : Retry.Policy) (work : Work α) : Retry.Run Database α :=
  Retry.execute transactions policy work.send

end Database

end LinkShortener
