import LinkShortener.Operator.Command
import LinkShortener.Operator.Serving
import LinkShortener.Operator.Span

/-!
# The operator's tool

Runs one command on the store: it purges and shows idempotency keys, counts rows, and checks the
database. What was printed before an error stays printed.
-/

namespace LinkShortener.Operator

def versionLine : String := "admin 0.1.0\n"

/-- A command that prints to an output and may end with a chain of errors. -/
abbrev Session (α : Type) := ExceptT (List String) (StateM (List Span × Database)) α

namespace Session

def print (line : List Span) : Session Unit :=
  modify fun (output, database) => (output ++ line ++ [.plain "\n"], database)

/-- Runs a statement; an error of the database becomes the chain that `describe` makes of it. -/
def ask (statement : Statement) (describe : DatabaseError → List String) :
    Session statement.Answer := do
  let (output, database) ← get
  let (outcome, database) := database.queryAlone statement
  set (output, database)
  match outcome with
  | .ok answer => return answer
  | .error error => throw (describe error)

/-- An error as the store classifies it, behind a message. -/
def classified (message : String) (error : DatabaseError) : List String :=
  [message, error.classify.message]

end Session

open Session (print ask classified)

/-- Deletes the expired keys after showing how many there are. Live keys are never touched. Where
nobody can be asked, an unconfirmed purge fails. -/
def purge (isConfirmed : Bool) : Session Unit := do
  print [.bold .brightBlue "🧹 Purge expired idempotency keys"]
  print []
  let stats ← ask .stats (classified "Failed to read ledger statistics")
  print ["  Live:    ", .light .green (toString stats.live)]
  print ["  Expired: ", .light .yellow (toString stats.expired)]
  print []
  if stats.expired = 0 then
    print [.light .grey "  Nothing to purge"]
  else if !isConfirmed then
    throw ["IO error: not a terminal", "not a terminal"]
  else
    let removed ← ask .purge (classified "Failed to purge expired keys")
    print []
    print [.bold .green "✅ Removed", " ", .bold .white (toString removed)]
    print []

/-- Whether an entry is still in use. -/
def statusOf (present : Instant) (entry : LedgerEntry) : Span :=
  if entry.isExpiredAt present then .light .red "EXPIRED" else .light .green "LIVE"

/-- Shows the entry of a key; `present` decides whether it is live. -/
def showKey (present : Instant) (key : Uuid) : Session Unit := do
  match ← ask (.findEntry key) (classified "Database error") with
  | none => throw ["Idempotency key not found"]
  | some (entry : LedgerEntry) =>
    print [.bold .brightBlue "🔑 Idempotency key"]
    print []
    print ["  Key:          ", .light .cyan entry.token.toText]
    print ["  Reference:    ", .light .white entry.referenceId.toText]
    print ["  Request hash: ", .light .grey entry.requestHash]
    print ["  Created:      ", .light .grey entry.createdAt.toPlainText]
    print ["  Expires:      ", .light .grey entry.expiresAt.toPlainText]
    print ["  Status:       ", statusOf present entry]
    print []

/-- Counts short URLs, users, and live and expired keys. -/
def statistics : Session Unit := do
  print [.bold .brightBlue "📊 Statistics"]
  print []
  let shortUrls ← ask .countShortUrls StartupError.chainOf
  let users ← ask .countUsers StartupError.chainOf
  let stats ← ask .stats fun error => [error.classify.message]
  print ["  Short URLs:        ", .bold .brightGreen (toString (shortUrls : Nat))]
  print ["  Users:             ", .bold .brightGreen (toString (users : Nat))]
  print ["  Live keys:         ", .bold .brightGreen (toString stats.live)]
  print ["  Expired keys:      ", .bold .yellow (toString stats.expired)]
  print []

def checkDatabase : Session Unit := do
  print [.light .brightBlue "🔍 Checking database connection..."]
  ask .ping StartupError.chainOf
  print [.bold .green "✅ Database connection OK"]

/-- Shows the version of the database and how many migrations it has seen. -/
def databaseInfo : Session Unit := do
  print [.bold .brightBlue "ℹ️  Database Information"]
  print []
  let version ← ask .version StartupError.chainOf
  let migrations ← ask .countMigrations StartupError.chainOf
  print ["  PostgreSQL: ", .light .white version]
  print ["  Migrations: ", .light .white (toString (migrations : Nat))]
  print []

/-- What a command does once it is connected. -/
def Command.session (present : Instant) : Command → Session Unit
  | .purge isConfirmed => Operator.purge isConfirmed
  | .showKey key => Operator.showKey present key
  | .statistics => Operator.statistics
  | .checkDatabase => Operator.checkDatabase
  | .databaseInfo => Operator.databaseInfo

/-- Whether an environment asks for colours: nothing shows them but a variable that forces them. -/
def wantsColour (environment : Environment) : Bool :=
  ((environment.text? "CLICOLOR_FORCE").map (· != "0")).getD false

def runCommand (environment : Environment) (present : Instant) (command : Command)
    (database : Database) : Finished × Database :=
  match Settings.ofEnvironment environment with
  | .error error => (failed "" (error.message :: error.causes), database)
  | .ok settings =>
    match Startup.connectDatabase settings { database with isClosed := false } with
    | (.error error, database) => (notStarted error, database)
    | (.ok (), database) =>
      let (result, spans, database) := ((command.session present).run.run ([], database))
      let output := rendered (wantsColour environment) spans
      match result with
      | .ok () => (succeeded output, database)
      | .error chain => (failed output chain, database)

/-- Runs a command line. The state of the connection is left as it was. -/
def runWords (environment : Environment) (present : Instant) (words : List String)
    (database : Database) : Finished × Database :=
  match Invocation.ofWords words with
  | .version => (succeeded versionLine, database)
  | .help topic => (succeeded topic.helpPage, database)
  | .misused => (⟨2, "", Topic.tool.helpPage⟩, database)
  | .command command =>
    let (finished, after) := runCommand environment present command database
    (finished, { after with isConnected := database.isConnected, isClosed := database.isClosed })

end LinkShortener.Operator
