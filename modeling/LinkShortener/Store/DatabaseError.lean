import LinkShortener.Store.Error

/-!
# Errors of the database

What a database or the connection to it reports, its wording, and the store error it amounts to.
-/

namespace LinkShortener

/-- The kinds of input and output errors. Those that call for a new connection have names of their
own; of any other only its words matter. -/
inductive TransportKind where
  | connectionRefused
  | connectionReset
  | connectionAborted
  | notConnected
  | brokenPipe
  | timedOut
  | other (words : String)
  deriving DecidableEq

namespace TransportKind

/-- Kinds after which a new connection may help. -/
def isRetryable : TransportKind → Bool
  | .other _ => false
  | _ => true

def words : TransportKind → String
  | .connectionRefused => "connection refused"
  | .connectionReset => "connection reset"
  | .connectionAborted => "connection aborted"
  | .notConnected => "not connected"
  | .brokenPipe => "broken pipe"
  | .timedOut => "timed out"
  | .other words => words

def named : List (String × TransportKind) :=
  [("connection_refused", .connectionRefused), ("connection_reset", .connectionReset),
    ("connection_aborted", .connectionAborted), ("not_connected", .notConnected),
    ("broken_pipe", .brokenPipe), ("timed_out", .timedOut),
    ("addr_in_use", .other "address in use"),
    ("addr_not_available", .other "address not available"),
    ("already_exists", .other "entity already exists"),
    ("host_unreachable", .other "host unreachable"),
    ("interrupted", .other "operation interrupted"),
    ("invalid_data", .other "invalid data"),
    ("invalid_input", .other "invalid input parameter"),
    ("network_down", .other "network down"),
    ("network_unreachable", .other "network unreachable"),
    ("not_found", .other "entity not found"),
    ("out_of_memory", .other "out of memory"),
    ("permission_denied", .other "permission denied"),
    ("unexpected_eof", .other "unexpected end of file"),
    ("unsupported", .other "unsupported"),
    ("would_block", .other "operation would block"),
    ("write_zero", .other "write zero")]

/-- The kind with a short name; a name that is not known is an error of no particular kind. -/
def ofName (name : String) : TransportKind :=
  (named.lookup name).getD (.other "other error")

end TransportKind

structure ServerReport where
  sqlstate : Option String
  message : String
  constraint : Option String
  isUniqueViolation : Bool
  deriving DecidableEq

inductive DatabaseError where
  | reported (report : ServerReport)
  | transport (kind : TransportKind) (message : String)
  | poolTimedOut
  | poolClosed
  | workerCrashed
  | rowNotFound
  | beginFailed
  | protocol (message : String)
  | configuration (message : String)
  | connectionOption (message : String)
  | encryption (message : String)
  | decode (message : String)
  | encode (message : String)
  | typeNotFound (name : String)
  | columnNotFound (name : String)
  | columnIndexOutOfBounds (index length : Nat)
  deriving DecidableEq

namespace DatabaseError

/-- Error codes of the server that are worth another attempt: serialization failures and deadlocks,
exhausted resources, lost connections, and servers that start or stop. -/
def retryableCodes : List String :=
  ["40001", "40P01", "53000", "53100", "53200", "53300", "08000", "08001", "08003", "08004",
    "08006", "57P01", "57P02", "57P03"]

/-- Whether an error code of the server is worth another attempt. -/
def isRetryableCode (code : String) : Bool := retryableCodes.contains code

def describe : DatabaseError → String
  | .reported report => "error returned from database: " ++ report.message
  | .transport _ message => "error communicating with database: " ++ message
  | .poolTimedOut => "pool timed out while waiting for an open connection"
  | .poolClosed => "attempted to acquire a connection on a closed pool"
  | .workerCrashed => "attempted to communicate with a crashed background worker"
  | .rowNotFound => "no rows returned by a query that expected to return at least one row"
  | .beginFailed => "got unexpected connection status after attempting to begin transaction"
  | .protocol message => "encountered unexpected or invalid data: " ++ message
  | .configuration message => "error with configuration: " ++ message
  | .connectionOption message =>
    "error with configuration: error with configuration: " ++ message
  | .encryption message =>
    "error occurred while attempting to establish a TLS connection: " ++ message
  | .decode message => "error occurred while decoding: " ++ message
  | .encode message => "error occurred while encoding a value: " ++ message
  | .typeNotFound name => "type named " ++ name ++ " not found"
  | .columnNotFound name => "no column found for name: " ++ name
  | .columnIndexOutOfBounds index length =>
    "column index out of bounds: the len is " ++ toString length ++ ", but the index is " ++
      toString index

/-- The texts of the causes that an error wraps, outermost first. -/
def causes : DatabaseError → List String
  | .reported report => [report.message]
  | .transport _ message => [message]
  | .configuration message => [message]
  | .connectionOption message => ["error with configuration: " ++ message, message]
  | .encryption message => [message]
  | .decode message => [message]
  | .encode message => [message]
  | _ => []

def classify : DatabaseError → StoreError
  | .reported report =>
    if report.isUniqueViolation then .uniqueViolation report.constraint report.message
    else match report.sqlstate with
      | some code =>
        if isRetryableCode code then
          .transient (report.message ++ " (SQLSTATE " ++ code ++ ")")
        else .fatal report.message
      | none => .fatal report.message
  | .transport kind message =>
    if kind.isRetryable then .transient message
    else .fatal (describe (.transport kind message))
  | .poolTimedOut => .transient (describe .poolTimedOut)
  | .workerCrashed => .transient (describe .workerCrashed)
  | .rowNotFound => ⟨.notFound, false, describe .rowNotFound⟩
  | error => .fatal error.describe

/-- What a statement meets when the server closed the connection. -/
def connectionLost : DatabaseError :=
  .transport (.other "unexpected end of file") "expected to read 5 bytes, got 0 bytes at EOF"

end DatabaseError

end LinkShortener
