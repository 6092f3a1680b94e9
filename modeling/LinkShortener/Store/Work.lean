import LinkShortener.Store.Statement

/-!
# Units of work

A unit of work is a program of statements: each next statement may depend on the answers so far. It
is data, so it can be run on tables directly, as one atomic step, or through a connection that
fails.
-/

namespace LinkShortener

/-- A program of statements. -/
inductive Work : Type → Type 1 where
  | finished {α : Type} (value : α) : Work α
  | failed {α : Type} (error : StoreError) : Work α
  | query {α : Type} (statement : Statement) (next : statement.Answer → Work α) : Work α

namespace Work

def andThen {α β : Type} : Work α → (α → Work β) → Work β
  | .finished value, next => next value
  | .failed error, _ => .failed error
  | .query statement rest, next => .query statement fun answer => (rest answer).andThen next

instance : Monad Work where
  pure := .finished
  bind := .andThen

def ask (statement : Statement) : Work statement.Answer := .query statement .finished

/-- Runs a unit of work on tables: the value and the tables after it. If it fails, the tables stay
as they are, so a run is one atomic step. -/
def run {α : Type} (now : Instant) : Work α → Tables → Except StoreError (α × Tables)
  | .finished value, tables => .ok (value, tables)
  | .failed error, _ => .error error
  | .query statement next, tables =>
    match statement.run tables now with
    | .ok (answer, tables) => (next answer).run now tables
    | .error error => .error error.classify

/-- Reserves a key, and then inserts the row of the request that owns it or fetches the row of the
earlier request that it repeats. A key that belongs to another request is refused, and so is one
whose row is not in this table. -/
def createIdempotent {Row : Type} (claim : Claim) (candidate : Uuid) (insert : Work Row)
    (fetch : Uuid → Work (Option Row)) : Work (Creation Row) := do
  let entry ← ask (.reserve claim candidate)
  match LedgerEntry.resolve entry candidate claim.requestHash with
  | .fresh => return .created (← insert)
  | .replay id =>
    match ← fetch id with
    | some row => return .replayed row
    | none => .failed .idempotencyMismatch
  | .mismatch => .failed .idempotencyMismatch

/-- Creates a short URL, at most once for each key. -/
def createShortUrl (claim : Claim) (row : NewShortUrl) : Work (Creation ShortUrl) :=
  createIdempotent claim row.id (ask (.insertShortUrl row)) fun id => ask (.fetchShortUrlById id)

/-- Creates a user, at most once for each key. -/
def createUser (claim : Claim) (row : NewUser) : Work (Creation User) :=
  createIdempotent claim row.id (ask (.insertUser row)) fun id => ask (.fetchUserById id)

def findBySlug (slug : String) : Work (Option ShortUrl) := ask (.fetchShortUrlBySlug slug)

end Work

end LinkShortener
