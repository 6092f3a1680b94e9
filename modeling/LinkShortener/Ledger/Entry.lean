import LinkShortener.IdempotencyKey
import LinkShortener.Time.Instant

/-!
# Ledger entries

The ledger binds each idempotency key to the row that the first request with the key created, for
twenty-four hours. A later request compares itself with the entry to learn what it is.
-/

namespace LinkShortener

/-- How long an entry stays live, in seconds. -/
def entryLifetime : Int := 24 * 3600

/-- A key together with the fingerprint of the request it was sent with. -/
structure Claim where
  key : IdempotencyKey
  requestHash : String
  deriving DecidableEq

/-- What the ledger holds about a key. -/
structure LedgerEntry where
  token : Uuid
  referenceId : Uuid
  requestHash : String
  createdAt : Instant
  expiresAt : Instant
  deriving DecidableEq

/-- What a request is, given the entry of its key. -/
inductive Resolution where
  /-- The request owns the key and inserts its row. -/
  | fresh
  /-- An earlier request with the same fields created the row. -/
  | replay (id : Uuid)
  /-- The key belongs to a different request. -/
  | mismatch
  deriving DecidableEq

namespace LedgerEntry

def resolve (entry : LedgerEntry) (candidate : Uuid) (requestHash : String) : Resolution :=
  if entry.referenceId = candidate then .fresh
  else if entry.requestHash = requestHash then .replay entry.referenceId
  else .mismatch

/-- An entry is expired from its last instant on. -/
def isExpiredAt (entry : LedgerEntry) (now : Instant) : Bool := entry.expiresAt.notAfter now

/-- The entry of a claim made now. -/
def opened (claim : Claim) (candidate : Uuid) (now : Instant) : LedgerEntry where
  token := claim.key.token
  referenceId := candidate
  requestHash := claim.requestHash
  createdAt := now
  expiresAt := now.later entryLifetime

/-- An entry after another claim of its key. Every column is decided by itself: that of the claim
takes its place if the end of the entry has come. -/
def reclaimed (entry claimed : LedgerEntry) (now : Instant) : LedgerEntry where
  token := entry.token
  referenceId := if entry.expiresAt.notAfter now then claimed.referenceId else entry.referenceId
  requestHash := if entry.expiresAt.notAfter now then claimed.requestHash else entry.requestHash
  createdAt := if entry.expiresAt.notAfter now then claimed.createdAt else entry.createdAt
  expiresAt := if entry.expiresAt.notAfter now then claimed.expiresAt else entry.expiresAt

end LedgerEntry

/-- The result of a creation: a new row, or the row of an earlier request. -/
inductive Creation (Row : Type) where
  | created (row : Row)
  | replayed (row : Row)

namespace Creation

def isReplay {Row : Type} : Creation Row → Bool
  | .created _ => false
  | .replayed _ => true

/-- The row, whichever request created it. -/
def row {Row : Type} : Creation Row → Row
  | .created row => row
  | .replayed row => row

end Creation

end LinkShortener
