import LinkShortener.Ledger.Entry

/-!
# The ledger

All entries, at most one for each key. A live entry is never touched: the first request with a key
owns it until the entry expires, and only then may another request take the key over.
-/

namespace LinkShortener

/-- The entries of all keys. -/
abbrev Ledger := List LedgerEntry

/-- How many entries are live and how many are expired. -/
structure LedgerStats where
  live : Nat
  expired : Nat
  deriving DecidableEq

namespace Ledger

/-- The entry of a key, live or expired. -/
def find? (ledger : Ledger) (token : Uuid) : Option LedgerEntry :=
  List.find? (fun entry => entry.token = token) ledger

/-- Puts an entry in the place of the one that has its key. -/
def replace (ledger : Ledger) (entry : LedgerEntry) : Ledger :=
  match ledger with
  | [] => []
  | other :: rest =>
    if other.token = entry.token then entry :: rest else other :: replace rest entry

/-- Claims a key for a candidate, and returns the entry that the key has then: that of the claim, or
the live entry that was there. -/
def reserve (ledger : Ledger) (claim : Claim) (candidate : Uuid) (now : Instant) :
    LedgerEntry × Ledger :=
  let claimed := LedgerEntry.opened claim candidate now
  match ledger.find? claim.key.token with
  | none => (claimed, ledger ++ [claimed])
  | some present =>
    let entry := present.reclaimed claimed now
    (entry, ledger.replace entry)

def purge (ledger : Ledger) (now : Instant) : Ledger :=
  ledger.filter fun entry => !entry.expiresAt.notAfter now

/-- How many entries purging removes. -/
def expiredCount (ledger : Ledger) (now : Instant) : Nat :=
  ledger.countP fun entry => entry.expiresAt.notAfter now

/-- Counts the entries whose end lies ahead, and those whose end has come. -/
def stats (ledger : Ledger) (now : Instant) : LedgerStats where
  live := ledger.countP fun entry => now.before entry.expiresAt
  expired := ledger.countP fun entry => entry.expiresAt.notAfter now

end Ledger

end LinkShortener
