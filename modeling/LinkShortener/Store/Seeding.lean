import LinkShortener.Store.Database

/-!
# Seeding

Rows that are put into the tables or taken out of them without the service. The tables keep their
constraints.
-/

namespace LinkShortener.Tables

/-- The tables with one more short URL, unless it breaks a constraint. -/
def seedShortUrl? (tables : Tables) (row : ShortUrl) : Option Tables :=
  match tables.shortUrlConflict? ⟨row.id, row.destination, row.slug⟩ with
  | some _ => none
  | none => some (tables.insertShortUrl row)

/-- The tables with one more user, unless it breaks a constraint. -/
def seedUser? (tables : Tables) (row : User) : Option Tables :=
  match tables.userConflict? ⟨row.id, row.username, row.email, row.passwordHash⟩ with
  | some _ => none
  | none => some (tables.insertUser row)

/-- The tables with one more ledger entry, unless its key has one. -/
def seedLedger? (tables : Tables) (entry : LedgerEntry) : Option Tables :=
  match tables.ledger.find? entry.token with
  | some _ => none
  | none =>
    let kept :=
      { entry with createdAt := entry.createdAt.inMicros, expiresAt := entry.expiresAt.inMicros }
    some { tables with ledger := tables.ledger ++ [kept] }

/-- The tables without the short URL of an id, and how many rows that took away. -/
def deleteShortUrl (tables : Tables) (id : Uuid) : Nat × Tables :=
  let kept := tables.shortUrls.filter fun row => row.id ≠ id
  (tables.shortUrls.length - kept.length, { tables with shortUrls := kept })

end LinkShortener.Tables
