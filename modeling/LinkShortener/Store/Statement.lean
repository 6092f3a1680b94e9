import LinkShortener.Store.DatabaseError
import LinkShortener.Store.Tables

/-!
# Statements

The statements that the service sends to the store, what each answers, and what each does to the
tables at a given time.
-/

namespace LinkShortener

inductive Statement where
  | reserve (claim : Claim) (candidate : Uuid)
  | insertShortUrl (row : NewShortUrl)
  | insertUser (row : NewUser)
  | fetchShortUrlById (id : Uuid)
  | fetchShortUrlBySlug (slug : String)
  | fetchUserById (id : Uuid)
  | findEntry (token : Uuid)
  | purge
  | stats
  | ping
  | countShortUrls
  | countUsers
  | version
  | countMigrations

namespace Statement

def name : Statement → String
  | .reserve _ _ => "reserve"
  | .insertShortUrl _ => "insert_short_url"
  | .insertUser _ => "insert_user"
  | .fetchShortUrlById _ => "fetch_short_url_by_id"
  | .fetchShortUrlBySlug _ => "fetch_short_url_by_slug"
  | .fetchUserById _ => "fetch_user_by_id"
  | .findEntry _ => "ledger_find"
  | .purge => "purge"
  | .stats => "ledger_stats"
  | .ping => "ping"
  | .countShortUrls => "count_short_urls"
  | .countUsers => "count_users"
  | .version => "version"
  | .countMigrations => "count_migrations"

abbrev Answer : Statement → Type
  | .reserve _ _ => LedgerEntry
  | .insertShortUrl _ => ShortUrl
  | .insertUser _ => User
  | .fetchShortUrlById _ => Option ShortUrl
  | .fetchShortUrlBySlug _ => Option ShortUrl
  | .fetchUserById _ => Option User
  | .findEntry _ => Option LedgerEntry
  | .purge => Nat
  | .stats => LedgerStats
  | .ping => Unit
  | .countShortUrls => Nat
  | .countUsers => Nat
  | .version => String
  | .countMigrations => Nat

/-- The texts among the parameters. -/
def texts : Statement → List String
  | .reserve claim _ => [claim.requestHash]
  | .insertShortUrl row => [row.destination, row.slug]
  | .insertUser row => [row.username, row.email, row.passwordHash]
  | .fetchShortUrlBySlug slug => [slug]
  | _ => []

/-- A row with the same value exists. -/
def duplicate (constraint : String) : DatabaseError :=
  .reported ⟨some "23505",
    "duplicate key value violates unique constraint \"" ++ constraint ++ "\"", some constraint,
    true⟩

/-- The error about parameters that no table could hold: a text with a zero character, or a slug
that is longer than its column. -/
def unstorable? (statement : Statement) : Option DatabaseError :=
  if statement.texts.any fun text => text.toList.contains (Char.ofNat 0) then
    some (.reported
      ⟨some "22021", "invalid byte sequence for encoding \"UTF8\": 0x00", none, false⟩)
  else match statement with
    | .insertShortUrl row =>
      if 8 < row.slug.toList.length then
        some (.reported ⟨some "22001", "value too long for type character varying(8)", none, false⟩)
      else none
    | _ => none

def versionText : String := "PostgreSQL 16.0 (oracle)"

/-- The number of migrations that made the tables. -/
def migrationCount : Nat := 3

/-- What a statement with storable parameters answers, and the tables after it. -/
def effect (statement : Statement) (tables : Tables) (now : Instant) :
    Except DatabaseError (statement.Answer × Tables) :=
  match statement with
  | .reserve claim candidate =>
    let (entry, ledger) := tables.ledger.reserve claim candidate now
    .ok (entry, { tables with ledger })
  | .insertShortUrl row =>
    match tables.shortUrlConflict? row with
    | some constraint => .error (duplicate constraint)
    | none =>
      let stored := Tables.shortUrlRow row now
      .ok (stored, tables.insertShortUrl stored)
  | .insertUser row =>
    match tables.userConflict? row with
    | some constraint => .error (duplicate constraint)
    | none =>
      let stored := Tables.userRow row now
      .ok (stored, tables.insertUser stored)
  | .fetchShortUrlById id => .ok (tables.shortUrlById? id, tables)
  | .fetchShortUrlBySlug slug => .ok (tables.shortUrlBySlug? slug, tables)
  | .fetchUserById id => .ok (tables.userById? id, tables)
  | .findEntry token => .ok (tables.ledger.find? token, tables)
  | .purge =>
    .ok (tables.ledger.expiredCount now, { tables with ledger := tables.ledger.purge now })
  | .stats => .ok (tables.ledger.stats now, tables)
  | .ping => .ok ((), tables)
  | .countShortUrls => .ok (tables.shortUrls.length, tables)
  | .countUsers => .ok (tables.users.length, tables)
  | .version => .ok (versionText, tables)
  | .countMigrations => .ok (migrationCount, tables)

/-- What a statement answers, and the tables after it. -/
def run (statement : Statement) (tables : Tables) (now : Instant) :
    Except DatabaseError (statement.Answer × Tables) :=
  match statement.unstorable? with
  | some error => .error error
  | none => statement.effect tables now

end Statement

end LinkShortener
