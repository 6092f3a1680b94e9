import LinkShortener.Ledger.Basic
import LinkShortener.ShortUrl
import LinkShortener.User

/-!
# Tables

What the store holds. No two short URLs share an id or a slug, no two users share an id, a username
or an email address, and no two ledger entries share a key. All texts are compared exactly.
-/

namespace LinkShortener

/-- The rows of the store, each table in the order of insertion. -/
structure Tables where
  shortUrls : List ShortUrl
  users : List User
  ledger : Ledger
  deriving DecidableEq

namespace Tables

def empty : Tables := ⟨[], [], []⟩

def shortUrlConflict? (tables : Tables) (row : NewShortUrl) : Option String :=
  if tables.shortUrls.any (·.id = row.id) then some "short_urls_pkey"
  else if tables.shortUrls.any (·.slug = row.slug) then some "short_urls_slug_key"
  else none

/-- The constraint that a new user would break. -/
def userConflict? (tables : Tables) (row : NewUser) : Option String :=
  if tables.users.any (·.id = row.id) then some "users_pkey"
  else if tables.users.any (·.username = row.username) then some "users_username_key"
  else if tables.users.any (·.email = row.email) then some "users_email_key"
  else none

def shortUrlRow (row : NewShortUrl) (now : Instant) : ShortUrl :=
  ⟨row.id, row.destination, row.slug, now⟩

def userRow (row : NewUser) (now : Instant) : User :=
  ⟨row.id, row.username, row.email, row.passwordHash, now, now⟩

def insertShortUrl (tables : Tables) (row : ShortUrl) : Tables :=
  { tables with shortUrls := tables.shortUrls ++ [row] }

def insertUser (tables : Tables) (row : User) : Tables :=
  { tables with users := tables.users ++ [row] }

def shortUrlById? (tables : Tables) (id : Uuid) : Option ShortUrl :=
  tables.shortUrls.find? (·.id = id)

def shortUrlBySlug? (tables : Tables) (slug : String) : Option ShortUrl :=
  tables.shortUrls.find? (·.slug = slug)

def userById? (tables : Tables) (id : Uuid) : Option User :=
  tables.users.find? (·.id = id)

end Tables

end LinkShortener
