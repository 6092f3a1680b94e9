import LinkShortener.Fingerprint
import LinkShortener.Service.Scene
import LinkShortener.Slug

/-!
# Short URLs as a service

Creates a short URL at most once for each idempotency key, and resolves slugs.
-/

namespace LinkShortener.Service

/-- How many candidates for a slug are tried. -/
def slugAttempts : Nat := 10

/-- Draws candidates until one is free, at most so many. -/
def searchFree {m : Type → Type} [Monad m] (draw : m String) (isTaken : String → m Bool) :
    Nat → m (Option String)
  | 0 => return none
  | attempts + 1 => do
    let candidate ← draw
    if ← isTaken candidate then searchFree draw isTaken attempts else return some candidate

def findBySlug (slug : String) : Service (Option ShortUrl) :=
  transact (Work.findBySlug slug) StoreError.answeredForShortUrl

/-- A slug that no stored short URL has. Another request can still take it before it is used. -/
def freeSlug : Service String := do
  match ← searchFree drawSlug (fun slug => return (← findBySlug slug).isSome) slugAttempts with
  | some slug => return slug
  | none =>
    note [.noFreeSlug slugAttempts]
    refuse (.capacityExhausted "Could not allocate a short URL, please try again later"
      (.object [("attempts", .ofNat slugAttempts)]))

/-- Stores a short URL under a claim, or finds the one that is stored under it. -/
def storeShortUrl (claim : Claim) (row : NewShortUrl) : Service (Creation ShortUrl) :=
  transact (Work.createShortUrl claim row) StoreError.answeredForShortUrl

/-- Creates a short URL, or returns the one that an earlier request with the key created. -/
def createShortUrl (key : IdempotencyKey) (destination : String) : Service (Creation ShortUrl) := do
  let destination := Text.trim destination
  if destination.isEmpty then
    refuse (.badRequest "`destination_url` cannot be null or empty"
      (.object [("field", .string "destination_url")]))
  let id ← drawId
  let slug ← freeSlug
  let creation ← storeShortUrl ⟨key, Fingerprint.shortUrl destination⟩ ⟨id, destination, slug⟩
  match creation with
  | .created row => note [.shortUrlCreated row.id row.slug]
  | .replayed row => note [.shortUrlReplayed row.id row.slug key.token]
  return creation

def slugNotFound (slug : String) : ServiceError :=
  .notFound "Short URL not found" (.object [("slug", .string slug)])

/-- The short URL of a slug. A text that cannot be a slug is not looked up. -/
def resolveSlug (slug : String) : Service ShortUrl := do
  if !Slug.isWellFormed slug then
    refuse (slugNotFound slug)
  match ← findBySlug slug with
  | some shortUrl => return shortUrl
  | none => refuse (slugNotFound slug)

end LinkShortener.Service
