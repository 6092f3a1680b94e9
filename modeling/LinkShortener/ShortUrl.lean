import LinkShortener.Json.Basic
import LinkShortener.Text.Blank
import LinkShortener.Time.Instant
import LinkShortener.Uuid

/-!
# Short URLs

A short URL leads from a slug to a destination. It is written once and never changed.
-/

namespace LinkShortener

structure NewShortUrl where
  id : Uuid
  destination : String
  slug : String
  deriving DecidableEq

structure ShortUrl where
  id : Uuid
  destination : String
  slug : String
  createdAt : Instant
  deriving DecidableEq

namespace ShortUrl

/-- The address under which a slug is published: the base address without slashes at its end, a
slash, and the slug. -/
def publicAddress (base slug : String) : String :=
  String.ofList (Text.dropTrailing (· == '/') base.toList) ++ "/" ++ slug

def body (shortUrl : ShortUrl) (base : String) : Json :=
  .object [("id", .string shortUrl.id.toText), ("destination_url", .string shortUrl.destination),
    ("slug", .string shortUrl.slug), ("created_at", .string shortUrl.createdAt.toText),
    ("url", .string (publicAddress base shortUrl.slug))]

end ShortUrl

end LinkShortener
