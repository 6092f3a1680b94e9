import LinkShortener.Json.Basic
import LinkShortener.Sha256

/-!
# Fingerprints of requests

A request is told from others by the hash of a document that holds its kind and its fields. The
document is compact JSON with sorted keys, so no two requests have the same document.
-/

namespace LinkShortener.Fingerprint

def shortUrlDocument (destination : String) : List Char :=
  (Json.object [("destination_url", .string destination), ("kind", .string "short_url")]).render

def userDocument (username email : String) : List Char :=
  (Json.object [("email", .string email), ("kind", .string "user"),
    ("username", .string username)]).render

def ofDocument (document : List Char) : String :=
  Sha256.ofText (String.ofList document)

def shortUrl (destination : String) : String := ofDocument (shortUrlDocument destination)

def user (username email : String) : String := ofDocument (userDocument username email)

end LinkShortener.Fingerprint
