import LinkShortener.Json.Basic
import LinkShortener.Time.Instant
import LinkShortener.Uuid

/-!
# Users

A registered account. The hash of its password is stored and never part of an answer.
-/

namespace LinkShortener

/-- A user who is to be stored. -/
structure NewUser where
  id : Uuid
  username : String
  email : String
  passwordHash : String
  deriving DecidableEq

structure User where
  id : Uuid
  username : String
  email : String
  passwordHash : String
  createdAt : Instant
  updatedAt : Instant
  deriving DecidableEq

def User.body (user : User) : Json :=
  .object [("id", .string user.id.toText), ("username", .string user.username),
    ("email", .string user.email), ("created_at", .string user.createdAt.toText),
    ("updated_at", .string user.updatedAt.toText)]

end LinkShortener
