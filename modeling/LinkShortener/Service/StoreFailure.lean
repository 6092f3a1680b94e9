import LinkShortener.Event
import LinkShortener.Service.Error

/-!
# Store errors as answers

A store error becomes an answer without its message. The message goes to the log instead.
-/

namespace LinkShortener.StoreError

def answered (error : StoreError) : ServiceError × List Event :=
  match error.kind with
  | .idempotencyMismatch => (.idempotencyKeyReused (.object []), [])
  | .uniqueViolation constraint =>
    (.conflict "Unique constraint violation" (.object []), [.constraintViolated constraint])
  | _ => (.internal, [.storeFailed error])

def answeredForShortUrl (error : StoreError) : ServiceError × List Event :=
  match error.kind with
  | .uniqueViolation constraint =>
    (.conflict "Slug is already in use, please retry" (.object [("field", .string "slug")]),
      [.slugConstraintHit constraint])
  | _ => error.answered

def userField? : Option String → Option String
  | some constraint =>
    if constraint = "users_username_key" then some "username"
    else if constraint = "users_email_key" then some "email"
    else none
  | none => none

def answeredForUser (error : StoreError) : ServiceError × List Event :=
  match error.kind with
  | .uniqueViolation constraint =>
    (.conflict "A user with that username or email already exists"
      (.object [("field", .ofOption (userField? constraint))]), [])
  | _ => error.answered

end LinkShortener.StoreError
