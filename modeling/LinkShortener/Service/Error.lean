import LinkShortener.Json.Basic

/-!
# Errors answered to clients

Every failed request is answered with a code, a message and details. What went wrong inside the
service is never part of the answer: a failure that the client cannot mend has one fixed message.
-/

namespace LinkShortener

/-- The kinds of errors that a client can meet. -/
inductive ServiceError.Kind where
  | validation
  | idempotencyKeyReused
  | notFound
  | conflict
  | forbidden
  | capacityExhausted
  | internal
  deriving DecidableEq

/-- An error as the client sees it. -/
structure ServiceError where
  kind : ServiceError.Kind
  message : String
  details : Json

namespace ServiceError

def Kind.code : Kind → String
  | .validation => "validation_error"
  | .idempotencyKeyReused => "idempotency_key_reused"
  | .notFound => "not_found"
  | .conflict => "conflict"
  | .forbidden => "forbidden"
  | .capacityExhausted => "service_unavailable"
  | .internal => "internal_error"

def Kind.status : Kind → Nat
  | .validation => 400
  | .idempotencyKeyReused => 400
  | .notFound => 404
  | .conflict => 409
  | .forbidden => 403
  | .capacityExhausted => 503
  | .internal => 500

def badRequest (message : String) (details : Json) : ServiceError :=
  ⟨.validation, message, details⟩

def idempotencyKeyReused (details : Json) : ServiceError :=
  ⟨.idempotencyKeyReused, "X-Idempotency-Key header value has already been used", details⟩

def notFound (message : String) (details : Json) : ServiceError :=
  ⟨.notFound, message, details⟩

def conflict (message : String) (details : Json) : ServiceError :=
  ⟨.conflict, message, details⟩

def forbidden (message : String) (details : Json) : ServiceError :=
  ⟨.forbidden, message, details⟩

def capacityExhausted (message : String) (details : Json) : ServiceError :=
  ⟨.capacityExhausted, message, details⟩

/-- A failure about which the client learns nothing more. -/
def internal : ServiceError :=
  ⟨.internal, "Something is wrong with the server. Please try again later", .object []⟩

def code (error : ServiceError) : String := error.kind.code

def status (error : ServiceError) : Nat := error.kind.status

def body (error : ServiceError) : Json :=
  .object [("error", .object [("code", .string error.code), ("message", .string error.message),
    ("details", error.details)])]

end ServiceError

end LinkShortener
