import LinkShortener.Http.Headers
import LinkShortener.Service.Error
import LinkShortener.Text.Blank
import LinkShortener.Uuid

/-!
# Idempotency keys

A client sends the same key with every repetition of one logical request. A key is a UUID in any of
its spellings, and different spellings of one UUID are the same key.
-/

namespace LinkShortener

/-- The key that a client gave to a request. -/
structure IdempotencyKey where
  token : Uuid
  deriving DecidableEq

namespace IdempotencyKey

/-- Reads a key without trimming it. -/
def ofText? (text : String) : Option IdempotencyKey := (Uuid.ofText? text).map .mk

/-- The one written form of a key. -/
def toText (key : IdempotencyKey) : String := key.token.toText

def invalidText : String := "idempotency key provided is not a valid UUID"

def headerName : String := "X-Idempotency-Key"

/-- What the header of a request says about its key. -/
inductive Presence where
  | missing
  | invalid
  | key (value : IdempotencyKey)
  deriving DecidableEq

/-- A value that cannot be seen as text is never a key, and one of nothing but blanks counts as no
value. -/
def Presence.ofValue (value : List UInt8) : Presence :=
  match Http.visibleText? value with
  | none => .invalid
  | some text =>
    if (Text.trimBlank text).isEmpty then .missing
    else match Uuid.ofChars? text with
      | some token => .key ⟨token⟩
      | none => .invalid

/-- The first value of the header counts. -/
def presence (headers : Http.Headers) : Presence :=
  match headers.first? "x-idempotency-key" with
  | none => .missing
  | some value => Presence.ofValue value

def headerDetails : Json := .object [("header", .string headerName)]

/-- The key of a request, or the answer to a request without a usable one. -/
def ofHeaders (headers : Http.Headers) : Except ServiceError IdempotencyKey :=
  match presence headers with
  | .key value => .ok value
  | .invalid => .error (.badRequest invalidText headerDetails)
  | .missing =>
    .error (.badRequest ("Missing idempotency key header '" ++ headerName ++ "'") headerDetails)

end IdempotencyKey

end LinkShortener
