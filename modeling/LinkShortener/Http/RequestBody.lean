import LinkShortener.Http.ContentType
import LinkShortener.Http.Headers
import LinkShortener.Json.Body
import LinkShortener.Service.Error

/-!
# Request bodies

A body is accepted if its content type says that it is JSON, it is not too long, and it holds the
expected record. The first of these that fails is the reason given to the client.
-/

namespace LinkShortener.Http

/-- The most bytes of a body. -/
def bodyLimit : Nat := 2097152

def saysJson (headers : Headers) : Bool :=
  (((headers.first? "content-type").bind visibleText?).bind ContentType.ofText?).any
    ContentType.isJson

/-- A body that cannot be used, with the reason. -/
def unusableBody (reason : String) : ServiceError :=
  .badRequest "Invalid JSON body for request" (.object [("reason", .string reason)])

def readRequest (shape : Json.Shape) (headers : Headers) (body : List UInt8) :
    Except ServiceError Json.Fields :=
  if !saysJson headers then
    .error (unusableBody "Expected request with `Content-Type: application/json`")
  else if bodyLimit < body.length then
    .error (unusableBody "Failed to buffer the request body: length limit exceeded")
  else match Json.readBody shape body with
    | .ok fields => .ok fields
    | .error problem => .error (unusableBody problem.reason)

/-- The body of a request to shorten a URL. Null stands for no destination. -/
def shortUrlShape : Json.Shape where
  name := "CreateShortUrlRequest"
  fields := ["destination_url"]
  acceptsNull := true

def userShape : Json.Shape where
  name := "CreateUserRequest"
  fields := ["username", "email", "password", "confirm_password"]
  acceptsNull := false

end LinkShortener.Http
