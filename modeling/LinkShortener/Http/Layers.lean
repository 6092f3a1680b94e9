import LinkShortener.Event
import LinkShortener.Http.Message

/-!
# Layers around every route

Every request has an id, which the response repeats, and a handler that fails by a fault of the
program is answered like any internal failure.
-/

namespace LinkShortener.Http

def requestIdHeader : String := "x-request-id"

/-- The id of a request in the log: a hyphen if there is none that can be read. -/
def requestIdText (headers : Headers) : String :=
  match (headers.first? requestIdHeader).bind visibleText? with
  | some text => String.ofList text
  | none => "-"

/-- The id that the response repeats: that of the request, or a fresh one. -/
def responseId (request : Request) (fresh : Uuid) : List UInt8 :=
  (request.headers.first? requestIdHeader).getD (Text.encodeUtf8 fresh.toText)

/-- How a handler ends. -/
inductive Outcome where
  | answered (response : Response)
  /-- A fault of the program, with what it says if that is a text. -/
  | crashed (detail : Option String)

/-- The response to a fault of the program, and the event that tells what it was. -/
def recovered (detail : Option String) : Response × List Event :=
  (.ofError .internal, [.handlerCrashed (detail.getD "non-string panic payload")])

def Outcome.response : Outcome → Response × List Event
  | .answered response => (response, [])
  | .crashed detail => recovered detail

/-- The response as it leaves: with the id of the request, and without content where only the head
was asked for. -/
def leaving (request : Request) (fresh : Uuid) (response : Response) : Response :=
  let response := if request.method == "HEAD" then response.withoutContent else response
  response.withField ⟨requestIdHeader, responseId request fresh⟩

/-- The methods that a route answers. -/
inductive Methods where
  | get
  | post

/-- Whether a route answers a method. Asking for the head is a way of getting. -/
def Methods.allow : Methods → String → Bool
  | .get, method => method == "GET" || method == "HEAD"
  | .post, method => method == "POST"

/-- The methods that a route answers, as the header field that lists them. -/
def Methods.allowField : Methods → HeaderField
  | .get => field "allow" "GET,HEAD"
  | .post => field "allow" "POST"

/-- A path that is answered always in the same way. -/
structure FixedRoute where
  path : String
  outcome : Outcome

/-- The response of a server that has only fixed routes, which can be got. -/
def answerFixed (routes : List FixedRoute) (request : Request) (fresh : Uuid) :
    Response × List Event :=
  let (response, events) :=
    match routes.find? fun route => route.path.toList == request.path with
    | none => (Response.empty 404, [])
    | some route =>
      if Methods.get.allow request.method then route.outcome.response
      else ((Response.empty 405).withField Methods.get.allowField, [])
  (leaving request fresh response, events)

end LinkShortener.Http
