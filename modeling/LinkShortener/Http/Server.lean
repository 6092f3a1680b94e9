import LinkShortener.Health
import LinkShortener.Http.Layers
import LinkShortener.Http.Path
import LinkShortener.Http.RateLimit
import LinkShortener.Http.RequestBody
import LinkShortener.Service.ShortUrls
import LinkShortener.Service.Users
import LinkShortener.Settings.Basic

/-!
# The server

Answers requests: redirects from slugs, health reports, and the creation of short URLs and users.
The routes for creation are limited in rate, and the one for users can be switched off.
-/

namespace LinkShortener.Http

def serviceVersion : String := "0.1.0"

/-- The response to a redirect from a slug. A destination that is not cached is looked up and then
cached. -/
def redirectFrom (settings : HttpSettings) (slug : String) : Service Response := do
  match ← Service.cached slug with
  | some destination =>
    Service.note [.cacheHit slug]
    return .redirect destination
  | none =>
    Service.note [.cacheMiss slug]
    Service.startRequest settings.requestTimeout
    let shortUrl ← Service.resolveSlug slug
    Service.remember slug shortUrl.destination
    return .redirect shortUrl.destination

def redirectFromSegment (settings : HttpSettings) (segment : List Char) : Service Response :=
  match decodeSegment? segment with
  | some slug => redirectFrom settings slug
  | none => return .text 400 "Invalid URL: Invalid UTF-8 in `slug`"

def checkDatabase : Service CheckStatus := do
  match ← Service.ask .ping with
  | .ok _ => return ⟨true, some "Connected"⟩
  | .error error =>
    Service.note [.databaseUnhealthy error.describe]
    return ⟨false, some "Database unreachable"⟩

/-- Checks the cache. One that is switched off is healthy. -/
def checkCache : Service CheckStatus := do
  let scene ← get
  let (healthy, cache) := scene.cache.check
  set { scene with cache }
  let name := scene.cache.backend.name
  return if healthy then ⟨true, some name⟩ else ⟨false, some (name ++ " connection failed")⟩

def reportHealth : Service Response := do
  let database ← checkDatabase
  let cache ← checkCache
  let healthy := database.isOk && cache.isOk
  let report : HealthReport :=
    { status := if healthy then "healthy" else "degraded"
      version := serviceVersion, database, cache }
  return .json (if healthy then 200 else 503) report.body

/-- A part of a request, or the answer that it cannot be used. -/
def demand {α : Type} : Except ServiceError α → Service α
  | .ok value => return value
  | .error error => Service.refuse error

def postShortUrl (settings : HttpSettings) (request : Request) : Service Response := do
  let key ← demand (IdempotencyKey.ofHeaders request.headers)
  let fields ← demand (readRequest shortUrlShape request.headers request.body)
  Service.startRequest settings.requestTimeout
  let creation ← Service.createShortUrl key ((fields.text? "destination_url").getD "")
  return .json 201 (creation.row.body settings.baseUrl)

/-- A registration from the fields of a body. A field that is not there is empty. -/
def registrationOf (fields : Json.Fields) : Registration where
  username := (fields.text? "username").getD ""
  email := (fields.text? "email").getD ""
  password := (fields.text? "password").getD ""
  confirmation := (fields.text? "confirm_password").getD ""

def postUser (settings : HttpSettings) (request : Request) : Service Response := do
  let key ← demand (IdempotencyKey.ofHeaders request.headers)
  let fields ← demand (readRequest userShape request.headers request.body)
  Service.startRequest settings.requestTimeout
  let creation ← Service.createUser key (registrationOf fields)
  return .json 201 creation.row.body

/-- Registration is switched off. -/
def registrationClosed : ServiceError :=
  .forbidden "User registration is disabled" (.object [("setting", .string "ALLOW_REGISTRATION")])

/-- A server with what its requests work on. -/
structure Server where
  settings : HttpSettings
  limiter : RateLimiter
  scene : Scene

namespace Server

/-- Answers after a fault of the program. -/
def recover (server : Server) (detail : Option String) : Response × Server :=
  let (response, events) := recovered detail
  let scene := server.scene
  let situation := { scene.situation with log := scene.situation.log ++ events }
  (response, { server with scene := { scene with situation } })

/-- Runs a handler. An error becomes a response, and so does a fault of the program. -/
def handle (server : Server) (handler : Service Response) : Response × Server :=
  let (result, scene) := handler.run.run server.scene
  let server := { server with scene }
  match result with
  | .ok response => (response, server)
  | .error (.error error) => (.ofError error, server)
  | .error (.crash detail) => server.recover detail

/-- Answers on a route that anyone may get at any rate. -/
def answerOpen (server : Server) (request : Request) (handler : Service Response) :
    Response × Server :=
  if Methods.get.allow request.method then server.handle handler
  else ((Response.empty 405).withField Methods.get.allowField, server)

/-- Answers on a route that is limited in rate: the limit comes first, then the gate, and only then
the method. A response to a wrong method lists the right one, whatever it is. -/
def answerLimited (server : Server) (request : Request) (isOpen : Bool)
    (handler : Service Response) : Response × Server :=
  let isPost := Methods.post.allow request.method
  let listed (response : Response) : Response :=
    if isPost then response else response.withField Methods.post.allowField
  let (admission, limiter) := server.limiter.charge request
  let server := { server with limiter }
  match admission with
  | .crashed text => server.recover (some text)
  | .refused refusal => (listed refusal, server)
  | .admitted =>
    if !isOpen then (listed (Response.ofError registrationClosed), server)
    else if isPost then server.handle handler
    else (listed (Response.empty 405), server)

/-- Answers a request whose path is normalized. -/
def dispatch (server : Server) (request : Request) : Response × Server :=
  match Route.ofPath? request.path with
  | none => (.empty 404, server)
  | some .health => server.answerOpen request reportHealth
  | some (.slug segment) =>
    server.answerOpen request (redirectFromSegment server.settings segment)
  | some .shortUrls => server.answerLimited request true (postShortUrl server.settings request)
  | some .users =>
    server.answerLimited request server.settings.allowRegistration
      (postUser server.settings request)

/-- Answers a request; `fresh` is the id of a request that has none. -/
def answer (server : Server) (request : Request) (fresh : Uuid) : Response × Server :=
  let request := request.withPath (normalizePath request.path)
  let (response, server) := server.dispatch request
  (leaving request fresh response, server)

end Server

end LinkShortener.Http
