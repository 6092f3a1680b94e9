import LinkShortener.Cache.Url
import LinkShortener.Event

/-!
# The cache of redirects

Destinations of slugs that were looked up before. A cache may forget anything and may fail; a miss
is all that follows. Every use leaves a trace of the commands that were sent.
-/

namespace LinkShortener

/-- Where destinations are kept. -/
inductive Cache.Backend where
  | disabled
  | memory (isHealthy : Bool)
  /-- In a server, which forgets an entry after so many seconds. The listed commands fail. -/
  | server (ttlSeconds : Nat) (failing : List String)

/-- A cache with its entries, the latest first, and the commands sent to it. -/
structure Cache where
  backend : Cache.Backend
  entries : List (String × String)
  trace : List (List String)

namespace Cache

def ofBackend (backend : Backend) : Cache := ⟨backend, [], []⟩

def Backend.name : Backend → String
  | .disabled => "disabled"
  | .memory _ => "memory"
  | .server _ _ => "redis"

/-- What a server says about a command that fails. -/
def failureText : String := "ResponseError: scripted failure"

def key (slug : String) : String := "shurl:slug:" ++ slug

def traced (cache : Cache) (command : List String) : Cache :=
  { cache with trace := cache.trace ++ [command] }

/-- The destination of a slug; nothing if it is not there or the cache fails. -/
def get (cache : Cache) (slug : String) : Option String × List Event × Cache :=
  let found := cache.entries.lookup slug
  match cache.backend with
  | .disabled => (none, [], cache)
  | .memory _ => (found, [], cache.traced ["get", slug])
  | .server _ failing =>
    let cache := cache.traced ["GET", key slug]
    if failing.contains "GET" then (none, [.cacheReadFailed slug failureText], cache)
    else (found, [.cacheLookup slug found.isSome], cache)

def put (cache : Cache) (slug destination : String) : List Event × Cache :=
  let kept := { cache with entries := (slug, destination) :: cache.entries }
  match cache.backend with
  | .disabled => ([], cache)
  | .memory _ => ([], kept.traced ["put", slug, destination])
  | .server ttlSeconds failing =>
    let command := ["SETEX", key slug, toString ttlSeconds, destination]
    if failing.contains "SETEX" then
      ([.cacheWriteFailed slug failureText], cache.traced command)
    else ([], kept.traced command)

/-- Whether the cache can be reached. -/
def check (cache : Cache) : Bool × Cache :=
  match cache.backend with
  | .disabled => (true, cache)
  | .memory isHealthy => (isHealthy, cache)
  | .server _ failing => (!failing.contains "PING", cache.traced ["PING"])

/-- Connects to the server that a URL names; `failing` lists the commands that will fail. -/
def connect (url : String) (ttlSeconds : Nat) (failing : List String) : Except String Cache :=
  if !isUsableUrl url then .error "Cache connection error: invalid Redis URL"
  else if failing.contains "PING" then
    .error ("Cache connection error: PING failed: " ++ failureText)
  else .ok (ofBackend (.server ttlSeconds failing))

end Cache

end LinkShortener
