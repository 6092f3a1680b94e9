import LinkShortener.Cache.Basic
import LinkShortener.Password
import LinkShortener.Service.StoreFailure
import LinkShortener.Store.Database
import LinkShortener.Supply

/-!
# The scene of a request

Everything that answering a request depends on and changes, and computations on it that end with a
value, an error for the client or a fault of the program itself.
-/

namespace LinkShortener

/-- What requests work on. -/
structure Scene where
  /-- The database, the time, the caller's context and the log. -/
  situation : Retry.Situation Database
  policy : Retry.Policy
  ids : Supply Uuid
  slugs : Supply String
  hasher : Password.Hasher
  cache : Cache

/-- Why a request has no value to answer with. -/
inductive Service.Failure where
  | error (error : ServiceError)
  /-- A fault of the program, with what it says if that is a text. -/
  | crash (detail : Option String)

/-- A computation on the scene of a request. -/
abbrev Service (α : Type) := ExceptT Service.Failure (StateM Scene) α

namespace Service

variable {α : Type}

/-- Writes events to the log. -/
def note (events : List Event) : Service Unit :=
  modify fun scene =>
    { scene with situation := { scene.situation with log := scene.situation.log ++ events } }

/-- Answers the client with an error. -/
def refuse (error : ServiceError) : Service α := throw (.error error)

def drawId : Service Uuid := do
  let scene ← get
  let (id, ids) := scene.ids.draw
  set { scene with ids }
  return id

def drawSlug : Service String := do
  let scene ← get
  let (slug, slugs) := scene.slugs.draw
  set { scene with slugs }
  return slug

/-- Hashes a password. The client learns nothing about a failure. -/
def hashPassword (password : String) : Service String := do
  let scene ← get
  match scene.hasher password with
  | .ok hash => return hash
  | .error .refused => refuse .internal
  | .error .crashed =>
    note [.hashingTaskFailed]
    refuse .internal

/-- Runs a unit of work in a transaction, with retries. A store error becomes an answer. -/
def transact (work : Work α) (answered : StoreError → ServiceError × List Event) : Service α := do
  let scene ← get
  let (result, situation) := (Database.transact scene.policy work).run.run scene.situation
  set { scene with situation }
  match result with
  | .ok value => return value
  | .error (.crash text) => throw (.crash (some text))
  | .error (.error error) =>
    let (refusal, events) := answered error
    note events
    refuse refusal

/-- Runs a statement outside of any transaction and without retries. -/
def ask (statement : Statement) : Service (Except DatabaseError statement.Answer) := do
  let scene ← get
  let (outcome, database) := scene.situation.store.queryAlone statement
  set { scene with situation := { scene.situation with store := database } }
  return outcome

def cached (slug : String) : Service (Option String) := do
  let scene ← get
  let (found, events, cache) := scene.cache.get slug
  set { scene with cache }
  note events
  return found

/-- Keeps a destination in the cache. -/
def remember (slug destination : String) : Service Unit := do
  let scene ← get
  let (events, cache) := scene.cache.put slug destination
  set { scene with cache }
  note events

/-- Starts a request: its context ends after the given time, which must not be too long for a
clock. -/
def startRequest (timeout : Duration) : Service Unit := do
  if !timeout.fitsClock then throw (.crash (some Duration.clockOverflowText))
  modify fun scene =>
    { scene with
      situation :=
        { scene.situation with
          context := .withDeadline (scene.situation.now + timeout.nanoseconds) } }

end Service

end LinkShortener
