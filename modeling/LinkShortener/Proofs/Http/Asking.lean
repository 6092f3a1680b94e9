import LinkShortener.Http.Server
import LinkShortener.Proofs.Service.Creation

/-! # Requests for creations

Both routes for creations as one: what a request asks for, and what the server does with it.
-/

namespace LinkShortener

def Row.body (base : String) : Row → Json
  | .shortUrl row => row.body base
  | .user row => row.body

theorem Creation.row_map {α β : Type} (transform : α → β) (creation : Creation α) :
    (creation.map transform).row = transform creation.row := by
  cases creation <;> rfl

def Scene.started (scene : Scene) (timeout : Duration) : Scene :=
  { scene with
    situation :=
      { scene.situation with
        context := .withDeadline (scene.situation.now + timeout.nanoseconds) } }

namespace Http

/-- A request with its path as the routes see it. -/
def Request.normalized (request : Request) : Request :=
  request.withPath (normalizePath request.path)

/-- A request with a normalized path that asks for a creation. -/
inductive Request.Asks (request : Request) (key : IdempotencyKey) : Submission → Prop where
  | shortUrl (fields : Json.Fields) (post : request.method = "POST")
      (route : Route.ofPath? request.path = some .shortUrls)
      (keyed : IdempotencyKey.ofHeaders request.headers = .ok key)
      (read : readRequest shortUrlShape request.headers request.body = .ok fields) :
      Asks request key (.shortUrl ((fields.text? "destination_url").getD ""))
  | user (fields : Json.Fields) (post : request.method = "POST")
      (route : Route.ofPath? request.path = some .users)
      (keyed : IdempotencyKey.ofHeaders request.headers = .ok key)
      (read : readRequest userShape request.headers request.body = .ok fields) :
      Asks request key (.user (registrationOf fields))

theorem Request.Asks.post {request : Request} {key : IdempotencyKey} {submission : Submission}
    (asks : request.Asks key submission) : request.method = "POST" := by
  cases asks <;> assumption

/-- What a request for a short URL asks for, if key and fields can be computed. -/
theorem Request.Asks.of_computed {request : Request} {key : IdempotencyKey} {fields : Json.Fields}
    (post : request.method = "POST") (route : Route.ofPath? request.path = some .shortUrls)
    (keyed : IdempotencyKey.presence request.headers = .key key)
    (read : (readRequest shortUrlShape request.headers request.body).toOption = some fields) :
    request.Asks key (.shortUrl ((fields.text? "destination_url").getD "")) := by
  cases found : readRequest shortUrlShape request.headers request.body with
  | error error =>
      rw [found] at read
      cases read
  | ok others =>
      rw [found] at read
      cases read
      exact .shortUrl _ post route (by rw [IdempotencyKey.ofHeaders, keyed]) found

/-- Creates what a request asks for, and answers with the row. -/
def respond (settings : HttpSettings) (key : IdempotencyKey) (submission : Submission) :
    Service Response := do
  Service.startRequest settings.requestTimeout
  let creation ← Service.create key submission
  return .json 201 (creation.row.body settings.baseUrl)

variable {settings : HttpSettings} {request : Request} {key : IdempotencyKey}
  {submission : Submission}

theorem postShortUrl_eq {fields : Json.Fields}
    (keyed : IdempotencyKey.ofHeaders request.headers = .ok key)
    (read : readRequest shortUrlShape request.headers request.body = .ok fields) :
    postShortUrl settings request =
      respond settings key (.shortUrl ((fields.text? "destination_url").getD "")) := by
  simp only [postShortUrl, respond, keyed, read, demand, pure_bind, Service.create, bind_assoc,
    Creation.row_map, Row.body]

theorem postUser_eq {fields : Json.Fields}
    (keyed : IdempotencyKey.ofHeaders request.headers = .ok key)
    (read : readRequest userShape request.headers request.body = .ok fields) :
    postUser settings request = respond settings key (.user (registrationOf fields)) := by
  simp only [postUser, respond, keyed, read, demand, pure_bind, Service.create, bind_assoc,
    Creation.row_map, Row.body]

/-- How a request starts: with a context of its own, unless the clock cannot be set so far ahead. -/
theorem ensures_startRequest {timeout : Duration} {scene : Scene}
    {goal : Except Service.Failure Unit → Scene → Prop}
    (holds : if timeout.fitsClock = true then goal (.ok ()) (scene.started timeout)
      else goal (.error (.crash (some Duration.clockOverflowText))) scene) :
    Ensures (Service.startRequest timeout) scene goal := by
  unfold Service.startRequest
  cases fits : timeout.fitsClock with
  | true =>
      rw [if_pos fits] at holds
      exact holds
  | false =>
      rw [if_neg (by rw [fits]; decide)] at holds
      exact holds

theorem ensures_respond {scene : Scene} {goal : Except Service.Failure Response → Scene → Prop}
    (holds : if settings.requestTimeout.fitsClock = true then
        Ensures (Service.create key submission) (scene.started settings.requestTimeout)
          fun result after =>
            goal (result.map fun creation => .json 201 (creation.row.body settings.baseUrl)) after
      else goal (.error (.crash (some Duration.clockOverflowText))) scene) :
    Ensures (respond settings key submission) scene goal := by
  refine ensures_bind (ensures_startRequest ?_)
  split
  next fits =>
    rw [if_pos fits] at holds
    refine ensures_bind (holds.imp fun result after ended => ?_)
    cases result with
    | ok creation => exact ensures_pure ended
    | error failure => exact ended
  next unfit =>
    rw [if_neg unfit] at holds
    exact holds

private theorem ensures_post {shape : Json.Shape} {post : HttpSettings → Request → Service Response}
    {submission : Json.Fields → Submission}
    (refused : ∀ error, IdempotencyKey.ofHeaders request.headers = .error error →
      post settings request = Service.refuse error)
    (unread : ∀ key error, IdempotencyKey.ofHeaders request.headers = .ok key →
      readRequest shape request.headers request.body = .error error →
      post settings request = Service.refuse error)
    (responding : ∀ key fields, IdempotencyKey.ofHeaders request.headers = .ok key →
      readRequest shape request.headers request.body = .ok fields →
      post settings request = respond settings key (submission fields))
    {scene : Scene} {goal : Except Service.Failure Response → Scene → Prop}
    (refuses : ∀ error, goal (.error (.error error)) scene)
    (responds : ∀ key submission, Ensures (respond settings key submission) scene goal) :
    Ensures (post settings request) scene goal := by
  cases keyed : IdempotencyKey.ofHeaders request.headers with
  | error error =>
      rw [refused error keyed]
      exact ensures_throw (refuses error)
  | ok key =>
      cases read : readRequest shape request.headers request.body with
      | error error =>
          rw [unread key error keyed read]
          exact ensures_throw (refuses error)
      | ok fields =>
          rw [responding key fields keyed read]
          exact responds key _

section

variable {scene : Scene} {goal : Except Service.Failure Response → Scene → Prop}
  (refuses : ∀ error, goal (.error (.error error)) scene)
  (responds : ∀ key submission, Ensures (respond settings key submission) scene goal)

include refuses responds

/-- A request to either route for creations is refused as it stands, or it asks for a creation. -/
theorem ensures_postShortUrl : Ensures (postShortUrl settings request) scene goal :=
  ensures_post (fun error keyed => by rw [postShortUrl, keyed]; rfl)
    (fun key error keyed read => by rw [postShortUrl, keyed, read]; rfl)
    (fun key fields keyed read => postShortUrl_eq keyed read) refuses responds

theorem ensures_postUser : Ensures (postUser settings request) scene goal :=
  ensures_post (fun error keyed => by rw [postUser, keyed]; rfl)
    (fun key error keyed read => by rw [postUser, keyed, read]; rfl)
    (fun key fields keyed read => postUser_eq keyed read) refuses responds

end

namespace Server

variable {server : Server}

def charged (server : Server) (request : Request) : Server :=
  { server with limiter := (server.limiter.charge request).2 }

/-- A request for a creation gets past the limit and the gate. -/
structure Admits (server : Server) (request : Request) (submission : Submission) : Prop where
  charge : (server.limiter.charge request).1 = .admitted
  isOpen : submission.kind = .user → server.settings.allowRegistration = true

/-- How the server ends where a handler ends with the given result. -/
def ended (server : Server) (result : Except Service.Failure Response) (scene : Scene) :
    Response × Server :=
  match result with
  | .ok response => (response, { server with scene })
  | .error (.error error) => (.ofError error, { server with scene })
  | .error (.crash detail) => { server with scene }.recover detail

theorem handle_eq (server : Server) (handler : Service Response) :
    server.handle handler =
      server.ended (handler.run.run server.scene).1 (handler.run.run server.scene).2 := rfl

/-- Every handler of a request leads from the scene of the server to one with the property, and so does
everything else that the server does with a scene. -/
structure Handles (server : Server) (request : Request) (holds : Scene → Prop) : Prop where
  idle : holds server.scene
  logged : ∀ scene log, holds scene →
    holds { scene with situation := { scene.situation with log } }
  health : Ensures reportHealth server.scene fun _ after => holds after
  redirects : ∀ segment,
    Ensures (redirectFromSegment server.settings segment) server.scene fun _ after => holds after
  shortUrls : Ensures (postShortUrl server.settings request) server.scene fun _ after => holds after
  users : Ensures (postUser server.settings request) server.scene fun _ after => holds after

section

variable {holds : Scene → Prop}

theorem holds_handle (logged : ∀ scene log, holds scene →
      holds { scene with situation := { scene.situation with log } }) {handler : Service Response}
    (ensured : Ensures handler server.scene fun _ after => holds after) :
    holds (server.handle handler).2.scene ∧
      (server.handle handler).2.settings = server.settings := by
  rw [handle_eq]
  unfold ended
  split
  · exact ⟨ensured, rfl⟩
  · exact ⟨ensured, rfl⟩
  · exact ⟨logged _ _ ensured, rfl⟩

theorem Handles.answerOpen (handles : server.Handles request holds) {handler : Service Response}
    (ensured : Ensures handler server.scene fun _ after => holds after) :
    holds (server.answerOpen request handler).2.scene ∧
      (server.answerOpen request handler).2.settings = server.settings := by
  unfold Server.answerOpen
  split
  · exact holds_handle handles.logged ensured
  · exact ⟨handles.idle, rfl⟩

theorem holds_answerLimited (idle : holds server.scene)
    (logged : ∀ scene log, holds scene →
      holds { scene with situation := { scene.situation with log } }) (isOpen : Bool)
    {handler : Service Response}
    (ensured : Ensures handler server.scene fun _ after => holds after) :
    holds (server.answerLimited request isOpen handler).2.scene ∧
      (server.answerLimited request isOpen handler).2.settings = server.settings := by
  unfold Server.answerLimited
  dsimp only
  split
  · exact ⟨logged _ _ idle, rfl⟩
  · exact ⟨idle, rfl⟩
  · split
    · exact ⟨idle, rfl⟩
    · split
      · have handled : holds ((server.charged request).handle handler).2.scene ∧
            ((server.charged request).handle handler).2.settings = server.settings :=
          holds_handle logged ensured
        exact handled
      · exact ⟨idle, rfl⟩

/-- What is kept where a creation is attempted is kept by the request for it, which may be turned away
before. -/
theorem holds_answer_of_asks (asks : request.normalized.Asks key submission)
    (idle : holds server.scene)
    (logged : ∀ scene log, holds scene →
      holds { scene with situation := { scene.situation with log } })
    (ensured : Ensures (respond server.settings key submission) server.scene
      fun _ after => holds after) (id : Uuid) :
    holds (server.answer request id).2.scene := by
  have answered : (server.answer request id).2 = (server.dispatch request.normalized).2 := rfl
  rw [answered, dispatch]
  cases asks with
  | shortUrl fields post route keyed read =>
      rw [← postShortUrl_eq keyed read] at ensured
      rw [route]
      exact (holds_answerLimited idle logged _ ensured).1
  | user fields post route keyed read =>
      rw [← postUser_eq keyed read] at ensured
      rw [route]
      exact (holds_answerLimited idle logged _ ensured).1

/-- Whatever is asked of a server, what its handlers keep is kept. -/
theorem Handles.answer (handles : server.Handles request.normalized holds) (id : Uuid) :
    holds (server.answer request id).2.scene ∧
      (server.answer request id).2.settings = server.settings := by
  have answered : (server.answer request id).2 = (server.dispatch request.normalized).2 := rfl
  rw [answered, dispatch]
  split
  · exact ⟨handles.idle, rfl⟩
  · exact handles.answerOpen handles.health
  · exact handles.answerOpen (handles.redirects _)
  · exact holds_answerLimited handles.idle handles.logged _ handles.shortUrls
  · exact holds_answerLimited handles.idle handles.logged _ handles.users

end

/-- Nothing that is asked of a server changes its settings. -/
theorem settings_answer (server : Server) (request : Request) (id : Uuid) :
    (server.answer request id).2.settings = server.settings := by
  have handles : server.Handles request.normalized fun _ => True :=
    ⟨trivial, fun _ _ _ => trivial, trivial, fun _ => trivial, trivial, trivial⟩
  exact (handles.answer id).2

theorem dispatch_of_asks (asks : request.Asks key submission)
    (admits : server.Admits request submission) :
    server.dispatch request =
      (server.charged request).handle (respond server.settings key submission) := by
  have isPost : Methods.post.allow request.method = true := by rw [asks.post]; rfl
  cases charged : server.limiter.charge request with
  | mk admission limiter =>
      have admitted : admission = .admitted := by
        have same := admits.charge
        rwa [charged] at same
      subst admitted
      have next : server.charged request = { server with limiter } := by rw [Server.charged, charged]
      cases asks with
      | shortUrl fields post route keyed read =>
          rw [dispatch, route]
          dsimp only
          rw [answerLimited, charged, isPost, next, postShortUrl_eq keyed read]
          rfl
      | user fields post route keyed read =>
          rw [dispatch, route]
          dsimp only
          rw [answerLimited, charged, isPost, next, postUser_eq keyed read, admits.isOpen rfl]
          rfl

/-- The limit never answers that something was created. -/
theorem status_of_refused {limiter : RateLimiter} {refusal : Response}
    (refused : (limiter.charge request).1 = .refused refusal) : refusal.status ≠ 201 := by
  unfold RateLimiter.charge at refused
  split at refused
  · cases refused
  · cases refused
    decide
  · dsimp only at refused
    split at refused
    · cases refused
    · cases refused
      exact (by decide : (429 : Nat) ≠ 201)

/-- Only a request that gets to its handler can be answered that something was created. -/
theorem admits_of_created (asks : request.Asks key submission)
    (created : (server.dispatch request).1.status = 201) : server.Admits request submission := by
  have isPost : Methods.post.allow request.method = true := by rw [asks.post]; rfl
  have limited : ∀ {isOpen handler}, (server.answerLimited request isOpen handler).1.status = 201 →
      (server.limiter.charge request).1 = .admitted ∧ isOpen = true := by
    intro isOpen handler created
    rw [answerLimited, isPost] at created
    have refused := @status_of_refused request server.limiter
    cases charged : server.limiter.charge request with
    | mk admission limiter =>
        rw [charged] at created refused
        rcases admission with _ | refusal | text
        · refine ⟨rfl, ?_⟩
          cases isOpen with
          | true => rfl
          | false => cases created
        · exact absurd created (refused rfl)
        · cases created
  cases asks with
  | shortUrl fields post route keyed read =>
      rw [dispatch, route] at created
      exact ⟨(limited created).1, nofun⟩
  | user fields post route keyed read =>
      rw [dispatch, route] at created
      exact ⟨(limited created).1, fun _ => (limited created).2⟩

/-- What a client sees of an answer, and the server after it. -/
structure Answers (server : Server) (request : Request) (id : Uuid) (ended : Response × Server) :
    Prop where
  status : (server.answer request id).1.status = ended.1.status
  content : (server.answer request id).1.content = ended.1.content
  after : (server.answer request id).2 = ended.2

theorem answers_dispatch (id : Uuid) (asks : request.normalized.Asks key submission) :
    server.Answers request id (server.dispatch request.normalized) := by
  have post : (request.normalized.method == "HEAD") = false := by rw [asks.post]; rfl
  have answered : server.answer request id =
      (leaving request.normalized id (server.dispatch request.normalized).1,
        (server.dispatch request.normalized).2) := rfl
  constructor
  · rw [answered, leaving, post]
    rfl
  · rw [answered, leaving, post]
    rfl
  · rw [answered]

/-- A request for a creation that is let through ends as its handler does. -/
theorem answers_handled (id : Uuid) (asks : request.normalized.Asks key submission)
    (admits : server.Admits request.normalized submission)
    {goal : Except Service.Failure Response → Scene → Prop}
    (ensured : Ensures (respond server.settings key submission) server.scene goal) :
    ∃ result after, goal result after ∧
      server.Answers request id ((server.charged request.normalized).ended result after) :=
  ⟨_, _, ensured, handle_eq _ _ ▸ dispatch_of_asks asks admits ▸ answers_dispatch id asks⟩

end Server

end Http

end LinkShortener
