import LinkShortener.Proofs.Http.Likeness
import LinkShortener.Proofs.Text.Trimming

/-! # Refusals

A request for a creation is checked part by part, and the first check that fails decides the answer.
The parts after it are of no account, and the server is left as it was.
-/

namespace LinkShortener

/-! ## Settings that the program starts with -/

/-- The settings are part of some that pass the checks at the start. -/
def HttpSettings.IsAccepted (settings : HttpSettings) : Prop :=
  ∃ whole : Settings, whole.validate = .ok () ∧ whole.http = settings

/-- A check that was passed, and what followed it. -/
private theorem passed_of_ok {ε : Type} {fails : Prop} [Decidable fails] {error : ε}
    {rest : PUnit → Except ε Unit}
    (ended : (if fails then throw error >>= rest else rest ⟨⟩) = Except.ok ()) :
    ¬ fails ∧ rest ⟨⟩ = .ok () := by
  split at ended
  next => cases ended
  next passed => exact ⟨passed, ended⟩

theorem Settings.timeout_le_of_validate {settings : Settings}
    (valid : settings.validate = .ok ()) : settings.requestTimeoutSeconds ≤ 300 := by
  unfold validate at valid
  have formatted := (passed_of_ok valid).2
  have listening := (passed_of_ok formatted).2
  have stored := (passed_of_ok listening).2
  dsimp only at stored
  split at stored
  next url cached =>
    have published := (passed_of_ok (passed_of_ok stored).2).2
    have timed := (passed_of_ok (passed_of_ok published).2).1
    omega
  next uncached =>
    have published := (passed_of_ok stored).2
    have timed := (passed_of_ok (passed_of_ok published).2).1
    omega

theorem HttpSettings.IsAccepted.fitsClock {settings : HttpSettings}
    (accepted : settings.IsAccepted) : settings.requestTimeout.fitsClock = true := by
  rcases accepted with ⟨whole, valid, rfl⟩
  have short := Settings.timeout_le_of_validate valid
  have seconds : whole.http.requestTimeout.seconds = whole.requestTimeoutSeconds :=
    Nat.mul_div_cancel _ (by decide)
  have limit : 300 ≤ Duration.clockLimit := by decide
  rw [Duration.fitsClock, seconds, decide_eq_true_iff]
  exact short.trans limit

def Settings.ordinary : Settings where
  databaseUrl := "postgres://localhost/links"
  redisUrl := none
  listenAddress := "0.0.0.0:3000"
  baseUrl := "https://sho.rt"
  logLevel := "info"
  logFormat := "text"
  behindProxy := false
  cacheTtlSeconds := 3600
  allowRegistration := true
  requestTimeoutSeconds := 10
  maxConnections := 10
  connectTimeout := 30
  idleTimeout := 600
  maxLifetime := 1800

theorem Settings.isAccepted_ordinary : ordinary.http.IsAccepted := ⟨ordinary, rfl, rfl⟩

/-! ## Requests for rows of a kind -/

/-- The answer that there is no destination. -/
def noDestination : ServiceError :=
  .badRequest "`destination_url` cannot be null or empty"
    (.object [("field", .string "destination_url")])

/-- The destination is absent or null, or has no character that is not blank. -/
def Json.Fields.lackDestination (fields : Json.Fields) : Bool :=
  (fields.text? "destination_url").all fun text => text.toList.all Text.isBlank

namespace Row.Kind

def route : Row.Kind → Http.Route
  | .shortUrl => .shortUrls
  | .user => .users

def shape : Row.Kind → Json.Shape
  | .shortUrl => Http.shortUrlShape
  | .user => Http.userShape

def handler (settings : HttpSettings) (request : Http.Request) :
    Row.Kind → Service Http.Response
  | .shortUrl => Http.postShortUrl settings request
  | .user => Http.postUser settings request

/-- What the fields of a body ask for. -/
def submission (fields : Json.Fields) : Row.Kind → Submission
  | .shortUrl => .shortUrl ((fields.text? "destination_url").getD "")
  | .user => .user (Http.registrationOf fields)

end Row.Kind

namespace Http

/-! ## The checks in their order -/

/-- The error for the client, if there is one. -/
def refused? {α : Type} : Except ServiceError α → Option ServiceError
  | .ok _ => none
  | .error error => some error

theorem refused?_eq_some_iff {α : Type} {outcome : Except ServiceError α} {error : ServiceError} :
    refused? outcome = some error ↔ outcome = .error error := by
  cases outcome <;> simp [refused?]

theorem refused?_eq_none_iff {α : Type} {outcome : Except ServiceError α} :
    refused? outcome = none ↔ ∃ value, outcome = .ok value := by
  cases outcome <;> simp [refused?]

/-- The checks of a request for a creation. -/
inductive Check where
  /-- Rows of the kind can be created at all. -/
  | gate
  | key
  | body
  /-- The fields of the body can be used. -/
  | fields
  deriving DecidableEq

namespace Check

/-- The checks that come before. -/
def earlier : Check → List Check
  | .gate => []
  | .key => [.gate]
  | .body => [.gate, .key]
  | .fields => [.gate, .key, .body]

/-- What is wrong with the fields of a body. -/
def fieldFault? (fields : Json.Fields) : Row.Kind → Option ServiceError
  | .shortUrl => if fields.lackDestination then some noDestination else none
  | .user => refused? (registrationOf fields).validate

/-- What a check has against a request. The fields of a body that cannot be read are not checked. -/
def fault? (settings : HttpSettings) (kind : Row.Kind) (request : Request) :
    Check → Option ServiceError
  | .gate => if kind = .user ∧ settings.allowRegistration = false then some registrationClosed
    else none
  | .key => refused? (IdempotencyKey.ofHeaders request.headers)
  | .body => refused? (readRequest kind.shape request.headers request.body)
  | .fields =>
    match readRequest kind.shape request.headers request.body with
    | .ok read => fieldFault? read kind
    | .error _ => none

/-- The check has something against the request, and no check before it has. -/
structure Decides (check : Check) (settings : HttpSettings) (kind : Row.Kind) (request : Request)
    (error : ServiceError) : Prop where
  passed : ∀ other ∈ check.earlier, other.fault? settings kind request = none
  fault : check.fault? settings kind request = some error

/-- Two requests are alike in the parts that a check and those before it look at. -/
def Alike (request other : Request) : Check → Prop
  | .gate => True
  | .key => request.headers.first? "x-idempotency-key" = other.headers.first? "x-idempotency-key"
  | .body | .fields =>
    request.headers.first? "x-idempotency-key" = other.headers.first? "x-idempotency-key" ∧
      request.headers.first? "content-type" = other.headers.first? "content-type" ∧
      request.body = other.body

variable {settings : HttpSettings} {kind : Row.Kind} {request other : Request} {error : ServiceError}

/-- Requests that are alike for a check are alike for the checks before it. -/
theorem Alike.of_earlier {check before : Check} (alike : check.Alike request other)
    (earlier : before ∈ check.earlier) : before.Alike request other := by
  cases check with
  | gate => cases earlier
  | key =>
      rw [List.mem_singleton.mp earlier]
      trivial
  | body =>
      rcases List.mem_pair.mp earlier with rfl | rfl
      · trivial
      · exact alike.1
  | fields =>
      simp only [Check.earlier, List.mem_cons, List.not_mem_nil, or_false] at earlier
      rcases earlier with rfl | rfl | rfl
      · trivial
      · exact alike.1
      · exact alike

theorem Alike.fault?_eq {check : Check} (alike : check.Alike request other) :
    check.fault? settings kind request = check.fault? settings kind other := by
  cases check with
  | gate => rfl
  | key => rw [fault?, fault?, ofHeaders_congr alike]
  | body => rw [fault?, fault?, readRequest_congr alike.2.1 alike.2.2]
  | fields => rw [fault?, fault?, readRequest_congr alike.2.1 alike.2.2]

/-- Where rows of the kind cannot be created, that is the fault that decides. -/
theorem Decides.of_closed {check : Check} (decides : check.Decides settings kind request error)
    (closed : kind = .user ∧ settings.allowRegistration = false) : error = registrationClosed := by
  have fault : Check.gate.fault? settings kind request = some registrationClosed := if_pos closed
  cases check with
  | gate => exact Option.some.inj (decides.fault.symm.trans fault)
  | key => cases fault.symm.trans (decides.passed .gate (by decide))
  | body => cases fault.symm.trans (decides.passed .gate (by decide))
  | fields => cases fault.symm.trans (decides.passed .gate (by decide))

theorem Decides.beyond_gate {check : Check} (decides : check.Decides settings kind request error)
    (isOpen : ¬ (kind = .user ∧ settings.allowRegistration = false)) : check ≠ .gate := by
  rintro rfl
  have passed : Check.gate.fault? settings kind request = none := if_neg isOpen
  cases passed.symm.trans decides.fault

/-- What comes after the check that decides has no influence. -/
theorem Decides.of_alike {check : Check} (decides : check.Decides settings kind request error)
    (alike : check.Alike request other) : check.Decides settings kind other error where
  passed before earlier :=
    (alike.of_earlier earlier).fault?_eq.symm.trans (decides.passed before earlier)
  fault := alike.fault?_eq.symm.trans decides.fault

end Check

/-! ## How the checks end a request -/

section

variable {settings : HttpSettings} {kind : Row.Kind} {request : Request} {error : ServiceError}
  {fields : Json.Fields} {key : IdempotencyKey}

theorem handler_of_unkeyed (unkeyed : IdempotencyKey.ofHeaders request.headers = .error error) :
    kind.handler settings request = Service.refuse error := by
  cases kind with
  | shortUrl =>
      rw [Row.Kind.handler, postShortUrl, unkeyed]
      rfl
  | user =>
      rw [Row.Kind.handler, postUser, unkeyed]
      rfl

theorem handler_of_unread (keyed : IdempotencyKey.ofHeaders request.headers = .ok key)
    (unread : readRequest kind.shape request.headers request.body = .error error) :
    kind.handler settings request = Service.refuse error := by
  cases kind with
  | shortUrl =>
      rw [Row.Kind.shape] at unread
      rw [Row.Kind.handler, postShortUrl, keyed, unread]
      rfl
  | user =>
      rw [Row.Kind.shape] at unread
      rw [Row.Kind.handler, postUser, keyed, unread]
      rfl

theorem handler_of_read (keyed : IdempotencyKey.ofHeaders request.headers = .ok key)
    (read : readRequest kind.shape request.headers request.body = .ok fields) :
    kind.handler settings request = respond settings key (kind.submission fields) := by
  cases kind with
  | shortUrl => exact postShortUrl_eq keyed read
  | user => exact postUser_eq keyed read

theorem isEmpty_trim_destination (fields : Json.Fields) :
    (Text.trim ((fields.text? "destination_url").getD "")).isEmpty = fields.lackDestination := by
  rw [Text.isEmpty_trim, Json.Fields.lackDestination]
  cases fields.text? "destination_url" <;> rfl

/-- Fields with a fault lead to nothing but an answer. -/
theorem ensures_create_refused (fault : Check.fieldFault? fields kind = some error)
    (scene : Scene) : Ensures (Service.create key (kind.submission fields)) scene fun result after =>
      result = .error (.error error) ∧ after = scene := by
  cases kind with
  | shortUrl =>
      rw [Check.fieldFault?, ← isEmpty_trim_destination, Option.ite_none_right_eq_some] at fault
      refine ensures_bind (Service.ensures_createShortUrl_parts (fun _ => ?_) fun filled => ?_)
      · exact ⟨by rw [← Option.some.inj fault.2]; rfl, rfl⟩
      · cases fault.1.symm.trans filled
  | user =>
      have invalid := refused?_eq_some_iff.mp fault
      refine ensures_bind ?_
      unfold Service.createUser
      rw [invalid]
      exact ensures_bind (ensures_throw ⟨rfl, rfl⟩)

/-- The scene but for the context of the last request. -/
def SameButContext (before after : Scene) : Prop :=
  ∃ context, after = { before with situation := { before.situation with context } }

/-- A handler whose request has a fault answers so, and does nothing else. -/
theorem ensures_handler_refused {check : Check} (decides : check.Decides settings kind request error)
    (beyond : check ≠ .gate) (fits : settings.requestTimeout.fitsClock = true) (scene : Scene) :
    Ensures (kind.handler settings request) scene fun result after =>
      result = .error (.error error) ∧ SameButContext scene after := by
  have idle : SameButContext scene scene := ⟨scene.situation.context, rfl⟩
  cases check with
  | gate => exact absurd rfl beyond
  | key =>
      rw [handler_of_unkeyed (refused?_eq_some_iff.mp decides.fault)]
      exact ensures_throw ⟨rfl, idle⟩
  | body =>
      rcases refused?_eq_none_iff.mp (decides.passed .key (by decide)) with ⟨key, keyed⟩
      rw [handler_of_unread keyed (refused?_eq_some_iff.mp decides.fault)]
      exact ensures_throw ⟨rfl, idle⟩
  | fields =>
      rcases refused?_eq_none_iff.mp (decides.passed .key (by decide)) with ⟨key, keyed⟩
      rcases refused?_eq_none_iff.mp (decides.passed .body (by decide)) with ⟨fields, read⟩
      have fault := decides.fault
      rw [Check.fault?, read] at fault
      rw [handler_of_read keyed read]
      apply ensures_respond
      rw [if_pos fits]
      refine (ensures_create_refused fault _).imp fun result after ended => ?_
      rcases ended with ⟨rfl, rfl⟩
      exact ⟨rfl, _, rfl⟩

end

namespace Server

variable {server : Server} {request : Request} {kind : Row.Kind} {error : ServiceError}

/-- The request asks for a row of the kind, as far as method and path tell, and the limit lets it
through. -/
structure Receives (server : Server) (request : Request) (kind : Row.Kind) : Prop where
  post : request.method = "POST"
  route : Route.ofPath? request.normalized.path = some kind.route
  charge : (server.limiter.charge request.normalized).1 = .admitted

/-- The request is answered with the error. Of the server nothing changes but what the limit has
counted and the context of the last request. -/
structure Refuses (server : Server) (request : Request) (id : Uuid) (error : ServiceError) :
    Prop where
  response : (server.answer request id).1 =
    (Response.ofError error).withField ⟨requestIdHeader, responseId request id⟩
  after : ∃ scene, SameButContext server.scene scene ∧
    (server.answer request id).2 = { server.charged request.normalized with scene }

theorem dispatch_of_receives (receives : server.Receives request kind) :
    server.dispatch request.normalized =
      if kind = .user ∧ server.settings.allowRegistration = false then
        (.ofError registrationClosed, server.charged request.normalized)
      else (server.charged request.normalized).handle
        (kind.handler server.settings request.normalized) := by
  have isPost : Methods.post.allow request.normalized.method = true := by
    have same : request.normalized.method = "POST" := receives.post
    rw [same]
    rfl
  have admitted := receives.charge
  have next : server.charged request.normalized =
      { server with limiter := (server.limiter.charge request.normalized).2 } := rfl
  rw [next]
  cases charged : server.limiter.charge request.normalized with
  | mk admission limiter =>
      rw [charged] at admitted
      subst admitted
      rw [dispatch, receives.route]
      cases kind with
      | shortUrl =>
          dsimp only [Row.Kind.route]
          rw [answerLimited, charged, isPost]
          rfl
      | user =>
          dsimp only [Row.Kind.route]
          rw [answerLimited, charged, isPost]
          cases server.settings.allowRegistration <;> rfl

theorem refuses_of_decides {check : Check} (accepted : server.settings.IsAccepted)
    (receives : server.Receives request kind)
    (decides : check.Decides server.settings kind request error) (id : Uuid) :
    server.Refuses request id error := by
  have post : (request.normalized.method == "HEAD") = false := by
    have same : request.normalized.method = "POST" := receives.post
    rw [same]
    rfl
  have ended : ∃ scene, SameButContext server.scene scene ∧ server.dispatch request.normalized =
      (.ofError error, { server.charged request.normalized with scene }) := by
    rw [dispatch_of_receives receives]
    split
    next closed =>
      rw [decides.of_closed closed]
      exact ⟨server.scene, ⟨_, rfl⟩, rfl⟩
    next isOpen =>
      have normalized : check.Decides server.settings kind request.normalized error :=
        ⟨decides.passed, decides.fault⟩
      rcases ensures_handler_refused normalized (normalized.beyond_gate isOpen) accepted.fitsClock
        server.scene with ⟨failed, same⟩
      refine ⟨_, same, ?_⟩
      rw [handle_eq]
      have charged : (server.charged request.normalized).scene = server.scene := rfl
      rw [charged, failed]
      rfl
  rcases ended with ⟨scene, same, dispatched⟩
  have answered : server.answer request id =
      (leaving request.normalized id (server.dispatch request.normalized).1,
        (server.dispatch request.normalized).2) := rfl
  rw [dispatched] at answered
  constructor
  · rw [answered, leaving, post]
    rfl
  · exact ⟨scene, same, by rw [answered]⟩

private theorem asks_of_faultless (receives : server.Receives request kind)
    (faultless : ∀ check : Check, check.fault? server.settings kind request = none) :
    ∃ key submission, request.normalized.Asks key submission ∧ submission.kind = kind ∧
      submission.IsAcceptable := by
  rcases refused?_eq_none_iff.mp (faultless .key) with ⟨key, keyed⟩
  rcases refused?_eq_none_iff.mp (faultless .body) with ⟨fields, read⟩
  have fine := faultless .fields
  rw [Check.fault?, read] at fine
  cases kind with
  | shortUrl =>
      refine ⟨key, _, .shortUrl fields receives.post receives.route keyed read, rfl, ?_⟩
      rw [Submission.IsAcceptable, isEmpty_trim_destination]
      by_contra lacking
      rw [Bool.not_eq_false] at lacking
      dsimp only [Check.fieldFault?] at fine
      rw [if_pos lacking] at fine
      cases fine
  | user =>
      refine ⟨key, _, .user fields receives.post receives.route keyed read, rfl, ?_⟩
      rcases refused?_eq_none_iff.mp fine with ⟨⟨⟩, valid⟩
      exact valid

/-- The creation that a request asks for is attempted if no check has anything against the request. -/
theorem attempts_of_faultless (receives : server.Receives request kind)
    (faultless : ∀ check : Check, check.fault? server.settings kind request = none) :
    ∃ key submission, request.normalized.Asks key submission ∧ submission.IsAcceptable ∧
      server.dispatch request.normalized = (server.charged request.normalized).handle
        (respond server.settings key submission) := by
  rcases asks_of_faultless receives faultless with ⟨key, submission, asks, same, acceptable⟩
  have isOpen : submission.kind = .user → server.settings.allowRegistration = true := by
    intro user
    by_contra closed
    have fault : Check.gate.fault? server.settings kind request = some registrationClosed :=
      if_pos ⟨same.symm.trans user, Bool.eq_false_iff.mpr closed⟩
    cases fault.symm.trans (faultless .gate)
  exact ⟨key, submission, asks, acceptable, dispatch_of_asks asks ⟨receives.charge, isOpen⟩⟩

theorem refuses_blank {key : IdempotencyKey} {fields : Json.Fields}
    (accepted : server.settings.IsAccepted) (receives : server.Receives request .shortUrl)
    (keyed : IdempotencyKey.ofHeaders request.headers = .ok key)
    (read : readRequest shortUrlShape request.headers request.body = .ok fields)
    (lacking : fields.lackDestination = true) (id : Uuid) :
    server.Refuses request id noDestination := by
  have readable : readRequest Row.Kind.shortUrl.shape request.headers request.body = .ok fields :=
    read
  have decides : Check.fields.Decides server.settings .shortUrl request noDestination := by
    constructor
    · intro check earlier
      simp only [Check.earlier, List.mem_cons, List.not_mem_nil, or_false] at earlier
      rcases earlier with rfl | rfl | rfl
      · rw [Check.fault?, if_neg]
        rintro ⟨⟨⟩, -⟩
      · exact refused?_eq_none_iff.mpr ⟨key, keyed⟩
      · exact refused?_eq_none_iff.mpr ⟨fields, readable⟩
    · rw [Check.fault?, readable]
      exact if_pos lacking
  exact refuses_of_decides accepted receives decides id

end Server

/-- A request with a key that is none, and nothing that says what its body is. -/
def Request.botched : Request where
  method := "POST"
  target := "/api/v1/users".toList
  headers := [field "x-idempotency-key" "one"]
  body := []
  peer := some (.v4 [127, 0, 0, 1])

namespace Server

end Server

end Http

end LinkShortener
