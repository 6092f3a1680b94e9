import LinkShortener.Proofs.Http.Serving
import LinkShortener.Proofs.Service.Settlement

/-! # Repeated requests

The request that opens the entry of a key decides what every later request with the key is answered,
until the entry expires. Nothing that the server does in between can change that.
-/

namespace LinkShortener.Http

namespace Server

abbrev tables (server : Server) : Tables := server.scene.situation.store.tables

abbrev clock (server : Server) : Instant := server.scene.situation.store.clock

/-! ## Runs -/

/-- What may change between two things that a server does: everything but the tables, the supplies and
the settings, but the clock does not go back. -/
structure Continues (before after : Server) : Prop where
  scene : before.scene.Continues after.scene
  settings : after.settings = before.settings

/-- The states that a server can come to: it answers requests of any kind, its operator works on the
store, and time passes, in any order. -/
inductive Later (first : Server) : Server → Prop where
  | now : Later first first
  | continues {before after : Server} (later : Later first before)
      (continues : before.Continues after) : Later first after
  | answers {before : Server} (later : Later first before) (fresh : before.scene.IsFresh)
      (request : Request) (id : Uuid) : Later first (before.answer request id).2
  | operates {before : Server} (later : Later first before) (fresh : before.scene.IsFresh)
      (operation : Operation) : Later first { before with scene := operation.after before.scene }

/-- A server with empty tables, which it has alone, and with the slugs of the generator. -/
structure IsNew (server : Server) : Prop where
  empty : server.tables = .empty
  solitary : server.scene.situation.store.IsSolitary
  generated : ∀ place, ∃ words rest,
    Slug.generate words = some (server.scene.slugs.values place, rest)

def Reachable (server : Server) : Prop := ∃ start : Server, start.IsNew ∧ start.Later server

variable {first server : Server}

theorem Proceeds.trans {middle : Server} (leading : first.Proceeds middle)
    (following : middle.Proceeds server) : first.Proceeds server :=
  ⟨leading.scene.trans following.scene, following.settings.trans leading.settings⟩

/-- Whatever a server does, nothing is lost but expired entries. -/
theorem Later.proceeds (later : first.Later server) : first.Proceeds server := by
  induction later with
  | now => exact ⟨.refl _, rfl⟩
  | continues later continues induction =>
      exact induction.trans ⟨continues.scene.proceeds, continues.settings⟩
  | answers later fresh request id induction =>
      exact induction.trans (proceeds_answer fresh request id)
  | operates later fresh operation induction =>
      exact induction.trans ⟨operation.proceeds fresh, rfl⟩

theorem Reachable.lawful (reachable : server.Reachable) : server.scene.IsLawful := by
  rcases reachable with ⟨start, new, later⟩
  have reached : start.scene.Reachable := .start _ new.empty new.solitary new.generated
  exact later.proceeds.scene.lawful reached.lawful

/-! ## The first request -/

variable {request again : Request} {id againId : Uuid} {key : IdempotencyKey}
  {submission other : Submission} {entry : LedgerEntry}

/-- A request that creates something and writes the entry of its key. -/
structure Opens (server : Server) (request : Request) (id : Uuid) (key : IdempotencyKey)
    (submission : Submission) (entry : LedgerEntry) : Prop where
  asks : request.normalized.Asks key submission
  fresh : server.scene.IsFresh
  created : (server.answer request id).1.status = 201
  entered : (server.answer request id).2.tables.ledger.find? key.token = some entry
  new : server.tables.ledger.find? key.token ≠ some entry

/-- A row that an entry is for, as the first request has left it. -/
structure Stores (server : Server) (answer : Response × Server) (submission : Submission)
    (entry : LedgerEntry) (stored : Row) : Prop where
  member : stored ∈ answer.2.tables.rows
  id : stored.id = entry.referenceId
  hash : stored.identity.fingerprint = entry.requestHash
  identity : stored.identity = submission.identity
  content : answer.1.content = .json (stored.body server.settings.baseUrl)

theorem status_ne_created (error : ServiceError) : error.status ≠ 201 := by
  rw [ServiceError.status]
  cases error.kind <;> decide

theorem returned_of_created {result : Except Service.Failure Response} {scene : Scene}
    (created : (server.ended result scene).1.status = 201) : ∃ response, result = .ok response := by
  rcases result with (error | detail) | response
  · exact absurd created (status_ne_created error)
  · exact absurd created (status_ne_created .internal)
  · exact ⟨response, rfl⟩

/-- The request that opens an entry has stored the row of its submission. -/
theorem Opens.stores (opens : server.Opens request id key submission entry)
    (lawful : server.scene.IsLawful) :
    server.settings.requestTimeout.fitsClock = true ∧
      entry.expiresAt = entry.createdAt.later entryLifetime ∧
      ∃ stored, server.Stores (server.answer request id) submission entry stored := by
  have created : (server.dispatch request.normalized).1.status = 201 :=
    (answers_dispatch id opens.asks).status ▸ opens.created
  have handled : Ensures (respond server.settings key submission) server.scene fun result after =>
      ∀ response, result = .ok response → server.settings.requestTimeout.fitsClock = true ∧
        ∃ creation row commits, response = .json 201 (creation.row.body server.settings.baseUrl) ∧
          Service.Calls key submission (server.scene.started server.settings.requestTimeout) row
            commits (.ok creation) after := by
    apply ensures_respond
    split
    next fits =>
      apply (Service.ensures_create key submission _).imp
      rintro (failure | creation) after ⟨row, commits, calls⟩ response same
      · cases same
      · cases same
        exact ⟨fits, creation, row, commits, rfl, calls⟩
    next unfit => exact nofun
  rcases answers_handled id opens.asks (admits_of_created opens.asks created) handled with
    ⟨result, after, returns, answers⟩
  rcases returned_of_created (answers.status ▸ opens.created) with ⟨response, rfl⟩
  rcases returns response rfl with ⟨fits, creation, row, commits, rfl, calls⟩
  have scene : (server.answer request id).2.scene = after := congrArg Server.scene answers.after
  have entered := opens.entered
  rw [tables, scene] at entered
  -- The entry is new, so the last transaction of the call has written it together with the row.
  have scenery : server.scene.Proceeds (server.scene.started server.settings.requestTimeout) :=
    .of_scenery rfl rfl rfl
  rcases calls.opening_stores (scenery.lawful lawful) opens.fresh entered opens.new with
    ⟨now, rfl, rfl, member⟩
  refine ⟨fits, rfl, row.storedAt now, ?_, ?_, ?_, ?_, answers.content⟩
  · rw [tables, scene]
    exact member
  · rw [NewRow.id_storedAt]
    rfl
  · rw [NewRow.identity_storedAt]
    rfl
  · rcases calls.returned _ rfl with ⟨yields, -⟩
    rw [NewRow.identity_storedAt, yields.identity_eq]

/-! ## A later request -/

/-- A request for a creation that nothing gets in the way of. -/
structure Meets (server : Server) (request : Request) (id : Uuid) (key : IdempotencyKey)
    (submission : Submission) : Prop where
  asks : request.normalized.Asks key submission
  acceptable : submission.IsAcceptable
  admits : server.Admits request.normalized submission
  fresh : server.scene.IsFresh
  calm : server.scene.IsCalm
  serves : server.scene.Serves submission
  inTime : ¬ (server.answer request id).2.scene.situation.IsOver

/-- What a client sees of a creation, and the tables after it. -/
def Shows (server : Server) (kind : Row.Kind) (outcome : Except StoreError (Creation Row × Tables))
    (answer : Response × Server) : Prop :=
  match outcome with
  | .ok (creation, tables) => answer.1.status = 201 ∧
    answer.1.content = .json (creation.row.body server.settings.baseUrl) ∧ answer.2.tables = tables
  | .error error => answer.1.status = (kind.answered error).1.status ∧
    answer.1.content = .json (kind.answered error).1.body ∧ answer.2.tables = server.tables

theorem isOver_ended {result : Except Service.Failure Response} {scene : Scene}
    (late : scene.situation.IsOver) : (server.ended result scene).2.scene.situation.IsOver := by
  rcases result with (error | detail) | response
  · exact late
  · exact late
  · exact late

/-- A creation that nothing gets in the way of is one step on the tables. -/
theorem Meets.shows (meets : server.Meets request id key submission)
    (lawful : server.scene.IsLawful) (fits : server.settings.requestTimeout.fitsClock = true) :
    ∃ row, submission.Yields server.scene.slugs.values server.scene.ids.draw.1 row ∧
      server.tables.HasRoom row ∧ server.Shows submission.kind
        (server.tables.create (server.answer request id).2.clock (row.claim key) row)
        (server.answer request id) := by
  have handled : Ensures (respond server.settings key submission) server.scene fun result after =>
      after.situation.IsOver ∨ ∃ row created,
        Service.Creates key submission (server.scene.started server.settings.requestTimeout) row
          created after ∧
        result = created.map fun creation => .json 201 (creation.row.body server.settings.baseUrl) := by
    apply ensures_respond
    rw [if_pos fits]
    have calm : (server.scene.started server.settings.requestTimeout).IsCalm :=
      ⟨meets.calm.isOpen, meets.calm.spent, meets.calm.solitary⟩
    refine Ensures.imp (Service.completes_create calm lawful.wellFormed meets.acceptable
      meets.serves) fun result after => Or.imp_right ?_
    rintro ⟨row, creates⟩
    exact ⟨row, result, creates, rfl⟩
  rcases answers_handled id meets.asks meets.admits handled with ⟨result, after, ended, answers⟩
  rcases ended with late | ⟨row, created, creates, rfl⟩
  · refine absurd ?_ meets.inTime
    rw [answers.after]
    exact isOver_ended late
  · refine ⟨row, creates.yields, creates.room, ?_⟩
    have settles : Service.Settles submission.kind
        (server.tables.create after.situation.store.clock (row.claim key) row) server.tables created
        after.situation.store.tables := creates.settles
    cases outcome : server.tables.create after.situation.store.clock (row.claim key) row with
    | ok made =>
        rw [outcome] at settles
        rcases settles with ⟨rfl, stays⟩
        have scene : (server.answer request id).2.scene = after := congrArg Server.scene answers.after
        rw [clock, scene, outcome]
        refine ⟨answers.status, answers.content, ?_⟩
        rw [tables, scene]
        exact stays
    | error error =>
        rw [outcome] at settles
        rcases settles with ⟨rfl, stays⟩
        have scene : (server.answer request id).2.scene = after := congrArg Server.scene answers.after
        rw [clock, scene, outcome]
        refine ⟨answers.status, answers.content, ?_⟩
        rw [tables, scene]
        exact stays

/-- The answer to a request whose key is bound to nothing: its row and a new entry are stored, unless
the store refuses the row. -/
def TakesAsFirst (server : Server) (key : IdempotencyKey) (row : NewRow)
    (answer : Response × Server) : Prop :=
  match server.tables.refusal? row with
  | none => answer.1.status = 201 ∧
    answer.1.content = .json ((row.storedAt answer.2.clock).body server.settings.baseUrl) ∧
    answer.2.tables = { server.tables with
      ledger := server.tables.ledger.put (.opened (row.claim key) row.id answer.2.clock)
      }.insert (row.storedAt answer.2.clock)
  | some error => answer.1.status = (row.kind.answered error.classify).1.status ∧
    answer.1.content = .json (row.kind.answered error.classify).1.body ∧
    answer.2.tables = server.tables

/-- A new server to which nothing happens but requests. -/
def undisturbed : Server where
  settings := ⟨"https://sho.rt", true, Duration.ofMilliseconds 30000⟩
  limiter := .ofProxy false
  scene := { Scene.calm with slugs := .ofList ["abcd"] fun _ => "efgh" }

end Server

def Request.shortening : Request where
  method := "POST"
  target := "/api/v1/shorturl".toList
  headers := [field "x-idempotency-key" "22222222-2222-2222-2222-222222222222",
    field "content-type" "application/json"]
  body := Text.encodeUtf8 "\x7b\"destination_url\":\"https://example.com\"\x7d"
  peer := some (.v4 [127, 0, 0, 1])

namespace Server

theorem isNew_undisturbed : undisturbed.IsNew where
  empty := rfl
  solitary := Database.isSolitary_of_nil rfl
  generated := by
    have first : Slug.generate [0, 1744830464, 1811939328, 1879048192, 1946157056] =
      some ("abcd", []) := by decide
    have others : Slug.generate [0, 2013265920, 2080374784, 2147483648, 2214592512] =
      some ("efgh", []) := by decide
    intro place
    cases place with
    | zero => exact ⟨_, _, first⟩
    | succ place => exact ⟨_, _, others⟩

theorem asks_shortening :
    Request.shortening.normalized.Asks ⟨.ofDigit 2⟩ (.shortUrl "https://example.com") :=
  @Request.Asks.of_computed _ _ [("destination_url", some "https://example.com")] rfl rfl
    (by decide +kernel) (by decide +kernel)

private theorem computed_shortening :
    let answer := undisturbed.answer .shortening (.ofDigit 7)
    let again := answer.2.answer .shortening (.ofDigit 8)
    (answer.1.status = 201 ∧
      (answer.2.tables.ledger.find? (.ofDigit 2)).any
        (fun entry => again.2.clock < entry.expiresAt)) ∧
    (answer.2.scene.ids.drawn = 1 ∧ answer.2.scene.ids.values 0 ≠ answer.2.scene.ids.values 1) ∧
    (answer.2.scene.situation.store.isClosed = false ∧
      answer.2.scene.situation.store.faults.isEmpty ∧
      answer.2.scene.situation.store.interludes.isEmpty) ∧
    answer.2.tables.shortUrlBySlug?
      (answer.2.scene.slugs.values (answer.2.scene.slugs.drawn + 0)) = none ∧
    (match (answer.2.limiter.charge Request.shortening.normalized).1 with
      | .admitted => true
      | _ => false) = true ∧
    again.2.scene.situation.context.check again.2.scene.situation.now = none := by decide +kernel

end Server

end LinkShortener.Http
