import LinkShortener.Proofs.Http.Likeness
import LinkShortener.Proofs.Http.Repetition
import LinkShortener.Proofs.Http.SideBySide
import LinkShortener.Proofs.Service.Secrecy

/-! # Secrecy of passwords

A password decides nothing but the hash that is stored for it. Two requests for registrations that
differ in the password only are answered the same, and leave tables that are the same but for the hash of
a new user.
-/

namespace LinkShortener.Http

open Service

/-! ## Requests -/

/-- Requests that are the same but for the body and the header that tells its length. -/
structure Request.SameButBody (request other : Request) : Prop where
  method : other.method = request.method
  target : other.target = request.target
  headers : ∀ name, name ≠ "content-length" → other.headers.all name = request.headers.all name
  peer : other.peer = request.peer

namespace Request.SameButBody

variable {request other : Request} (same : request.SameButBody other)

include same

theorem sameBut : request.SameBut "content-length" other :=
  ⟨same.method, same.target, same.headers, same.peer⟩

theorem normalized : request.normalized.SameButBody other.normalized :=
  ⟨same.method, same.sameBut.normalized.target, same.headers, same.peer⟩

theorem key : IdempotencyKey.ofHeaders other.headers = IdempotencyKey.ofHeaders request.headers :=
  ofHeaders_congr (same.sameBut.first? (by decide))

theorem saysJson : Http.saysJson other.headers = Http.saysJson request.headers :=
  saysJson_congr (same.sameBut.first? (by decide))

end Request.SameButBody

/-- A request with a body that can be read as a registration. -/
structure Request.Registers (request : Request) (registration : Registration) : Prop where
  length : request.body.length ≤ bodyLimit
  read : ∃ fields, Json.readBody userShape request.body = .ok fields ∧
    registrationOf fields = registration

/-- Such a body is taken if the headers say what it is. -/
theorem Request.Registers.taken {request : Request} {registration : Registration}
    (registers : request.Registers registration) (json : saysJson request.headers = true) :
    ∃ fields, readRequest userShape request.headers request.body = .ok fields ∧
      registrationOf fields = registration := by
  rcases registers.read with ⟨fields, read, same⟩
  refine ⟨fields, ?_, same⟩
  unfold readRequest
  rw [json, if_neg (Nat.not_lt.mpr registers.length), read]
  rfl

theorem readRequest_of_unsaid {shape : Json.Shape} {headers : Headers} {body : List UInt8}
    (unsaid : saysJson headers = false) : readRequest shape headers body =
      .error (unusableBody "Expected request with `Content-Type: application/json`") := by
  unfold readRequest
  rw [unsaid]
  rfl

/-! ## Handlers -/

variable {first second : Scene} {related : Tables → Tables → Prop}

theorem couple_startRequest {timeout : Duration}
    {goal : Except Service.Failure Unit → Except Service.Failure Unit → Scene → Scene → Prop}
    (starts : goal (.ok ()) (.ok ()) (first.started timeout) (second.started timeout))
    (overflows : ∀ failure, goal (.error failure) (.error failure) first second) :
    Couple (startRequest timeout) (startRequest timeout) first second goal := by
  apply ensures_startRequest
  split
  next fits =>
    apply ensures_startRequest
    rw [if_pos fits]
    exact starts
  next unfit =>
    apply ensures_startRequest
    rw [if_neg unfit]
    exact overflows _

theorem twins_started (timeout : Duration) (twins : first.Twins related second) :
    (first.started timeout).Twins related (second.started timeout) := by
  rcases twins with ⟨hasher, store, twins⟩
  exact .intro hasher store twins

/-- Two requests for registrations that differ in the password only. -/
structure Request.DiffersInPassword (request other : Request) (own asked : Registration) : Prop where
  same : request.SameButBody other
  registers : request.Registers own
  otherRegisters : other.Registers asked
  differs : own.DiffersInPassword asked

theorem agree_postUser (settings : HttpSettings) {request other : Request}
    {own asked : Registration} {hash otherHash : String} {users : List User}
    (differs : request.DiffersInPassword other own asked)
    (makes : Password.Makes first.hasher own.password hash)
    (otherMakes : Password.Makes second.hasher asked.password otherHash)
    (twins : first.Twins (Tables.Twins users ⟨first.ids.draw.1, own.username, own.email, hash⟩
      otherHash) second) :
    Agree (postUser settings request) (postUser settings other) first second fun _ =>
      Scene.Twins (Tables.Twins users ⟨first.ids.draw.1, own.username, own.email, hash⟩
        otherHash) := by
  unfold postUser
  rw [differs.same.key]
  cases IdempotencyKey.ofHeaders request.headers with
  | error error => exact agree_bind (agree_throw twins)
  | ok key =>
      refine agree_bind (agree_pure ?_)
      cases json : saysJson request.headers with
      | false =>
          rw [readRequest_of_unsaid json, readRequest_of_unsaid (differs.same.saysJson.trans json)]
          exact agree_bind (agree_throw twins)
      | true =>
          rcases differs.registers.taken json with ⟨fields, read, rfl⟩
          rcases differs.otherRegisters.taken (differs.same.saysJson.trans json) with
            ⟨otherFields, otherRead, rfl⟩
          rw [read, otherRead]
          refine couple_bind (couple_pure (couple_bind (couple_startRequest ?_ fun _ => ?_)))
          · have made : Password.Makes (first.started settings.requestTimeout).hasher
                (registrationOf fields).password hash := makes
            have otherMade : Password.Makes (second.started settings.requestTimeout).hasher
                (registrationOf otherFields).password otherHash := otherMakes
            apply agree_of_endsTwin
            refine couple_bind_twin (couple_createUser key differs.differs made otherMade
              (twins_started _ twins)) fun creation other after otherAfter alike still => ?_
            rw [alike.body]
            exact couple_pure ⟨rfl, still⟩
          · exact ⟨rfl, twins⟩

/-! ## Servers -/

namespace Server

variable {server : Server} {request other : Request} {own asked : Registration}
  {hash otherHash : String}

/-- The server with another hasher, or with the same one when it draws another salt. -/
def hashingBy (server : Server) (hasher : Password.Hasher) : Server :=
  { server with scene := { server.scene with hasher } }

theorem Reachable.hashingBy (reachable : server.Reachable) (hasher : Password.Hasher) :
    (server.hashingBy hasher).Reachable := by
  have solitary := reachable.lawful.solitary
  rcases reachable with ⟨start, new, later⟩
  exact ⟨start, new, later.continues ⟨⟨rfl, le_refl _, solitary, rfl, rfl⟩, rfl⟩⟩

theorem beside_hashingBy (solitary : server.scene.situation.store.IsSolitary)
    (hasher : Password.Hasher) (row : NewUser) (hash : String) :
    server.Beside (Scene.Twins (Tables.Twins server.tables.users row hash))
      (server.hashingBy hasher) := by
  refine ⟨rfl, .intro hasher server.scene.situation.store ?_⟩
  exact .intro server.scene.situation.store.commits
    (.without server.tables.shortUrls server.tables.ledger) trivial solitary

/-- Nothing but the hash of a new user tells the tables of twins apart. -/
theorem Beside.tables_twins {first second : Server} {users : List User} {row : NewUser}
    (beside : first.Beside (Scene.Twins (Tables.Twins users row hash)) second) :
    Tables.Twins users row hash first.tables second.tables ∧
      second.scene.situation.log = first.scene.situation.log := by
  have scene := beside.scene
  unfold Server.tables
  generalize first.scene = own at scene ⊢
  generalize second.scene = other at scene ⊢
  rcases scene with ⟨hasher, store, twins⟩
  exact ⟨twins.tables, rfl⟩

/-- Requests that differ in the password only are answered the same. -/
theorem answersBeside_hashingBy (solitary : server.scene.situation.store.IsSolitary)
    (differs : request.DiffersInPassword other own asked)
    (route : Route.ofPath? request.normalized.path = some .users) {hasher : Password.Hasher}
    (makes : Password.Makes server.scene.hasher own.password hash)
    (otherMakes : Password.Makes hasher asked.password otherHash) (id : Uuid) :
    AnswersBeside
      (Scene.Twins (Tables.Twins server.tables.users
        ⟨server.scene.ids.draw.1, own.username, own.email, hash⟩ otherHash))
      (server.answer request id) ((server.hashingBy hasher).answer other id) := by
  have normalized : request.normalized.DiffersInPassword other.normalized own asked :=
    ⟨differs.same.normalized, ⟨differs.registers.length, differs.registers.read⟩,
      ⟨differs.otherRegisters.length, differs.otherRegisters.read⟩, differs.differs⟩
  have same := normalized.same
  have beside := beside_hashingBy solitary hasher
    ⟨server.scene.ids.draw.1, own.username, own.email, hash⟩ otherHash
  have answered := beside.answerLimited respects_note same.method (same.sameBut.charge (by decide) _)
    server.settings.allowRegistration (agree_postUser server.settings normalized makes
      otherMakes beside.scene)
  have dispatched : server.dispatch request.normalized =
      server.answerLimited request.normalized server.settings.allowRegistration
        (postUser server.settings request.normalized) := by
    rw [dispatch, route]
  have otherDispatched : (server.hashingBy hasher).dispatch other.normalized =
      (server.hashingBy hasher).answerLimited other.normalized server.settings.allowRegistration
        (postUser server.settings other.normalized) := by
    rw [dispatch, same.sameBut.path, route]
    rfl
  rw [← dispatched, ← otherDispatched] at answered
  refine ⟨?_, answered.2⟩
  have left : ((server.hashingBy hasher).answer other id).1 = leaving other.normalized id
      ((server.hashingBy hasher).dispatch other.normalized).1 := rfl
  rw [left, answered.1, same.sameBut.leaving (by decide)]
  rfl

/-- An earlier request has left an entry of its key, and the row of what it asked for. -/
structure Remembers (server : Server) (key : IdempotencyKey) (submission : Submission)
    (entry : LedgerEntry) (stored : Row) : Prop where
  found : server.tables.ledger.find? key.token = some entry
  member : stored ∈ server.tables.rows
  id : stored.id = entry.referenceId
  identity : stored.identity = submission.identity

variable {key : IdempotencyKey} {submission : Submission} {entry : LedgerEntry} {stored : Row}
  {id : Uuid}

/-- A repeated request changes nothing. It is answered with the row that is there, unless something
goes wrong. -/
theorem Remembers.replayed (remembers : server.Remembers key submission entry stored)
    (lawful : server.scene.IsLawful) (asks : request.normalized.Asks key submission)
    (unminted : entry.referenceId ≠ server.scene.ids.draw.1)
    (live : (server.answer request id).2.clock < entry.expiresAt) :
    (server.answer request id).2.tables = server.tables ∧
      ((server.answer request id).1.status = 201 →
        (server.answer request id).1.content = .json (stored.body server.settings.baseUrl)) ∧
      (server.Meets request id key submission →
        server.settings.requestTimeout.fitsClock = true →
        (server.answer request id).1.status = 201) := by
  have scenery : server.scene.Proceeds (server.scene.started server.settings.requestTimeout) :=
    .of_scenery rfl rfl rfl
  have handled : Ensures (respond server.settings key submission) server.scene fun result after =>
      after.situation.store.clock < entry.expiresAt →
        after.situation.store.tables = server.tables ∧ ∀ response, result = .ok response →
          response = .json 201 (stored.body server.settings.baseUrl) := by
    apply ensures_respond
    split
    next fits =>
      apply (Service.ensures_create key submission _).imp
      rintro result after ⟨row, commits, calls⟩ live
      rcases calls.replays (scenery.lawful lawful) remembers.found live unminted remembers.member
        remembers.id remembers.identity with ⟨tables, returned⟩
      refine ⟨tables, fun response same => ?_⟩
      cases result with
      | error failure => cases same
      | ok creation =>
          cases same
          rw [returned creation rfl]
          rfl
    next unfit => exact fun _ => ⟨rfl, nofun⟩
  refine ⟨?_, fun created => ?_, fun meets fits => ?_⟩
  · have kept := holds_answer_of_asks asks (fun _ => rfl) (fun _ _ holds => holds)
      (handled.imp fun result after ended live => (ended live).1) id
    exact kept live
  · rcases answers_handled id asks (admits_of_created asks ((answers_dispatch id asks).status ▸ created))
      handled with ⟨result, after, ended, answers⟩
    rcases returned_of_created (answers.status ▸ created) with ⟨response, rfl⟩
    have scene : (server.answer request id).2.scene = after := congrArg Server.scene answers.after
    rw [clock, scene] at live
    rw [answers.content, (ended live).2 response rfl]
    rfl
  · rcases meets.shows lawful fits with ⟨row, yields, -, shows⟩
    have bound := Ledger.live?_eq_some_iff.mpr ⟨remembers.found, live⟩
    have hash := lawful.sound.hash_of_entry (Ledger.mem_of_find? remembers.found) remembers.member
      remembers.id
    rw [lawful.sound.create_of_same bound (yields.id_eq ▸ unminted) remembers.member remembers.id hash
      (remembers.identity.trans yields.identity_eq.symm)] at shows
    exact shows.1

/-- The password of a registration decides nothing but the hash of a new user. Requests that differ in
it are answered the same, and tell the log the same. The tables are the same after them but for the hash
in the row of a new user, whatever fails in the store and whoever gives up. A request that repeats an
earlier one with another password changes nothing at all, and is answered with the account that is there. -/
theorem Reachable.password_stays_hidden (reachable : server.Reachable)
    (differs : request.DiffersInPassword other own asked)
    (route : Route.ofPath? request.normalized.path = some .users) {hasher : Password.Hasher}
    (makes : Password.Makes server.scene.hasher own.password hash)
    (otherMakes : Password.Makes hasher asked.password otherHash) (id : Uuid) :
    let hashing := server.hashingBy hasher
    let answer := server.answer request id
    let otherAnswer := hashing.answer other id
    otherAnswer.1 = answer.1 ∧
      otherAnswer.2.scene.situation.log = answer.2.scene.situation.log ∧
      Tables.Twins server.tables.users
        ⟨server.scene.ids.draw.1, own.username, own.email, hash⟩ otherHash answer.2.tables
        otherAnswer.2.tables ∧
      ∀ key entry account, other.normalized.Asks key (.user asked) →
        hashing.Remembers key (.user asked) entry (.user account) →
        entry.referenceId ≠ server.scene.ids.draw.1 → otherAnswer.2.clock < entry.expiresAt →
        otherAnswer.2.tables = server.tables ∧
          (otherAnswer.1.status = 201 → otherAnswer.1.content = .json account.body) ∧
          (hashing.Meets other id key (.user asked) →
            server.settings.requestTimeout.fitsClock = true → otherAnswer.1.status = 201) := by
  have lawful := reachable.lawful
  have answered := answersBeside_hashingBy lawful.solitary differs route makes otherMakes id
  rcases answered.2.tables_twins with ⟨tables, log⟩
  refine ⟨answered.1, log, tables, fun key entry account asks remembers unminted live => ?_⟩
  have otherLawful : (server.hashingBy hasher).scene.IsLawful :=
    ⟨lawful.solitary, lawful.sound, lawful.proper, lawful.used, lawful.wellFormed⟩
  exact remembers.replayed otherLawful asks unminted live

end Server

def Request.registering (password : String) : Request :=
  let body := Text.encodeUtf8 ("\x7b\"username\":\"alice\",\"email\":\"alice@example.com\"," ++
    "\"password\":\"" ++ password ++ "\",\"confirm_password\":\"" ++ password ++ "\"\x7d")
  { method := "POST"
    target := "/api/v1/users".toList
    headers := [field "x-idempotency-key" "22222222-2222-2222-2222-222222222222",
      field "content-type" "application/json", field "content-length" (toString body.length)]
    body := body
    peer := some (.v4 [127, 0, 0, 1]) }

def registrationOfAlice (password : String) : Registration :=
  ⟨"alice", "alice@example.com", password, password⟩

theorem sameButBody_registering (password otherPassword : String) :
    (Request.registering password).SameButBody (.registering otherPassword) where
  method := rfl
  target := rfl
  headers name counts := by
    have named : ("content-length".toLower == name) = false := by
      rw [show "content-length".toLower = "content-length" by decide +kernel]
      exact beq_false_of_ne counts.symm
    simp only [Headers.all, Request.registering, field, List.filter_cons, named, Bool.false_eq_true,
      if_false]
  peer := rfl

theorem Request.Registers.of_computed {request : Request} {registration : Registration}
    (length : request.body.length ≤ bodyLimit)
    (read : (Json.readBody userShape request.body).toOption.map registrationOf =
      some registration) : request.Registers registration := by
  refine ⟨length, ?_⟩
  cases found : Json.readBody userShape request.body with
  | error problem =>
      rw [found] at read
      cases read
  | ok fields =>
      rw [found] at read
      exact ⟨fields, rfl, Option.some.inj read⟩

namespace Server

theorem differs_registering : (Request.registering "correct horse").DiffersInPassword
    (.registering "battery staple") (registrationOfAlice "correct horse")
    (registrationOfAlice "battery staple") where
  same := sameButBody_registering _ _
  registers := .of_computed (by decide +kernel) (by decide +kernel)
  otherRegisters := .of_computed (by decide +kernel) (by decide +kernel)
  differs := ⟨rfl, rfl, by decide, by decide⟩

/-- A hasher that writes its hashes as the usual one does. -/
def reversing : Password.Hasher := fun password =>
  .ok (Password.argon2id (fun salt bytes => salt ++ bytes.reverse) [7] password).toText

theorem makes_reversing (password : String) : Password.Makes reversing password
    (Password.argon2id (fun salt bytes => salt ++ bytes.reverse) [7] password).toText :=
  ⟨rfl, Password.isStorable_argon2id _ _ _⟩

theorem makes_plain (password : String)
    (storable : Password.IsStorable ("plain:" ++ password)) :
    Password.Makes Password.plain password ("plain:" ++ password) :=
  ⟨rfl, storable⟩

/-- A server with one user, which hashes as it did for her. -/
def registered : Server :=
  (undisturbed.answer (.registering "correct horse") (.ofDigit 7)).2.hashingBy Password.plain

theorem reachable_registered : registered.Reachable := by
  have fresh : undisturbed.scene.IsFresh := fun _ earlier => absurd earlier (Nat.not_lt_zero _)
  have reached : (undisturbed.answer (.registering "correct horse") (.ofDigit 7)).2.Reachable :=
    ⟨_, isNew_undisturbed, Later.now.answers fresh _ _⟩
  exact reached.hashingBy Password.plain

private theorem computed_registered :
    let again := (registered.hashingBy reversing).answer (.registering "battery staple") (.ofDigit 8)
    registered.tables.users.map (fun account => (account.id, account.username, account.email)) =
      [(.ofDigit 0, "alice", "alice@example.com")] ∧
    (registered.tables.ledger.find? (.ofDigit 2)).any (fun entry =>
      entry.referenceId = .ofDigit 0 && again.2.clock < entry.expiresAt) = true ∧
    registered.scene.ids.draw.1 = .ofDigit 1 ∧ again.1.status = 201 := by decide +kernel

private theorem asks_registering :
    (Request.registering "battery staple").normalized.Asks ⟨.ofDigit 2⟩
      (.user (registrationOfAlice "battery staple")) := by
  have keyed : IdempotencyKey.presence (Request.registering "battery staple").headers =
      .key ⟨.ofDigit 2⟩ := by decide +kernel
  rcases differs_registering.otherRegisters.taken (by decide +kernel) with ⟨fields, read, same⟩
  rw [← same]
  refine .user fields rfl rfl ?_ read
  unfold IdempotencyKey.ofHeaders
  rw [show IdempotencyKey.presence (Request.registering "battery staple").normalized.headers = _
    from keyed]

/-- A request for a new user, and the same request again with another password. -/
theorem password_stays_hidden_registering :
    ((undisturbed.hashingBy reversing).answer (.registering "battery staple") (.ofDigit 7)).1 =
        (undisturbed.answer (.registering "correct horse") (.ofDigit 7)).1 ∧
      ((registered.hashingBy reversing).answer (.registering "battery staple") (.ofDigit 8)).1 =
        (registered.answer (.registering "correct horse") (.ofDigit 8)).1 ∧
      ∃ account, registered.tables.users = [account] ∧
        ((registered.hashingBy reversing).answer (.registering "battery staple")
          (.ofDigit 8)).2.tables = registered.tables ∧
        ((registered.hashingBy reversing).answer (.registering "battery staple")
          (.ofDigit 8)).1.content = .json account.body := by
  have start : undisturbed.Reachable := ⟨_, isNew_undisturbed, .now⟩
  have route : Route.ofPath? (Request.registering "correct horse").normalized.path = some .users := rfl
  have created := start.password_stays_hidden differs_registering route
    (makes_plain "correct horse" (by decide +kernel)) (makes_reversing "battery staple") (.ofDigit 7)
  have repeated := reachable_registered.password_stays_hidden differs_registering route
    (makes_plain "correct horse" (by decide +kernel)) (makes_reversing "battery staple") (.ofDigit 8)
  rcases computed_registered with ⟨users, entered, minted, answered⟩
  rcases List.map_eq_singleton_iff.mp users with ⟨account, stored, fields⟩
  rcases Prod.mk.inj fields with ⟨accountId, fields⟩
  rcases Prod.mk.inj fields with ⟨username, email⟩
  rcases (Option.any_eq_true _ _).mp entered with ⟨entry, entered, bound⟩
  rcases (Bool.and_eq_true _ _).mp bound with ⟨owned, live⟩
  have member : Row.user account ∈ registered.tables.rows :=
    List.mem_append_right _ (List.mem_map_of_mem (stored ▸ List.mem_singleton_self account))
  have remembers : (registered.hashingBy reversing).Remembers ⟨.ofDigit 2⟩
      (.user (registrationOfAlice "battery staple")) entry (.user account) := by
    refine ⟨entered, member, accountId.trans (of_decide_eq_true owned).symm, ?_⟩
    dsimp only [Row.identity]
    rw [username, email]
    rfl
  have unminted : entry.referenceId ≠ registered.scene.ids.draw.1 := by
    rw [of_decide_eq_true owned, minted]
    decide
  have replayed := repeated.2.2.2 _ entry account asks_registering remembers unminted
    (of_decide_eq_true live)
  exact ⟨created.1, repeated.1, account, stored, replayed.1, replayed.2.1 answered⟩

end Server

end LinkShortener.Http
