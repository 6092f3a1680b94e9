import LinkShortener.Proofs.Store.Creation
import LinkShortener.Proofs.Store.Transactions
import LinkShortener.Service.ShortUrls
import LinkShortener.Service.Users

/-! # Creations as a service

Both services for creations as one, and what a call of it does to the store: transactions that
change nothing, and creations of one row under the key of the caller.
-/

namespace LinkShortener

/-- What a caller wants to have created. -/
inductive Submission where
  | shortUrl (destination : String)
  | user (registration : Registration)

namespace Submission

def kind : Submission → Row.Kind
  | .shortUrl _ => .shortUrl
  | .user _ => .user

/-- What tells the submission from others. -/
def identity : Submission → Identity
  | .shortUrl destination => .shortUrl (Text.trim destination)
  | .user registration => .user registration.username registration.email

def IsAcceptable : Submission → Prop
  | .shortUrl destination => (Text.trim destination).isEmpty = false
  | .user registration => registration.validate = .ok ()

/-- The rows that a submission can lead to, with a slug from the given sequence. -/
inductive Yields (slugs : Nat → String) (id : Uuid) : Submission → NewRow → Prop where
  | shortUrl (destination : String) (place : Nat)
      (acceptable : (Submission.shortUrl destination).IsAcceptable) :
      Yields slugs id (.shortUrl destination) (.shortUrl ⟨id, Text.trim destination, slugs place⟩)
  | user (registration : Registration) (passwordHash : String)
      (acceptable : (Submission.user registration).IsAcceptable) :
      Yields slugs id (.user registration)
        (.user ⟨id, registration.username, registration.email, passwordHash⟩)

namespace Yields

variable {slugs : Nat → String} {id : Uuid} {submission : Submission} {row : NewRow}

theorem id_eq (yields : Yields slugs id submission row) : row.id = id := by
  cases yields <;> rfl

theorem kind_eq (yields : Yields slugs id submission row) : row.kind = submission.kind := by
  cases yields <;> rfl

theorem identity_eq (yields : Yields slugs id submission row) :
    row.identity = submission.identity := by
  cases yields <;> rfl

end Yields

end Submission

namespace Service

/-- Creates the row of a submission at most once for each key. -/
def create (key : IdempotencyKey) : Submission → Service (Creation Row)
  | .shortUrl destination => return (← createShortUrl key destination).map .shortUrl
  | .user registration => return (← createUser key registration).map .user

end Service

/-- What lies between two scenes: the transactions that took effect, and some values drawn. -/
structure Scene.Advances (before : Scene) (commits : List Commit) (after : Scene) : Prop where
  store : before.situation.store.Advances commits after.situation.store
  ids : after.ids.values = before.ids.values
  slugs : after.slugs.values = before.slugs.values

theorem Scene.Advances.trans {before middle after : Scene} {first second : List Commit}
    (leading : before.Advances first middle) (following : middle.Advances second after) :
    before.Advances (first ++ second) after where
  store := leading.store.trans following.store
  ids := following.ids.trans leading.ids
  slugs := following.slugs.trans leading.slugs

/-- The scene after an id is drawn. -/
def Scene.idDrawn (scene : Scene) : Scene := { scene with ids := scene.ids.draw.2 }

/-- The scene with these events at the end of its log. -/
def Scene.noted (scene : Scene) (events : List Event) : Scene :=
  { scene with situation := { scene.situation with log := scene.situation.log ++ events } }

namespace Commit

def IsIdle (commit : Commit) : Prop := commit.after = commit.before

theorem Chain.tables_of_idle {clock finish : Instant} {tables after : Tables}
    {commits : List Commit} (chain : Chain clock tables finish after commits)
    (idle : ∀ commit ∈ commits, commit.IsIdle) : after = tables := by
  have same : tables = after := chain.preserves rfl fun commit member before =>
    before.trans (idle commit member).symm
  exact same.symm

/-- The transaction creates a row under a key, or finds the row that is there. -/
def Makes (commit : Commit) (key : IdempotencyKey) (row : NewRow) (creation : Creation Row) :
    Prop :=
  commit.before.create commit.now (row.claim key) row = .ok (creation, commit.after)

theorem isIdle_of_runs {commit : Commit} {slug : String} {found : Option ShortUrl}
    (runs : commit.Runs (Work.findBySlug slug) found) : commit.IsIdle :=
  (Work.run_findBySlug_ok runs).2

theorem makes_of_runs_shortUrl {commit : Commit} {key : IdempotencyKey} {row : NewShortUrl}
    {creation : Creation ShortUrl}
    (runs : commit.Runs (Work.createShortUrl ⟨key, Fingerprint.shortUrl row.destination⟩ row)
      creation) :
    commit.Makes key (.shortUrl row) (creation.map .shortUrl) := by
  have same := Work.run_createShortUrl ⟨key, Fingerprint.shortUrl row.destination⟩ row commit.now
    commit.before
  rw [Runs] at runs
  rw [runs] at same
  exact same.symm

theorem makes_of_runs_user {commit : Commit} {key : IdempotencyKey} {row : NewUser}
    {creation : Creation User}
    (runs : commit.Runs (Work.createUser ⟨key, Fingerprint.user row.username row.email⟩ row)
      creation) :
    commit.Makes key (.user row) (creation.map .user) := by
  have same := Work.run_createUser ⟨key, Fingerprint.user row.username row.email⟩ row commit.now
    commit.before
  rw [Runs] at runs
  rw [runs] at same
  exact same.symm

end Commit

namespace Service

variable {α : Type}

/-- What lies between two scenes where the caller drew no id. -/
structure Passes (before : Scene) (commits : List Commit) (after : Scene) : Prop where
  advances : before.Advances commits after
  ids : after.ids = before.ids

namespace Passes

theorem refl (scene : Scene) : Passes scene [] scene := ⟨⟨.refl _, rfl, rfl⟩, rfl⟩

theorem trans {before middle after : Scene} {first second : List Commit}
    (leading : Passes before first middle) (following : Passes middle second after) :
    Passes before (first ++ second) after :=
  ⟨leading.advances.trans following.advances, following.ids.trans leading.ids⟩

end Passes

/-- What a unit of work comes to for its caller. -/
structure Transacts (work : Work α) (before : Scene) (commits : List Commit)
    (result : Except Failure α) (after : Scene) : Prop where
  passes : Passes before commits after
  runs : ∀ commit ∈ commits, ∃ value, commit.Runs work value
  returned : ∀ value, result = .ok value →
    ∃ last, commits.getLast? = some last ∧ last.Runs work value

theorem ensures_transact (work : Work α) (answered : StoreError → ServiceError × List Event)
    (scene : Scene) :
    Ensures (transact work answered) scene fun result after =>
      ∃ commits, Transacts work scene commits result after := by
  have leads := Database.leads_transact scene.policy work scene.situation.store scene.situation rfl
  unfold Ensures at leads
  apply ensures_get_bind
  cases ran : (Database.transact scene.policy work).run.run scene.situation with
  | mk result situation =>
      rw [ran] at leads
      rcases leads with ⟨commits, transacted⟩
      have passes : ∀ log, Passes scene commits
          { scene with situation := { situation with log := log } } := fun log =>
        ⟨⟨transacted.advances, rfl, rfl⟩, rfl⟩
      dsimp only
      apply ensures_set_bind
      rcases result with (error | text) | value
      · refine ensures_modify_bind (ensures_throw ?_)
        exact ⟨commits, passes _, transacted.runs, nofun⟩
      · exact ensures_throw ⟨commits, passes _, transacted.runs, nofun⟩
      · refine ensures_pure ⟨commits, passes _, transacted.runs, fun other same => ?_⟩
        cases same
        exact transacted.returned value rfl

def Looks (before : Scene) (after : Scene) : Prop :=
  ∃ commits, Passes before commits after ∧ ∀ commit ∈ commits, commit.IsIdle

namespace Looks

theorem of_store {before after : Scene} (store : after.situation.store = before.situation.store)
    (ids : after.ids = before.ids) (slugs : after.slugs.values = before.slugs.values) :
    Looks before after := by
  refine ⟨[], ⟨⟨?_, congrArg Supply.values ids, slugs⟩, ids⟩, nofun⟩
  rw [store]
  exact .refl _

theorem refl (scene : Scene) : Looks scene scene := .of_store rfl rfl rfl

theorem trans {before middle after : Scene} (leading : Looks before middle)
    (following : Looks middle after) : Looks before after := by
  rcases leading with ⟨first, firstPasses, firstIdle⟩
  rcases following with ⟨second, secondPasses, secondIdle⟩
  refine ⟨first ++ second, firstPasses.trans secondPasses, fun commit member => ?_⟩
  rcases List.mem_append.mp member with member | member
  · exact firstIdle commit member
  · exact secondIdle commit member

end Looks

theorem ensures_findBySlug (slug : String) (scene : Scene) :
    Ensures (findBySlug slug) scene fun _ after => Looks scene after := by
  refine (ensures_transact _ _ scene).imp fun result after ⟨commits, transacts⟩ => ?_
  refine ⟨commits, transacts.passes, fun commit member => ?_⟩
  rcases transacts.runs commit member with ⟨found, runs⟩
  exact Commit.isIdle_of_runs runs

theorem ensures_searchFree (attempts : Nat) (scene : Scene) :
    Ensures (searchFree drawSlug (fun slug => return (← findBySlug slug).isSome) attempts) scene
      fun result after => Looks scene after ∧
        ∀ slug, result = .ok (some slug) → ∃ place, slug = scene.slugs.values place := by
  induction attempts generalizing scene with
  | zero => exact ensures_pure ⟨.refl scene, nofun⟩
  | succ attempts induction =>
      refine ensures_bind (ensures_get_bind (ensures_set_bind (ensures_pure ?_)))
      refine ensures_bind (ensures_bind ((ensures_findBySlug _ _).imp ?_))
      intro found looked looks
      have drawn : Looks scene { scene with slugs := scene.slugs.draw.2 } := .of_store rfl rfl rfl
      have drawing : Looks scene looked := drawn.trans looks
      have slugs : looked.slugs.values = scene.slugs.values := by
        rcases drawing with ⟨commits, passes, -⟩
        exact passes.advances.slugs
      cases found with
      | error failure => exact ⟨drawing, nofun⟩
      | ok found =>
          apply ensures_pure
          cases found with
          | none =>
              refine ensures_pure ⟨drawing, fun slug same => ?_⟩
              cases same
              exact ⟨scene.slugs.drawn, rfl⟩
          | some shortUrl =>
              refine (induction looked).imp fun result after searched => ?_
              refine ⟨drawing.trans searched.1, fun slug same => ?_⟩
              rw [← slugs]
              exact searched.2 slug same

theorem ensures_freeSlug (scene : Scene) :
    Ensures freeSlug scene fun result after => Looks scene after ∧
      ∀ slug, result = .ok slug → ∃ place, slug = scene.slugs.values place := by
  refine ensures_bind ((ensures_searchFree slugAttempts scene).imp fun result after searched => ?_)
  rcases result with failure | found | slug
  · exact ⟨searched.1, nofun⟩
  · refine ensures_modify_bind (ensures_throw ⟨searched.1.trans ?_, nofun⟩)
    exact .of_store rfl rfl rfl
  · refine ensures_pure ⟨searched.1, fun other same => ?_⟩
    cases same
    exact searched.2 slug rfl

/-- What a call for a creation comes to. Some of its transactions change nothing; the others are
creations of one row that the submission yields, with the id that the call has drawn. -/
structure Calls (key : IdempotencyKey) (submission : Submission) (before : Scene) (row : NewRow)
    (commits : List Commit) (result : Except Failure (Creation Row)) (after : Scene) : Prop where
  advances : before.Advances commits after
  drawn : after.ids.drawn = before.ids.drawn ∨ after.ids.drawn = before.ids.drawn + 1
  made : ∀ commit ∈ commits, commit.IsIdle ∨
    after.ids.drawn = before.ids.drawn + 1 ∧
      submission.Yields before.slugs.values before.ids.draw.1 row ∧
      ∃ creation, commit.Makes key row creation
  returned : ∀ creation, result = .ok creation →
    submission.Yields before.slugs.values before.ids.draw.1 row ∧
      ∃ last, commits.getLast? = some last ∧ last.Makes key row creation

namespace Calls

variable {key : IdempotencyKey} {submission : Submission} {before after : Scene}

/-- A call that fails before it draws an id. -/
theorem of_looks {failure : Failure} (looks : Looks before after) :
    ∃ row commits, Calls key submission before row commits (.error failure) after := by
  rcases looks with ⟨commits, passes, idle⟩
  exact ⟨.shortUrl ⟨before.ids.draw.1, "", ""⟩, commits, passes.advances,
    .inl (congrArg Supply.drawn passes.ids), fun commit member => .inl (idle commit member), nofun⟩

/-- A call that has drawn its id and then stores the row. -/
theorem of_transacts {α : Type} {work : Work α} {id : Uuid} {drawn : Scene} {row : NewRow}
    {lookups commits : List Commit} {result : Except Failure α} (embed : α → Creation Row)
    (candidate : id = before.ids.draw.1) (ids : drawn.ids = before.ids.draw.2)
    (leading : before.Advances lookups drawn) (idle : ∀ commit ∈ lookups, commit.IsIdle)
    (yields : submission.Yields before.slugs.values id row)
    (makes : ∀ commit value, Commit.Runs commit work value → commit.Makes key row (embed value))
    (transacts : Transacts work drawn commits result after) :
    Calls key submission before row (lookups ++ commits) (result.map embed) after := by
  have next : after.ids.drawn = before.ids.drawn + 1 := by
    rw [transacts.passes.ids, ids]
    rfl
  subst candidate
  refine ⟨leading.trans transacts.passes.advances, .inr next, fun commit member => ?_,
    fun creation same => ⟨yields, ?_⟩⟩
  · rcases List.mem_append.mp member with member | member
    · exact .inl (idle commit member)
    · rcases transacts.runs commit member with ⟨value, runs⟩
      exact .inr ⟨next, yields, embed value, makes commit value runs⟩
  · cases result with
    | error failure => cases same
    | ok value =>
        cases same
        rcases transacts.returned value rfl with ⟨last, final, runs⟩
        exact ⟨last, by rw [List.getLast?_append, final, Option.some_or], makes last value runs⟩

theorem of_note {row : NewRow} {commits : List Commit} {result : Except Failure (Creation Row)}
    (calls : Calls key submission before row commits result after) (log : List Event) :
    Calls key submission before row commits result
      { after with situation := { after.situation with log } } :=
  { calls with advances := ⟨calls.advances.store, calls.advances.ids, calls.advances.slugs⟩ }

end Calls

variable {key : IdempotencyKey} {scene : Scene}

def blankDestination : ServiceError :=
  .badRequest "`destination_url` cannot be null or empty"
    (.object [("field", .string "destination_url")])

/-- Stores a row, and tells the log of it. -/
def storing (key : IdempotencyKey) (row : NewShortUrl) : Service (Creation ShortUrl) := do
  let creation ← storeShortUrl ⟨key, Fingerprint.shortUrl row.destination⟩ row
  match creation with
  | .created row => note [.shortUrlCreated row.id row.slug]
  | .replayed row => note [.shortUrlReplayed row.id row.slug key.token]
  return creation

/-- A creation refuses a blank destination. With any other it is a search for a slug, and then the
storing of a row. -/
theorem ensures_createShortUrl_parts {destination : String}
    {goal : Except Failure (Creation ShortUrl) → Scene → Prop}
    (blank : (Text.trim destination).isEmpty = true →
      goal (.error (.error blankDestination)) scene)
    (filled : (Text.trim destination).isEmpty = false →
      Ensures (freeSlug >>= fun slug =>
        storing key ⟨scene.ids.draw.1, Text.trim destination, slug⟩) scene.idDrawn goal) :
    Ensures (createShortUrl key destination) scene goal := by
  unfold createShortUrl
  dsimp only
  split
  next empty => exact ensures_bind (ensures_throw (blank empty))
  next full =>
    rw [Bool.not_eq_true] at full
    exact ensures_bind (ensures_get_bind (ensures_set_bind (ensures_pure (filled full))))

/-- Where the log does not matter, only the call to the store does. -/
theorem ensures_storing {row : NewShortUrl}
    {goal : Except Failure (Creation ShortUrl) → Scene → Prop}
    (unlogged : ∀ result after events, goal result after → goal result (after.noted events))
    (ensured : Ensures (storeShortUrl ⟨key, Fingerprint.shortUrl row.destination⟩ row) scene goal) :
    Ensures (storing key row) scene goal := by
  refine ensures_bind (ensured.imp fun result after ended => ?_)
  rcases result with failure | row | row
  · exact ended
  · exact ensures_modify_bind (ensures_pure (unlogged _ _ _ ended))
  · exact ensures_modify_bind (ensures_pure (unlogged _ _ _ ended))

theorem ensures_createShortUrl (destination : String) :
    Ensures (createShortUrl key destination) scene fun result after =>
      ∃ row commits, Calls key (.shortUrl destination) scene row commits
        (result.map (Creation.map .shortUrl)) after := by
  refine ensures_createShortUrl_parts (fun blank => Calls.of_looks (.refl scene)) fun filled => ?_
  refine ensures_bind ((ensures_freeSlug scene.idDrawn).imp fun result found ⟨looks, free⟩ => ?_)
  rcases looks with ⟨lookups, passes, idle⟩
  have leading : scene.Advances lookups found :=
    ⟨passes.advances.store, passes.advances.ids, passes.advances.slugs⟩
  cases result with
  | error failure =>
      -- Nothing is created, so any row will do for the one that the call is about.
      refine ⟨.shortUrl ⟨scene.ids.draw.1, "", ""⟩, lookups, leading, .inr ?_, ?_, nofun⟩
      · rw [passes.ids]
        rfl
      · exact fun commit member => .inl (idle commit member)
  | ok slug =>
      rcases free slug rfl with ⟨place, rfl⟩
      apply ensures_storing
      · rintro result after events ⟨row, commits, calls⟩
        exact ⟨row, commits, calls.of_note _⟩
      · refine (ensures_transact _ _ found).imp fun result after ⟨commits, transacts⟩ => ?_
        exact ⟨_, _, Calls.of_transacts (Creation.map .shortUrl) rfl passes.ids leading idle
          (.shortUrl destination place filled)
          (fun _ _ runs => Commit.makes_of_runs_shortUrl runs) transacts⟩

theorem ensures_hashPassword (password : String) (scene : Scene) :
    Ensures (hashPassword password) scene fun result after =>
      (∃ hash, result = .ok hash ∧ after = scene) ∨
        ∃ failure, result = .error failure ∧ Looks scene after := by
  apply ensures_get_bind
  rcases scene.hasher password with (_ | _) | hash
  · exact ensures_throw (.inr ⟨_, rfl, .refl scene⟩)
  · exact ensures_modify_bind (ensures_throw (.inr ⟨_, rfl, .of_store rfl rfl rfl⟩))
  · exact ensures_pure (.inl ⟨hash, rfl, rfl⟩)

theorem ensures_createUser (registration : Registration) :
    Ensures (createUser key registration) scene fun result after =>
      ∃ row commits, Calls key (.user registration) scene row commits
        (result.map (Creation.map .user)) after := by
  unfold createUser
  cases valid : registration.validate with
  | error error => exact ensures_bind (ensures_throw (Calls.of_looks (.refl scene)))
  | ok _ =>
      refine ensures_bind ((ensures_hashPassword registration.password scene).imp ?_)
      intro result hashed outcome
      rcases outcome with ⟨passwordHash, rfl, rfl⟩ | ⟨failure, rfl, looks⟩
      · refine ensures_bind (ensures_get_bind (ensures_set_bind (ensures_pure ?_)))
        refine ensures_bind ((ensures_transact _ _ _).imp ?_)
        intro result after ⟨commits, transacts⟩
        have leading : hashed.Advances [] { hashed with ids := hashed.ids.draw.2 } :=
          ⟨.refl _, rfl, rfl⟩
        have calls := Calls.of_transacts (Creation.map .user) rfl rfl leading nofun
          (.user registration passwordHash valid)
          (fun _ _ runs => Commit.makes_of_runs_user runs) transacts
        cases result with
        | error failure => exact ⟨_, _, calls⟩
        | ok creation => exact ensures_modify_bind (ensures_pure ⟨_, _, calls.of_note _⟩)
      · exact Calls.of_looks looks

/-- What a call for a creation comes to, whatever fails and whenever the caller goes away. -/
theorem ensures_create (key : IdempotencyKey) (submission : Submission) (scene : Scene) :
    Ensures (create key submission) scene fun result after =>
      ∃ row commits, Calls key submission scene row commits result after := by
  cases submission with
  | shortUrl destination =>
      refine ensures_bind ((ensures_createShortUrl destination).imp fun result after calls => ?_)
      cases result with
      | ok creation => exact ensures_pure calls
      | error failure => exact calls
  | user registration =>
      refine ensures_bind ((ensures_createUser registration).imp fun result after calls => ?_)
      cases result with
      | ok creation => exact ensures_pure calls
      | error failure => exact calls

end Service

/-- The UUID that is written with one digit only. -/
def Uuid.ofDigit (digit : Nat) : Uuid := ⟨Vector.replicate 32 (Text.lastDigit digit)⟩

/-- A scene with empty tables, for a client who waits and whom nothing fails. -/
def Scene.calm : Scene where
  situation :=
    { store := .opened ⟨0, 0⟩, now := 0, context := .background, ties := [], log := [] }
  policy := .standard .none
  ids := ⟨Uuid.ofDigit, 0⟩
  slugs := ⟨fun _ => "abcd", 0⟩
  hasher := Password.plain
  cache := .ofBackend .disabled

end LinkShortener
