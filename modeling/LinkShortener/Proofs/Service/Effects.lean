import LinkShortener.Proofs.Service.Lawfulness
import LinkShortener.Proofs.Service.Lookups
import LinkShortener.Proofs.Service.Repositories
import LinkShortener.Proofs.Store.Honesty

/-! # Effects of calls

What a call leaves in the tables is known from what it returns, if the reports of the store are honest.
A row that is returned as created has been stored together with the entry of its key. Everything else,
and every failure, leaves the tables as they were.
-/

namespace LinkShortener

namespace Tables

/-- No row of either table has the id. -/
def Lacks (tables : Tables) (id : Uuid) : Prop := ∀ row ∈ tables.rows, row.id ≠ id

/-- One row more, with an entry for it, and no other difference. -/
structure Gains (before : Tables) (row : Row) (entry : LedgerEntry) (after : Tables) : Prop where
  new : before.Lacks row.id
  rows : after.rowsOf row.kind = before.rowsOf row.kind ++ [row]
  others : ∀ kind, kind ≠ row.kind → after.rowsOf kind = before.rowsOf kind
  ledger : Ledger.Takes entry before.ledger after.ledger

theorem rowsOf_insert (tables : Tables) (row : Row) :
    (tables.insert row).rowsOf row.kind = tables.rowsOf row.kind ++ [row] := by
  cases row <;> simp [insert, insertShortUrl, insertUser, rowsOf, Row.kind]

theorem rowsOf_insert_of_ne (tables : Tables) {row : Row} {kind : Row.Kind}
    (other : kind ≠ row.kind) : (tables.insert row).rowsOf kind = tables.rowsOf kind := by
  cases row with
  | shortUrl row =>
      cases kind with
      | shortUrl => exact absurd rfl other
      | user => rfl
  | user row =>
      cases kind with
      | shortUrl => rfl
      | user => exact absurd rfl other

variable {tables after : Tables} {now : Instant}

theorem Gains.keeps {row : Row} {entry : LedgerEntry} (gains : tables.Gains row entry after)
    (ordered : entry.createdAt ≤ now) : Keeps now tables after where
  rows other member := by
    have among := mem_rowsOf_iff.mpr ⟨member, rfl⟩
    have kept : other ∈ after.rowsOf other.kind := by
      by_cases same : other.kind = row.kind
      · rw [same] at among ⊢
        rw [gains.rows]
        exact List.mem_append_left _ among
      · rw [gains.others _ same]
        exact among
    exact (mem_rowsOf_iff.mp kept).1
  entries _ _ found live := gains.ledger.find?_of_live ordered found live

/-- A row with a new id is created together with an entry. -/
theorem gains_of_create {claim : Claim} {row : NewRow} {stored : Row} (sound : tables.Sound)
    (fresh : tables.Lacks row.id)
    (made : tables.create now claim row = .ok (.created stored, after)) :
    stored = row.storedAt now ∧ tables.Gains stored (.opened claim row.id now) after := by
  cases creates_of_create made with
  | opened free accepted =>
      refine ⟨rfl, fun other member => ?_, rowsOf_insert _ _, fun kind other => ?_, ?_⟩
      · rw [NewRow.id_storedAt]
        exact fresh other member
      · exact rowsOf_insert_of_ne _ other
      · rw [ledger_insert]
        exact Ledger.takes_put sound.tokens free
  | resumed entry live own accepted =>
      -- The entry would be for a row with the new id.
      have member := Ledger.mem_of_find? (Ledger.live?_eq_some_iff.mp live).1
      rcases sound.referenced entry member with ⟨other, present, same, -⟩
      exact absurd (same.trans own) (fresh other present)

theorem unchanged_of_replayed {claim : Claim} {row : NewRow} {found : Row}
    (made : tables.create now claim row = .ok (.replayed found, after)) : after = tables := by
  cases creates_of_create made
  rfl

end Tables

/-! ## Changes of the tables -/

/-- What a call can do to the tables. -/
inductive Change where
  | none
  | creation (claim : Claim) (candidate : Uuid) (kind : Row.Kind) (row : Row)
  | purge (removed : Nat)

namespace Change

def ofCreation (claim : Claim) (candidate : Uuid) (kind : Row.Kind) : Creation Row → Change
  | .created row => .creation claim candidate kind row
  | .replayed _ => .none

/-- The change, and nothing else, leads from the tables of one database to those of another. -/
def Leads (before after : Database) : Change → Prop
  | .none => after.tables = before.tables
  | .creation claim candidate kind row =>
    row.id = candidate ∧ row.kind = kind ∧ before.clock ≤ row.createdAt ∧
      row.createdAt ≤ after.clock ∧
      before.tables.Gains row (.opened claim candidate row.createdAt) after.tables
  | .purge removed =>
    after.tables = { before.tables with
      ledger := before.tables.ledger.filter fun entry => before.clock < entry.expiresAt } ∧
      removed = before.tables.ledger.countP fun entry => entry.expiresAt ≤ before.clock

variable {before after : Database}

theorem Leads.keeps {change : Change} (leads : change.Leads before after)
    (ordered : before.clock ≤ after.clock) :
    Tables.Keeps after.clock before.tables after.tables := by
  cases change with
  | none =>
      rw [show after.tables = before.tables from leads]
      exact .refl _ _
  | creation claim candidate kind row =>
      rcases leads with ⟨-, -, -, finish, gains⟩
      exact gains.keeps finish
  | purge removed =>
      rcases leads with ⟨tables, -⟩
      rw [tables, ← Ledger.purge_eq_filter]
      exact (Tables.Keeps.purge _ _).later ordered

theorem leads_of_create {now : Instant} {claim : Claim} {row : NewRow} {creation : Creation Row}
    (sound : before.tables.Sound) (fresh : before.tables.Lacks row.id)
    (made : before.tables.create now claim row = .ok (creation, after.tables))
    (start : before.clock ≤ now) (finish : now ≤ after.clock) :
    (ofCreation claim row.id row.kind creation).Leads before after := by
  cases creation with
  | replayed found => exact Tables.unchanged_of_replayed made
  | created stored =>
      rcases Tables.gains_of_create sound fresh made with ⟨rfl, gains⟩
      refine ⟨row.id_storedAt now, row.kind_storedAt now, ?_, ?_, ?_⟩
      · rwa [NewRow.createdAt_storedAt]
      · rwa [NewRow.createdAt_storedAt]
      · rwa [NewRow.createdAt_storedAt]

end Change

/-! ## Calls on an honest store -/

/-- A scene of a client who has the store alone and whose store is honest. -/
structure Scene.IsHonest (scene : Scene) : Prop where
  honest : Fault.AreHonest scene.situation.store.faults
  solitary : scene.situation.store.IsSolitary

/-- So far the client has changed nothing. -/
structure Scene.Leaves (origin scene : Scene) : Prop where
  honest : scene.IsHonest
  tables : scene.situation.store.tables = origin.situation.store.tables
  clock : origin.situation.store.clock ≤ scene.situation.store.clock

namespace Scene.Leaves

variable {origin scene after : Scene}

theorem refl (honest : scene.IsHonest) : scene.Leaves scene := ⟨honest, rfl, le_refl _⟩

theorem of_store (leaves : origin.Leaves scene)
    (store : after.situation.store = scene.situation.store) : origin.Leaves after := by
  refine ⟨⟨?_, ?_⟩, ?_, ?_⟩
  · rw [store]
    exact leaves.honest.honest
  · rw [store]
    exact leaves.honest.solitary
  · rw [store]
    exact leaves.tables
  · rw [store]
    exact leaves.clock

end Scene.Leaves

namespace Service

variable {α : Type} {origin scene : Scene}

/-- What a computation returns tells the change that it has made. A failure means none. -/
def Makes (change : α → Change) (origin : Scene) (result : Except Failure α) (after : Scene) : Prop :=
  origin.situation.store.clock ≤ after.situation.store.clock ∧
    match result with
    | .ok value => (change value).Leads origin.situation.store after.situation.store
    | .error _ => Change.none.Leads origin.situation.store after.situation.store

theorem ensures_transact_honest {work : Work α} {answered : StoreError → ServiceError × List Event}
    (leaves : origin.Leaves scene) :
    Ensures (transact work answered) scene fun result after =>
      after.IsHonest ∧ origin.situation.store.clock ≤ after.situation.store.clock ∧
        match result with
        | .ok value => ∃ now, origin.situation.store.clock ≤ now ∧
          now ≤ after.situation.store.clock ∧ work.run now origin.situation.store.tables =
            .ok (value, after.situation.store.tables)
        | .error _ => after.situation.store.tables = origin.situation.store.tables := by
  have performs := Database.leads_transact_honest scene.policy work leaves.honest.honest
    scene.situation rfl
  apply (ensures_transact_told performs fun _ _ _ performed => performed).imp
  rintro result after ⟨ended, rfl, ⟨honest, performed⟩, -⟩
  have solitary := leaves.honest.solitary
  cases ended with
  | error stop =>
      have chain := performed.chain solitary
      have clock := le_trans leaves.clock chain.1
      have tables := chain.2.trans leaves.tables
      cases stop <;> exact ⟨⟨honest, performed.alone solitary⟩, clock, tables⟩
  | ok value =>
      rcases performed with ⟨commit, runs, advances⟩
      rcases advances.chain solitary with ⟨start, before, finish, tables⟩
      rw [Commit.Runs, before, leaves.tables, ← tables] at runs
      have started := le_trans leaves.clock start
      exact ⟨⟨honest, advances.alone solitary⟩, le_trans started finish, commit.now, started, finish,
        runs⟩

/-! ## Lookups -/

theorem preserves_note (events : List Event) : Preserves origin.Leaves (note events) :=
  fun _ leaves => leaves.of_store rfl

theorem preserves_findBySlug (slug : String) : Preserves origin.Leaves (findBySlug slug) := by
  intro scene leaves
  apply (ensures_transact_honest leaves).imp
  rintro result after ⟨honest, clock, ended⟩
  cases result with
  | error failure => exact ⟨honest, ended, clock⟩
  | ok found =>
      rcases ended with ⟨now, -, -, ran⟩
      exact ⟨honest, (Work.run_findBySlug_ok ran).2, clock⟩

theorem lookupsKeep_leaves : LookupsKeep origin.Leaves where
  noting := preserves_note
  drawing _ leaves := leaves.of_store rfl
  finding := preserves_findBySlug

end Service

/-! ## Creations -/

namespace RepositoryCall

variable {α : Type} {origin scene : Scene}

/-- The row that is to be created has a new id. -/
def IsFresh (tables : Tables) : RepositoryCall α → Prop
  | .createShortUrl _ row => tables.Lacks row.id
  | .createUser _ row => tables.Lacks row.id
  | .findBySlug _ => True

def change : RepositoryCall α → α → Change
  | .createShortUrl claim row, creation =>
    .ofCreation claim row.id .shortUrl (creation.map .shortUrl)
  | .createUser claim row, creation => .ofCreation claim row.id .user (creation.map .user)
  | .findBySlug _, _ => .none

theorem ensures_run (call : RepositoryCall α) (leaves : origin.Leaves scene)
    (sound : origin.situation.store.tables.Sound)
    (fresh : call.IsFresh origin.situation.store.tables) :
    Ensures call.run scene (Service.Makes call.change origin) := by
  rw [run_eq_transact]
  apply (Service.ensures_transact_honest leaves).imp
  rintro result after ⟨-, clock, ended⟩
  refine ⟨clock, ?_⟩
  cases result with
  | error failure => exact ended
  | ok value =>
      rcases ended with ⟨now, start, finish, ran⟩
      cases call with
      | createShortUrl claim row =>
          have made := Work.run_createShortUrl claim row now origin.situation.store.tables
          rw [show (Work.createShortUrl claim row).run now _ = _ from ran] at made
          have fresh : Tables.Lacks _ (NewRow.shortUrl row).id := fresh
          exact Change.leads_of_create sound fresh made.symm start finish
      | createUser claim row =>
          have made := Work.run_createUser claim row now origin.situation.store.tables
          rw [show (Work.createUser claim row).run now _ = _ from ran] at made
          have fresh : Tables.Lacks _ (NewRow.user row).id := fresh
          exact Change.leads_of_create sound fresh made.symm start finish
      | findBySlug slug => exact (Work.run_findBySlug_ok ran).2

end RepositoryCall

namespace Service

variable {key : IdempotencyKey} {scene : Scene}

/-- The change that a creation makes where it returns something. -/
def creationChange (key : IdempotencyKey) (submission : Submission) (candidate : Uuid) :
    Creation Row → Change :=
  .ofCreation ⟨key, submission.identity.fingerprint⟩ candidate submission.kind

theorem makes_of_leaves {α : Type} {change : α → Change} {origin after : Scene} {failure : Failure}
    (leaves : origin.Leaves after) : Makes change origin (.error failure) after :=
  ⟨leaves.clock, leaves.tables⟩

theorem ensures_createShortUrl_honest (destination : String) (honest : scene.IsHonest)
    (sound : scene.situation.store.tables.Sound)
    (fresh : scene.situation.store.tables.Lacks scene.ids.draw.1) :
    Ensures (createShortUrl key destination) scene (Makes (fun creation =>
      creationChange key (.shortUrl destination) scene.ids.draw.1 (creation.map .shortUrl)) scene) := by
  have start : scene.Leaves scene := .refl honest
  have drawn : scene.Leaves scene.idDrawn := start.of_store rfl
  refine ensures_createShortUrl_parts (fun _ => makes_of_leaves start) fun _ => ?_
  refine ensures_bind ((lookupsKeep_leaves.freeSlug _ drawn).imp fun result found leaves => ?_)
  cases result with
  | error failure => exact makes_of_leaves leaves
  | ok slug =>
      let call : RepositoryCall (Creation ShortUrl) :=
        .createShortUrl ⟨key, Fingerprint.shortUrl (Text.trim destination)⟩
          ⟨scene.ids.draw.1, Text.trim destination, slug⟩
      exact ensures_storing (fun _ _ _ makes => makes) (call.ensures_run leaves sound fresh)

theorem ensures_createUser_honest (registration : Registration) (honest : scene.IsHonest)
    (sound : scene.situation.store.tables.Sound)
    (fresh : scene.situation.store.tables.Lacks scene.ids.draw.1) :
    Ensures (createUser key registration) scene (Makes (fun creation =>
      creationChange key (.user registration) scene.ids.draw.1 (creation.map .user)) scene) := by
  have start : scene.Leaves scene := .refl honest
  unfold createUser
  cases registration.validate with
  | error error => exact ensures_bind (ensures_throw (makes_of_leaves start))
  | ok _ =>
      refine ensures_bind ((ensures_hashPassword registration.password scene).imp ?_)
      intro result hashed outcome
      rcases outcome with ⟨passwordHash, rfl, rfl⟩ | ⟨failure, rfl, looks⟩
      · refine ensures_bind (ensures_get_bind (ensures_set_bind (ensures_pure ?_)))
        have drawn : hashed.Leaves { hashed with ids := hashed.ids.draw.2 } := start.of_store rfl
        let call : RepositoryCall (Creation User) :=
          .createUser ⟨key, Fingerprint.user registration.username registration.email⟩
            ⟨hashed.ids.draw.1, registration.username, registration.email, passwordHash⟩
        refine ensures_bind ((call.ensures_run drawn sound fresh).imp ?_)
        intro result after makes
        cases result with
        | error failure => exact makes
        | ok creation => exact ensures_modify_bind (ensures_pure makes)
      · rcases looks with ⟨commits, passes, idle⟩
        have chain := passes.advances.store.chain honest.solitary
        exact ⟨chain.clock_le, chain.tables_of_idle idle⟩

/-- The effect of a creation, on either path. -/
theorem ensures_create_honest (key : IdempotencyKey) (submission : Submission)
    (honest : scene.IsHonest) (sound : scene.situation.store.tables.Sound)
    (fresh : scene.situation.store.tables.Lacks scene.ids.draw.1) :
    Ensures (create key submission) scene
      (Makes (creationChange key submission scene.ids.draw.1) scene) := by
  cases submission with
  | shortUrl destination =>
      refine ensures_bind ((ensures_createShortUrl_honest destination honest sound fresh).imp ?_)
      intro result after makes
      cases result with
      | ok creation => exact ensures_pure makes
      | error failure => exact makes
  | user registration =>
      refine ensures_bind ((ensures_createUser_honest registration honest sound fresh).imp ?_)
      intro result after makes
      cases result with
      | ok creation => exact ensures_pure makes
      | error failure => exact makes

/-! ## Statements on their own -/

/-- A statement that only reads leaves the tables, whatever it reports. -/
theorem ensures_ask_reading {statement : Statement} (scene : Scene)
    (reads : ∀ tables now answer after, statement.run tables now = .ok (answer, after) →
      after = tables) :
    Ensures (ask statement) scene (Makes (fun _ => .none) scene) := by
  have ended := scene.situation.store.queryAlone_ends statement
  apply ensures_get_bind
  cases asked : scene.situation.store.queryAlone statement with
  | mk outcome database =>
      rw [asked] at ended
      refine ensures_set_bind (ensures_pure ?_)
      rcases ended with untouched | ⟨answer, tables, ran, untouched⟩
      · exact ⟨le_of_eq untouched.clock.symm, untouched.tables⟩
      · refine ⟨le_of_eq untouched.clock.symm, untouched.tables.trans ?_⟩
        exact reads _ _ _ _ ran

def purgeChange : Except DatabaseError Nat → Change
  | .ok removed => .purge removed
  | .error _ => .none

theorem ensures_purge_honest (honest : scene.IsHonest) :
    Ensures (ask .purge) scene (Makes purgeChange scene) := by
  have purged := Database.queryAlone_purge honest.honest
  have clock : scene.situation.store.clock =
      (scene.situation.store.queryAlone .purge).2.clock := by
    rcases scene.situation.store.queryAlone_ends .purge with untouched | ⟨_, _, _, untouched⟩
    · exact untouched.clock.symm
    · exact untouched.clock.symm
  apply ensures_get_bind
  cases asked : scene.situation.store.queryAlone .purge with
  | mk outcome database =>
      rw [asked] at purged clock
      refine ensures_set_bind (ensures_pure ⟨le_of_eq clock, ?_⟩)
      cases outcome with
      | error error => exact purged
      | ok removed =>
          rcases purged with ⟨rfl, tables⟩
          refine ⟨tables.trans ?_, Ledger.expiredCount_eq_countP _ _⟩
          rw [Ledger.purge_eq_filter]

end Service

end LinkShortener
