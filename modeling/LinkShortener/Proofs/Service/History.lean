import LinkShortener.Proofs.Service.Creation
import LinkShortener.Proofs.Store.Persistence

/-! # Histories of concurrent clients

Any number of clients call the service at the same time, each through a connection that may fail,
and the operator purges the ledger now and then. A history lists the transactions that take effect,
in the order in which they do. Whatever the order, a key has one effect within the lifetime of its
entry.
-/

namespace LinkShortener

/-- A client with its call of the service, and everything that the call depends on. What happens
between its transactions is part of the scene. -/
structure Client where
  key : IdempotencyKey
  submission : Submission
  scene : Scene
  unused : scene.situation.store.commits = []

namespace Client

def candidate (client : Client) : Uuid := client.scene.ids.draw.1

/-- The call: what it returns, and the scene after it. -/
def call (client : Client) : Except Service.Failure (Creation Row) × Scene :=
  (Service.create client.key client.submission).run.run client.scene

/-- The transactions of the call that take effect, whether or not the client learns of it. -/
def commits (client : Client) : List Commit := client.call.2.situation.store.commits

theorem calls (client : Client) :
    ∃ row, Service.Calls client.key client.submission client.scene row client.commits client.call.1
      client.call.2 := by
  rcases Service.ensures_create client.key client.submission client.scene with ⟨row, commits, calls⟩
  have recorded := calls.advances.store.recorded
  rw [client.unused, List.nil_append] at recorded
  have same : client.commits = commits := recorded
  rw [same]
  exact ⟨row, calls⟩

end Client

/-- A transaction that takes effect: that of a client, or a purge. -/
structure Moment (ι : Type) where
  client? : Option ι
  commit : Commit

/-- The transaction runs within the lifetime of an entry that is made at the given time. -/
def Commit.IsWithin (commit : Commit) (opening : Instant) : Prop :=
  opening ≤ commit.now ∧ commit.now < opening.later entryLifetime

instance (opening : Instant) : DecidablePred fun commit : Commit => commit.IsWithin opening :=
  fun _ => inferInstanceAs (Decidable (_ ∧ _))

section

variable {ι : Type} {client : ι → Client}

/-! ## What transactions of a history do -/

namespace Moment

def Carries (client : ι → Client) (key : IdempotencyKey) (moment : Moment ι) : Prop :=
  ∃ name, moment.client? = some name ∧ (client name).key = key

instance (key : IdempotencyKey) : DecidablePred (Carries client key) := fun moment =>
  match author : moment.client? with
  | none => isFalse fun ⟨_, named, _⟩ => by simp [author] at named
  | some name =>
    decidable_of_iff ((client name).key = key)
      ⟨fun same => ⟨name, author, same⟩, fun ⟨other, named, same⟩ => by
        rw [author, Option.some.injEq] at named
        exact named ▸ same⟩

/-- The transaction inserts the entry of the key, or takes it over. -/
def Opens (client : ι → Client) (key : IdempotencyKey) (moment : Moment ι) : Prop :=
  moment.Carries client key ∧
    moment.commit.after.ledger.find? key.token ≠ moment.commit.before.ledger.find? key.token

def added (moment : Moment ι) : List Row := Tables.added moment.commit.before moment.commit.after

/-- Transactions of which none in a window adds a row add none to the window. -/
theorem added_eq_nil {moments : List (Moment ι)} {key : IdempotencyKey} {opening : Instant}
    (idle : ∀ moment ∈ moments, moment.Carries client key → moment.commit.IsWithin opening →
      moment.added = []) :
    (moments.filter fun moment =>
      moment.Carries client key ∧ moment.commit.IsWithin opening).flatMap added = [] := by
  apply List.flatMap_eq_nil_iff.mpr
  intro moment among
  rcases List.mem_filter.mp among with ⟨among, chosen⟩
  rcases of_decide_eq_true chosen with ⟨carries, within⟩
  exact idle moment among carries within

/-- What a transaction of a history does. -/
inductive Lawful (client : ι → Client) (moment : Moment ι) : Prop where
  | idle (unchanged : moment.commit.IsIdle)
  | creation (name : ι) (row : NewRow) (made : Creation Row)
      (author : moment.client? = some name) (id : row.id = (client name).candidate)
      (kind : row.kind = (client name).submission.kind)
      (makes : moment.commit.Makes (client name).key row made)
  | purge (nobody : moment.client? = none)
      (purged : moment.commit.after =
        { moment.commit.before with
          ledger := moment.commit.before.ledger.purge moment.commit.now })

end Moment

/-- Sound tables whose rows are all of the clients' calls. -/
structure Tables.IsShared (client : ι → Client) (tables : Tables) : Prop where
  sound : tables.Sound
  owners : ∀ row ∈ tables.rows, ∃ name, row.id = (client name).candidate ∧
    row.kind = (client name).submission.kind

namespace Tables.IsShared

variable {tables after : Tables} (distinct : Function.Injective fun name => (client name).candidate)

include distinct

/-- A row that a client is about to create shares its id with no row of the other table. -/
theorem soleKind (shared : tables.IsShared client) {name : ι} {row : NewRow}
    (id : row.id = (client name).candidate) (kind : row.kind = (client name).submission.kind) :
    tables.SoleKind row := by
  intro other member same
  rcases shared.owners other member with ⟨owner, otherId, otherKind⟩
  have equal : owner = name := distinct (otherId.symm.trans (same.trans id))
  rw [otherKind, kind, equal]

/-- One transaction keeps the tables sound, and keeps everything but expired entries. -/
theorem step {moment : Moment ι} (shared : moment.commit.before.IsShared client)
    (lawful : moment.Lawful client) :
    moment.commit.after.IsShared client ∧
      Keeps moment.commit.now moment.commit.before moment.commit.after := by
  cases lawful with
  | idle unchanged =>
      rw [Commit.IsIdle] at unchanged
      rw [unchanged]
      exact ⟨shared, .refl _ _⟩
  | creation name row made author id kind makes =>
      have sole := shared.soleKind distinct id kind
      refine ⟨⟨shared.sound.create sole makes, ?_⟩, .create shared.sound sole makes⟩
      intro other member
      rcases mem_rows_of_create makes member with rfl | member
      · exact ⟨name, by rw [NewRow.id_storedAt, id], by rw [NewRow.kind_storedAt, kind]⟩
      · exact shared.owners other member
  | purge nobody purged =>
      rw [purged]
      exact ⟨⟨shared.sound.purge _, shared.owners⟩, .purge _ _⟩

theorem run {clock finish : Instant} {moments : List (Moment ι)} (shared : tables.IsShared client)
    (lawful : ∀ moment ∈ moments, moment.Lawful client)
    (chain : Commit.Chain clock tables finish after (moments.map Moment.commit)) :
    after.IsShared client ∧ Keeps finish tables after := by
  refine chain.run shared fun commit member before => ?_
  rcases List.mem_map.mp member with ⟨moment, among, rfl⟩
  exact step distinct before (lawful moment among)

end Tables.IsShared

/-! ## Histories -/

variable [DecidableEq ι]

/-- The transactions of clients and purges in their order, from empty tables on. A client may still
be busy at the end, or have gone away: its call has got as far as its transactions tell. -/
structure History (client : ι → Client) where
  moments : List (Moment ι)
  start : Instant
  finish : Instant
  tables : Tables
  chain : Commit.Chain start .empty finish tables (moments.map Moment.commit)
  faithful : ∀ name, (moments.filter fun moment => moment.client? = some name).map Moment.commit <+:
    (client name).commits
  purges : ∀ moment ∈ moments, moment.client? = none →
    ∃ removed, Statement.purge.run moment.commit.before moment.commit.now =
      .ok (removed, moment.commit.after)

namespace History

/-- The transactions of calls with a key that run within the lifetime of an entry made at the given
time. -/
def window (history : History client) (key : IdempotencyKey) (opening : Instant) :
    List (Moment ι) :=
  history.moments.filter fun moment => moment.Carries client key ∧ moment.commit.IsWithin opening

def Finishes (history : History client) (name : ι) : Prop :=
  (history.moments.filter fun moment => moment.client? = some name).map Moment.commit =
    (client name).commits

theorem lawful (history : History client) {moment : Moment ι} (member : moment ∈ history.moments) :
    moment.Lawful client := by
  cases author : moment.client? with
  | none =>
      rcases history.purges moment member author with ⟨removed, purged⟩
      have after := congrArg Prod.snd (Except.ok.inj purged)
      exact .purge author after.symm
  | some name =>
      have own : moment.commit ∈ (client name).commits := by
        refine (history.faithful name).subset (List.mem_map_of_mem (List.mem_filter.mpr ?_))
        exact ⟨member, by simpa using author⟩
      rcases (client name).calls with ⟨row, calls⟩
      rcases calls.made _ own with idle | ⟨-, yields, creation, makes⟩
      · exact .idle idle
      · exact .creation name row creation author yields.id_eq yields.kind_eq makes

/-- A transaction that carries a key and is not idle creates a row under the key. -/
theorem makes_of_carries (history : History client) {moment : Moment ι}
    (member : moment ∈ history.moments) {key : IdempotencyKey}
    (carries : moment.Carries client key) :
    moment.commit.IsIdle ∨ ∃ name row creation, row.id = (client name).candidate ∧
      row.kind = (client name).submission.kind ∧ moment.commit.Makes key row creation := by
  rcases carries with ⟨owner, named, same⟩
  cases history.lawful member with
  | idle unchanged => exact .inl unchanged
  | creation name row made author id kind makes =>
      rw [named, Option.some.injEq] at author
      subst author
      subst same
      exact .inr ⟨owner, row, made, id, kind, makes⟩
  | purge nobody purged =>
      rw [named] at nobody
      cases nobody

variable (distinct : Function.Injective fun name => (client name).candidate)
  (history : History client) {earlier later : List (Moment ι)} {opening : Moment ι}
  {key : IdempotencyKey}

include distinct

/-- Before and after each transaction of a history the tables are sound. -/
theorem isShared (parts : history.moments = earlier ++ opening :: later) :
    opening.commit.before.IsShared client ∧ opening.commit.after.IsShared client := by
  have chain := history.chain
  rw [parts, List.map_append, List.map_cons] at chain
  have lawful : ∀ moment ∈ earlier, moment.Lawful client := fun moment member =>
    history.lawful (parts ▸ List.mem_append_left _ member)
  have before := (Tables.IsShared.run distinct ⟨Tables.sound_empty, nofun⟩ lawful chain.split.1).1
  exact ⟨before, (Tables.IsShared.step distinct before (history.lawful (by simp [parts]))).1⟩

/-- An entry that is live from one transaction to a later one is kept on the way, and so are rows. -/
theorem keeps_between {between : List (Moment ι)} {first second : Moment ι}
    (parts : history.moments = earlier ++ first :: (between ++ second :: later)) :
    first.commit.now ≤ second.commit.now ∧
      Tables.Keeps second.commit.now first.commit.after second.commit.before := by
  have chain := history.chain
  rw [parts, List.map_append, List.map_cons, List.map_append, List.map_cons] at chain
  have path := chain.split.2.split.1
  have lawful : ∀ moment ∈ between, moment.Lawful client := fun moment member =>
    history.lawful (by simp [parts, member])
  exact ⟨path.clock_le,
    (Tables.IsShared.run distinct (isShared distinct history parts).2 lawful path).2⟩

/-- The transaction creates the given row under a key, or returns it. -/
def Settles (client : ι → Client) (key : IdempotencyKey) (stored : Row) (moment : Moment ι) :
    Prop :=
  ∀ name row creation, row.id = (client name).candidate →
    row.kind = (client name).submission.kind → moment.commit.Makes key row creation →
    creation.row = stored

/-- A transaction that opens a key stores one row, together with an entry for it. -/
theorem opening_stores (parts : history.moments = earlier ++ opening :: later)
    (opens : opening.Opens client key) :
    ∃ stored entry, opening.added = [stored] ∧ Settles client key stored opening ∧
      stored ∈ opening.commit.after.rows ∧ stored.id = entry.referenceId ∧
      opening.commit.after.ledger.find? key.token = some entry ∧
      entry.expiresAt = opening.commit.now.later entryLifetime := by
  rcases opens with ⟨carries, changed⟩
  have shared := (isShared distinct history parts).1
  have member : opening ∈ history.moments := by simp [parts]
  rcases history.makes_of_carries member carries with idle | ⟨name, row, creation, id, kind, makes⟩
  · rw [Commit.IsIdle] at idle
    rw [idle] at changed
    exact absurd rfl changed
  · have sole := shared.soleKind distinct id kind
    rcases shared.sound.create_of_changed sole makes changed with ⟨-, added, stored, found⟩
    refine ⟨_, _, added, ?_, stored, NewRow.id_storedAt _ _, found, rfl⟩
    -- Whoever the transaction is ascribed to, the row it creates is the one it has added.
    intro otherName otherRow otherCreation otherId otherKind otherMakes
    have otherSole := shared.soleKind distinct otherId otherKind
    rcases shared.sound.create_of_changed otherSole otherMakes changed with ⟨same, otherAdded, -⟩
    rw [added] at otherAdded
    rw [same, List.singleton_inj.mp otherAdded]
    rfl

/-- While the entry is live, a later transaction under the key returns the row and adds none. -/
theorem later_settles {between : List (Moment ι)} {moment : Moment ι}
    (parts : history.moments = earlier ++ opening :: (between ++ moment :: later)) {stored : Row}
    {entry : LedgerEntry} (member : stored ∈ opening.commit.after.rows)
    (id : stored.id = entry.referenceId)
    (found : opening.commit.after.ledger.find? key.token = some entry)
    (live : moment.commit.now < entry.expiresAt) (carries : moment.Carries client key) :
    moment.added = [] ∧ Settles client key stored moment := by
  have kept := (keeps_between distinct history parts).2
  have regrouped : history.moments = (earlier ++ opening :: between) ++ moment :: later := by
    simp [parts]
  have shared := (isShared distinct history regrouped).1
  have liveEntry : moment.commit.before.ledger.live? key.token moment.commit.now = some entry :=
    Ledger.live?_eq_some_iff.mpr ⟨kept.entries _ _ found live, live⟩
  have settled : ∀ name row creation, row.id = (client name).candidate →
      row.kind = (client name).submission.kind → moment.commit.Makes key row creation →
      creation = .replayed stored ∧ moment.commit.after = moment.commit.before :=
    fun name row creation rowId rowKind makes =>
      shared.sound.create_of_live (shared.soleKind distinct rowId rowKind) liveEntry
        (kept.rows _ member) id makes
  constructor
  · have unchanged : moment.commit.after = moment.commit.before := by
      have present : moment ∈ history.moments := by simp [regrouped]
      rcases history.makes_of_carries present carries with
        idle | ⟨name, row, creation, rowId, rowKind, makes⟩
      · exact idle
      · exact (settled name row creation rowId rowKind makes).2
    rw [Moment.added, unchanged, Tables.added_self]
  · intro name row creation rowId rowKind makes
    rw [(settled name row creation rowId rowKind makes).1]
    rfl

/-- No transaction under a key comes before the one that opens it, but at the same time: its entry
would be live. -/
theorem earlier_idle {between : List (Moment ι)} {moment : Moment ι}
    (parts : history.moments = earlier ++ moment :: (between ++ opening :: later))
    (opens : opening.Opens client key) (same : opening.commit.now ≤ moment.commit.now)
    {row : NewRow} {creation : Creation Row} : ¬ moment.commit.Makes key row creation := by
  intro makes
  rcases Tables.live_of_create makes with ⟨entry, live⟩
  rw [Ledger.live?_eq_some_iff] at live
  rcases keeps_between distinct history parts with ⟨ordered, kept⟩
  have now : opening.commit.now = moment.commit.now := le_antisymm same ordered
  have regrouped : history.moments = (earlier ++ moment :: between) ++ opening :: later := by
    simp [parts]
  have shared := (isShared distinct history regrouped).1
  rcases opens with ⟨carries, changed⟩
  -- The opening transaction would meet the entry of the earlier one and leave the ledger alone.
  have unchanged : opening.commit.after = opening.commit.before := by
    have present : opening ∈ history.moments := by simp [regrouped]
    rcases history.makes_of_carries present carries with
      idle | ⟨name, row, creation, id, kind, opened⟩
    · exact idle
    · have live' : opening.commit.now < entry.expiresAt := now ▸ live.2
      have found := kept.entries _ _ live.1 live'
      rcases shared.sound.referenced entry (Ledger.mem_of_find? found) with
        ⟨stored, member, storedId, -⟩
      exact (shared.sound.create_of_live (shared.soleKind distinct id kind)
        (Ledger.live?_eq_some_iff.mpr ⟨found, live'⟩) member storedId opened).2
  rw [unchanged] at changed
  exact changed rfl

end History

end

/-! ## A history of one client -/

def Client.sole : Client where
  key := ⟨.ofDigit 2⟩
  submission := .shortUrl "https://example.com"
  scene := .calm
  unused := rfl

/-- The history of one client alone, who starts with empty tables. -/
def History.alone (client : Client) (solitary : client.scene.situation.store.IsSolitary)
    (empty : client.scene.situation.store.tables = .empty) : History fun _ : Unit => client where
  moments := client.commits.map (⟨some (), ·⟩)
  start := client.scene.situation.store.clock
  finish := client.call.2.situation.store.clock
  tables := client.call.2.situation.store.tables
  chain := by
    rcases client.calls with ⟨row, calls⟩
    have chain := calls.advances.store.chain solitary
    rw [empty] at chain
    simpa [Function.comp_def] using chain
  faithful := by
    intro name
    simp [List.filter_map, Function.comp_def]
  purges := by
    intro moment member nobody
    rcases List.mem_map.mp member with ⟨commit, -, rfl⟩
    cases nobody

end LinkShortener
