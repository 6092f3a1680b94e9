import LinkShortener.Proofs.Retry.Agreement
import LinkShortener.Proofs.Store.Calm
import LinkShortener.Proofs.Store.Creation

/-! # Stores with the same live entries

Two stores that differ in their expired entries only cannot be told apart by those who create rows and
look them up, neither now nor at any later time.
-/

namespace LinkShortener

/-! ## Tables -/

namespace Tables

/-- At the given time, tables differ in their expired entries only. -/
structure Alike (now : Instant) (first second : Tables) : Prop where
  shortUrls : second.shortUrls = first.shortUrls
  users : second.users = first.users
  live : ∀ token, second.ledger.live? token now = first.ledger.live? token now
  distinct : (first.ledger.map (·.token)).Nodup
  otherDistinct : (second.ledger.map (·.token)).Nodup

namespace Alike

variable {now moment : Instant} {first second : Tables}

theorem refl (now : Instant) {tables : Tables} (distinct : (tables.ledger.map (·.token)).Nodup) :
    Alike now tables tables :=
  ⟨rfl, rfl, fun _ => rfl, distinct, distinct⟩

theorem later (alike : Alike now first second) (ordered : now ≤ moment) :
    Alike moment first second where
  shortUrls := alike.shortUrls
  users := alike.users
  live token := by
    rw [Ledger.live?_later ordered, Ledger.live?_later ordered, alike.live]
  distinct := alike.distinct
  otherDistinct := alike.otherDistinct

/-- The expired entries of the second one are taken away, now or a while ago. -/
theorem purge (alike : Alike now first second) (ordered : moment ≤ now) :
    Alike now first { second with ledger := second.ledger.purge moment } where
  shortUrls := alike.shortUrls
  users := alike.users
  live token := by
    rw [Ledger.live?_later ordered, Ledger.live?_purge alike.otherDistinct,
      ← Ledger.live?_later ordered, alike.live]
  distinct := alike.distinct
  otherDistinct := Ledger.nodup_purge alike.otherDistinct moment

/-- Both ledgers have an entry put in the place of its key. -/
theorem put (alike : Alike now first second) (entry : LedgerEntry) :
    Alike now { first with ledger := first.ledger.put entry }
      { second with ledger := second.ledger.put entry } where
  shortUrls := alike.shortUrls
  users := alike.users
  live token := by
    by_cases own : entry.token = token
    · subst own
      rw [Ledger.live?, Ledger.live?, Ledger.find?_put_self, Ledger.find?_put_self]
    · have same := alike.live token
      rw [Ledger.live?, Ledger.live?] at same ⊢
      rw [Ledger.find?_put_of_ne _ _ own, Ledger.find?_put_of_ne _ _ own, same]
  distinct := Ledger.nodup_put alike.distinct entry
  otherDistinct := Ledger.nodup_put alike.otherDistinct entry

end Alike

end Tables

/-! ## Statements and units of work -/

/-- A statement that answers the same on tables that differ in their expired entries only. -/
def Statement.IsBlind (statement : Statement) : Prop :=
  ∀ now first second, Tables.Alike now first second →
    match statement.run first now with
    | .error error => statement.run second now = .error error
    | .ok (answer, after) => ∃ other, statement.run second now = .ok (answer, other) ∧
      Tables.Alike now after other

namespace Statement

private theorem isBlind_of_effect {statement : Statement}
    (blind : ∀ now first second, Tables.Alike now first second →
      match statement.effect first now with
      | .error error => statement.effect second now = .error error
      | .ok (answer, after) => ∃ other, statement.effect second now = .ok (answer, other) ∧
        Tables.Alike now after other) : statement.IsBlind := by
  intro now first second alike
  rw [run, run]
  cases statement.unstorable? with
  | some error => rfl
  | none => exact blind now first second alike

theorem isBlind_reserve (claim : Claim) (candidate : Uuid) :
    (Statement.reserve claim candidate).IsBlind := by
  apply isBlind_of_effect
  intro now first second alike
  have same := alike.live claim.key.token
  rw [effect, effect]
  cases live : first.ledger.live? claim.key.token now with
  | some entry =>
      rw [live] at same
      rw [Ledger.reserve_of_live live, Ledger.reserve_of_live same]
      exact ⟨second, rfl, alike⟩
  | none =>
      rw [live] at same
      rw [Ledger.reserve_of_free live, Ledger.reserve_of_free same]
      exact ⟨_, rfl, alike.put _⟩

theorem isBlind_insertShortUrl (row : NewShortUrl) : (Statement.insertShortUrl row).IsBlind := by
  apply isBlind_of_effect
  intro now first second alike
  have same : second.shortUrlConflict? row = first.shortUrlConflict? row := by
    rw [Tables.shortUrlConflict?, Tables.shortUrlConflict?, alike.shortUrls]
  rw [effect, effect, same]
  cases first.shortUrlConflict? row with
  | some constraint => rfl
  | none =>
      refine ⟨_, rfl, { alike with shortUrls := ?_ }⟩
      rw [Tables.insertShortUrl, Tables.insertShortUrl, alike.shortUrls]

theorem isBlind_insertUser (row : NewUser) : (Statement.insertUser row).IsBlind := by
  apply isBlind_of_effect
  intro now first second alike
  have same : second.userConflict? row = first.userConflict? row := by
    rw [Tables.userConflict?, Tables.userConflict?, alike.users]
  rw [effect, effect, same]
  cases first.userConflict? row with
  | some constraint => rfl
  | none =>
      refine ⟨_, rfl, { alike with users := ?_ }⟩
      rw [Tables.insertUser, Tables.insertUser, alike.users]

private theorem isBlind_of_reading {statement : Statement}
    (answer : List ShortUrl → List User → statement.Answer)
    (reads : ∀ tables now,
      statement.effect tables now = .ok (answer tables.shortUrls tables.users, tables)) :
    statement.IsBlind := by
  apply isBlind_of_effect
  intro now first second alike
  rw [reads, reads, alike.shortUrls, alike.users]
  exact ⟨second, rfl, alike⟩

theorem isBlind_fetchShortUrlById (id : Uuid) : (Statement.fetchShortUrlById id).IsBlind :=
  isBlind_of_reading (fun shortUrls _ => shortUrls.find? (·.id = id)) fun _ _ => rfl

theorem isBlind_fetchShortUrlBySlug (slug : String) :
    (Statement.fetchShortUrlBySlug slug).IsBlind :=
  isBlind_of_reading (fun shortUrls _ => shortUrls.find? (·.slug = slug)) fun _ _ => rfl

theorem isBlind_fetchUserById (id : Uuid) : (Statement.fetchUserById id).IsBlind :=
  isBlind_of_reading (fun _ users => users.find? (·.id = id)) fun _ _ => rfl

theorem isBlind_ping : Statement.ping.IsBlind := isBlind_of_reading (fun _ _ => ()) fun _ _ => rfl

end Statement

namespace Work

variable {α β : Type}

def IsBlind : Work α → Prop
  | .finished _ => True
  | .failed _ => True
  | .query statement next => statement.IsBlind ∧ ∀ answer, (next answer).IsBlind

theorem IsBlind.bind {work : Work α} {next : α → Work β} (blind : work.IsBlind)
    (following : ∀ value, (next value).IsBlind) : IsBlind (work >>= next) := by
  change (work.andThen next).IsBlind
  induction work with
  | finished value => exact following value
  | failed error => trivial
  | query statement rest induction =>
      exact ⟨blind.1, fun answer => induction answer (blind.2 answer)⟩

theorem isBlind_ask {statement : Statement} (blind : statement.IsBlind) : (ask statement).IsBlind :=
  ⟨blind, fun _ => trivial⟩

private theorem isBlind_createIdempotent {Row : Type} (claim : Claim) (candidate : Uuid)
    {insert : Work Row} {fetch : Uuid → Work (Option Row)} (inserting : insert.IsBlind)
    (fetching : ∀ id, (fetch id).IsBlind) :
    (createIdempotent claim candidate insert fetch).IsBlind := by
  refine (isBlind_ask (Statement.isBlind_reserve claim candidate)).bind fun entry => ?_
  cases LedgerEntry.resolve entry candidate claim.requestHash with
  | fresh => exact inserting.bind fun _ => trivial
  | replay id =>
      refine (fetching id).bind fun found => ?_
      cases found <;> trivial
  | mismatch => trivial

theorem isBlind_createShortUrl (claim : Claim) (row : NewShortUrl) :
    (createShortUrl claim row).IsBlind :=
  isBlind_createIdempotent claim row.id (isBlind_ask (Statement.isBlind_insertShortUrl row))
    fun id => isBlind_ask (Statement.isBlind_fetchShortUrlById id)

theorem isBlind_createUser (claim : Claim) (row : NewUser) : (createUser claim row).IsBlind :=
  isBlind_createIdempotent claim row.id (isBlind_ask (Statement.isBlind_insertUser row))
    fun id => isBlind_ask (Statement.isBlind_fetchUserById id)

theorem isBlind_findBySlug (slug : String) : (findBySlug slug).IsBlind :=
  isBlind_ask (Statement.isBlind_fetchShortUrlBySlug slug)

end Work

/-! ## Databases -/

open Retry

namespace Database

/-- The same time passes for two databases, in the same pieces. Nothing changes the tables of the
first one, and all that may happen to those of the second one is that expired entries are taken away. -/
inductive Idle : Instant → List Interlude → List Interlude → Prop where
  | nil (now : Instant) : Idle now [] []
  | cons {now : Instant} {own other : Interlude} {rest otherRest : List Interlude}
      (micros : other.micros = own.micros) (unchanged : ∀ tables, own.change tables = tables)
      (purged : ∀ tables, other.change tables = tables ∨
        ∃ moment ≤ now.laterByMicros own.micros,
          other.change tables = { tables with ledger := tables.ledger.purge moment })
      (idle : Idle (now.laterByMicros own.micros) rest otherRest) :
      Idle now (own :: rest) (other :: otherRest)

/-- Databases that no fault strikes and that are treated in the same way, but that expired entries may
be taken away from the second one. -/
structure Together (first second : Database) : Prop where
  clock : second.clock = first.clock
  isOpen : first.isClosed = false
  otherOpen : second.isClosed = false
  spent : ∀ fault ∈ first.faults, fault.times = 0
  faults : second.faults = first.faults
  interludes : Idle first.clock first.interludes second.interludes
  latency : second.latency = first.latency

/-- Such databases with tables that differ in expired entries only. -/
structure Alike (first second : Database) : Prop extends Together first second where
  tables : Tables.Alike first.clock first.tables second.tables

/-- The same in the midst of a transaction. -/
structure WorkAlike (first second : Database) : Prop extends Alike first second where
  connected : first.isConnected = true
  otherConnected : second.isConnected = true
  working : ∃ own other, first.working = some own ∧ second.working = some other ∧
    Tables.Alike first.clock own other

variable {first second : Database}

namespace Alike

theorem calm (alike : first.Alike second) : first.IsCalm :=
  ⟨alike.isOpen, fun fault member => .inr (alike.spent fault member)⟩

theorem otherCalm (alike : first.Alike second) : second.IsCalm :=
  ⟨alike.otherOpen, fun fault member => .inr (alike.spent fault (alike.faults ▸ member))⟩

theorem idle (alike : first.Alike second) (name : String) :
    Fault.next name first.faults = (none, first.faults) ∧
      Fault.next name second.faults = (none, second.faults) := by
  rw [alike.faults]
  have idle := Fault.next_of_idle fun fault member (_ : fault.statement = name) =>
    alike.spent fault member
  exact ⟨idle, idle⟩

theorem resumed (alike : first.Alike second) : first.resumed.Alike second.resumed := by
  have idle := alike.interludes
  unfold Database.resumed
  generalize first.interludes = own at idle ⊢
  generalize second.interludes = other at idle ⊢
  cases idle with
  | nil => exact alike
  | @cons _ own other rest otherRest micros unchanged purged idle =>
      have passed := alike.tables.later (first.clock.le_laterByMicros own.micros)
      dsimp only
      refine { alike with clock := ?_, interludes := idle, tables := ?_ }
      · rw [alike.clock, micros]
      · rw [unchanged]
        rcases purged second.tables with same | ⟨moment, past, purged⟩
        · rw [same]
          exact passed
        · rw [purged]
          exact passed.purge past

/-- A statement that is blind to expired entries is answered the same, alone too. -/
theorem asked (alike : first.Alike second) {statement : Statement} (blind : statement.IsBlind) :
    (second.queryAlone statement).1 = (first.queryAlone statement).1 ∧
      (first.queryAlone statement).2.Alike (second.queryAlone statement).2 := by
  rcases queryAlone_calm alike.calm statement with ⟨trace, asked⟩
  rcases queryAlone_calm alike.otherCalm statement with ⟨otherTrace, otherAsked⟩
  have answers := blind _ _ _ alike.tables
  rw [asked, otherAsked, show statement.run second.tables second.clock =
    statement.run second.tables first.clock by rw [alike.clock]]
  cases ran : statement.run first.tables first.clock with
  | error error =>
      rw [ran] at answers
      rw [answers]
      exact ⟨rfl, { alike with }⟩
  | ok outcome =>
      rw [ran] at answers
      rcases answers with ⟨after, otherRan, still⟩
      rw [otherRan]
      exact ⟨rfl, { alike with tables := still }⟩

/-- The operator takes the expired entries of the second one away. -/
theorem purged (alike : first.Alike second) : first.Alike (second.queryAlone .purge).2 := by
  rcases queryAlone_calm alike.otherCalm .purge with ⟨trace, asked⟩
  rw [asked]
  exact { alike with tables := alike.tables.purge (le_of_eq alike.clock) }

end Alike

theorem commit_of_idle {database : Database} (connected : database.isConnected = true)
    (idle : Fault.next "commit" database.faults = (none, database.faults)) :
    ∃ trace, database.commit = (.ok (), { database.committed with trace }) := by
  rcases database.strike_eq "commit" with ⟨trace, struck⟩
  rw [commit, connected, struck, idle]
  exact ⟨trace, rfl⟩

theorem abandonCommit_of_idle {database : Database}
    (idle : Fault.next "commit" database.faults = (none, database.faults)) :
    ∃ trace, database.abandonCommit = { database.undone with trace } := by
  rcases database.strike_eq "commit" with ⟨trace, struck⟩
  rw [abandonCommit, struck, idle]
  exact ⟨trace, rfl⟩

theorem paces_call {α : Type} {name : String} {abandon : Database → Database}
    {operation : Database → Except DatabaseError α × Database}
    (together : first.Together second) :
    (call name abandon operation first).Paces (call name abandon operation second) := by
  refine ⟨?_, rfl⟩
  dsimp only [call]
  rw [together.latency, together.clock]

/-- Operations that end alike are calls whose results look alike. -/
theorem results_call {α : Type} {name : String} {abandon : Database → Database}
    {operation : Database → Except DatabaseError α × Database}
    (outcome : (operation second).1 = (operation first).1) :
    Veil.none.Results (call name abandon operation first).outcome
      (call name abandon operation second).outcome := by
  apply Veil.results_none.mpr
  dsimp only [call]
  rw [outcome]

end Database

open Database

theorem Work.relates_send {α : Type} {work : Work α} (blind : work.IsBlind)
    {first second : Database} (alike : first.WorkAlike second) :
    work.send.Relates .none WorkAlike first second := by
  induction work generalizing first second with
  | finished value => exact Run.couples_pure ⟨.ok value, alike⟩
  | failed error => exact Run.couples_throw ⟨.error rfl, alike⟩
  | query statement next induction =>
      rcases alike.working with ⟨own, other, isOpen, otherOpen, tables⟩
      rcases query_calm alike.calm alike.connected isOpen statement with ⟨trace, queried⟩
      rcases query_calm alike.otherCalm alike.otherConnected otherOpen statement with
        ⟨otherTrace, otherQueried⟩
      rw [show statement.run other second.clock = statement.run other first.clock by
        rw [alike.clock]] at otherQueried
      have answers := blind.1 _ _ _ tables
      have abandoned : first.traced statement.name |>.WorkAlike (second.traced statement.name) :=
        { alike with }
      have ended : (second.query statement).1 = (first.query statement).1 ∧
          (first.query statement).2.WorkAlike (second.query statement).2 := by
        rw [queried, otherQueried]
        cases ran : statement.run own first.clock with
        | error error =>
            rw [ran] at answers
            rw [answers]
            dsimp only
            exact ⟨rfl, { alike with }⟩
        | ok outcome =>
            rw [ran] at answers
            rcases answers with ⟨after, otherRan, still⟩
            rw [otherRan]
            dsimp only
            exact ⟨rfl, { alike with working := ⟨_, _, rfl, rfl, still⟩ }⟩
      refine Run.couples_bind (Run.couples_race (fun _ => paces_call alike.toTogether) (fun _ => ?_)
        (fun _ _ => ⟨.error rfl, abandoned⟩) fun _ => ⟨.error rfl, alike⟩)
      dsimp only [call]
      rw [ended.1]
      cases (first.query statement).1 with
      | error error => exact ⟨.error rfl, ended.2⟩
      | ok answer => exact induction answer (blind.2 answer) ended.2

namespace Database

variable {first second : Database} {α : Type} {work : Work α}

namespace WorkAlike

theorem undone (alike : first.WorkAlike second) : first.undone.Alike second.undone :=
  { alike with }

theorem relates_undo (alike : first.WorkAlike second) :
    (undo transactions).Relates .none Alike first second := by
  rcases rollback_calm alike.calm alike.connected with ⟨trace, rolledBack⟩
  rcases rollback_calm alike.otherCalm alike.otherConnected with ⟨otherTrace, otherRolledBack⟩
  unfold undo
  dsimp only [transactions]
  refine Run.couples_bind (Run.couples_caught (Run.couples_perform
    (fun _ => paces_call alike.toTogether) fun _ => ?_))
  dsimp only [call]
  rw [rolledBack, otherRolledBack]
  exact Run.couples_pure ⟨.ok (), { alike.undone with }⟩

theorem relates_committing (alike : first.WorkAlike second) :
    (Run.race transactions.committing).Relates .none Alike first second := by
  rcases alike.working with ⟨own, other, isOpen, otherOpen, tables⟩
  rcases alike.idle "commit" with ⟨idle, otherIdle⟩
  rcases commit_of_idle alike.connected idle with ⟨trace, committed⟩
  rcases commit_of_idle alike.otherConnected otherIdle with ⟨otherTrace, otherCommitted⟩
  rcases abandonCommit_of_idle idle with ⟨leftTrace, left⟩
  rcases abandonCommit_of_idle otherIdle with ⟨otherLeftTrace, otherLeft⟩
  dsimp only [transactions]
  refine Run.couples_race (fun _ => paces_call alike.toTogether)
    (fun _ => ⟨results_call (by rw [committed, otherCommitted]), ?_⟩)
    (fun _ _ => ⟨.error rfl, ?_⟩) fun _ => ⟨.error rfl, alike.toAlike⟩
  · dsimp only [call]
    rw [committed, otherCommitted]
    refine { alike.toAlike with tables := ?_ }
    simpa [Database.committed, isOpen, otherOpen] using tables
  · dsimp only [call]
    rw [left, otherLeft]
    exact { alike.undone with }

end WorkAlike

theorem relates_opening (alike : first.Alike second) :
    Run.Couples .none (Run.race transactions.opening) (Run.race transactions.opening) first second
      fun result other after otherAfter => Veil.none.Results result other ∧
        match result with
        | .ok _ => after.WorkAlike otherAfter
        | .error _ => after.Alike otherAfter := by
  have resumed := alike.resumed
  rcases begin_calm alike.calm with ⟨trace, began⟩
  rcases begin_calm alike.otherCalm with ⟨otherTrace, otherBegan⟩
  have unopened : first.traced "begin" |>.undone.Alike (second.traced "begin").undone :=
    { alike with }
  dsimp only [transactions]
  refine Run.couples_race (fun _ => paces_call alike.toTogether)
    (fun _ => ⟨results_call (by rw [began, otherBegan]), ?_⟩)
    (fun _ _ => ⟨.error rfl, unopened⟩) fun _ => ⟨.error rfl, alike⟩
  dsimp only [call]
  rw [began, otherBegan]
  exact { resumed with
    connected := rfl, otherConnected := rfl, working := ⟨_, _, rfl, rfl, resumed.tables⟩ }

/-- Work that is blind to expired entries goes the same way on both databases. -/
theorem relates_transact (policy : Policy) (blind : work.IsBlind) (alike : first.Alike second) :
    (transact policy work).Relates .none Alike first second :=
  relates_attemptsFrom (fun _ _ alike => relates_attempt (relates_opening alike)
    (fun _ _ => Work.relates_send blind) (fun _ _ => WorkAlike.relates_undo)
    (fun _ _ => WorkAlike.relates_committing) (fun _ _ => WorkAlike.toAlike) alike) _ _ alike

end Database

end LinkShortener
