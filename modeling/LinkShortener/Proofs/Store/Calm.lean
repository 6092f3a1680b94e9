import LinkShortener.Proofs.Retry.Completion
import LinkShortener.Proofs.Store.Transactions

/-! # Calm connections

A connection on which no statement fails, except perhaps a commit. There a unit of work comes to
what it does to the tables in one step, unless the caller goes away.
-/

namespace LinkShortener

/-- No fault will strike but at a commit. -/
def Fault.SpareAllButCommit (faults : List Fault) : Prop :=
  ∀ fault ∈ faults, fault.statement = "commit" ∨ fault.times = 0

namespace Fault

theorem next_of_idle {faults : List Fault} {name : String}
    (idle : ∀ fault ∈ faults, fault.statement = name → fault.times = 0) :
    next name faults = (none, faults) := by
  induction faults with
  | nil => rfl
  | cons fault rest induction =>
      have skipped : ¬ (fault.statement = name ∧ 0 < fault.times) := by
        rintro ⟨same, strikes⟩
        have := idle fault List.mem_cons_self same
        omega
      rw [next, if_neg skipped,
        induction fun other member => idle other (List.mem_cons_of_mem _ member)]

theorem next_of_spare {faults : List Fault} (spare : SpareAllButCommit faults) {name : String}
    (other : name ≠ "commit") : next name faults = (none, faults) :=
  next_of_idle fun fault member same =>
    (spare fault member).resolve_left fun commit => other (same.symm.trans commit)

/-- A commit that fails uses up its own faults only. -/
theorem spare_next {faults : List Fault} (spare : SpareAllButCommit faults) :
    SpareAllButCommit (next "commit" faults).2 := by
  induction faults with
  | nil => exact spare
  | cons fault rest induction =>
      have tail : SpareAllButCommit rest := fun other member =>
        spare other (List.mem_cons_of_mem _ member)
      have head := spare fault List.mem_cons_self
      unfold next
      split
      · split
        · intro other member
          rcases List.mem_cons.mp member with rfl | member
          · exact head
          · exact tail other member
        · intro other member
          rcases List.mem_cons.mp member with rfl | member
          · exact head.imp_right fun done => by simp [done]
          · exact tail other member
      · intro other member
        rcases List.mem_cons.mp member with rfl | member
        · exact head
        · exact induction tail other member

end Fault

namespace Database

/-- A connection of an open pool on which only commits may fail. -/
structure IsCalm (database : Database) : Prop where
  isOpen : database.isClosed = false
  spare : Fault.SpareAllButCommit database.faults

variable {database : Database}

theorem resumed_eq (database : Database) :
    ∃ clock tables interludes, database.resumed = { database with clock, tables, interludes } := by
  unfold resumed
  split
  · exact ⟨_, _, _, rfl⟩
  · exact ⟨_, _, _, rfl⟩

theorem IsCalm.resumed (calm : database.IsCalm) : database.resumed.IsCalm := by
  rcases database.resumed_eq with ⟨clock, tables, interludes, equal⟩
  rw [equal]
  exact ⟨calm.isOpen, calm.spare⟩

theorem faults_resumed (database : Database) : database.resumed.faults = database.faults := by
  rcases database.resumed_eq with ⟨clock, tables, interludes, equal⟩
  rw [equal]

/-- Alone with the store, a client finds the tables as it left them. -/
theorem IsSolitary.tables_resumed (solitary : database.IsSolitary) :
    database.resumed.tables = database.tables :=
  (database.advances_resumed.chain solitary).2

theorem connect_calm (calm : database.IsCalm) :
    database.connect = (.ok (), { database with isConnected := true }) := by
  have attempts : connectAttempts reconnectTimeout =
      1 + attemptsFrom (reconnectTimeout * 1000) (0 + 10)
        (min (10 * 2) (reconnectTimeout * 1000 / 5)) := by
    rw [connectAttempts, attemptsFrom]
    rfl
  unfold connect
  rw [if_neg (by rw [calm.isOpen]; decide)]
  split
  next connected =>
    have same : database = { database with isConnected := true } := by rw [← connected]
    rw [← same]
  next lost =>
    rw [attempts, Nat.add_comm, connectWithin, Fault.next_of_spare calm.spare (by decide)]

theorem strike_calm (calm : database.IsCalm) {name : String} (other : name ≠ "commit") :
    ∃ trace, database.strike name = (none, { database with trace }) := by
  rcases database.strike_eq name with ⟨trace, struck⟩
  rw [Fault.next_of_spare calm.spare other] at struck
  exact ⟨trace, struck⟩

theorem begin_calm (calm : database.IsCalm) :
    ∃ trace, database.begin = (.ok (), { database.resumed with
      isConnected := true, working := some database.resumed.tables, trace }) := by
  have resumed := calm.resumed
  have connected : { database.resumed with isConnected := true }.IsCalm :=
    ⟨resumed.isOpen, resumed.spare⟩
  rcases strike_calm connected (show "begin" ≠ "commit" by decide) with ⟨trace, struck⟩
  refine ⟨trace, ?_⟩
  rw [begin, connect_calm resumed]
  dsimp only
  rw [struck]

theorem name_ne_commit (statement : Statement) : statement.name ≠ "commit" := by
  cases statement <;> simp [Statement.name]

/-- A statement in the open transaction that no fault strikes comes to what it does to the tables that
the transaction sees. -/
theorem query_of_unstruck (database : Database) {tables : Tables}
    (connected : database.isConnected = true) (isOpen : database.working = some tables)
    (statement : Statement) (unstruck : (Fault.next statement.name database.faults).1 = none) :
    ∃ trace, database.query statement =
      match statement.run tables database.clock with
      | .ok (answer, after) => (.ok answer, { database with
          faults := (Fault.next statement.name database.faults).2, trace, working := some after })
      | .error error => (.error error, { database with
          faults := (Fault.next statement.name database.faults).2, trace }) := by
  rcases database.strike_eq statement.name with ⟨trace, struck⟩
  rw [query, if_pos connected, serve, struck, unstruck, isOpen, Option.getD_some]
  dsimp only
  cases statement.run tables database.clock with
  | error error => exact ⟨_, rfl⟩
  | ok outcome => exact ⟨_, rfl⟩

theorem query_calm (calm : database.IsCalm) (connected : database.isConnected = true)
    {tables : Tables} (isOpen : database.working = some tables) (statement : Statement) :
    ∃ trace, database.query statement =
      match statement.run tables database.clock with
      | .ok (answer, after) => (.ok answer, { database with trace, working := some after })
      | .error error => (.error error, { database with trace }) := by
  have unstruck := Fault.next_of_spare calm.spare (name_ne_commit statement)
  have queried := database.query_of_unstruck connected isOpen statement (by rw [unstruck])
  rwa [unstruck] at queried

theorem queryAlone_calm (calm : database.IsCalm) (statement : Statement) :
    ∃ trace, database.queryAlone statement =
      match statement.run database.tables database.clock with
      | .ok (answer, after) =>
        (.ok answer, { database with isConnected := true, trace, tables := after })
      | .error error => (.error error, { database with isConnected := true, trace }) := by
  have connected : { database with isConnected := true }.IsCalm := ⟨calm.isOpen, calm.spare⟩
  rcases strike_calm connected (name_ne_commit statement) with ⟨trace, struck⟩
  rw [queryAlone, connect_calm calm]
  dsimp only
  rw [serve, struck]
  dsimp only
  cases statement.run database.tables database.clock with
  | error error => exact ⟨_, rfl⟩
  | ok outcome => exact ⟨_, rfl⟩

theorem rollback_calm (calm : database.IsCalm) (connected : database.isConnected = true) :
    ∃ trace, database.rollback = (.ok (), { database.undone with trace }) := by
  rcases strike_calm calm (show "rollback" ≠ "commit" by decide) with ⟨trace, struck⟩
  rw [rollback, connected, struck]
  exact ⟨trace, rfl⟩

end Database

open Retry Database

theorem Work.keepsOver_send {α : Type} (work : Work α) : work.send.KeepsOver := by
  induction work with
  | finished value => exact preserves_pure value
  | failed error => exact preserves_throw _
  | query statement next induction => exact (Run.keepsOver_race _).bind induction

theorem Work.preserves_isEndless_send {α : Type} (work : Work α) :
    Preserves Situation.IsEndless work.send := by
  induction work with
  | finished value => exact preserves_pure _
  | failed error => exact preserves_throw _
  | query statement next induction =>
      exact (Run.preserves_isEndless_race fun _ _ => rfl).bind induction

theorem Database.preserves_isEndless_transact {α : Type} (policy : Policy) (work : Work α) :
    Preserves Situation.IsEndless (transact policy work) :=
  Transactions.Keep.attemptsFrom
    (keep_isEndless (fun _ _ => rfl) (fun _ _ => rfl) fun _ _ => rfl)
    work.preserves_isEndless_send _ _

/-- The statements of a unit of work come to one step on the tables of the open transaction. -/
theorem Work.completes_send {α : Type} (work : Work α) {database : Database} {tables : Tables}
    (calm : database.IsCalm) (connected : database.isConnected = true)
    (isOpen : database.working = some tables) :
    work.send.Completes database fun result after =>
      ∃ trace working, after = { database with trace, working } ∧
        match work.run database.clock tables with
        | .ok (value, changed) => result = .ok value ∧ working = some changed
        | .error error => result = .error (.error error) := by
  induction work generalizing database tables with
  | finished value =>
      refine (Run.leads_pure ?_).completes
      exact ⟨database.trace, some tables, by rw [← isOpen], rfl, rfl⟩
  | failed error =>
      refine (Run.leads_throw ?_).completes
      exact ⟨database.trace, some tables, by rw [← isOpen], rfl⟩
  | query statement next induction =>
      refine Run.completes_bind (Run.completes_race fun _ => ?_) fun answer =>
        (next answer).keepsOver_send
      rcases query_calm calm connected isOpen statement with ⟨trace, queried⟩
      dsimp only [call]
      rw [queried, Work.run]
      cases statement.run tables database.clock with
      | error error => exact ⟨trace, database.working, rfl, rfl⟩
      | ok outcome =>
          rcases outcome with ⟨answer, changed⟩
          have nextCalm : { database with trace, working := some changed }.IsCalm :=
            ⟨calm.isOpen, calm.spare⟩
          refine (induction answer nextCalm connected rfl).imp fun result after sent => ?_
          rcases sent with ⟨finalTrace, working, rfl, ended⟩
          exact ⟨finalTrace, working, rfl, ended⟩

def Failure.report : Failure → DatabaseError
  | .refused report => .reported report
  | .dropped => .connectionLost
  | .unacknowledged report => .reported report

def Failure.takesEffect : Failure → Bool
  | .unacknowledged _ => true
  | _ => false

namespace Database

/-- What a step leaves behind: the given tables and faults, and nothing else that matters. -/
structure Becomes (before : Database) (tables : Tables) (faults : List Fault) (after : Database) :
    Prop where
  tables : after.tables = tables
  clock : after.clock = before.clock
  interludes : after.interludes = before.interludes
  faults : after.faults = faults
  isClosed : after.isClosed = before.isClosed

theorem Becomes.of_same {before other after : Database} {tables : Tables} {faults : List Fault}
    (becomes : other.Becomes tables faults after) (clock : other.clock = before.clock)
    (interludes : other.interludes = before.interludes)
    (isClosed : other.isClosed = before.isClosed) : before.Becomes tables faults after :=
  ⟨becomes.tables, becomes.clock.trans clock, becomes.interludes.trans interludes,
    becomes.faults, becomes.isClosed.trans isClosed⟩

theorem Becomes.isCalm {before after : Database} {tables : Tables} {faults : List Fault}
    (becomes : before.Becomes tables faults after) (calm : before.IsCalm)
    (spare : Fault.SpareAllButCommit faults) : after.IsCalm :=
  ⟨becomes.isClosed.trans calm.isOpen, becomes.faults ▸ spare⟩

theorem Becomes.solitary {before after : Database} {tables : Tables} {faults : List Fault}
    (becomes : before.Becomes tables faults after) (solitary : before.IsSolitary) :
    after.IsSolitary := by
  rw [IsSolitary, becomes.interludes]
  exact solitary

/-- How an attempt ends where nothing fails before its commit: by what its work does to the tables,
and by what becomes of the commit. -/
def Ends {α : Type} (before : Database) (outcome : Except StoreError (α × Tables))
    (result : Except Stop α) (after : Database) : Prop :=
  match outcome with
  | .error error =>
    result = .error (.error error) ∧ before.Becomes before.tables before.faults after
  | .ok (value, tables) =>
    match Fault.next "commit" before.faults with
    | (none, faults) => result = .ok value ∧ before.Becomes tables faults after
    | (some failure, faults) =>
      result = .error (.error failure.report.classify) ∧
        before.Becomes (if failure.takesEffect then tables else before.tables) faults after

theorem Ends.map {α β : Type} {before after : Database} {outcome : Except StoreError (α × Tables)}
    {result : Except Stop α} (ends : before.Ends outcome result after) (embed : α → β) :
    before.Ends (outcome.map (Prod.map embed id)) (result.map embed) after := by
  unfold Ends at ends ⊢
  rcases outcome with error | ⟨value, tables⟩
  · rcases ends with ⟨rfl, becomes⟩
    exact ⟨rfl, becomes⟩
  · dsimp only [Except.map, Prod.map]
    dsimp only at ends
    cases failing : Fault.next "commit" before.faults with
    | mk failure faults =>
        rw [failing] at ends
        cases failure with
        | none =>
            rcases ends with ⟨rfl, becomes⟩
            exact ⟨rfl, becomes⟩
        | some failure =>
            rcases ends with ⟨rfl, becomes⟩
            exact ⟨rfl, becomes⟩

variable {database : Database}

theorem commit_becomes (database : Database) {tables : Tables}
    (connected : database.isConnected = true)
    (isOpen : database.working = some tables) :
    match Fault.next "commit" database.faults with
    | (none, faults) =>
      database.commit.1 = .ok () ∧ database.Becomes tables faults database.commit.2
    | (some failure, faults) =>
      database.commit.1 = .error failure.report ∧ database.Becomes
        (if failure.takesEffect then tables else database.tables) faults database.commit.2 := by
  rcases database.strike_eq "commit" with ⟨trace, struck⟩
  cases failing : Fault.next "commit" database.faults with
  | mk failure faults =>
      rw [failing] at struck
      rw [commit, connected, struck]
      rcases failure with _ | (report | _ | report)
      · exact ⟨rfl, ⟨by simp [committed, isOpen], rfl, rfl, rfl, rfl⟩⟩
      · exact ⟨rfl, ⟨rfl, rfl, rfl, rfl, rfl⟩⟩
      · exact ⟨rfl, ⟨rfl, rfl, rfl, rfl, rfl⟩⟩
      · exact ⟨rfl, ⟨by simp [committed, isOpen, Failure.takesEffect], rfl, rfl, rfl, rfl⟩⟩

theorem completes_undo (calm : database.IsCalm) (connected : database.isConnected = true) :
    (undo transactions).Completes database fun result after =>
      result = .ok () ∧ database.Becomes database.tables database.faults after := by
  rcases rollback_calm calm connected with ⟨trace, undone⟩
  refine (Run.leads_bind (Run.leads_caught (Run.leads_perform fun _ => ?_))).completes
  dsimp only [transactions, call]
  rw [undone]
  exact Run.leads_pure ⟨rfl, ⟨rfl, rfl, rfl, rfl, rfl⟩⟩

theorem completes_attempt {α : Type} (work : Work α) (calm : database.IsCalm) :
    (attempt transactions work.send).Completes database
      (Ends database.resumed (work.run database.resumed.clock database.resumed.tables)) := by
  rcases begin_calm calm with ⟨beginTrace, began⟩
  have resumed := calm.resumed
  refine Retry.completes_attempt work.keepsOver_send (Run.completes_race fun _ => ?_)
  dsimp only [transactions, call]
  rw [began]
  have opened : { database.resumed with
      isConnected := true, working := some database.resumed.tables, trace := beginTrace }.IsCalm :=
    ⟨resumed.isOpen, resumed.spare⟩
  refine (work.completes_send opened rfl rfl).imp fun result worked sent => ?_
  rcases sent with ⟨workTrace, working, rfl, ended⟩
  -- What remains is to close the transaction: by a rollback, or by a commit, which may fail.
  unfold Ends
  dsimp only at ended
  cases ran : work.run database.resumed.clock database.resumed.tables with
  | error error =>
      rw [ran] at ended
      subst ended
      have worked : { database.resumed with
          isConnected := true, working := working, trace := workTrace }.IsCalm :=
        ⟨resumed.isOpen, resumed.spare⟩
      refine (completes_undo worked rfl).imp fun result after undone => ?_
      rcases undone with ⟨rfl, becomes⟩
      exact ⟨rfl, becomes.of_same rfl rfl rfl⟩
  | ok outcome =>
      rcases outcome with ⟨value, tables⟩
      rw [ran] at ended
      rcases ended with ⟨rfl, rfl⟩
      refine Run.completes_race fun _ => ?_
      let worked : Database := { database.resumed with
        isConnected := true, working := some tables, trace := workTrace }
      have closed : match Fault.next "commit" database.resumed.faults with
          | (none, faults) =>
            worked.commit.1 = .ok () ∧ worked.Becomes tables faults worked.commit.2
          | (some failure, faults) =>
            worked.commit.1 = .error failure.report ∧ worked.Becomes
              (if failure.takesEffect then tables else database.resumed.tables) faults
              worked.commit.2 := commit_becomes worked rfl rfl
      cases failing : Fault.next "commit" database.resumed.faults with
      | mk failure faults =>
          rw [failing] at closed
          cases failure with
          | none =>
              rcases closed with ⟨first, becomes⟩
              dsimp only [transactions, call]
              rw [show worked.commit.1 = _ from first]
              exact ⟨rfl, becomes.of_same rfl rfl rfl⟩
          | some failure =>
              rcases closed with ⟨first, becomes⟩
              dsimp only [transactions, call]
              rw [show worked.commit.1 = _ from first]
              exact ⟨rfl, becomes.of_same rfl rfl rfl⟩

/-- Where the commit is acknowledged too, the first attempt decides, unless another one could mend the
error of the work itself. -/
theorem completes_transact {α : Type} (policy : Policy) (work : Work α) (calm : database.IsCalm)
    (acknowledged : (Fault.next "commit" database.resumed.faults).1 = none)
    (final : ∀ error, work.run database.resumed.clock database.resumed.tables = .error error →
      error.retryable = false) :
    (transact policy work).Completes database
      (Ends database.resumed (work.run database.resumed.clock database.resumed.tables)) := by
  refine completes_execute work.keepsOver_send ((completes_attempt work calm).imp ?_)
  intro result after ends
  refine ⟨ends, fun error failed => ?_⟩
  unfold Ends at ends
  cases ran : work.run database.resumed.clock database.resumed.tables with
  | error other =>
      rw [ran] at ends
      cases ends.1.symm.trans failed
      exact final _ ran
  | ok outcome =>
      rw [ran] at ends
      cases failing : Fault.next "commit" database.resumed.faults with
      | mk failure faults =>
          rw [failing] at ends acknowledged
          cases acknowledged
          cases ends.1.symm.trans failed

end Database

end LinkShortener
