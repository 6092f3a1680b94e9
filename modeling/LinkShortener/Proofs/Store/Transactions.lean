import LinkShortener.Proofs.Retry.Reasoning
import LinkShortener.Proofs.Time.Order
import LinkShortener.Store.Database

/-! # Transactions

What a unit of work comes to when it is sent through a connection that may fail, for a caller who
may go away: some of its attempts take effect, each as one run of the work, and a value that is
returned is that of the last of them.
-/

namespace LinkShortener

namespace Commit

/-- The transaction is one run of a unit of work with the given value. -/
def Runs {α : Type} (commit : Commit) (work : Work α) (value : α) : Prop :=
  work.run commit.now commit.before = .ok (value, commit.after)

/-- Transactions that follow each other from one time and its tables to another. -/
def Chain (clock : Instant) (tables : Tables) (finish : Instant) (after : Tables) :
    List Commit → Prop
  | [] => clock ≤ finish ∧ after = tables
  | commit :: rest =>
    clock ≤ commit.now ∧ commit.before = tables ∧ Chain commit.now commit.after finish after rest

instance Chain.decidable {finish : Instant} {after : Tables} : ∀ {commits : List Commit}
    {clock : Instant} {tables : Tables}, Decidable (Chain clock tables finish after commits)
  | [], _, _ => inferInstanceAs (Decidable (_ ∧ _))
  | commit :: rest, _, _ =>
    have : Decidable (Chain commit.now commit.after finish after rest) := Chain.decidable
    inferInstanceAs (Decidable (_ ∧ _ ∧ Chain commit.now commit.after finish after rest))

theorem Chain.append {clock middle finish : Instant} {tables between after : Tables}
    {first second : List Commit} (leading : Chain clock tables middle between first)
    (following : Chain middle between finish after second) :
    Chain clock tables finish after (first ++ second) := by
  induction first generalizing clock tables with
  | nil =>
      rcases leading with ⟨ordered, rfl⟩
      cases second with
      | nil => exact ⟨le_trans ordered following.1, following.2⟩
      | cons commit rest => exact ⟨le_trans ordered following.1, following.2⟩
  | cons commit rest induction =>
      exact ⟨leading.1, leading.2.1, induction leading.2.2⟩

/-- The transactions before one of a chain lead to it, and those after it lead on from it. -/
theorem Chain.split {clock finish : Instant} {tables after : Tables} {earlier later : List Commit}
    {commit : Commit} (chain : Chain clock tables finish after (earlier ++ commit :: later)) :
    Chain clock tables commit.now commit.before earlier ∧
      Chain commit.now commit.after finish after later := by
  induction earlier generalizing clock tables with
  | nil => exact ⟨⟨chain.1, chain.2.1⟩, chain.2.2⟩
  | cons first rest induction =>
      have parts := induction chain.2.2
      exact ⟨⟨chain.1, chain.2.1, parts.1⟩, parts.2⟩

/-- What every transaction of a chain preserves holds at its end. -/
theorem Chain.preserves {holds : Tables → Prop} {clock finish : Instant} {tables after : Tables}
    {commits : List Commit} (chain : Chain clock tables finish after commits) (first : holds tables)
    (step : ∀ commit ∈ commits, holds commit.before → holds commit.after) : holds after := by
  induction commits generalizing clock tables with
  | nil => exact chain.2 ▸ first
  | cons commit rest induction =>
      rcases chain with ⟨-, rfl, following⟩
      exact induction following (step commit List.mem_cons_self first)
        fun other member => step other (List.mem_cons_of_mem _ member)

theorem Chain.clock_le {clock finish : Instant} {tables after : Tables} {commits : List Commit}
    (chain : Chain clock tables finish after commits) : clock ≤ finish := by
  induction commits generalizing clock tables with
  | nil => exact chain.1
  | cons commit rest induction => exact le_trans chain.1 (induction chain.2.2)

/-- A chain changes nothing if none of its transactions changes the first tables. -/
theorem Chain.constant {clock finish : Instant} {tables after : Tables} {commits : List Commit}
    (chain : Chain clock tables finish after commits)
    (step : ∀ commit ∈ commits, commit.now ≤ finish → commit.before = tables →
      commit.after = tables) :
    after = tables ∧ ∀ commit ∈ commits, commit.now ≤ finish ∧ commit.before = tables := by
  induction commits generalizing clock with
  | nil => exact ⟨chain.2, nofun⟩
  | cons commit rest induction =>
      rcases chain with ⟨-, found, following⟩
      have now := following.clock_le
      rw [step commit List.mem_cons_self now found] at following
      have later := induction following fun other member =>
        step other (List.mem_cons_of_mem _ member)
      refine ⟨later.1, fun other member => ?_⟩
      rcases List.mem_cons.mp member with rfl | member
      · exact ⟨now, found⟩
      · exact later.2 other member

end Commit

namespace Database

/-- No other client changes the tables. -/
def IsSolitary (database : Database) : Prop :=
  ∀ interlude ∈ database.interludes, ∀ tables, interlude.change tables = tables

theorem isSolitary_of_nil {database : Database} (none : database.interludes = []) :
    database.IsSolitary := by
  intro interlude member
  rw [none] at member
  cases member

/-- What lies between two states of a database: the transactions that took effect. -/
structure Advances (before : Database) (commits : List Commit) (after : Database) : Prop where
  recorded : after.commits = before.commits ++ commits
  alone : before.IsSolitary → after.IsSolitary
  chain : before.IsSolitary →
    Commit.Chain before.clock before.tables after.clock after.tables commits

namespace Advances

theorem refl (database : Database) : Advances database [] database where
  recorded := (List.append_nil _).symm
  alone solitary := solitary
  chain _ := ⟨le_refl _, rfl⟩

theorem trans {before middle after : Database} {first second : List Commit}
    (leading : Advances before first middle) (following : Advances middle second after) :
    Advances before (first ++ second) after where
  recorded := by rw [following.recorded, leading.recorded, List.append_assoc]
  alone solitary := following.alone (leading.alone solitary)
  chain solitary := (leading.chain solitary).append (following.chain (leading.alone solitary))

end Advances

/-! ## Steps on the connection -/

/-- Nothing but the connection has changed. -/
structure Untouched (before after : Database) : Prop where
  tables : after.tables = before.tables
  clock : after.clock = before.clock
  interludes : after.interludes = before.interludes
  commits : after.commits = before.commits

namespace Untouched

theorem refl (database : Database) : Untouched database database := ⟨rfl, rfl, rfl, rfl⟩

theorem trans {before middle after : Database} (first : Untouched before middle)
    (second : Untouched middle after) : Untouched before after :=
  ⟨second.tables.trans first.tables, second.clock.trans first.clock,
    second.interludes.trans first.interludes, second.commits.trans first.commits⟩

theorem advances {before after : Database} (untouched : Untouched before after) :
    Advances before [] after where
  recorded := by rw [untouched.commits, List.append_nil]
  alone solitary := by
    unfold IsSolitary
    rw [untouched.interludes]
    exact solitary
  chain _ := by
    rw [untouched.clock, untouched.tables]
    exact ⟨le_refl _, rfl⟩

end Untouched

variable {database : Database}

theorem advances_resumed (database : Database) : Advances database [] database.resumed := by
  unfold resumed
  split
  · exact .refl database
  next interlude rest listed =>
    refine ⟨(List.append_nil _).symm, fun solitary other member => ?_, fun solitary => ?_⟩
    · exact solitary other (listed ▸ List.mem_cons_of_mem _ member)
    · exact ⟨database.clock.le_laterByMicros _,
        solitary interlude (listed ▸ List.mem_cons_self) _⟩

theorem strike_eq (database : Database) (name : String) :
    ∃ trace, database.strike name = ((Fault.next name database.faults).1,
      { database with faults := (Fault.next name database.faults).2, trace }) := by
  unfold strike
  cases failing : Fault.next name database.faults with
  | mk failure faults => cases failure <;> exact ⟨_, rfl⟩

theorem connectWithin_eq (attempts : Nat) (database : Database) :
    ∃ faults isConnected trace, (database.connectWithin attempts).2 =
      { database with faults, isConnected, trace } := by
  induction attempts generalizing database with
  | zero => exact ⟨_, _, _, rfl⟩
  | succ attempts induction =>
      have refused : ∀ faults trace report, ∃ faults' isConnected trace',
          (if isBusy report then connectWithin attempts { database with faults, trace }
            else (.error (.reported report), { database with faults, trace })).2 =
            { database with faults := faults', isConnected, trace := trace' } := by
        intro faults trace report
        split
        · rcases induction { database with faults, trace } with
            ⟨faults', isConnected, trace', equal⟩
          exact ⟨faults', isConnected, trace', equal⟩
        · exact ⟨_, _, _, rfl⟩
      unfold connectWithin
      cases failing : Fault.next "connect" database.faults with
      | mk failure faults =>
          rcases failure with _ | (report | _ | report)
          · exact ⟨_, _, _, rfl⟩
          · exact refused faults _ report
          · exact ⟨_, _, _, rfl⟩
          · exact refused faults _ report

theorem connect_eq (database : Database) :
    ∃ faults isConnected trace, database.connect.2 =
      { database with faults, isConnected, trace } := by
  unfold connect
  split
  · exact ⟨_, _, _, rfl⟩
  · split
    · exact ⟨_, _, _, rfl⟩
    · exact connectWithin_eq _ database

theorem begin_ends (database : Database) :
    Untouched database.resumed database.begin.2 ∧
      (database.begin.1 = .ok () → database.begin.2.working = some database.begin.2.tables) := by
  rcases database.resumed.connect_eq with ⟨faults, isConnected, trace, connected⟩
  unfold begin
  cases linked : database.resumed.connect with
  | mk result after =>
      rw [linked] at connected
      dsimp only at connected
      subst connected
      cases result with
      | error error => exact ⟨⟨rfl, rfl, rfl, rfl⟩, nofun⟩
      | ok _ =>
          rcases strike_eq { database.resumed with faults, isConnected, trace } "begin" with
            ⟨struckTrace, struck⟩
          dsimp only
          rw [struck]
          rcases (Fault.next "begin" faults).1 with _ | (report | _ | report)
          · exact ⟨⟨rfl, rfl, rfl, rfl⟩, fun _ => rfl⟩
          · exact ⟨⟨rfl, rfl, rfl, rfl⟩, nofun⟩
          · exact ⟨⟨rfl, rfl, rfl, rfl⟩, nofun⟩
          · exact ⟨⟨rfl, rfl, rfl, rfl⟩, nofun⟩

theorem untouched_query (statement : Statement) (database : Database) :
    Untouched database (database.query statement).2 := by
  unfold query
  split
  · rcases database.strike_eq statement.name with ⟨trace, struck⟩
    unfold serve
    rw [struck]
    rcases (Fault.next statement.name database.faults).1 with _ | (report | _ | report)
    · dsimp only
      split <;> exact ⟨rfl, rfl, rfl, rfl⟩
    · exact ⟨rfl, rfl, rfl, rfl⟩
    · exact ⟨rfl, rfl, rfl, rfl⟩
    · dsimp only
      split <;> exact ⟨rfl, rfl, rfl, rfl⟩
  · exact .refl database

theorem query_ends {tables : Tables} (isOpen : database.working = some tables)
    (statement : Statement) :
    Untouched database (database.query statement).2 ∧
      ∀ answer, (database.query statement).1 = .ok answer →
        ∃ after, statement.run tables database.clock = .ok (answer, after) ∧
          (database.query statement).2.working = some after := by
  refine ⟨database.untouched_query statement, ?_⟩
  unfold query
  split
  next connected =>
    rcases database.strike_eq statement.name with ⟨trace, struck⟩
    unfold serve
    rw [struck, isOpen, Option.getD_some]
    rcases (Fault.next statement.name database.faults).1 with _ | (report | _ | report)
    · dsimp only
      cases ran : statement.run tables database.clock with
      | error error => exact nofun
      | ok outcome =>
          intro answer same
          cases same
          exact ⟨outcome.2, rfl, rfl⟩
    · exact nofun
    · exact nofun
    · dsimp only
      cases statement.run tables database.clock <;> exact nofun
  · exact nofun

theorem queryAlone_ends (statement : Statement) (database : Database) :
    Untouched database (database.queryAlone statement).2 ∨
      ∃ answer after, statement.run database.tables database.clock = .ok (answer, after) ∧
        Untouched { database with tables := after } (database.queryAlone statement).2 := by
  rcases database.connect_eq with ⟨faults, isConnected, trace, connected⟩
  unfold queryAlone
  cases linked : database.connect with
  | mk result linkedTo =>
      rw [linked] at connected
      dsimp only at connected
      subst connected
      cases result with
      | error error => exact .inl ⟨rfl, rfl, rfl, rfl⟩
      | ok _ =>
          rcases strike_eq { database with faults, isConnected, trace } statement.name with
            ⟨struckTrace, struck⟩
          dsimp only
          unfold serve
          rw [struck]
          rcases (Fault.next statement.name faults).1 with _ | (report | _ | report)
          · dsimp only
            cases ran : statement.run database.tables database.clock with
            | error error => exact .inl ⟨rfl, rfl, rfl, rfl⟩
            | ok outcome => exact .inr ⟨outcome.1, outcome.2, rfl, ⟨rfl, rfl, rfl, rfl⟩⟩
          · exact .inl ⟨rfl, rfl, rfl, rfl⟩
          · exact .inl ⟨rfl, rfl, rfl, rfl⟩
          · dsimp only
            cases ran : statement.run database.tables database.clock with
            | error error => exact .inl ⟨rfl, rfl, rfl, rfl⟩
            | ok outcome => exact .inr ⟨outcome.1, outcome.2, rfl, ⟨rfl, rfl, rfl, rfl⟩⟩

theorem commit_ends (database : Database) :
    database.commit.1 = .ok () ∧ Untouched database.committed database.commit.2 ∨
      ∃ error, database.commit.1 = .error error ∧
        (Untouched database database.commit.2 ∨
          Untouched database.committed database.commit.2) := by
  unfold commit
  split
  · exact .inr ⟨_, rfl, .inl ⟨rfl, rfl, rfl, rfl⟩⟩
  · rcases database.strike_eq "commit" with ⟨trace, struck⟩
    rw [struck]
    rcases (Fault.next "commit" database.faults).1 with _ | (report | _ | report)
    · exact .inl ⟨rfl, ⟨rfl, rfl, rfl, rfl⟩⟩
    · exact .inr ⟨_, rfl, .inl ⟨rfl, rfl, rfl, rfl⟩⟩
    · exact .inr ⟨_, rfl, .inl ⟨rfl, rfl, rfl, rfl⟩⟩
    · exact .inr ⟨_, rfl, .inr ⟨rfl, rfl, rfl, rfl⟩⟩

theorem abandonCommit_leaves (database : Database) :
    Untouched database database.abandonCommit ∨
      Untouched database.committed database.abandonCommit := by
  rcases database.strike_eq "commit" with ⟨trace, struck⟩
  unfold abandonCommit
  rw [struck]
  rcases (Fault.next "commit" database.faults).1 with _ | (report | _ | report)
  · exact .inl ⟨rfl, rfl, rfl, rfl⟩
  · exact .inl ⟨rfl, rfl, rfl, rfl⟩
  · exact .inl ⟨rfl, rfl, rfl, rfl⟩
  · exact .inr ⟨rfl, rfl, rfl, rfl⟩

theorem untouched_rollback (database : Database) : Untouched database database.rollback.2 := by
  unfold rollback
  split
  · exact ⟨rfl, rfl, rfl, rfl⟩
  · rcases database.strike_eq "rollback" with ⟨trace, struck⟩
    rw [struck]
    rcases (Fault.next "rollback" database.faults).1 with _ | (report | _ | report) <;>
      exact ⟨rfl, rfl, rfl, rfl⟩

def closing (database : Database) (after : Tables) : Commit :=
  ⟨database.clock, database.tables, after⟩

/-- The database after a transaction that leaves the given tables. -/
def effected (database : Database) (after : Tables) : Database :=
  { database with tables := after, commits := database.commits ++ [database.closing after] }

theorem advances_effected (database : Database) (after : Tables) :
    Advances database [database.closing after] (database.effected after) :=
  ⟨rfl, fun solitary => solitary, fun _ => ⟨le_refl _, rfl, le_refl _, rfl⟩⟩

/-- What an open transaction has done takes effect with its commit. -/
theorem Untouched.committed {before worked : Database} {tables : Tables}
    (untouched : Untouched before worked) (isOpen : worked.working = some tables) :
    Untouched (before.effected tables) worked.committed := by
  refine ⟨?_, untouched.clock, untouched.interludes, ?_⟩
  · simp [Database.committed, effected, isOpen]
  · simp [Database.committed, effected, closing, isOpen, untouched.clock, untouched.tables,
      untouched.commits]

end Database

open Retry Database

theorem Work.leads_send {α : Type} (work : Work α) {database : Database} {tables : Tables}
    (isOpen : database.working = some tables) :
    work.send.Leads database fun result after =>
      Untouched database after ∧ ∀ value, result = .ok value →
        ∃ changed, work.run database.clock tables = .ok (value, changed) ∧
          after.working = some changed := by
  induction work generalizing database tables with
  | finished value =>
      refine Run.leads_pure ⟨.refl database, fun other same => ?_⟩
      cases same
      exact ⟨tables, rfl, isOpen⟩
  | failed error => exact Run.leads_throw ⟨.refl database, nofun⟩
  | query statement next induction =>
      refine Run.leads_bind (Run.leads_race ?_ ?_ ?_)
      · intro _
        rcases query_ends isOpen statement with ⟨untouched, answered⟩
        dsimp only [call]
        cases ran : database.query statement with
        | mk outcome after =>
            rw [ran] at untouched answered
            cases outcome with
            | error error => exact ⟨untouched, nofun⟩
            | ok answer =>
                rcases answered answer rfl with ⟨changed, effect, working⟩
                refine (induction answer working).imp fun result final ended => ?_
                refine ⟨untouched.trans ended.1, fun value same => ?_⟩
                rcases ended.2 value same with ⟨left, rest, finished⟩
                rw [untouched.clock] at rest
                rw [Work.run, effect]
                exact ⟨left, rest, finished⟩
      · exact fun error _ => ⟨⟨rfl, rfl, rfl, rfl⟩, nofun⟩
      · exact fun error => ⟨.refl database, nofun⟩

/-- What one attempt comes to: at most one run of the work takes effect, and exactly one if its
value is returned. -/
def Attempted {α : Type} (work : Work α) (before : Database) (result : Except Stop α)
    (after : Database) : Prop :=
  (∃ value commit, commit.Runs work value ∧ Advances before [commit] after ∧
    ∀ returned, result = .ok returned → returned = value) ∨
  Advances before [] after ∧ ∀ value, result ≠ .ok value

/-- How one attempt concludes, whatever other clients do before it: its work takes effect on the
tables that it finds, or on none. -/
inductive Concludes {α : Type} (work : Work α) (before : Database) (result : Except Stop α)
    (after : Database) : Prop where
  | unstarted (untouched : Untouched before after) (failed : ∀ value, result ≠ .ok value)
  | undone (untouched : Untouched before.resumed after) (failed : ∀ value, result ≠ .ok value)
  | effective (value : α) (tables : Tables)
      (ran : work.run before.resumed.clock before.resumed.tables = .ok (value, tables))
      (untouched : Untouched (before.resumed.effected tables) after)
      (returned : ∀ other, result = .ok other → other = value)

theorem Concludes.attempted {α : Type} {work : Work α} {before after : Database}
    {result : Except Stop α} (concludes : Concludes work before result after) :
    Attempted work before result after := by
  have resumed := before.advances_resumed
  cases concludes with
  | unstarted untouched failed => exact .inr ⟨untouched.advances, failed⟩
  | undone untouched failed => exact .inr ⟨resumed.trans untouched.advances, failed⟩
  | effective value tables ran untouched returned =>
      have effected := (resumed.trans (before.resumed.advances_effected tables)).trans
        untouched.advances
      exact .inl ⟨value, before.resumed.closing tables, ran, effected, returned⟩

theorem leads_undo {database : Database} :
    Run.Leads (undo transactions) database fun result after =>
      result = .ok () ∧ Untouched database after := by
  refine Run.leads_bind (Run.leads_caught (Run.leads_perform fun _ => ?_))
  have untouched := database.untouched_rollback
  dsimp only [transactions, call]
  cases ran : database.rollback with
  | mk outcome after =>
      rw [ran] at untouched
      cases outcome with
      | ok _ => exact Run.leads_pure ⟨rfl, untouched⟩
      | error error => exact Run.leads_note ⟨rfl, untouched⟩

theorem leads_committing {database : Database} :
    Run.Leads (Run.race transactions.committing) database fun result after =>
      Untouched database.committed after ∨
        Untouched database after ∧ result ≠ .ok () := by
  -- A commit that fails or is abandoned may have taken effect; one that never starts has not.
  refine Run.leads_race (fun _ => ?_) (fun error _ => ?_) fun error => ?_
  · dsimp only [transactions, call]
    rcases database.commit_ends with ⟨acknowledged, untouched⟩ | ⟨error, failed, left⟩
    · exact .inl untouched
    · rcases left with untouched | untouched
      · refine .inr ⟨untouched, ?_⟩
        rw [failed]
        exact nofun
      · exact .inl untouched
  · rcases database.abandonCommit_leaves with untouched | untouched
    · exact .inr ⟨untouched, nofun⟩
    · exact .inl untouched
  · exact .inr ⟨.refl database, nofun⟩

theorem leads_attempt {α : Type} (work : Work α) (database : Database) :
    Run.Leads (attempt transactions work.send) database (Concludes work database) := by
  refine Run.leads_bind (Run.leads_checkContext ?_ fun _ => .unstarted (.refl database) nofun)
  refine Run.leads_bind (Run.leads_race (fun _ => ?_) (fun _ _ => ?_) fun _ => ?_)
  · rcases begin_ends database with ⟨opened, isOpen⟩
    dsimp only [transactions, call]
    cases began : database.begin with
    | mk outcome after =>
        rw [began] at opened isOpen
        cases outcome with
        | error error => exact .undone opened nofun
        | ok _ =>
            refine Run.leads_bind (Run.leads_caught ?_)
            refine (work.leads_send (isOpen rfl)).imp fun result final sent => ?_
            have sending := opened.trans sent.1
            rcases result with (error | text) | value
            · apply Run.leads_bind
              apply leads_undo.imp
              rintro undone last ⟨rfl, untouched⟩
              exact Run.leads_throw (.undone (sending.trans untouched) nofun)
            · exact .undone sending nofun
            · rcases sent.2 value rfl with ⟨changed, ran, working⟩
              rw [opened.clock, opened.tables] at ran
              refine Run.leads_bind (leads_committing.imp fun ended last closed => ?_)
              rcases closed with untouched | ⟨untouched, notDone⟩
              · have effected := (sending.committed working).trans untouched
                cases ended with
                | ok _ =>
                    refine Run.leads_pure (.effective value changed ran effected ?_)
                    intro returned same
                    cases same
                    rfl
                | error stop => exact .effective value changed ran effected nofun
              · cases ended with
                | ok _ => exact absurd rfl notDone
                | error stop => exact .undone (sending.trans untouched) nofun
  · exact .unstarted ⟨rfl, rfl, rfl, rfl⟩ nofun
  · exact .unstarted (.refl database) nofun

namespace Database

/-- What the attempts of a unit of work come to. -/
structure Transacted {α : Type} (work : Work α) (before : Database) (commits : List Commit)
    (result : Except Stop α) (after : Database) : Prop where
  advances : Advances before commits after
  runs : ∀ commit ∈ commits, ∃ value, commit.Runs work value
  returned : ∀ value, result = .ok value →
    ∃ commit, commits.getLast? = some commit ∧ commit.Runs work value

theorem leads_transact {α : Type} (policy : Policy) (work : Work α) (database : Database) :
    Run.Leads (transact policy work) database fun result after =>
      ∃ commits, Transacted work database commits result after := by
  -- A failed attempt leaves a chain of runs of the work, which may end in a lost commit.
  refine leads_attemptsFrom
    (fun after => ∃ commits, Transacted work database commits (.error (.crash "")) after) ?_ ?_ _ _
    ⟨[], .refl database, nofun, nofun⟩
  · intro store ⟨commits, earlier⟩
    refine (leads_attempt work store).imp fun result after concludes => ?_
    rcases concludes.attempted with ⟨value, commit, runs, advances, returned⟩ | ⟨advances, none⟩
    · have all : ∀ other ∈ commits ++ [commit], ∃ value, other.Runs work value := by
        intro other member
        rcases List.mem_append.mp member with member | member
        · exact earlier.runs other member
        · rw [List.mem_singleton.mp member]
          exact ⟨value, runs⟩
      have together := earlier.advances.trans advances
      cases result with
      | ok last =>
          refine ⟨commits ++ [commit], together, all, fun other same => ?_⟩
          cases same
          rw [returned last rfl]
          exact ⟨commit, List.getLast?_concat, runs⟩
      | error stop => exact ⟨commits ++ [commit], together, all, nofun⟩
    · have together := earlier.advances.trans advances
      rw [List.append_nil] at together
      cases result with
      | ok value => exact absurd rfl (none value)
      | error stop => exact ⟨commits, together, earlier.runs, nofun⟩
  · exact fun stop store ⟨commits, earlier⟩ => ⟨commits, earlier.advances, earlier.runs, nofun⟩

end Database

end LinkShortener
