import LinkShortener.Proofs.Store.Honesty

/-! # Transient faults

Attempts that fail before anything takes effect leave the tables as they are. So it does not matter
how many of them there are: retried work comes to what it does to the tables at the time of the first
attempt that no fault strikes.
-/

namespace LinkShortener

open Retry

/-! ## Work for a caller who waits -/

namespace Work

variable {α : Type}

/-- The statements of a unit of work one by one, up to the first that fails. -/
def sent : Work α → Database → Except StoreError α × Database
  | .finished value, database => (.ok value, database)
  | .failed error, database => (.error error, database)
  | .query statement next, database =>
    match database.query statement with
    | (.ok answer, database) => (next answer).sent database
    | (.error error, database) => (.error error.classify, database)

theorem completes_sent (work : Work α) (database : Database) :
    work.send.Completes database fun result after =>
      result = (work.sent database).1.mapError .error ∧ after = (work.sent database).2 := by
  induction work generalizing database with
  | finished value => exact (Run.leads_pure ⟨rfl, rfl⟩).completes
  | failed error => exact (Run.leads_throw ⟨rfl, rfl⟩).completes
  | query statement next induction =>
      refine Run.completes_bind (Run.completes_race fun _ => ?_) fun answer =>
        (next answer).keepsOver_send
      dsimp only [Database.call]
      rw [sent]
      cases database.query statement with
      | mk outcome queried =>
          cases outcome with
          | error error => exact ⟨rfl, rfl⟩
          | ok answer => exact induction answer queried

theorem untouched_sent (work : Work α) (database : Database) :
    Database.Untouched database (work.sent database).2 := by
  induction work generalizing database with
  | finished value => exact .refl database
  | failed error => exact .refl database
  | query statement next induction =>
      have untouched := database.untouched_query statement
      rw [sent]
      cases ran : database.query statement with
      | mk outcome queried =>
          rw [ran] at untouched
          cases outcome with
          | error error => exact untouched
          | ok answer => exact untouched.trans (induction answer queried)

/-- No fault strikes at a statement, nor at the commit after the last one. -/
def IsSpared : Work α → Database → Prop
  | .finished _, database => (Fault.next "commit" database.faults).1 = none
  | .failed _, _ => True
  | .query statement next, database =>
    (Fault.next statement.name database.faults).1 = none ∧
      ∀ answer, (database.query statement).1 = .ok answer →
        (next answer).IsSpared (database.query statement).2

/-- Work that no fault strikes comes to one step on the tables of the open transaction. -/
theorem sent_of_spared {work : Work α} {database : Database} {tables : Tables}
    (spared : work.IsSpared database) (connected : database.isConnected = true)
    (isOpen : database.working = some tables) :
    match work.run database.clock tables with
    | .error error => (work.sent database).1 = .error error
    | .ok (value, changed) => (work.sent database).1 = .ok value ∧
      (work.sent database).2.working = some changed ∧
      (work.sent database).2.isConnected = true ∧
      (Fault.next "commit" (work.sent database).2.faults).1 = none := by
  induction work generalizing database tables with
  | finished value => exact ⟨rfl, isOpen, connected, spared⟩
  | failed error => rfl
  | query statement next induction =>
      rcases spared with ⟨unstruck, following⟩
      rcases database.query_of_unstruck connected isOpen statement unstruck with ⟨trace, queried⟩
      rw [sent, run]
      rw [queried] at following ⊢
      cases ran : statement.run tables database.clock with
      | error error => rfl
      | ok outcome =>
          rcases outcome with ⟨answer, changed⟩
          rw [ran] at following
          exact induction answer (following answer rfl) connected rfl

end Work

/-- A step on the tables as the result and the tables that it ends with. -/
def Work.Settles {α : Type} (work : Work α) (now : Instant) (before : Tables)
    (result : Except Stop α) (after : Tables) : Prop :=
  match work.run now before with
  | .error error => result = .error (.error error) ∧ after = before
  | .ok (value, tables) => result = .ok value ∧ after = tables

namespace Database

variable {α : Type} {policy : Policy} {work : Work α} {before after last : Database}

/-- No fault strikes at an attempt. -/
structure Spares (before : Database) (work : Work α) : Prop where
  opening : before.begin.1 = .ok ()
  work : work.IsSpared before.begin.2

/-- An attempt that fails in a way that another one may mend, at its begin, at a statement or at a
commit without effect. -/
inductive Hit (work : Work α) (before : Database) : Database → Prop where
  | opening (error : DatabaseError) (failed : before.begin.1 = .error error)
      (retryable : error.classify.retryable = true) : Hit work before before.begin.2
  | statement (error : StoreError) (began : before.begin.1 = .ok ())
      (failed : (work.sent before.begin.2).1 = .error error) (retryable : error.retryable = true) :
      Hit work before (work.sent before.begin.2).2.rollback.2
  | commit (value : α) (error : DatabaseError) (began : before.begin.1 = .ok ())
      (succeeded : (work.sent before.begin.2).1 = .ok value)
      (failed : (work.sent before.begin.2).2.commit.1 = .error error)
      (retryable : error.classify.retryable = true)
      (clean : (work.sent before.begin.2).2.commit.2.tables = (work.sent before.begin.2).2.tables) :
      Hit work before (work.sent before.begin.2).2.commit.2

/-- So many attempts are hit from the one with the given number on, and another one follows each of
them, since the wait in between fits a duration. -/
inductive Hits (policy : Policy) (work : Work α) : Nat → Nat → Database → Database → Prop where
  | none (number : Nat) (database : Database) : Hits policy work number 0 database database
  | more {number count : Nat} {before between after : Database} (hit : Hit work before between)
      (waits : (policy.backoff? number).isSome = true)
      (following : Hits policy work (number + 1) count between after) :
      Hits policy work number (count + 1) before after

theorem completes_attempt_hit (hit : Hit work before after) :
    (attempt transactions work.send).Completes before fun result last => last = after ∧
      ∃ error, result = .error (.error error) ∧ error.retryable = true := by
  refine Retry.completes_attempt work.keepsOver_send (Run.completes_race fun _ => ?_)
  dsimp only [transactions, call]
  cases hit with
  | opening error failed retryable =>
      rw [failed]
      exact ⟨rfl, _, rfl, retryable⟩
  | statement error began failed retryable =>
      rw [began]
      apply (work.completes_sent _).imp
      rintro result worked ⟨rfl, rfl⟩
      rw [failed]
      refine Run.Leads.completes (Run.leads_bind (Run.leads_caught (Run.leads_perform fun _ => ?_)))
      dsimp only [transactions, call]
      cases (work.sent before.begin.2).2.rollback.1 with
      | ok _ => exact Run.leads_pure ⟨rfl, _, rfl, retryable⟩
      | error error => exact Run.leads_note ⟨rfl, _, rfl, retryable⟩
  | commit value error began succeeded failed retryable clean =>
      rw [began]
      apply (work.completes_sent _).imp
      rintro result worked ⟨rfl, rfl⟩
      rw [succeeded]
      refine Run.completes_race fun _ => ?_
      dsimp only [transactions, call]
      rw [failed]
      exact ⟨rfl, _, rfl, retryable⟩

theorem Hit.leaves (hit : Hit work before after) (solitary : before.IsSolitary) :
    after.tables = before.tables ∧ after.IsSolitary := by
  have alone := before.advances_resumed.alone solitary
  have same := solitary.tables_resumed
  have stays : ∀ {other : Database}, other.interludes = before.resumed.interludes →
      other.IsSolitary := by
    intro other unchanged
    rwa [IsSolitary, unchanged]
  have opening := before.begin_ends.1
  have working := opening.trans (work.untouched_sent before.begin.2)
  cases hit with
  | opening error failed retryable =>
      exact ⟨opening.tables.trans same, stays opening.interludes⟩
  | statement error began failed retryable =>
      have ended := working.trans (untouched_rollback _)
      exact ⟨ended.tables.trans same, stays ended.interludes⟩
  | commit value error began succeeded failed retryable clean =>
      refine ⟨(clean.trans working.tables).trans same, stays (Eq.trans ?_ working.interludes)⟩
      rcases commit_ends (work.sent before.begin.2).2 with
        ⟨-, untouched⟩ | ⟨-, -, untouched | untouched⟩ <;> exact untouched.interludes

private theorem connected_of_connectWithin (attempts : Nat) (database : Database)
    (linked : (database.connectWithin attempts).1 = .ok ()) :
    (database.connectWithin attempts).2.isConnected = true := by
  induction attempts generalizing database with
  | zero => cases linked
  | succ attempts induction =>
      have refused : ∀ (database : Database) report,
          (if isBusy report then database.connectWithin attempts
            else (.error (.reported report), database)).1 = .ok () →
          (if isBusy report then database.connectWithin attempts
            else (.error (.reported report), database)).2.isConnected = true := by
        intro database report linked
        split
        next busy =>
          rw [if_pos busy] at linked
          exact induction database linked
        next final =>
          rw [if_neg final] at linked
          cases linked
      unfold connectWithin at linked ⊢
      rcases failing : Fault.next "connect" database.faults with ⟨_ | (report | _ | report), faults⟩
      · rfl
      · rw [failing] at linked
        exact refused _ report linked
      · rw [failing] at linked
        cases linked
      · rw [failing] at linked
        exact refused _ report linked

theorem connected_of_begin (began : before.begin.1 = .ok ()) :
    before.begin.2.isConnected = true := by
  unfold begin at began ⊢
  cases linked : before.resumed.connect with
  | mk result database =>
      rw [linked] at began
      cases result with
      | error error => cases began
      | ok _ =>
          have connected : database.isConnected = true := by
            unfold connect at linked
            split at linked
            · cases linked
            · split at linked
              next connected =>
                cases linked
                exact connected
              · have kept := connected_of_connectWithin (connectAttempts reconnectTimeout)
                  before.resumed
                rw [linked] at kept
                exact kept rfl
          rcases database.strike_eq "begin" with ⟨trace, struck⟩
          dsimp only at began ⊢
          rw [struck] at began ⊢
          rcases failing : (Fault.next "begin" database.faults).1 with _ | (report | _ | report)
          · exact connected
          · rw [failing] at began
            cases began
          · rw [failing] at began
            cases began
          · rw [failing] at began
            cases began

/-- An attempt that no fault strikes is one step on the tables. -/
theorem completes_attempt_spared (spared : last.Spares work) :
    (attempt transactions work.send).Completes last fun result after =>
      work.Settles last.resumed.clock last.resumed.tables result after.tables := by
  have connected := connected_of_begin spared.opening
  rcases last.begin_ends with ⟨opening, isOpen⟩
  refine Retry.completes_attempt work.keepsOver_send (Run.completes_race fun _ => ?_)
  dsimp only [transactions, call]
  rw [spared.opening]
  apply (work.completes_sent _).imp
  rintro result worked ⟨rfl, rfl⟩
  have working := work.untouched_sent last.begin.2
  have sent := Work.sent_of_spared spared.work connected (isOpen spared.opening)
  have ended := opening.trans working
  unfold Work.Settles
  rw [opening.clock, opening.tables] at sent
  cases ran : work.run last.resumed.clock last.resumed.tables with
  | error error =>
      rw [ran] at sent
      rw [show (work.sent last.begin.2).1 = .error error from sent]
      apply (leads_undo.imp ?_).completes
      rintro undone after ⟨rfl, untouched⟩
      exact ⟨rfl, (ended.trans untouched).tables⟩
  | ok outcome =>
      rcases outcome with ⟨value, tables⟩
      rw [ran] at sent
      rcases sent with ⟨succeeded, working, linked, unstruck⟩
      rw [succeeded]
      refine Run.completes_race fun _ => ?_
      rcases strike_eq (work.sent last.begin.2).2 "commit" with ⟨trace, struck⟩
      dsimp only [transactions, call]
      rw [commit, linked, struck, unstruck]
      refine ⟨rfl, ?_⟩
      simp [committed, working]

/-- Attempts that are hit leave no trace: retried work comes to one step on the tables, at the time
of the first attempt that no fault strikes. -/
theorem completes_attemptsFrom_hits {number count : Nat}
    (hits : Hits policy work number count before last) (spared : last.Spares work)
    (final : ∀ now error, work.run now before.tables = .error error → error.retryable = false)
    (solitary : before.IsSolitary) {remaining : Nat} (enough : count < remaining) :
    (Retry.attemptsFrom transactions policy work.send number remaining).Completes before
      fun result after => work.Settles last.resumed.clock before.tables result after.tables := by
  -- An attempt that is hit leaves the tables, so the last one starts from those of the first.
  induction hits generalizing remaining with
  | none number last =>
      obtain ⟨more, rfl⟩ : ∃ more, remaining = more + 1 := ⟨remaining - 1, by omega⟩
      refine completes_attemptsFrom work.keepsOver_send ((completes_attempt_spared spared).imp ?_)
      intro result after settles
      rw [solitary.tables_resumed] at settles
      have ending := settles
      unfold Work.Settles at ending
      cases ran : work.run last.resumed.clock last.tables with
      | error error =>
          rw [ran] at ending
          rcases ending with ⟨rfl, -⟩
          dsimp only
          rw [if_pos (final _ _ ran)]
          exact settles
      | ok outcome =>
          rw [ran] at ending
          rcases ending with ⟨rfl, -⟩
          exact settles
  | @more number count before between last hit waits following induction =>
      obtain ⟨more, rfl⟩ : ∃ more, remaining = more + 1 := ⟨remaining - 1, by omega⟩
      rcases hit.leaves solitary with ⟨same, alone⟩
      rcases Option.isSome_iff_exists.mp waits with ⟨wait, waits⟩
      refine completes_attemptsFrom work.keepsOver_send ((completes_attempt_hit hit).imp ?_)
      rintro result after ⟨rfl, error, rfl, retryable⟩
      dsimp only
      rw [if_neg (by rw [retryable]; decide), if_neg (by omega), waits]
      rw [← same] at final ⊢
      exact induction spared final alone (by omega)

/-- Where no fault is left to strike, the first attempt is spared. -/
theorem spares_of_spent (isOpen : before.isClosed = false)
    (spent : ∀ fault ∈ before.faults, fault.times = 0) : before.Spares work := by
  have calm : before.IsCalm := ⟨isOpen, fun fault member => .inr (spent fault member)⟩
  have idle : ∀ {faults : List Fault} name, (∀ fault ∈ faults, fault.times = 0) →
      Fault.next name faults = (none, faults) := fun name spent =>
    Fault.next_of_idle fun fault member _ => spent fault member
  have lasts : Fault.Lasts fun faults => ∀ fault ∈ faults, fault.times = 0 := by
    intro name faults spent
    rwa [idle name spent]
  rcases begin_calm calm with ⟨trace, began⟩
  refine ⟨by rw [began], ?_⟩
  have left := faults_begin lasts spent
  generalize before.begin.2 = opened at left
  induction work generalizing opened with
  | finished value =>
      rw [Work.IsSpared, idle _ left]
  | failed error => trivial
  | query statement next induction =>
      refine ⟨by rw [idle _ left], fun answer _ => ?_⟩
      exact induction answer _ (faults_query lasts statement left)

end Database

end LinkShortener
