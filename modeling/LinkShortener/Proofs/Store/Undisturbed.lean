import LinkShortener.Proofs.Store.Calm

/-! # Undisturbed connections

Where no statement fails by a fault, one attempt of a unit of work is known exactly: what it leaves of
the tables that it finds, and which statements reach the server. Other clients may still change the
tables between two transactions.
-/

namespace LinkShortener

/-- The statements that a unit of work sends, with a mark at one that the server refuses. -/
def Work.record {α : Type} (now : Instant) : Work α → Tables → List String
  | .finished _, _ => []
  | .failed _, _ => []
  | .query statement next, tables =>
    match statement.run tables now with
    | .ok (answer, after) => statement.name :: (next answer).record now after
    | .error error => [statement.name ++ "!" ++ Database.refusalMark error]

open Retry

namespace Database

/-- An open pool on which every fault is spent. -/
structure IsUndisturbed (database : Database) : Prop where
  isOpen : database.isClosed = false
  spent : ∀ fault ∈ database.faults, fault.times = 0

/-- The database after a transaction that sent the given statements and changed nothing. -/
def closed (database : Database) (record : List String) : Database :=
  { database with isConnected := true, working := none, trace := database.trace ++ record }

/-- How a transaction ends that nothing disturbs: what is returned, and the database after it. -/
def concluded {α : Type} (database : Database) (work : Work α) : Except Stop α × Database :=
  let record := work.record database.clock database.tables
  match work.run database.clock database.tables with
  | .ok (value, tables) =>
    (.ok value, (database.effected tables).closed ("begin" :: record ++ ["commit"]))
  | .error error => (.error (.error error), database.closed ("begin" :: record ++ ["rollback"]))

variable {database : Database}

namespace IsUndisturbed

variable (undisturbed : database.IsUndisturbed)

include undisturbed

theorem isCalm : database.IsCalm :=
  ⟨undisturbed.isOpen, fun fault member => .inr (undisturbed.spent fault member)⟩

theorem resumed : database.resumed.IsUndisturbed := by
  rcases database.resumed_eq with ⟨clock, tables, interludes, equal⟩
  rw [equal]
  exact ⟨undisturbed.isOpen, undisturbed.spent⟩

theorem strike_eq (name : String) : database.strike name = (none, database.traced name) := by
  rw [strike, Fault.next_of_idle fun fault member _ => undisturbed.spent fault member]

theorem begin_eq : database.begin = (.ok (), { database.resumed.closed ["begin"] with
    working := some database.resumed.tables }) := by
  have connected : { database.resumed with isConnected := true }.IsUndisturbed :=
    ⟨undisturbed.resumed.isOpen, undisturbed.resumed.spent⟩
  rw [begin, connect_calm undisturbed.resumed.isCalm]
  dsimp only
  rw [connected.strike_eq]
  rfl

theorem query_eq (connected : database.isConnected = true) {tables : Tables}
    (isOpen : database.working = some tables) (statement : Statement) :
    database.query statement =
      match statement.run tables database.clock with
      | .ok (answer, after) =>
        (.ok answer, { database with
          working := some after
          trace := database.trace ++ [statement.name] })
      | .error error =>
        (.error error, { database with
          trace := database.trace ++ [statement.name ++ "!" ++ refusalMark error] }) := by
  have visible : database.working.getD database.tables = tables := by rw [isOpen, Option.getD_some]
  rw [query, if_pos connected, serve, undisturbed.strike_eq, visible]
  dsimp only
  cases statement.run tables database.clock <;> rfl

theorem commit_eq (connected : database.isConnected = true) :
    database.commit = (.ok (), (database.traced "commit").committed) := by
  rw [commit, connected, undisturbed.strike_eq]
  rfl

theorem rollback_eq (connected : database.isConnected = true) :
    database.rollback = (.ok (), (database.traced "rollback").undone) := by
  rw [rollback, connected, undisturbed.strike_eq]
  rfl

end IsUndisturbed

end Database

open Database

theorem Work.completes_send_undisturbed {α : Type} (work : Work α) {database : Database}
    {tables : Tables} (undisturbed : database.IsUndisturbed)
    (connected : database.isConnected = true) (isOpen : database.working = some tables) :
    work.send.Completes database fun result after => ∃ working,
      after = { database with
        working, trace := database.trace ++ work.record database.clock tables } ∧
      match work.run database.clock tables with
      | .ok (value, changed) => result = .ok value ∧ working = some changed
      | .error error => result = .error (.error error) := by
  induction work generalizing database tables with
  | finished value =>
      refine (Run.leads_pure ⟨some tables, ?_, rfl, rfl⟩).completes
      rw [record, List.append_nil, ← isOpen]
  | failed error =>
      refine (Run.leads_throw ⟨some tables, ?_, rfl⟩).completes
      rw [record, List.append_nil, ← isOpen]
  | query statement next induction =>
      refine Run.completes_bind (Run.completes_race fun _ => ?_) fun answer =>
        (next answer).keepsOver_send
      dsimp only [call]
      rw [undisturbed.query_eq connected isOpen, Work.run, Work.record]
      cases statement.run tables database.clock with
      | error error => exact ⟨database.working, rfl, rfl⟩
      | ok outcome =>
          rcases outcome with ⟨answer, changed⟩
          let queried : Database := { database with
            working := some changed, trace := database.trace ++ [statement.name] }
          have following : queried.IsUndisturbed := ⟨undisturbed.isOpen, undisturbed.spent⟩
          refine (induction answer following connected rfl).imp fun result after sent => ?_
          rcases sent with ⟨working, rfl, ended⟩
          refine ⟨working, ?_, ended⟩
          dsimp only [queried]
          rw [List.append_assoc, List.singleton_append]

namespace Database

variable {database : Database} {α : Type} {work : Work α}

theorem IsUndisturbed.concluded (undisturbed : database.IsUndisturbed) (work : Work α) :
    (database.concluded work).2.IsUndisturbed := by
  unfold Database.concluded
  dsimp only
  split
  · exact ⟨undisturbed.isOpen, undisturbed.spent⟩
  · exact ⟨undisturbed.isOpen, undisturbed.spent⟩

theorem completes_undo_undisturbed (undisturbed : database.IsUndisturbed)
    (connected : database.isConnected = true) :
    (undo transactions).Completes database fun result after =>
      result = .ok () ∧ after = (database.traced "rollback").undone := by
  refine (Run.leads_bind (Run.leads_caught (Run.leads_perform fun _ => ?_))).completes
  dsimp only [transactions, call]
  rw [undisturbed.rollback_eq connected]
  exact Run.leads_pure ⟨rfl, rfl⟩

theorem completes_attempt_undisturbed (work : Work α) (undisturbed : database.IsUndisturbed) :
    (attempt transactions work.send).Completes database fun result after =>
      (result, after) = database.resumed.concluded work := by
  have resumed := undisturbed.resumed
  refine Retry.completes_attempt work.keepsOver_send (Run.completes_race fun _ => ?_)
  dsimp only [transactions, call]
  rw [undisturbed.begin_eq]
  have opened : { database.resumed.closed ["begin"] with
      working := some database.resumed.tables }.IsUndisturbed := ⟨resumed.isOpen, resumed.spent⟩
  refine (work.completes_send_undisturbed opened rfl rfl).imp fun result after sent => ?_
  rcases sent with ⟨working, rfl, ended⟩
  dsimp only [closed] at ended ⊢
  let worked : Database := { database.resumed with
    isConnected := true
    working
    trace := database.resumed.trace ++ ["begin"] ++
      work.record database.resumed.clock database.resumed.tables }
  have quiet : worked.IsUndisturbed := ⟨resumed.isOpen, resumed.spent⟩
  rw [concluded]
  cases ran : work.run database.resumed.clock database.resumed.tables with
  | error error =>
      rw [ran] at ended
      subst ended
      refine (completes_undo_undisturbed quiet rfl).imp ?_
      rintro result after ⟨rfl, rfl⟩
      simp [worked, closed, undone, traced]
  | ok outcome =>
      rcases outcome with ⟨value, tables⟩
      rw [ran] at ended
      rcases ended with ⟨rfl, rfl⟩
      refine Run.completes_race fun _ => ?_
      dsimp only [transactions, call]
      rw [show worked.commit = _ from quiet.commit_eq rfl]
      simp [worked, closed, committed, effected, closing, traced, Except.mapError]

/-- Where nothing disturbs it, retried work ends with its first attempt, unless another one could mend
the error of the work itself. -/
theorem completes_transact_undisturbed (policy : Policy) (undisturbed : database.IsUndisturbed)
    (final : ∀ error, work.run database.resumed.clock database.resumed.tables = .error error →
      error.retryable = false) :
    (transact policy work).Completes database fun result after =>
      (result, after) = database.resumed.concluded work := by
  refine completes_execute work.keepsOver_send
    ((completes_attempt_undisturbed work undisturbed).imp fun result after ended => ?_)
  refine ⟨ended, fun error failed => ?_⟩
  subst failed
  rw [concluded] at ended
  cases ran : work.run database.resumed.clock database.resumed.tables with
  | error other =>
      rw [ran] at ended
      rcases Prod.mk.inj ended with ⟨same, -⟩
      cases same
      exact final error ran
  | ok outcome =>
      rw [ran] at ended
      cases ended

end Database

end LinkShortener
