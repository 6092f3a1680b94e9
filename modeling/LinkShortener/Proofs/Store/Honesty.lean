import LinkShortener.Proofs.Retry.Discipline
import LinkShortener.Proofs.Store.Calm

/-! # Honest reports

A store is honest if nothing that it reports as failed has had an effect. There retried work is one
run of it on the tables where a value is returned, and nothing at all where not.
-/

namespace LinkShortener

namespace Fault

/-- Inside a transaction nothing takes effect before the commit, so only a commit and a statement
that is its own transaction can belie their reports. -/
def AreHonest (faults : List Fault) : Prop :=
  ∀ fault ∈ faults, fault.statement = "commit" ∨ fault.statement = "purge" →
    fault.failure.takesEffect = false

/-- What holds of faults however often they have struck. -/
def Lasts (holds : List Fault → Prop) : Prop :=
  ∀ name faults, holds faults → holds (next name faults).2

variable {faults : List Fault} {name : String}

theorem of_mem_next {fault : Fault} (member : fault ∈ (next name faults).2) :
    ∃ other ∈ faults, other.statement = fault.statement ∧ other.failure = fault.failure := by
  induction faults with
  | nil => cases member
  | cons head rest induction =>
      have tail : fault ∈ rest → ∃ other ∈ head :: rest,
          other.statement = fault.statement ∧ other.failure = fault.failure := fun present =>
        ⟨fault, List.mem_cons_of_mem _ present, rfl, rfl⟩
      rw [next] at member
      split at member
      · split at member
        · rcases List.mem_cons.mp member with rfl | present
          · exact ⟨head, List.mem_cons_self, rfl, rfl⟩
          · exact tail present
        · rcases List.mem_cons.mp member with rfl | present
          · exact ⟨head, List.mem_cons_self, rfl, rfl⟩
          · exact tail present
      · rcases List.mem_cons.mp member with rfl | present
        · exact ⟨fault, List.mem_cons_self, rfl, rfl⟩
        · rcases induction present with ⟨other, among, same⟩
          exact ⟨other, List.mem_cons_of_mem _ among, same⟩

theorem of_next_eq_some {failure : Failure} (struck : (next name faults).1 = some failure) :
    ∃ fault ∈ faults, fault.statement = name ∧ fault.failure = failure := by
  induction faults with
  | nil => cases struck
  | cons head rest induction =>
      rw [next] at struck
      split at struck
      next strikes =>
        split at struck
        · cases struck
        · cases struck
          exact ⟨head, List.mem_cons_self, strikes.1, rfl⟩
      next passes =>
        rcases induction struck with ⟨fault, among, same⟩
        exact ⟨fault, List.mem_cons_of_mem _ among, same⟩

theorem lasts_areHonest : Lasts AreHonest := by
  intro name faults honest fault member named
  rcases of_mem_next member with ⟨other, present, statement, failure⟩
  rw [← failure]
  apply honest other present
  rwa [statement]

theorem AreHonest.of_next {failure : Failure} (honest : AreHonest faults)
    (struck : (next name faults).1 = some failure) (named : name = "commit" ∨ name = "purge") :
    failure.takesEffect = false := by
  rcases of_next_eq_some struck with ⟨fault, present, rfl, rfl⟩
  exact honest fault present named

end Fault

open Retry

namespace Database

/-! ## What holds of the faults after each call -/

section

variable {holds : List Fault → Prop} (lasts : Fault.Lasts holds) {database : Database}

include lasts

theorem faults_strike (name : String) (before : holds database.faults) :
    holds (database.strike name).2.faults := by
  rcases database.strike_eq name with ⟨trace, struck⟩
  rw [struck]
  exact lasts _ _ before

private theorem faults_connectWithin (attempts : Nat) (before : holds database.faults) :
    holds (database.connectWithin attempts).2.faults := by
  induction attempts generalizing database with
  | zero => exact before
  | succ attempts induction =>
      have after := lasts "connect" _ before
      have refused : ∀ faults trace report, holds faults →
          holds (if isBusy report then connectWithin attempts { database with faults, trace }
            else (.error (.reported report), { database with faults, trace })).2.faults := by
        intro faults trace report left
        split
        · exact induction left
        · exact left
      unfold connectWithin
      cases failing : Fault.next "connect" database.faults with
      | mk failure faults =>
          rw [failing] at after
          rcases failure with _ | (report | _ | report)
          · exact after
          · exact refused _ _ _ after
          · exact after
          · exact refused _ _ _ after

theorem faults_connect (before : holds database.faults) : holds database.connect.2.faults := by
  unfold connect
  split
  · exact before
  · split
    · exact before
    · exact faults_connectWithin lasts _ before

theorem faults_begin (before : holds database.faults) : holds database.begin.2.faults := by
  rw [← faults_resumed database] at before
  have connected := faults_connect lasts before
  unfold begin
  cases linked : database.resumed.connect with
  | mk result after =>
      rw [linked] at connected
      cases result with
      | error error => exact connected
      | ok _ =>
          have struck := faults_strike lasts "begin" connected
          dsimp only
          cases striking : after.strike "begin" with
          | mk failure left =>
              rw [striking] at struck
              rcases failure with _ | (report | _ | report) <;> exact struck

theorem faults_query (statement : Statement) (before : holds database.faults) :
    holds (database.query statement).2.faults := by
  unfold query
  split
  · have struck := faults_strike lasts statement.name before
    unfold serve
    cases striking : database.strike statement.name with
    | mk failure left =>
        rw [striking] at struck
        rcases failure with _ | (report | _ | report)
        · dsimp only
          split <;> exact struck
        · exact struck
        · exact struck
        · dsimp only
          split <;> exact struck
  · exact before

theorem faults_commit (before : holds database.faults) : holds database.commit.2.faults := by
  unfold commit
  split
  · exact before
  · have struck := faults_strike lasts "commit" before
    cases striking : database.strike "commit" with
    | mk failure left =>
        rw [striking] at struck
        rcases failure with _ | (report | _ | report) <;> exact struck

theorem faults_abandonCommit (before : holds database.faults) :
    holds database.abandonCommit.faults := by
  have struck := faults_strike lasts "commit" before
  unfold abandonCommit
  cases striking : database.strike "commit" with
  | mk failure left =>
      rw [striking] at struck
      rcases failure with _ | (report | _ | report) <;> exact struck

theorem faults_rollback (before : holds database.faults) : holds database.rollback.2.faults := by
  unfold rollback
  split
  · exact before
  · have struck := faults_strike lasts "rollback" before
    cases striking : database.strike "rollback" with
    | mk failure left =>
        rw [striking] at struck
        rcases failure with _ | (report | _ | report) <;> exact struck

end

/-! ## Retried work -/

/-- On an honest store the reports stay honest, and no transaction has taken effect. -/
def Holds (before after : Database) : Prop :=
  Fault.AreHonest before.faults →
    Fault.AreHonest after.faults ∧ after.commits = before.commits

instance : IsPreorder Database Holds where
  refl _ honest := ⟨honest, rfl⟩
  trans _ _ _ first second honest := by
    rcases first honest with ⟨between, same⟩
    rcases second between with ⟨after, still⟩
    exact ⟨after, still.trans same⟩

variable {database : Database}

theorem holds_query (statement : Statement) (database : Database) :
    database.Holds (database.query statement).2 := fun honest =>
  ⟨faults_query Fault.lasts_areHonest statement honest,
    (database.untouched_query statement).commits⟩

theorem withhold_holds : transactions.Withhold Holds where
  opening _ database honest := by
    refine ⟨faults_begin Fault.lasts_areHonest honest, ?_⟩
    have recorded := (database.advances_resumed.trans database.begin_ends.1.advances).recorded
    rwa [List.append_nil, List.append_nil] at recorded
  unopened _ _ honest := ⟨honest, rfl⟩
  refused _ database unacknowledged honest := by
    refine ⟨faults_commit Fault.lasts_areHonest honest, ?_⟩
    dsimp only [transactions, call] at unacknowledged ⊢
    unfold commit at unacknowledged ⊢
    split
    · rfl
    next connected =>
      rw [if_neg connected] at unacknowledged
      rcases database.strike_eq "commit" with ⟨trace, struck⟩
      have sincere : ∀ failure, (Fault.next "commit" database.faults).1 = some failure →
          failure.takesEffect = false :=
        fun failure struck => honest.of_next struck (.inl rfl)
      rw [struck] at unacknowledged ⊢
      rcases failing : (Fault.next "commit" database.faults).1 with _ | (report | _ | report)
      · rw [failing] at unacknowledged
        exact absurd rfl unacknowledged
      · rfl
      · rfl
      · cases sincere _ failing
  abandoned _ database honest := by
    refine ⟨faults_abandonCommit Fault.lasts_areHonest honest, ?_⟩
    dsimp only [transactions, call]
    unfold abandonCommit
    rcases database.strike_eq "commit" with ⟨trace, struck⟩
    rw [struck]
    rcases failing : (Fault.next "commit" database.faults).1 with _ | (report | _ | report)
    · rfl
    · rfl
    · rfl
    · cases honest.of_next failing (.inl rfl)
  rollingBack _ database honest :=
    ⟨faults_rollback Fault.lasts_areHonest honest, database.untouched_rollback.commits⟩

theorem leads_send_holds {α : Type} (work : Work α) (database : Database) :
    work.send.Leads database fun _ after => database.Holds after := by
  have unchanged : database.Holds database := refl database
  induction work generalizing database with
  | finished value => exact Run.leads_pure unchanged
  | failed error => exact Run.leads_throw unchanged
  | query statement next induction =>
      refine Run.leads_bind (Run.leads_race (fun _ => ?_) (fun _ _ => ?_) fun _ => unchanged)
      · have queried := holds_query statement database
        dsimp only [call]
        cases ran : database.query statement with
        | mk outcome after =>
            rw [ran] at queried
            cases outcome with
            | error error => exact queried
            | ok answer =>
                apply (induction answer after (refl after)).imp
                exact fun _ _ kept => Trans.trans queried kept
      · exact fun honest => ⟨honest, rfl⟩

/-- What retried work comes to on an honest store: one run of it takes effect and its value is
returned, or nothing has happened. -/
def Performs {α : Type} (before : Database) (work : Work α) (result : Except Stop α)
    (after : Database) : Prop :=
  Fault.AreHonest after.faults ∧
    match result with
    | .ok value => ∃ commit, commit.Runs work value ∧ Advances before [commit] after
    | .error _ => Advances before [] after

theorem leads_attempt_honest {α : Type} (work : Work α)
    (honest : Fault.AreHonest database.faults) :
    (attempt transactions work.send).Leads database (database.Performs work) := by
  have withheld := leads_attempt_withheld withhold_holds (leads_send_holds work) database
  apply ((leads_attempt work database).and withheld).imp
  rintro result after ⟨concludes, kept⟩
  cases result with
  | ok value =>
      rcases kept with ⟨worked, now, kept, -, rfl⟩
      refine ⟨faults_commit Fault.lasts_areHonest (kept honest).1, ?_⟩
      rcases concludes.attempted with ⟨run, commit, runs, advances, returned⟩ | ⟨-, failed⟩
      · rw [returned value rfl]
        exact ⟨commit, runs, advances⟩
      · exact absurd rfl (failed value)
  | error stop =>
      rcases kept honest with ⟨left, same⟩
      refine ⟨left, ?_⟩
      rcases concludes.attempted with ⟨run, commit, runs, advances, -⟩ | ⟨advances, -⟩
      · have recorded := advances.recorded
        rw [same] at recorded
        simp at recorded
      · exact advances

theorem leads_transact_honest {α : Type} (policy : Policy) (work : Work α)
    (honest : Fault.AreHonest database.faults) :
    (transact policy work).Leads database (database.Performs work) := by
  refine leads_attemptsFrom
    (fun store => Fault.AreHonest store.faults ∧ Advances database [] store) ?_ ?_ _ _
    ⟨honest, .refl database⟩
  · intro store ⟨left, earlier⟩
    apply (leads_attempt_honest work left).imp
    intro result after ⟨still, performed⟩
    cases result with
    | ok value =>
        rcases performed with ⟨commit, runs, advances⟩
        exact ⟨still, commit, runs, earlier.trans advances⟩
    | error stop => exact ⟨still, earlier.trans performed⟩
  · exact fun stop store reached => reached

/-! ## Purging -/

/-- A purge takes expired entries away, and reports how many. Where it reports a failure it has taken
none. -/
theorem queryAlone_purge (honest : Fault.AreHonest database.faults) :
    match database.queryAlone .purge with
    | (.ok removed, after) => removed = database.tables.ledger.expiredCount database.clock ∧
      after.tables =
        { database.tables with ledger := database.tables.ledger.purge database.clock }
    | (.error _, after) => after.tables = database.tables := by
  have left := faults_connect Fault.lasts_areHonest honest
  rcases database.connect_eq with ⟨faults, isConnected, trace, connected⟩
  unfold queryAlone
  cases linked : database.connect with
  | mk result after =>
      rw [linked] at connected left
      dsimp only at connected left
      subst connected
      cases result with
      | error error => rfl
      | ok _ =>
          rcases strike_eq { database with faults, isConnected, trace } "purge" with
            ⟨struckTrace, struck⟩
          dsimp only
          unfold serve
          rw [show Statement.purge.name = "purge" from rfl, struck]
          rcases failing : (Fault.next "purge" faults).1 with _ | (report | _ | report)
          · exact ⟨rfl, rfl⟩
          · rfl
          · rfl
          · cases Fault.AreHonest.of_next left failing (.inr rfl)

end Database

end LinkShortener
