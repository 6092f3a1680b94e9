import LinkShortener.Proofs.Retry.Backoff
import LinkShortener.Proofs.Service.Repositories
import LinkShortener.Proofs.Store.Transience

/-! # Transient faults in calls of the repositories

A call whose first attempts are hit by transient faults ends as if it had started with the first
attempt that is not hit, on a store without faults.
-/

namespace LinkShortener

open Retry

namespace RepositoryCall

variable {α : Type}

/-- A call as one step on the tables: what it returns, and the tables after it. -/
def Comes (call : RepositoryCall α) (now : Instant) (before : Tables)
    (result : Except Service.Failure α) (after : Tables) : Prop :=
  match call.work.run now before with
  | .error error => result = .error (.error (call.answered error).1) ∧ after = before
  | .ok (value, tables) => result = .ok value ∧ after = tables

theorem Comes.unique {call : RepositoryCall α} {now : Instant} {before after last : Tables}
    {result other : Except Service.Failure α} (first : call.Comes now before result after)
    (second : call.Comes now before other last) : other = result ∧ last = after := by
  unfold Comes at first second
  cases ran : call.work.run now before with
  | error error =>
      rw [ran] at first second
      exact ⟨second.1.trans first.1.symm, second.2.trans first.2.symm⟩
  | ok outcome =>
      rw [ran] at first second
      exact ⟨second.1.trans first.1.symm, second.2.trans first.2.symm⟩

theorem completes_run_hits (call : RepositoryCall α) {scene : Scene} {count : Nat}
    {last : Database} (solitary : scene.situation.store.IsSolitary)
    (hits : Database.Hits scene.policy call.work 0 count scene.situation.store last)
    (few : count < scene.policy.maxAttempts) (spared : last.Spares call.work) :
    call.run.Completes scene fun result after =>
      call.Comes last.resumed.clock scene.situation.store.tables result
        after.situation.store.tables := by
  rw [run_eq_transact]
  refine (Service.completes_transact (Database.completes_attemptsFrom_hits hits spared
    (fun _ _ => call.work_final) solitary few)).imp ?_
  rintro result after ⟨ended, rfl, settles, -⟩
  unfold Work.Settles at settles
  unfold Comes
  cases ran : call.work.run last.resumed.clock scene.situation.store.tables with
  | error error =>
      rw [ran] at settles
      rcases settles with ⟨rfl, same⟩
      exact ⟨rfl, same⟩
  | ok outcome =>
      rw [ran] at settles
      rcases settles with ⟨rfl, same⟩
      exact ⟨rfl, same⟩

theorem completes_run_calm (call : RepositoryCall α) {scene : Scene} (calm : scene.IsCalm) :
    call.run.Completes scene fun result after =>
      call.Comes scene.situation.store.resumed.clock scene.situation.store.tables result
        after.situation.store.tables :=
  call.completes_run_hits calm.solitary (.none 0 _) scene.policy.atLeastOne
    (Database.spares_of_spent calm.isOpen calm.spent)

/-- For a client who never stops waiting, transient faults that hit the first attempts of a call, and
no later one, cannot be told from what the call returns nor from the tables: both are those of one
attempt without faults at the time of the first attempt that is not hit. -/
theorem transient_faults_invisible (call : RepositoryCall α) {scene : Scene} {count : Nat}
    {last : Database} (endless : scene.situation.IsEndless)
    (solitary : scene.situation.store.IsSolitary)
    (hits : Database.Hits scene.policy call.work 0 count scene.situation.store last)
    (few : count < scene.policy.maxAttempts) (spared : last.Spares call.work) :
    Ensures call.run scene fun result after =>
      call.Comes last.resumed.clock scene.situation.store.tables result
        after.situation.store.tables ∧
      ∀ quiet : Scene, quiet.IsCalm → quiet.situation.IsEndless →
        quiet.situation.store.tables = scene.situation.store.tables →
        quiet.situation.store.resumed.clock = last.resumed.clock →
        Ensures call.run quiet fun other undisturbed => other = result ∧
          undisturbed.situation.store.tables = after.situation.store.tables := by
  have hit := call.completes_run_hits solitary hits few spared
  rw [run_eq_transact] at hit ⊢
  apply (hit.ensures_transact endless).imp
  intro result after comes
  refine ⟨comes, fun quiet calm waits sameTables sameTime => ?_⟩
  have undisturbed := call.completes_run_calm calm
  rw [run_eq_transact] at undisturbed
  apply (undisturbed.ensures_transact waits).imp
  intro other undisturbed quietly
  rw [sameTables, sameTime] at quietly
  exact comes.unique quietly

def stumbling : RepositoryCall (Creation ShortUrl) :=
  .createShortUrl ⟨⟨.ofDigit 2⟩, "hash"⟩ ⟨.ofDigit 1, "https://example.com", "abcd"⟩

/-- A scene in which the first attempt cannot begin and the second one cannot insert its row. An hour
passes before each. -/
def faltering : Scene :=
  let situation := Scene.calm.situation
  let report : ServerReport := ⟨some "40001", "could not serialize access", none, false⟩
  { Scene.calm with
    situation := { situation with
      store := { situation.store with
        faults := [⟨"begin", .refused report, 1, 0⟩, ⟨"insert_short_url", .refused report, 1, 0⟩]
        interludes := List.replicate 3 ⟨3600000000, id⟩ } } }

theorem transient_faults_invisible_faltering :
    Ensures stumbling.run faltering fun result after =>
      result = .ok (.created ⟨.ofDigit 1, "https://example.com", "abcd", ⟨10800, 0⟩⟩) ∧
        after.situation.store.tables.ledger.length = 1 := by
  have solitary : faltering.situation.store.IsSolitary := by
    intro interlude member tables
    cases List.eq_of_mem_replicate member
    rfl
  let first := faltering.situation.store.begin.2
  let last := (stumbling.work.sent first.begin.2).2.rollback.2
  have waits : ∀ number, (faltering.policy.backoff? number).isSome = true :=
    fun number => Policy.isSome_backoff? number (by decide)
  have hits : Database.Hits faltering.policy stumbling.work 0 2 faltering.situation.store last :=
    .more (.opening _ rfl rfl) (waits 0) (.more (.statement _ rfl rfl rfl) (waits 1) (.none _ _))
  have spent : last.faults.all (fun fault => fault.times = 0) = true := by decide +kernel
  have spared : last.Spares stumbling.work := Database.spares_of_spent rfl fun fault member =>
    of_decide_eq_true (List.all_eq_true.mp spent fault member)
  have endless : faltering.situation.context.endsAt = none := rfl
  apply (stumbling.transient_faults_invisible endless solitary hits (by decide) spared).imp
  rintro result after ⟨comes, -⟩
  have ran : stumbling.work.run last.resumed.clock faltering.situation.store.tables =
      .ok (.created ⟨.ofDigit 1, "https://example.com", "abcd", ⟨10800, 0⟩⟩,
        ⟨[⟨.ofDigit 1, "https://example.com", "abcd", ⟨10800, 0⟩⟩], [],
          [⟨.ofDigit 2, .ofDigit 1, "hash", ⟨10800, 0⟩, ⟨97200, 0⟩⟩]⟩) := by
    rw [show last.resumed.clock = ⟨10800, 0⟩ by decide +kernel]
    rfl
  unfold Comes at comes
  rw [ran] at comes
  rcases comes with ⟨rfl, tables⟩
  exact ⟨rfl, by rw [tables]; rfl⟩

end RepositoryCall

end LinkShortener
