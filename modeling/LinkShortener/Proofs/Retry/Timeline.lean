import LinkShortener.Proofs.Retry.Racing
import Mathlib.Algebra.GroupWithZero.Nat

/-! # Retried transactions in time

A run of retried work as the list of its steps, each with the times at which it starts and finishes and
with what interrupts it.
-/

namespace LinkShortener.Retry

variable {σ α : Type}

inductive Stage where
  | opening
  | working
  | committing
  | rollingBack
  | waiting
  deriving DecidableEq

/-- One step of a run: when it starts and finishes, and what interrupts it. -/
structure Step where
  stage : Stage
  start : Nat
  finish : Nat
  interruption? : Option Interruption

/-- The time that is spent on rollbacks. -/
def rollbackTime (steps : List Step) : Nat :=
  ((steps.filter (·.stage = .rollingBack)).map fun step => step.finish - step.start).sum

theorem rollbackTime_append (first second : List Step) :
    rollbackTime (first ++ second) = rollbackTime first + rollbackTime second := by
  simp [rollbackTime]

/-- The steps of one attempt. Nothing interrupts a rollback. -/
inductive Tried (transactions : Transactions σ) (work : Run σ α) (before : Situation σ) :
    List Step → Except Stop α → Situation σ → Prop where
  | late (interruption : Interruption)
      (isOver : before.context.check before.now = some interruption) :
      Tried transactions work before [] (.error (.error (.ofInterruption interruption))) before
  | unopened {error : StoreError} {after : Situation σ} {interruption? : Option Interruption}
      (inTime : before.context.check before.now = none)
      (began : Raced (Run.race transactions.opening) before (.error (.error error)) after
        interruption?) :
      Tried transactions work before [⟨.opening, before.now, after.now, interruption?⟩]
        (.error (.error error)) after
  | committed {value : α} {report : Except StoreError Unit} {opened worked after : Situation σ}
      {interruption? : Option Interruption} (inTime : before.context.check before.now = none)
      (began : Raced (Run.race transactions.opening) before (.ok ()) opened none)
      (succeeded : Raced work opened (.ok value) worked none)
      (closed : Raced (Run.race transactions.committing) worked (report.mapError .error) after
        interruption?) :
      Tried transactions work before
        [⟨.opening, before.now, opened.now, none⟩, ⟨.working, opened.now, worked.now, none⟩,
          ⟨.committing, worked.now, after.now, interruption?⟩]
        ((report.map fun _ => value).mapError .error) after
  | rolledBack {error : StoreError} {report : Except StoreError Unit}
      {opened worked undone after : Situation σ} {interruption? : Option Interruption}
      (inTime : before.context.check before.now = none)
      (began : Raced (Run.race transactions.opening) before (.ok ()) opened none)
      (failed : Raced work opened (.error (.error error)) worked interruption?)
      (closed : (Run.perform transactions.rollingBack).Ends worked (report.mapError .error) undone)
      (noted : after = { undone with log := after.log }) :
      Tried transactions work before
        [⟨.opening, before.now, opened.now, none⟩,
          ⟨.working, opened.now, worked.now, interruption?⟩,
          ⟨.rollingBack, worked.now, after.now, none⟩]
        (.error (.error error)) after

/-- No wait between two attempts is too long for a duration. -/
def Policy.IsUnbroken (policy : Policy) : Prop := ∀ number, (policy.backoff? number).isSome = true

/-- After the warning that comes before a wait. -/
def Situation.warned (policy : Policy) (number : Nat) (delay : Duration) (error : StoreError)
    (situation : Situation σ) : Situation σ :=
  { situation with
    log := situation.log ++ [.retrying (number + 1) policy.maxAttempts delay error] }

/-- Waits so long, unless the context ends before. -/
def Run.sleep (delay : Duration) : Run σ Unit :=
  Run.race fun _ store => Call.wait delay.nanoseconds store

/-- The steps of a run from the attempt with the given number on, at most so many more than one, with
a wait after each but the last. -/
inductive Timeline (transactions : Transactions σ) (policy : Policy) (work : Run σ α) :
    Nat → Nat → Situation σ → List Step → Except Stop α → Situation σ → Prop where
  | ended {number more : Nat} {before after : Situation σ} {steps : List Step}
      {report : Except StoreError α}
      (tried : Tried transactions work before steps (report.mapError .error) after)
      (final : ∀ error, report = .error error → error.retryable = false) :
      Timeline transactions policy work number more before steps (report.mapError .error) after
  | exhausted {number : Nat} {before after : Situation σ} {steps : List Step} {error : StoreError}
      (tried : Tried transactions work before steps (.error (.error error)) after)
      (retryable : error.retryable = true) :
      Timeline transactions policy work number 0 before steps
        (.error (.error (.retriesExhausted policy.maxAttempts error))) after
  | interrupted {number more : Nat} {before between after : Situation σ} {steps : List Step}
      {error : StoreError} {delay : Duration} {interruption : Interruption}
      (tried : Tried transactions work before steps (.error (.error error)) between)
      (retryable : error.retryable = true) (waits : policy.backoff? number = some delay)
      (waited : Raced (Run.sleep delay) (between.warned policy number delay error)
        (.error (.error (.ofInterruption interruption))) after (some interruption)) :
      Timeline transactions policy work number (more + 1) before
        (steps ++ [⟨.waiting, between.now, after.now, some interruption⟩])
        (.error (.error (.ofInterruption interruption))) after
  | again {number more : Nat} {before between later after : Situation σ} {steps rest : List Step}
      {error : StoreError} {delay : Duration} {result : Except Stop α}
      (tried : Tried transactions work before steps (.error (.error error)) between)
      (retryable : error.retryable = true) (waits : policy.backoff? number = some delay)
      (waited : Raced (Run.sleep delay) (between.warned policy number delay error) (.ok ()) later
        none)
      (following : Timeline transactions policy work (number + 1) more later rest result after) :
      Timeline transactions policy work number (more + 1) before
        (steps ++ ⟨.waiting, between.now, later.now, none⟩ :: rest) result after

variable {transactions : Transactions σ} {policy : Policy} {work : Run σ α}

theorem Attempt.Happens.tried (spare : transactions.Spare) (heeds : work.Heeds)
    {attempt : Attempt α} {before after : Situation σ}
    (happens : attempt.Happens transactions work before after) :
    ∃ steps, Tried transactions work before steps (attempt.result.mapError .error) after := by
  have opens := Run.heeds_race spare.opening
  have commits := Run.heeds_race spare.committing
  cases happens with
  | late interruption isOver => exact ⟨_, .late interruption isOver⟩
  | unopened error inTime began =>
      rcases opens.raced began with ⟨interruption?, raced⟩
      exact ⟨_, .unopened inTime raced⟩
  | committed value report inTime began succeeded closed =>
      rcases opens.raced began with ⟨_, begun⟩
      rcases heeds.raced succeeded with ⟨_, worked⟩
      rcases commits.raced closed with ⟨interruption?, raced⟩
      cases begun.course.uninterrupted_of_ok
      cases worked.course.uninterrupted_of_ok
      exact ⟨_, .committed inTime begun worked raced⟩
  | rolledBack error report inTime began failed closed noted =>
      rcases opens.raced began with ⟨_, begun⟩
      rcases heeds.raced failed with ⟨interruption?, worked⟩
      cases begun.course.uninterrupted_of_ok
      exact ⟨_, .rolledBack inTime begun worked closed noted⟩

theorem raced_of_backOff {number : Nat} {error : StoreError} {delay : Duration}
    {between after : Situation σ} {result : Except Stop Unit}
    (waits : policy.backoff? number = some delay)
    (waited : (backOff policy number error).Ends between result after) :
    ∃ interruption?, Raced (Run.sleep delay) (between.warned policy number delay error) result after
      interruption? := by
  rw [backOff, waits] at waited
  exact (Run.heeds_race fun _ _ => rfl).raced waited

theorem Raced.of_sleep {delay : Duration} {before after : Situation σ} {stop : Stop}
    {interruption? : Option Interruption}
    (waited : Raced (Run.sleep delay) before (.error stop) after interruption?) :
    ∃ interruption, interruption? = some interruption ∧
      stop = .error (.ofInterruption interruption) := by
  cases waited.course with
  | finished ended =>
      have slept : (Run.sleep delay).Ends before.unbounded (.ok ()) _ :=
        Run.ends_race_unbounded before
      cases slept.symm.trans ended
  | interrupted interruption => exact ⟨interruption, rfl, rfl⟩

/-- Every run of retried work whose waits are not too long has such steps. -/
theorem Attempts.timeline (spare : transactions.Spare) (heeds : work.Heeds)
    (unbroken : policy.IsUnbroken) {number more : Nat}
    {before after : Situation σ} {attempts : List (Attempt α)} {result : Except Stop α}
    (run : Attempts transactions policy work number more before attempts result after) :
    ∃ steps, Timeline transactions policy work number more before steps result after := by
  induction run with
  | succeeded value happens ended =>
      rcases happens.tried spare heeds with ⟨steps, tried⟩
      rw [ended] at tried
      exact ⟨steps, .ended tried nofun⟩
  | failed error happens ended final =>
      rcases happens.tried spare heeds with ⟨steps, tried⟩
      rw [ended] at tried
      exact ⟨steps, .ended tried fun _ same => by cases same; exact final⟩
  | exhausted error happens ended retryable =>
      rcases happens.tried spare heeds with ⟨steps, tried⟩
      rw [ended] at tried
      exact ⟨steps, .exhausted tried retryable⟩
  | @stopped number _ _ _ _ _ error stop happens ended retryable waited =>
      rcases happens.tried spare heeds with ⟨steps, tried⟩
      rw [ended] at tried
      rcases Option.isSome_iff_exists.mp (unbroken number) with ⟨delay, waits⟩
      rcases raced_of_backOff waits waited with ⟨_, raced⟩
      rcases raced.of_sleep with ⟨interruption, rfl, rfl⟩
      exact ⟨_, .interrupted tried retryable waits raced⟩
  | @again number _ _ _ _ _ _ _ _ error happens ended retryable waited following induction =>
      rcases happens.tried spare heeds with ⟨steps, tried⟩
      rw [ended] at tried
      rcases Option.isSome_iff_exists.mp (unbroken number) with ⟨delay, waits⟩
      rcases raced_of_backOff waits waited with ⟨_, raced⟩
      cases raced.course.uninterrupted_of_ok
      rcases induction with ⟨rest, following⟩
      exact ⟨_, .again tried retryable waits raced following⟩

/-- Every run of retried work whose waits are not too long has its steps. -/
theorem ensures_execute_timeline (returns : transactions.Return) (spare : transactions.Spare)
    (working : work.Returns) (heeds : work.Heeds)
    (unbroken : policy.IsUnbroken) (before : Situation σ) :
    Ensures (execute transactions policy work) before fun result after =>
      ∃ steps, Timeline transactions policy work 0 (policy.maxAttempts - 1) before steps result
        after := by
  refine (ensures_execute returns working policy before).imp ?_
  rintro result after ⟨attempts, run⟩
  exact run.timeline spare heeds unbroken

end LinkShortener.Retry
