import LinkShortener.Proofs.Retry.Completion

/-! # The discipline of retried transactions

A run of retried work as the list of its attempts. Every transaction that is opened runs the work
once and is then handed to a commit or to a rollback, before the next one is opened. The first commit
that is acknowledged ends the run, and only such a commit makes it return a value.
-/

namespace LinkShortener.Retry

variable {σ α : Type}

/-- Started in one situation, a computation ends with the result in the other. -/
def Run.Ends (run : Run σ α) (before : Situation σ) (result : Except Stop α)
    (after : Situation σ) : Prop :=
  run.run.run before = (result, after)

/-- A computation that comes back to its caller, with a value or with an error. -/
def Run.Returns (run : Run σ α) : Prop :=
  ∀ before result after, run.Ends before result after →
    ∃ report : Except StoreError α, result = report.mapError .error

def Call.Returns (call : Call σ α) : Prop :=
  ∃ report : Except StoreError α, call.outcome = report.mapError .error

structure Transactions.Return (transactions : Transactions σ) : Prop where
  opening : ∀ now store, (transactions.opening now store).Returns
  committing : ∀ now store, (transactions.committing now store).Returns
  rollingBack : ∀ now store, (transactions.rollingBack now store).Returns

theorem Run.returns_perform {call : Nat → σ → Call σ α}
    (returns : ∀ now store, (call now store).Returns) : (Run.perform call).Returns := by
  intro before result after ended
  have performed : Ensures (Run.perform call) before fun result _ =>
      ∃ report : Except StoreError α, result = report.mapError .error :=
    Run.ensures_perform (returns before.now before.store)
  unfold Ensures at performed
  rw [ended] at performed
  exact performed

theorem Run.returns_race {call : Nat → σ → Call σ α}
    (returns : ∀ now store, (call now store).Returns) : (Run.race call).Returns := by
  intro before result after ended
  have raced : Ensures (Run.race call) before fun result _ =>
      ∃ report : Except StoreError α, result = report.mapError .error := by
    apply Run.ensures_race
    · exact fun _ => returns before.now before.store
    · exact fun interruption _ _ _ _ => ⟨.error (.ofInterruption interruption), rfl⟩
  unfold Ensures at raced
  rw [ended] at raced
  exact raced

theorem Run.ensures_ends (run : Run σ α) (before : Situation σ) :
    Ensures run before (run.Ends before) := rfl

theorem Run.ends_of_ensures {run : Run σ α} {situation after : Situation σ} {result : Except Stop α}
    (ensured : Ensures run situation fun ended left => ended = result ∧ left = after) :
    run.Ends situation result after :=
  Prod.ext ensured.1 ensured.2

/-! ## One attempt -/

/-- What became of an attempt. A commit and a rollback come with what they reported. -/
inductive Attempt (α : Type) where
  | unopened (error : StoreError)
  | committed (value : α) (report : Except StoreError Unit)
  | rolledBack (error : StoreError) (report : Except StoreError Unit)

namespace Attempt

/-- What the attempt returns. The report of a rollback has no part in it. -/
def result : Attempt α → Except StoreError α
  | .unopened error => .error error
  | .committed value report => report.map fun _ => value
  | .rolledBack error _ => .error error

theorem result_eq_ok_iff {attempt : Attempt α} {value : α} :
    attempt.result = .ok value ↔ attempt = .committed value (.ok ()) := by
  rcases attempt with error | ⟨other, error | _⟩ | ⟨error, report⟩ <;>
    simp [result, Except.map]

/-- The calls of an attempt one after the other, from the situation before it to the one after it. -/
inductive Happens (transactions : Transactions σ) (work : Run σ α) (before : Situation σ) :
    Attempt α → Situation σ → Prop where
  | late (interruption : Interruption)
      (ended : before.context.check before.now = some interruption) :
      Happens transactions work before (.unopened (.ofInterruption interruption)) before
  | unopened {after : Situation σ} (error : StoreError)
      (inTime : before.context.check before.now = none)
      (began : (Run.race transactions.opening).Ends before (.error (.error error)) after) :
      Happens transactions work before (.unopened error) after
  | committed {opened worked after : Situation σ} (value : α) (report : Except StoreError Unit)
      (inTime : before.context.check before.now = none)
      (began : (Run.race transactions.opening).Ends before (.ok ()) opened)
      (succeeded : work.Ends opened (.ok value) worked)
      (closed : (Run.race transactions.committing).Ends worked (report.mapError .error) after) :
      Happens transactions work before (.committed value report) after
  | rolledBack {opened worked undone after : Situation σ} (error : StoreError)
      (report : Except StoreError Unit) (inTime : before.context.check before.now = none)
      (began : (Run.race transactions.opening).Ends before (.ok ()) opened)
      (failed : work.Ends opened (.error (.error error)) worked)
      (closed : (Run.perform transactions.rollingBack).Ends worked (report.mapError .error) undone)
      (noted : after = { undone with log := after.log }) :
      Happens transactions work before (.rolledBack error report) after

end Attempt

variable {transactions : Transactions σ} {policy : Policy} {work : Run σ α}

private theorem ensures_undo (returns : transactions.Return) (before : Situation σ) :
    Ensures (undo transactions) before fun result after => result = .ok () ∧
      ∃ report undone, (Run.perform transactions.rollingBack).Ends before
        (Except.mapError .error report) undone ∧ after = { undone with log := after.log } := by
  refine ensures_bind (Run.ensures_caught ((Run.ensures_ends _ before).imp ?_))
  intro result undone ended
  rcases Run.returns_perform returns.rollingBack _ _ _ ended with ⟨report, rfl⟩
  cases report with
  | ok _ => exact ensures_pure ⟨rfl, .ok (), undone, ended, rfl⟩
  | error error => exact Run.ensures_note ⟨rfl, .error error, undone, ended, rfl⟩

/-- Every attempt opens at most one transaction, and closes it in one way. -/
theorem ensures_attempt (returns : transactions.Return) (working : work.Returns)
    (before : Situation σ) :
    Ensures (attempt transactions work) before fun result after => ∃ attempt : Attempt α,
      attempt.Happens transactions work before after ∧
        result = attempt.result.mapError .error := by
  refine ensures_bind (ensures_get_bind ?_)
  split
  next interruption ended =>
    apply ensures_throw
    exact ⟨_, .late interruption ended, rfl⟩
  next inTime =>
    refine ensures_pure (ensures_bind ((Run.ensures_ends _ before).imp ?_))
    intro result opened began
    rcases Run.returns_race returns.opening _ _ _ began with ⟨error | _, rfl⟩
    · exact ⟨_, .unopened error inTime began, rfl⟩
    · refine ensures_bind (Run.ensures_caught ((Run.ensures_ends work opened).imp ?_))
      intro result worked ended
      rcases working _ _ _ ended with ⟨error | value, rfl⟩
      · refine ensures_bind ((ensures_undo returns worked).imp ?_)
        rintro result after ⟨rfl, report, undone, closed, noted⟩
        exact ensures_throw ⟨_, .rolledBack error report inTime began ended closed noted, rfl⟩
      · refine ensures_bind ((Run.ensures_ends _ worked).imp ?_)
        intro result after closed
        rcases Run.returns_race returns.committing _ _ _ closed with ⟨error | _, rfl⟩
        · exact ⟨_, .committed value (.error error) inTime began ended closed, rfl⟩
        · exact ensures_pure ⟨_, .committed value (.ok ()) inTime began ended closed, rfl⟩

/-! ## All attempts -/

/-- The attempts of a run from the one with the given number on, at most so many more than one, with
a wait after each but the last. -/
inductive Attempts (transactions : Transactions σ) (policy : Policy) (work : Run σ α) :
    Nat → Nat → Situation σ → List (Attempt α) → Except Stop α → Situation σ → Prop where
  | succeeded {number more : Nat} {before after : Situation σ} {attempt : Attempt α} (value : α)
      (happens : attempt.Happens transactions work before after)
      (result : attempt.result = .ok value) :
      Attempts transactions policy work number more before [attempt] (.ok value) after
  | failed {number more : Nat} {before after : Situation σ} {attempt : Attempt α}
      (error : StoreError) (happens : attempt.Happens transactions work before after)
      (result : attempt.result = .error error) (final : error.retryable = false) :
      Attempts transactions policy work number more before [attempt] (.error (.error error)) after
  | exhausted {number : Nat} {before after : Situation σ} {attempt : Attempt α}
      (error : StoreError) (happens : attempt.Happens transactions work before after)
      (result : attempt.result = .error error) (retryable : error.retryable = true) :
      Attempts transactions policy work number 0 before [attempt]
        (.error (.error (.retriesExhausted policy.maxAttempts error))) after
  | stopped {number more : Nat} {before between after : Situation σ} {attempt : Attempt α}
      (error : StoreError) (stop : Stop)
      (happens : attempt.Happens transactions work before between)
      (result : attempt.result = .error error) (retryable : error.retryable = true)
      (waited : (backOff policy number error).Ends between (.error stop) after) :
      Attempts transactions policy work number (more + 1) before [attempt] (.error stop) after
  | again {number more : Nat} {before between later after : Situation σ} {attempt : Attempt α}
      {rest : List (Attempt α)} {last : Except Stop α} (error : StoreError)
      (happens : attempt.Happens transactions work before between)
      (result : attempt.result = .error error) (retryable : error.retryable = true)
      (waited : (backOff policy number error).Ends between (.ok ()) later)
      (following : Attempts transactions policy work (number + 1) more later rest last after) :
      Attempts transactions policy work number (more + 1) before (attempt :: rest) last after

theorem ensures_attemptsFrom (returns : transactions.Return) (working : work.Returns)
    (more number : Nat) (before : Situation σ) :
    Ensures (attemptsFrom transactions policy work number (more + 1)) before fun result after =>
      ∃ attempts, Attempts transactions policy work number more before attempts result after := by
  induction more generalizing number before with
  | zero =>
      unfold attemptsFrom
      refine ensures_bind (Run.ensures_caught ((ensures_attempt returns working before).imp ?_))
      rintro result after ⟨attempt, happens, rfl⟩
      cases ended : attempt.result with
      | ok value => exact ensures_pure ⟨_, .succeeded value happens ended⟩
      | error error =>
          dsimp only [Except.mapError, Run.handed]
          cases retryable : error.retryable with
          | false => exact ensures_throw ⟨_, .failed error happens ended retryable⟩
          | true => exact ensures_throw ⟨_, .exhausted error happens ended retryable⟩
  | succ more induction =>
      rw [attemptsFrom]
      refine ensures_bind (Run.ensures_caught ((ensures_attempt returns working before).imp ?_))
      rintro result between ⟨attempt, happens, rfl⟩
      cases ended : attempt.result with
      | ok value => exact ensures_pure ⟨_, .succeeded value happens ended⟩
      | error error =>
          dsimp only [Except.mapError, Run.handed]
          cases retryable : error.retryable with
          | false => exact ensures_throw ⟨_, .failed error happens ended retryable⟩
          | true =>
              refine ensures_bind ((Run.ensures_ends _ between).imp ?_)
              intro result later waited
              cases result with
              | error stop =>
                  exact ⟨_, .stopped error stop happens ended retryable waited⟩
              | ok _ =>
                  apply (induction (number + 1) later).imp
                  rintro result after ⟨rest, following⟩
                  exact ⟨_, .again error happens ended retryable waited following⟩

/-- A run is a list of attempts, as many as the policy allows at most. -/
theorem ensures_execute (returns : transactions.Return) (working : work.Returns) (policy : Policy)
    (before : Situation σ) :
    Ensures (execute transactions policy work) before fun result after =>
      ∃ attempts, Attempts transactions policy work 0 (policy.maxAttempts - 1) before attempts result
        after := by
  rcases policy.maxAttempts_eq_succ with ⟨more, budget⟩
  rw [execute, budget, Nat.add_sub_cancel]
  exact ensures_attemptsFrom returns working more 0 before

namespace Attempts

variable {number more : Nat} {before after : Situation σ} {attempts : List (Attempt α)}
  {result : Except Stop α}

theorem length_le (run : Attempts transactions policy work number more before attempts result after) :
    attempts.length ≤ more + 1 := by
  induction run with
  | again error happens result retryable waited following induction =>
      rw [List.length_cons]
      omega
  | _ => simp

/-- An acknowledged commit ends the run, which returns the value of its work. -/
theorem of_acknowledged
    (run : Attempts transactions policy work number more before attempts result after)
    {earlier later : List (Attempt α)} {value : α}
    (parts : attempts = earlier ++ .committed value (.ok ()) :: later) :
    later = [] ∧ result = .ok value := by
  induction run generalizing earlier with
  | succeeded value happens ended =>
      rw [Attempt.result_eq_ok_iff] at ended
      subst ended
      cases earlier <;> simp_all
  | failed error happens ended final => cases earlier <;> simp_all [Attempt.result, Except.map]
  | exhausted error happens ended retryable =>
      cases earlier <;> simp_all [Attempt.result, Except.map]
  | stopped error stop happens ended retryable waited =>
      cases earlier <;> simp_all [Attempt.result, Except.map]
  | again error happens ended retryable waited following induction =>
      cases earlier with
      | nil => simp_all [Attempt.result, Except.map]
      | cons first earlier =>
          rw [List.cons_append, List.cons.injEq] at parts
          exact induction parts.2

theorem returns_iff
    (run : Attempts transactions policy work number more before attempts result after) (value : α) :
    result = .ok value ↔ .committed value (.ok ()) ∈ attempts := by
  constructor
  · intro returned
    induction run with
    | succeeded value happens ended =>
        cases returned
        simpa using (Attempt.result_eq_ok_iff.mp ended).symm
    | again error happens ended retryable waited following induction =>
        exact List.mem_cons_of_mem _ (induction returned)
    | _ => cases returned
  · intro member
    rcases List.append_of_mem member with ⟨earlier, later, parts⟩
    exact (run.of_acknowledged parts).2

end Attempts

/-! ## What an unacknowledged run leaves -/

/-- Nothing but an acknowledged commit leads away from what is kept. -/
structure Transactions.Withhold (transactions : Transactions σ) (keeps : σ → σ → Prop) : Prop where
  opening : ∀ now store, keeps store (transactions.opening now store).completed
  unopened : ∀ now store, keeps store (transactions.opening now store).abandoned
  refused : ∀ now store, (transactions.committing now store).outcome ≠ .ok () →
    keeps store (transactions.committing now store).completed
  abandoned : ∀ now store, keeps store (transactions.committing now store).abandoned
  rollingBack : ∀ now store, keeps store (transactions.rollingBack now store).completed

section

variable {keeps : σ → σ → Prop}

private theorem leads_undo_withheld (withhold : transactions.Withhold keeps) (store : σ) :
    Run.Leads (undo transactions) store fun _ after => keeps store after := by
  refine Run.leads_bind (Run.leads_caught (Run.leads_perform fun now => ?_))
  have kept := withhold.rollingBack now store
  rcases (transactions.rollingBack now store).outcome with (error | text) | _
  · exact Run.leads_note kept
  · exact kept
  · exact Run.leads_pure kept

variable [IsPreorder σ keeps]

/-- A value comes from an acknowledged commit. Without one, everything is kept. -/
theorem leads_attempt_withheld (withhold : transactions.Withhold keeps)
    (working : ∀ store, work.Leads store fun _ after => keeps store after) (store : σ) :
    (attempt transactions work).Leads store fun result after =>
      match result with
      | .ok _ => ∃ worked now, keeps store worked ∧
        (transactions.committing now worked).outcome = .ok () ∧
        after = (transactions.committing now worked).completed
      | .error _ => keeps store after := by
  have unchanged : keeps store store := refl store
  have step : ∀ {first second third : σ}, keeps first second → keeps second third →
      keeps first third := fun first second => Trans.trans first second
  refine Run.leads_bind (Run.leads_checkContext ?_ fun _ => unchanged)
  refine Run.leads_bind (Run.leads_race (fun now => ?_) (fun _ now => ?_) fun _ => unchanged)
  · have opening := withhold.opening now store
    cases (transactions.opening now store).outcome with
    | error stop => exact opening
    | ok _ =>
        refine Run.leads_bind (Run.leads_caught ((working _).imp fun result worked kept => ?_))
        have sofar : keeps store worked := step opening kept
        rcases result with (error | text) | value
        · refine Run.leads_bind ((leads_undo_withheld withhold worked).imp ?_)
          intro undone after kept
          cases undone with
          | ok _ => exact Run.leads_throw (step sofar kept)
          | error stop => exact step sofar kept
        · exact sofar
        · refine Run.leads_bind (Run.leads_race (fun now => ?_) (fun _ now => ?_) fun _ => sofar)
          · have refused := withhold.refused now worked
            cases ended : (transactions.committing now worked).outcome with
            | ok _ => exact Run.leads_pure ⟨worked, now, sofar, ended, rfl⟩
            | error stop =>
                rw [ended] at refused
                exact step sofar (refused nofun)
          · exact step sofar (withhold.abandoned now worked)
  · exact withhold.unopened now store

theorem leads_execute_withheld (withhold : transactions.Withhold keeps)
    (working : ∀ store, work.Leads store fun _ after => keeps store after) (store : σ) :
    (execute transactions policy work).Leads store fun result after =>
      (∃ value, result = .ok value) ∨ keeps store after := by
  apply leads_attemptsFrom (keeps store) _ (fun _ _ kept => .inr kept) _ _ (refl store)
  intro between kept
  apply (leads_attempt_withheld withhold working between).imp
  intro result after ended
  cases result with
  | ok value => exact .inl ⟨value, rfl⟩
  | error stop => exact (Trans.trans kept ended : keeps store after)

end

/-- A store that counts the commits that will fail and those that have taken effect. -/
def Transactions.counting : Transactions (Nat × Nat) where
  opening _ store := .wait 1 store
  committing _ store :=
    match store with
    | (0, done) => { Call.wait 1 store with completed := (0, done + 1) }
    | (failing + 1, done) =>
      { Call.wait 1 store with
        outcome := .error (.error (.transient "connection lost")), completed := (failing, done) }
  rollingBack _ store := .wait 1 store

def Situation.counting (failing : Nat) : Situation (Nat × Nat) where
  store := (failing, 0)
  now := 0
  context := .background
  ties := []
  log := []

private theorem return_counting : Transactions.counting.Return where
  opening _ _ := ⟨.ok (), rfl⟩
  committing
    | _, (0, _) => ⟨.ok (), rfl⟩
    | _, (_ + 1, _) => ⟨.error _, rfl⟩
  rollingBack _ _ := ⟨.ok (), rfl⟩

private theorem withhold_counting :
    Transactions.counting.Withhold fun earlier later => later.2 = earlier.2 where
  opening _ _ := rfl
  unopened _ _ := rfl
  refused
    | _, (0, _), refused => absurd rfl refused
    | _, (_ + 1, _), _ => rfl
  abandoned
    | _, (0, _) => rfl
    | _, (_ + 1, _) => rfl
  rollingBack _ _ := rfl

end LinkShortener.Retry
