import LinkShortener.Proofs.Retry.Reasoning
import Mathlib.Order.MinMax

/-! # Runs to completion

A context that is over stays over. So where it is not over at the end, nothing was given up on the
way, and a computation came to what its completed calls come to.
-/

namespace LinkShortener.Retry

variable {σ α β : Type}

theorem Situation.isOver_iff {situation : Situation σ} :
    situation.IsOver ↔ situation.context.isCancelledAt situation.now = true ∨
      situation.context.isPastDeadlineAt situation.now = true := by
  rcases situation with ⟨store, now, ⟨deadline, cancelled⟩, ties, log⟩
  cases deadline <;> cases cancelled <;>
    simp [IsOver, Context.endsAt, Context.isCancelledAt, Context.isPastDeadlineAt, or_comm]

theorem Situation.isOver_iff_check {situation : Situation σ} :
    situation.IsOver ↔ situation.context.check situation.now ≠ none := by
  rw [isOver_iff, Context.check]
  cases situation.context.isCancelledAt situation.now <;>
    cases situation.context.isPastDeadlineAt situation.now <;> simp

/-- What is over stays over while a call takes its time, even if the call cancels the context. -/
theorem Situation.isOver_completed {situation : Situation σ} {call : Call σ α}
    (late : situation.IsOver) : (situation.completed call).IsOver := by
  rw [isOver_iff] at late ⊢
  rcases situation with ⟨store, now, ⟨deadline, cancelled⟩, ties, log⟩
  rcases late with late | late
  · cases cancelled with
    | none => cases late
    | some moment =>
        have before : moment ≤ now := by simpa [Context.isCancelledAt] using late
        have later : moment ≤ now + call.duration := by omega
        left
        cases cancels : call.cancels <;>
          simp [completed, cancels, Context.cancelBy, Context.isCancelledAt, later]
  · cases deadline with
    | none => cases late
    | some moment =>
        have before : moment ≤ now := by simpa [Context.isPastDeadlineAt] using late
        have later : moment ≤ now + call.duration := by omega
        right
        cases cancels : call.cancels <;>
          simpa [completed, cancels, Context.cancelBy, Context.isPastDeadlineAt] using later

/-- The caller never stops waiting. -/
def Situation.IsEndless (situation : Situation σ) : Prop := situation.context.endsAt = none

theorem Situation.IsEndless.not_isOver {situation : Situation σ} (endless : situation.IsEndless) :
    ¬ situation.IsOver := by
  rintro ⟨moment, ends, past⟩
  rw [IsEndless, ends] at endless
  cases endless

theorem Situation.IsEndless.completed {situation : Situation σ} (endless : situation.IsEndless)
    {call : Call σ α} (spares : call.cancels = false) : (situation.completed call).IsEndless := by
  rw [IsEndless, Situation.completed, spares]
  exact endless

namespace Run

section

variable {invariant : Situation σ → Prop}

theorem preserves_caught {run : Run σ α} (preserves : Preserves invariant run) :
    Preserves invariant (caught run) :=
  fun situation holds => ensures_caught (preserves situation holds)

theorem preserves_checkContext : Preserves invariant (checkContext : Run σ Unit) := by
  intro situation holds
  apply ensures_get_bind
  split
  · exact ensures_throw holds
  · exact ensures_pure holds

end

/-- A computation never brings a context back that is over. -/
def KeepsOver (run : Run σ α) : Prop := Preserves Situation.IsOver run

theorem keepsOver_note (event : Event) : KeepsOver (note event : Run σ Unit) :=
  fun _ late => late

theorem keepsOver_perform (call : Nat → σ → Call σ α) : KeepsOver (perform call) :=
  fun _ late => ensures_perform (Situation.isOver_completed late)

theorem keepsOver_race (call : Nat → σ → Call σ α) : KeepsOver (race call) :=
  fun _ late => ensures_race (fun _ => Situation.isOver_completed late) fun _ _ late _ _ => late

theorem preserves_isEndless_perform {call : Nat → σ → Call σ α}
    (spares : ∀ now store, (call now store).cancels = false) :
    Preserves Situation.IsEndless (perform call) :=
  fun _ endless => ensures_perform (endless.completed (spares _ _))

theorem preserves_isEndless_race {call : Nat → σ → Call σ α}
    (spares : ∀ now store, (call now store).cancels = false) :
    Preserves Situation.IsEndless (race call) := by
  intro situation endless
  apply ensures_race (fun _ => endless.completed (spares _ _))
  intro interruption after _ same _
  rw [Situation.IsEndless, same]
  exact endless

/-- Whatever the rest of the situation, a computation that leaves the context in time meets the
goal. -/
def Completes (run : Run σ α) (store : σ) (goal : Except Stop α → σ → Prop) : Prop :=
  ∀ situation : Situation σ, situation.store = store →
    Ensures run situation fun result after => after.IsOver ∨ goal result after.store

variable {store : σ} {goal : Except Stop α → σ → Prop}

theorem Completes.imp {run : Run σ α} {stronger : Except Stop α → σ → Prop}
    (completes : run.Completes store stronger)
    (weaken : ∀ result after, stronger result after → goal result after) :
    run.Completes store goal :=
  fun situation same => (completes situation same).imp fun result after =>
    Or.imp_right (weaken result after.store)

theorem Leads.completes {run : Run σ α} (leads : run.Leads store goal) :
    run.Completes store goal :=
  fun situation same => (leads situation same).imp fun _ _ => .inr

theorem completes_bind {run : Run σ β} {next : β → Run σ α}
    (completes : run.Completes store fun result after =>
      match result with
      | .ok value => (next value).Completes after goal
      | .error stop => goal (.error stop) after)
    (keeps : ∀ value, (next value).KeepsOver) : Completes (run >>= next) store goal := by
  intro situation same
  refine ensures_bind_unless ((completes situation same).imp fun result after ended => ?_) keeps
  refine ended.imp_right fun continued => ?_
  cases result with
  | ok value => exact continued after rfl
  | error stop => exact continued

theorem completes_caught {goal : Except Stop (Except StoreError α) → σ → Prop} {run : Run σ α}
    (completes : run.Completes store fun result after => goal (handed result) after) :
    Completes (caught run) store goal :=
  fun situation same => ensures_caught (completes situation same)

theorem completes_race {call : Nat → σ → Call σ α}
    (won : ∀ now, goal (call now store).outcome (call now store).completed) :
    Completes (race call) store goal := by
  intro situation same
  subst same
  exact ensures_race (fun _ => .inr (won situation.now)) fun _ _ late _ _ => .inl late

theorem completes_checkContext {goal : Except Stop Unit → σ → Prop} (goes : goal (.ok ()) store) :
    Completes checkContext store goal := by
  intro situation same
  subst same
  apply ensures_get_bind
  split
  next interruption ended =>
    refine ensures_throw (.inl (Situation.isOver_iff_check.mpr ?_))
    rw [ended]
    exact nofun
  · exact ensures_pure (.inr goes)

end Run

/-! ## Retried work -/

theorem Policy.maxAttempts_eq_succ (policy : Policy) :
    ∃ more, policy.maxAttempts = more + 1 := by
  have atLeastOne := policy.atLeastOne
  exact ⟨policy.maxAttempts - 1, by omega⟩

variable {transactions : Transactions σ} {policy : Policy} {work : Run σ α}

/-- No step of retried work breaks the invariant, apart from the work. -/
structure Transactions.Keep (transactions : Transactions σ) (invariant : Situation σ → Prop) :
    Prop where
  opening : Preserves invariant (Run.race transactions.opening)
  committing : Preserves invariant (Run.race transactions.committing)
  rollingBack : Preserves invariant (Run.perform transactions.rollingBack)
  noting : ∀ event, Preserves invariant (Run.note event)
  waiting : ∀ time, Preserves invariant (Run.race fun _ store => Call.wait time store)

section

variable {invariant : Situation σ → Prop}

theorem Transactions.Keep.undo (keep : transactions.Keep invariant) :
    Preserves invariant (undo transactions) := by
  refine (Run.preserves_caught keep.rollingBack).bind fun outcome => ?_
  cases outcome with
  | ok _ => exact preserves_pure _
  | error error => exact keep.noting _

private theorem preserves_close (keep : transactions.Keep invariant)
    (outcome : Except StoreError α) :
    Preserves invariant (match outcome with
      | .ok value => do
        Run.race transactions.committing
        return value
      | .error error => do
        undo transactions
        throw (.error error) : Run σ α) := by
  cases outcome with
  | ok value => exact keep.committing.bind fun _ => preserves_pure _
  | error error => exact keep.undo.bind fun _ => preserves_throw _

theorem Transactions.Keep.attempt (keep : transactions.Keep invariant)
    (worked : Preserves invariant work) : Preserves invariant (attempt transactions work) :=
  Run.preserves_checkContext.bind fun _ => keep.opening.bind fun _ =>
    (Run.preserves_caught worked).bind (preserves_close keep)

theorem Transactions.Keep.backOff (keep : transactions.Keep invariant) {number : Nat}
    {error : StoreError} : Preserves invariant (backOff policy number error : Run σ Unit) := by
  unfold Retry.backOff
  split
  · exact preserves_throw _
  · exact (keep.noting _).bind fun _ => keep.waiting _

private def resume (transactions : Transactions σ) (policy : Policy) (work : Run σ α)
    (number remaining : Nat) : Except StoreError α → Run σ α
  | .ok value => return value
  | .error error =>
    if !error.retryable then throw (.error error)
    else if remaining = 0 then throw (.error (.retriesExhausted policy.maxAttempts error))
    else do
      backOff policy number error
      attemptsFrom transactions policy work (number + 1) remaining

private theorem attemptsFrom_succ (number remaining : Nat) :
    attemptsFrom transactions policy work number (remaining + 1) =
      Run.caught (attempt transactions work) >>=
        resume transactions policy work number remaining := by
  rw [attemptsFrom]
  congr

private theorem preserves_resume (keep : transactions.Keep invariant) {number remaining : Nat}
    (following : Preserves invariant
      (attemptsFrom transactions policy work (number + 1) remaining))
    (outcome : Except StoreError α) :
    Preserves invariant (resume transactions policy work number remaining outcome) := by
  cases outcome with
  | ok value => exact preserves_pure _
  | error error =>
      rw [resume]
      split
      · exact preserves_throw _
      · split
        · exact preserves_throw _
        · exact keep.backOff.bind fun _ => following

theorem Transactions.Keep.attemptsFrom (keep : transactions.Keep invariant)
    (worked : Preserves invariant work) (remaining number : Nat) :
    Preserves invariant (attemptsFrom transactions policy work number remaining) := by
  induction remaining generalizing number with
  | zero => exact preserves_throw _
  | succ remaining induction =>
      rw [attemptsFrom_succ]
      exact (Run.preserves_caught (keep.attempt worked)).bind
        (preserves_resume keep (induction (number + 1)))

end

/-- No caller cancels its context during a call. -/
structure Transactions.Spare (transactions : Transactions σ) : Prop where
  opening : ∀ now store, (transactions.opening now store).cancels = false
  committing : ∀ now store, (transactions.committing now store).cancels = false
  rollingBack : ∀ now store, (transactions.rollingBack now store).cancels = false

theorem keep_isEndless (opening : ∀ now store, (transactions.opening now store).cancels = false)
    (committing : ∀ now store, (transactions.committing now store).cancels = false)
    (rollingBack : ∀ now store, (transactions.rollingBack now store).cancels = false) :
    transactions.Keep Situation.IsEndless where
  opening := Run.preserves_isEndless_race opening
  committing := Run.preserves_isEndless_race committing
  rollingBack := Run.preserves_isEndless_perform rollingBack
  noting _ _ endless := endless
  waiting _ := Run.preserves_isEndless_race fun _ _ => rfl

theorem keep_isOver : transactions.Keep Situation.IsOver where
  opening := Run.keepsOver_race _
  committing := Run.keepsOver_race _
  rollingBack := Run.keepsOver_perform _
  noting := Run.keepsOver_note
  waiting _ := Run.keepsOver_race _

theorem completes_attempt {store : σ} {goal : Except Stop α → σ → Prop} (keeps : work.KeepsOver)
    (steps : (Run.race transactions.opening).Completes store fun result opened =>
      match result with
      | .error stop => goal (.error stop) opened
      | .ok _ => work.Completes opened fun result worked =>
        match result with
        | .error (.crash text) => goal (.error (.crash text)) worked
        | .error (.error error) => (undo transactions).Completes worked fun result after =>
          match result with
          | .error stop => goal (.error stop) after
          | .ok _ => goal (.error (.error error)) after
        | .ok value => (Run.race transactions.committing).Completes worked fun result after =>
          match result with
          | .error stop => goal (.error stop) after
          | .ok _ => goal (.ok value) after) : (attempt transactions work).Completes store goal := by
  refine Run.completes_bind (Run.completes_checkContext ?_) fun _ =>
    keep_isOver.opening.bind fun _ => (Run.preserves_caught keeps).bind (preserves_close keep_isOver)
  refine Run.completes_bind (steps.imp fun result opened following => ?_) fun _ =>
    (Run.preserves_caught keeps).bind (preserves_close keep_isOver)
  cases result with
  | error stop => exact following
  | ok _ =>
      refine Run.completes_bind (Run.completes_caught (following.imp ?_))
        (preserves_close keep_isOver)
      intro result worked following
      rcases result with (error | text) | value
      · refine Run.completes_bind (following.imp fun undone after ended => ?_) fun _ =>
          preserves_throw _
        cases undone with
        | error stop => exact ended
        | ok _ => exact (Run.leads_throw ended).completes
      · exact following
      · refine Run.completes_bind (following.imp fun closed after ended => ?_) fun _ =>
          preserves_pure _
        cases closed with
        | error stop => exact ended
        | ok _ => exact (Run.leads_pure ended).completes

theorem completes_backOff {store : σ} {number : Nat} {error : StoreError}
    {goal : Except Stop Unit → σ → Prop}
    (waited : goal (match policy.backoff? number with
      | none => .error (.crash overflowText)
      | some _ => .ok ()) store) : (backOff policy number error).Completes store goal := by
  unfold backOff
  cases delay : policy.backoff? number with
  | none =>
      rw [delay] at waited
      exact (Run.leads_throw waited).completes
  | some wait =>
      rw [delay] at waited
      refine Run.completes_bind (Run.leads_note ?_).completes fun _ => Run.keepsOver_race _
      exact Run.completes_race fun _ => waited

/-- One attempt, and what remains after it: nothing, unless it failed in a way that another one may
mend and there is another one. -/
theorem completes_attemptsFrom {store : σ} {goal : Except Stop α → σ → Prop}
    {number remaining : Nat} (keeps : work.KeepsOver)
    (attempted : (attempt transactions work).Completes store fun result after =>
      match result with
      | .ok value => goal (.ok value) after
      | .error (.crash text) => goal (.error (.crash text)) after
      | .error (.error error) =>
        if error.retryable = false then goal (.error (.error error)) after
        else if remaining = 0 then
          goal (.error (.error (.retriesExhausted policy.maxAttempts error))) after
        else match policy.backoff? number with
          | none => goal (.error (.crash overflowText)) after
          | some _ =>
            (attemptsFrom transactions policy work (number + 1) remaining).Completes after goal) :
    (attemptsFrom transactions policy work number (remaining + 1)).Completes store goal := by
  have following : Run.KeepsOver
      (attemptsFrom transactions policy work (number + 1) remaining) :=
    keep_isOver.attemptsFrom keeps remaining (number + 1)
  rw [attemptsFrom_succ]
  refine Run.completes_bind (Run.completes_caught (attempted.imp ?_))
    (preserves_resume keep_isOver following)
  intro result after ended
  rcases result with (error | text) | value
  · dsimp only [Run.handed, resume]
    dsimp only at ended
    cases retryable : error.retryable with
    | false =>
        rw [if_pos retryable] at ended
        exact (Run.leads_throw ended).completes
    | true =>
        rw [if_neg (by rw [retryable]; decide)] at ended
        rw [if_neg (by decide)]
        split
        next last =>
          rw [if_pos last] at ended
          exact (Run.leads_throw ended).completes
        next more =>
          rw [if_neg more] at ended
          refine Run.completes_bind (completes_backOff ?_) fun _ => following
          cases delay : policy.backoff? number with
          | none =>
              rw [delay] at ended
              exact ended
          | some wait =>
              rw [delay] at ended
              exact ended
  · exact ended
  · exact (Run.leads_pure ended).completes

/-- The first attempt decides where it succeeds or fails in a way that no other will mend. -/
theorem completes_execute {store : σ} {goal : Except Stop α → σ → Prop}
    (keeps : work.KeepsOver)
    (attempted : (attempt transactions work).Completes store fun result after =>
      goal result after ∧ ∀ error, result = .error (.error error) → error.retryable = false) :
    (execute transactions policy work).Completes store goal := by
  rcases policy.maxAttempts_eq_succ with ⟨more, budget⟩
  rw [execute, budget]
  refine completes_attemptsFrom keeps (attempted.imp fun result after ⟨holds, final⟩ => ?_)
  rcases result with (error | text) | value
  · dsimp only
    rw [if_pos (final error rfl)]
    exact holds
  · exact holds
  · exact holds

end LinkShortener.Retry
