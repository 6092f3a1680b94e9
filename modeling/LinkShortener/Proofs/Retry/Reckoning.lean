import LinkShortener.Proofs.Retry.Discipline
import LinkShortener.Store.DatabaseError

/-! # The reckoning of retried transactions

Where the caller never stops waiting, the attempts alone determine a run of retried work. They are
numbered from zero, each starts where the wait after the one before it ends, and the first that is
not worth another decides, or else the last that the policy allows.
-/

namespace LinkShortener

/-! ## Errors of the database that are worth another attempt -/

theorem TransportKind.isRetryable_iff {kind : TransportKind} :
    kind.isRetryable = true ↔ kind ∈ [connectionRefused, connectionReset, connectionAborted,
      notConnected, brokenPipe, timedOut] := by
  cases kind <;> simp [isRetryable]

/-- The errors of the database that another attempt may mend: reports with a listed code other than
those of a value that is taken, lost connections, and a pool that is exhausted or has crashed. -/
inductive DatabaseError.IsTransient : DatabaseError → Prop where
  | reported {report : ServerReport} {code : String} (free : report.isUniqueViolation = false)
      (coded : report.sqlstate = some code) (listed : code ∈ retryableCodes) :
      IsTransient (.reported report)
  | transport {kind : TransportKind} (message : String)
      (listed : kind ∈ [.connectionRefused, .connectionReset, .connectionAborted, .notConnected,
        .brokenPipe, .timedOut]) : IsTransient (.transport kind message)
  | poolTimedOut : IsTransient .poolTimedOut
  | workerCrashed : IsTransient .workerCrashed

theorem DatabaseError.retryable_classify_iff {error : DatabaseError} :
    error.classify.retryable = true ↔ error.IsTransient := by
  constructor
  · intro retryable
    cases error with
    | reported report =>
        cases taken : report.isUniqueViolation with
        | true => simp [classify, taken, StoreError.uniqueViolation] at retryable
        | false =>
            cases coded : report.sqlstate with
            | none => simp [classify, taken, coded, StoreError.fatal] at retryable
            | some code =>
                by_cases listed : code ∈ retryableCodes
                · exact .reported taken coded listed
                · simp [classify, taken, coded, isRetryableCode, listed, StoreError.fatal] at retryable
    | transport kind message =>
        cases lost : kind.isRetryable with
        | true => exact .transport message (TransportKind.isRetryable_iff.mp lost)
        | false => simp [classify, lost, StoreError.fatal] at retryable
    | poolTimedOut => exact .poolTimedOut
    | workerCrashed => exact .workerCrashed
    | _ => cases retryable
  · rintro (⟨taken, coded, listed⟩ | ⟨message, listed⟩ | _ | _)
    · simp [classify, taken, coded, isRetryableCode, listed, StoreError.transient]
    · rw [classify, if_pos (TransportKind.isRetryable_iff.mpr listed)]
      rfl
    · rfl
    · rfl

namespace Retry

variable {σ α : Type}

/-! ## Attempts one after the other -/

/-- What another attempt may mend. -/
def worthAnother : Except Stop α → Bool
  | .error (.error error) => error.retryable
  | _ => false

/-- What a run returns whose last attempt came to this. -/
def Policy.verdict (policy : Policy) : Except Stop α → Except Stop α
  | .error (.error error) =>
    if error.retryable then .error (.error (.retriesExhausted policy.maxAttempts error))
    else .error (.error error)
  | result => result

/-- After a warning and a wait. No wait is longer than the longest timer. -/
def Situation.resumed (policy : Policy) (number : Nat) (error : StoreError) (delay : Duration)
    (situation : Situation σ) : Situation σ :=
  { situation with
    now := situation.now + min delay.nanoseconds longestTimer
    log := situation.log ++ [.retrying (number + 1) policy.maxAttempts delay error] }

section

variable (transactions : Transactions σ) (policy : Policy) (work : Run σ α) (before : Situation σ)

/-- Where the attempt with the given number starts: after the one before it and the wait that
follows. -/
def started : Nat → Situation σ
  | 0 => before
  | number + 1 =>
    match (attempt transactions work).run.run (started number), policy.backoff? number with
    | (.error (.error error), after), some delay => after.resumed policy number error delay
    | (_, after), _ => after

/-- The attempt with the given number: what it comes to, and the situation after it. -/
def trial (number : Nat) : Except Stop α × Situation σ :=
  (attempt transactions work).run.run (started transactions policy work before number)

/-- The number of the first attempt that is not worth another, or of the last one there is. -/
def decisive : Nat :=
  ((List.range (policy.maxAttempts - 1)).find? fun number =>
    !worthAnother (trial transactions policy work before number).1).getD (policy.maxAttempts - 1)

end

variable {transactions : Transactions σ} {policy : Policy} {work : Run σ α} {before : Situation σ}

theorem decisive_lt : decisive transactions policy work before < policy.maxAttempts := by
  have atLeastOne := policy.atLeastOne
  unfold decisive
  cases found : (List.range (policy.maxAttempts - 1)).find? _ with
  | none =>
      rw [Option.getD_none]
      omega
  | some number =>
      have within := List.mem_range.mp (List.mem_of_find?_eq_some found)
      rw [Option.getD_some]
      omega

theorem worthAnother_of_lt_decisive {number : Nat}
    (earlier : number < decisive transactions policy work before) :
    worthAnother (trial transactions policy work before number).1 = true := by
  have within : number < policy.maxAttempts - 1 := by
    have bounded : decisive transactions policy work before < policy.maxAttempts := decisive_lt
    omega
  cases found : (List.range (policy.maxAttempts - 1)).find? fun number =>
      !worthAnother (trial transactions policy work before number).1 with
  | none =>
      rw [List.find?_eq_none] at found
      simpa using found number (List.mem_range.mpr within)
  | some first =>
      rw [decisive, found, Option.getD_some] at earlier
      rw [List.find?_range_eq_some] at found
      simpa using found.2.2 number earlier

theorem decisive_decides
    (another : worthAnother (trial transactions policy work before
      (decisive transactions policy work before)).1 = true) :
    decisive transactions policy work before + 1 = policy.maxAttempts := by
  have atLeastOne := policy.atLeastOne
  cases found : (List.range (policy.maxAttempts - 1)).find? fun number =>
      !worthAnother (trial transactions policy work before number).1 with
  | none =>
      rw [decisive, found, Option.getD_none]
      omega
  | some first =>
      have decides := List.find?_some found
      rw [decisive, found, Option.getD_some] at another
      rw [another] at decides
      cases decides

/-! ## The run -/

/-- A wait in an endless context runs to its end. -/
theorem backOff_endless {number : Nat} {error : StoreError} {delay : Duration}
    {situation : Situation σ} (endless : situation.IsEndless)
    (waits : policy.backoff? number = some delay) :
    Run.Ends (backOff policy number error) situation (.ok ())
      (situation.resumed policy number error delay) := by
  have unraced : situation.context.endsAt = none := endless
  apply Run.ends_of_ensures
  rw [backOff, waits]
  refine ensures_bind (Run.ensures_note ?_)
  refine ensures_get_bind ?_
  dsimp only
  rw [unraced]
  exact Run.ensures_perform ⟨rfl, rfl⟩

/-- An attempt that is not worth another ends the run, and so does the last one. -/
theorem attemptsFrom_decided {situation : Situation σ} {number remaining : Nat}
    (decides : worthAnother ((attempt transactions work).run.run situation).1 = true →
      remaining = 0) :
    Run.Ends (attemptsFrom transactions policy work number (remaining + 1)) situation
      (policy.verdict ((attempt transactions work).run.run situation).1)
      ((attempt transactions work).run.run situation).2 := by
  cases ended : (attempt transactions work).run.run situation with
  | mk result after =>
      rw [ended] at decides
      apply Run.ends_of_ensures
      rw [attemptsFrom]
      refine ensures_bind (Run.ensures_caught ((Run.ensures_ends _ situation).imp ?_))
      intro _ _ same
      cases ended.symm.trans same
      rcases result with (error | text) | value
      · dsimp only [Run.handed, Policy.verdict]
        cases retryable : error.retryable with
        | false => exact ensures_throw ⟨rfl, rfl⟩
        | true =>
            rw [if_neg (by decide), if_pos (decides retryable)]
            exact ensures_throw ⟨rfl, rfl⟩
      · exact ⟨rfl, rfl⟩
      · exact ensures_pure ⟨rfl, rfl⟩

/-- After any other attempt the run goes on with the next one when the wait is over. -/
theorem attemptsFrom_again {situation after : Situation σ} {number remaining : Nat}
    {error : StoreError} {delay : Duration}
    (failed : (attempt transactions work).Ends situation (.error (.error error)) after)
    (retryable : error.retryable = true) (waits : policy.backoff? number = some delay)
    (endless : after.IsEndless) :
    (attemptsFrom transactions policy work number (remaining + 2)).run.run situation =
      (attemptsFrom transactions policy work (number + 1) (remaining + 1)).run.run
        (after.resumed policy number error delay) := by
  apply Run.ends_of_ensures
  rw [attemptsFrom]
  refine ensures_bind (Run.ensures_caught ((Run.ensures_ends _ situation).imp ?_))
  intro _ _ same
  cases failed.symm.trans same
  dsimp only [Run.handed]
  rw [retryable, if_neg (by decide), if_neg (by omega)]
  refine ensures_bind ((Run.ensures_ends _ after).imp ?_)
  intro _ _ waited
  cases (backOff_endless endless waits).symm.trans waited
  exact ⟨rfl, rfl⟩

theorem isEndless_started (keeps : Preserves Situation.IsEndless (attempt transactions work))
    (endless : before.IsEndless) (number : Nat) :
    (started transactions policy work before number).IsEndless := by
  induction number with
  | zero => exact endless
  | succ number induction =>
      have kept := keeps _ induction
      rw [started]
      split
      next error after delay ended waits =>
        rw [Ensures, ended] at kept
        exact kept
      next after ended _ =>
        rw [Ensures, ended] at kept
        exact kept

/-- An attempt before the decisive one is followed by a warning and a wait. -/
theorem started_succ {number : Nat} (earlier : number < decisive transactions policy work before)
    (fits : (policy.backoff? number).isSome = true) :
    ∃ error delay after, trial transactions policy work before number = (.error (.error error), after) ∧
      error.retryable = true ∧ policy.backoff? number = some delay ∧
      started transactions policy work before (number + 1) =
        after.resumed policy number error delay := by
  have another := worthAnother_of_lt_decisive earlier
  rcases Option.isSome_iff_exists.mp fits with ⟨delay, waits⟩
  cases ended : trial transactions policy work before number with
  | mk result after =>
      rw [ended] at another
      rcases result with (error | text) | value
      · refine ⟨error, delay, after, rfl, another, waits, ?_⟩
        rw [trial] at ended
        rw [started, ended, waits]
      · cases another
      · cases another

/-- The run from any attempt up to the decisive one. The induction is on how many of them are left. -/
theorem attemptsFrom_reckoned (keeps : Preserves Situation.IsEndless (attempt transactions work))
    (endless : before.IsEndless)
    (fits : ∀ earlier < decisive transactions policy work before,
      (policy.backoff? earlier).isSome = true) (left number : Nat)
    (place : number + left = decisive transactions policy work before) :
    (attemptsFrom transactions policy work number (policy.maxAttempts - number)).Ends
      (started transactions policy work before number)
      (policy.verdict (trial transactions policy work before
        (decisive transactions policy work before)).1)
      (trial transactions policy work before (decisive transactions policy work before)).2 := by
  have bounded : decisive transactions policy work before < policy.maxAttempts := decisive_lt
  induction left generalizing number with
  | zero =>
      rw [Nat.add_zero] at place
      subst place
      rw [show policy.maxAttempts - decisive transactions policy work before =
        (policy.maxAttempts - decisive transactions policy work before - 1) + 1 by omega]
      apply attemptsFrom_decided
      intro another
      have last := decisive_decides another
      omega
  | succ left induction =>
      have earlier : number < decisive transactions policy work before := by omega
      rcases started_succ earlier (fits number earlier) with
        ⟨error, delay, after, ended, retryable, waits, next⟩
      have kept : Ensures (attempt transactions work)
          (started transactions policy work before number) fun _ after => after.IsEndless :=
        keeps _ (isEndless_started keeps endless number)
      rw [Ensures, show (attempt transactions work).run.run _ = _ from ended] at kept
      have budget : policy.maxAttempts - number = (policy.maxAttempts - (number + 1) - 1) + 2 := by
        omega
      have rest : policy.maxAttempts - (number + 1) - 1 + 1 = policy.maxAttempts - (number + 1) := by
        omega
      rw [Run.Ends, budget, attemptsFrom_again ended retryable waits kept, rest, ← next]
      exact induction (number + 1) (by omega)

theorem retryable_of_verdict {result : Except Stop α} {error : StoreError}
    (returned : policy.verdict result = .error (.error error)) : error.retryable = false := by
  rcases result with (last | text) | value
  · rw [Policy.verdict] at returned
    split at returned
    · cases returned
      rfl
    next final =>
      cases returned
      simpa using final
  · cases returned
  · cases returned

theorem spare_counting : Transactions.counting.Spare where
  opening _ _ := rfl
  committing
    | _, (0, _) => rfl
    | _, (_ + 1, _) => rfl
  rollingBack _ _ := rfl

end Retry

end LinkShortener
