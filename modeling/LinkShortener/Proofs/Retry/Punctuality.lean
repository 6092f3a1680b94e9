import LinkShortener.Proofs.Retry.Timeline

/-! # The end of a context in the course of a run

When the caller's context ends, no transaction is opened any more, and nothing but a rollback takes time.
What the end of the context interrupts shows in the result.
-/

namespace LinkShortener.Retry

variable {σ α β : Type} {transactions : Transactions σ} {policy : Policy} {work : Run σ α}

/-- From the first situation to the second there are these steps, which keep to the context. -/
structure Timed (transactions : Transactions σ) (before : Situation σ) (steps : List Step)
    (after : Situation σ) : Prop where
  context : after.context = before.context
  onward : before.now ≤ after.now
  /-- No transaction is opened when the context is over. -/
  openings : ∀ step ∈ steps, step.stage = .opening → before.context.check step.start = none
  /-- A rollback takes all the time that it needs. -/
  rollbacks : ∀ step ∈ steps, step.stage = .rollingBack → step.interruption? = none ∧
    ∃ store, step.finish = step.start + (transactions.rollingBack step.start store).duration
  /-- When the context ends, there is time for rollbacks only. -/
  inTime : ∀ moment, before.context.endsAt = some moment →
    after.now ≤ max before.now moment + rollbackTime steps

/-- In a context that is over from the start no time passes and the store is left alone, too. -/
structure Heeded (transactions : Transactions σ) (before : Situation σ) (steps : List Step)
    (after : Situation σ) : Prop extends Timed transactions before steps after where
  untouched : before.IsOver → (∀ step ∈ steps, step.stage = .waiting) ∧
    after.now = before.now ∧ after.store = before.store

theorem Situation.IsOver.later {before after : Situation σ} (isOver : before.IsOver)
    (context : after.context = before.context) (onward : before.now ≤ after.now) : after.IsOver := by
  rcases isOver with ⟨moment, ends, past⟩
  exact ⟨moment, context ▸ ends, Nat.le_trans past onward⟩

section

variable {before middle after : Situation σ} {first second steps : List Step}

namespace Timed

theorem nil (context : after.context = before.context) (now : after.now = before.now) :
    Timed transactions before [] after where
  context := context
  onward := Nat.le_of_eq now.symm
  openings := nofun
  rollbacks := nofun
  inTime moment _ := by
    rw [now]
    exact Nat.le_add_right_of_le (Nat.le_max_left _ _)

theorem append (timed : Timed transactions before first middle)
    (following : Timed transactions middle second after) :
    Timed transactions before (first ++ second) after where
  context := following.context.trans timed.context
  onward := Nat.le_trans timed.onward following.onward
  openings := by
    intro step member
    rcases List.mem_append.mp member with earlier | later
    · exact timed.openings step earlier
    · rw [← timed.context]
      exact following.openings step later
  rollbacks := by
    intro step member
    rcases List.mem_append.mp member with earlier | later
    · exact timed.rollbacks step earlier
    · exact following.rollbacks step later
  inTime := by
    intro moment ends
    have earlier := timed.inTime moment ends
    have later := following.inTime moment (timed.context ▸ ends)
    rw [rollbackTime_append]
    omega

/-- A step that races the end of the context. -/
theorem of_course {run : Run σ β} {result : Except Stop β} {stage : Stage}
    {interruption? : Option Interruption} (course : Course run before result after interruption?)
    (interruptible : stage ≠ .rollingBack)
    (inTime : stage = .opening → before.context.check before.now = none) :
    Timed transactions before [⟨stage, before.now, after.now, interruption?⟩] after where
  context := course.context_eq
  onward := course.onward
  openings := by
    rintro step member opening
    cases List.mem_singleton.mp member
    exact inTime opening
  rollbacks := by
    rintro step member rollback
    cases List.mem_singleton.mp member
    exact absurd rollback interruptible
  inTime moment ends := Nat.le_add_right_of_le (course.inTime ends)

theorem of_rollback (spare : transactions.Spare) {undone : Situation σ} {result : Except Stop Unit}
    (closed : (Run.perform transactions.rollingBack).Ends before result undone)
    (noted : after = { undone with log := after.log }) :
    Timed transactions before [⟨.rollingBack, before.now, after.now, none⟩] after := by
  have performed : Ensures (Run.perform transactions.rollingBack) before fun _ after =>
      after = before.completed (transactions.rollingBack before.now before.store) :=
    Run.ensures_perform rfl
  rw [Ensures, closed] at performed
  dsimp only at performed
  have context : after.context = before.context := by
    rw [noted, performed, Situation.completed, spare.rollingBack]
    rfl
  have time : after.now =
      before.now + (transactions.rollingBack before.now before.store).duration := by
    rw [noted, performed]
    rfl
  refine ⟨context, time ▸ Nat.le_add_right _ _, ?_, ?_, fun moment ends => ?_⟩
  · rintro step member opening
    cases List.mem_singleton.mp member
    cases opening
  · rintro step member -
    cases List.mem_singleton.mp member
    exact ⟨rfl, before.store, time⟩
  · have spent : rollbackTime [⟨.rollingBack, before.now, after.now, none⟩] =
        after.now - before.now := by
      simp [rollbackTime]
    rw [spent]
    omega

end Timed

theorem Heeded.nil (same : after = { before with log := after.log }) :
    Heeded transactions before [] after where
  toTimed := .nil (by rw [same]) (by rw [same])
  untouched _ := ⟨nofun, by rw [same], by rw [same]⟩

theorem Heeded.append (heeded : Heeded transactions before first middle)
    (following : Heeded transactions middle second after) :
    Heeded transactions before (first ++ second) after where
  toTimed := heeded.toTimed.append following.toTimed
  untouched := by
    intro isOver
    rcases heeded.untouched isOver with ⟨waits, now, store⟩
    rcases following.untouched (isOver.later heeded.context heeded.onward) with
      ⟨restWaits, restNow, restStore⟩
    refine ⟨fun step member => ?_, restNow.trans now, restStore.trans store⟩
    exact (List.mem_append.mp member).elim (waits step) (restWaits step)

/-- Nothing is done in a context that is over. -/
theorem Tried.of_isOver {result : Except Stop α} (isOver : before.IsOver)
    (tried : Tried transactions work before steps result after) : steps = [] ∧ after = before ∧
      ∃ interruption, result = .error (.error (.ofInterruption interruption)) ∧
        before.context.Allows before.now interruption := by
  have late := Situation.isOver_iff_check.mp isOver
  cases tried with
  | late interruption isOver => exact ⟨rfl, rfl, interruption, rfl, Context.allows_of_check isOver⟩
  | unopened inTime => exact absurd inTime late
  | committed inTime => exact absurd inTime late
  | rolledBack inTime => exact absurd inTime late

theorem Tried.heeded (spare : transactions.Spare) {result : Except Stop α}
    (tried : Tried transactions work before steps result after) :
    Heeded transactions before steps after := by
  refine ⟨?_, fun isOver => ?_⟩
  · cases tried with
    | late => exact .nil rfl rfl
    | unopened inTime began => exact .of_course began.course (by decide) fun _ => inTime
    | @committed _ _ opened worked _ interruption? inTime began succeeded closed =>
        have opens : Timed transactions before [⟨.opening, _, _, none⟩] opened :=
          .of_course began.course (by decide) fun _ => inTime
        have works : Timed transactions opened [⟨.working, _, _, none⟩] worked :=
          .of_course succeeded.course (by decide) nofun
        have commits : Timed transactions worked [⟨.committing, _, _, interruption?⟩] after :=
          .of_course closed.course (by decide) nofun
        exact (opens.append works).append commits
    | @rolledBack _ _ opened worked _ _ interruption? inTime began failed closed noted =>
        have opens : Timed transactions before [⟨.opening, _, _, none⟩] opened :=
          .of_course began.course (by decide) fun _ => inTime
        have works : Timed transactions opened [⟨.working, _, _, interruption?⟩] worked :=
          .of_course failed.course (by decide) nofun
        exact (opens.append works).append (.of_rollback spare closed noted)
  · rcases tried.of_isOver isOver with ⟨rfl, rfl, -⟩
    exact ⟨nofun, rfl, rfl⟩

theorem Heeded.of_sleep {delay : Duration} {number : Nat} {error : StoreError}
    {result : Except Stop Unit} {interruption? : Option Interruption}
    (waited : Raced (Run.sleep delay) (before.warned policy number delay error) result after
      interruption?) :
    Heeded transactions before [⟨.waiting, before.now, after.now, interruption?⟩] after := by
  have timed : Timed transactions (before.warned policy number delay error)
      [⟨.waiting, before.now, after.now, interruption?⟩] after :=
    .of_course waited.course (by decide) nofun
  have kept : (Run.sleep delay : Run σ Unit).Leads before.store fun _ store => store = before.store :=
    Run.leads_race (fun _ => rfl) (fun _ _ => rfl) fun _ => rfl
  have store : after.store = before.store := by
    have left := kept (before.warned policy number delay error) rfl
    rw [Ensures, waited.ran] at left
    exact left
  refine ⟨{ timed with }, fun ⟨moment, ends, past⟩ => ⟨fun step member => ?_, ?_, store⟩⟩
  · cases List.mem_singleton.mp member
    rfl
  · have inTime : after.now ≤ max before.now moment := waited.course.inTime ends
    have onward : before.now ≤ after.now := waited.course.onward
    omega

theorem Timeline.heeded (spare : transactions.Spare) {number more : Nat} {result : Except Stop α}
    (timeline : Timeline transactions policy work number more before steps result after) :
    Heeded transactions before steps after := by
  induction timeline with
  | ended tried => exact tried.heeded spare
  | exhausted tried => exact tried.heeded spare
  | interrupted tried _ _ waited => exact (tried.heeded spare).append (.of_sleep waited)
  | again tried _ _ waited _ induction =>
      exact (tried.heeded spare).append (Heeded.append (.of_sleep waited) induction)

theorem Tried.stage_ne_waiting {result : Except Stop α}
    (tried : Tried transactions work before steps result after) {step : Step}
    (member : step ∈ steps) : step.stage ≠ .waiting := by
  cases tried with
  | late => cases member
  | unopened =>
      cases List.mem_singleton.mp member
      nofun
  | committed | rolledBack =>
      simp only [List.mem_cons, List.not_mem_nil, or_false] at member
      rcases member with rfl | rfl | rfl <;> nofun

/-! ## Interruptions -/

/-- The result tells that the caller no longer waits. If its deadline was not past at the time, it tells
that the caller has cancelled. -/
def Tells (context : Context) (time : Nat) (result : Except Stop α) : Prop :=
  ∃ error, result = .error (.error error) ∧
    (error.kind = .cancelled ∨ error.kind = .deadlineExceeded) ∧
    (context.isPastDeadlineAt time = false → error = .cancelled)

theorem tells_ofInterruption {context : Context} {time : Nat} {interruption : Interruption}
    (allowed : context.Allows time interruption) :
    Tells context time (.error (.error (.ofInterruption interruption)) : Except Stop α) := by
  cases interruption with
  | cancelled => exact ⟨_, rfl, .inl rfl, fun _ => rfl⟩
  | deadlinePassed => exact ⟨_, rfl, .inr rfl, fun early => by cases allowed.symm.trans early⟩

/-- After an interruption that is worth another attempt any such error will do. -/
theorem tells_of_retryable {context : Context} {time : Nat} {interruption : Interruption}
    {result : Except Stop α} {error : StoreError} (allowed : context.Allows time interruption)
    (retryable : (StoreError.ofInterruption interruption).retryable = true)
    (ended : result = .error (.error error))
    (kind : error.kind = .cancelled ∨ error.kind = .deadlineExceeded) :
    Tells context time result := by
  cases interruption with
  | cancelled => cases retryable
  | deadlinePassed => exact ⟨error, ended, kind, fun early => by cases allowed.symm.trans early⟩

theorem kind_ofInterruption (interruption : Interruption) :
    (StoreError.ofInterruption interruption).kind = .cancelled ∨
      (StoreError.ofInterruption interruption).kind = .deadlineExceeded := by
  cases interruption
  · exact .inl rfl
  · exact .inr rfl

/-- What interrupts an attempt is the error that it fails with. -/
theorem Tried.of_interrupted (spare : transactions.Spare) {result : Except Stop α}
    (tried : Tried transactions work before steps result after) {step : Step} (member : step ∈ steps)
    {interruption : Interruption} (interrupted : step.interruption? = some interruption) :
    result = .error (.error (.ofInterruption interruption)) ∧ after.IsOver ∧
      before.context.Allows step.finish interruption := by
  have timed := (tried.heeded spare).toTimed
  cases tried with
  | late => cases member
  | unopened inTime began =>
      cases List.mem_singleton.mp member
      cases interrupted
      rcases began.course.of_interrupted with ⟨ended, isOver, allowed⟩
      exact ⟨by cases ended; rfl, isOver, timed.context ▸ allowed⟩
  | @committed _ report _ _ _ _ inTime began succeeded closed =>
      simp only [List.mem_cons, List.not_mem_nil, or_false] at member
      rcases member with rfl | rfl | rfl
      · cases interrupted
      · cases interrupted
      · cases interrupted
        rcases closed.course.of_interrupted with ⟨ended, isOver, allowed⟩
        have failed : report = .error (.ofInterruption interruption) := by
          cases report <;> cases ended
          rfl
        rw [failed]
        exact ⟨rfl, isOver, timed.context ▸ allowed⟩
  | rolledBack inTime began failed closed noted =>
      simp only [List.mem_cons, List.not_mem_nil, or_false] at member
      rcases member with rfl | rfl | rfl
      · cases interrupted
      · cases interrupted
        rcases failed.course.of_interrupted with ⟨ended, isOver, allowed⟩
        cases ended
        have undone := Timed.of_rollback spare closed noted
        have context := failed.course.context_eq.trans began.course.context_eq
        exact ⟨rfl, isOver.later undone.context undone.onward, context ▸ allowed⟩
      · cases interrupted

/-- In a context that is over a run ends with an interruption. -/
theorem Timeline.of_isOver {number more : Nat} {result : Except Stop α}
    (timeline : Timeline transactions policy work number more before steps result after)
    (isOver : before.IsOver) : Tells before.context before.now result := by
  induction timeline with
  | ended tried =>
      rcases tried.of_isOver isOver with ⟨-, -, interruption, ended, allowed⟩
      rw [ended]
      exact tells_ofInterruption allowed
  | exhausted tried retryable =>
      rcases tried.of_isOver isOver with ⟨-, -, interruption, ended, allowed⟩
      cases ended
      exact tells_of_retryable allowed retryable rfl (.inr rfl)
  | interrupted tried retryable =>
      rcases tried.of_isOver isOver with ⟨-, -, interruption, ended, allowed⟩
      cases ended
      exact tells_of_retryable allowed retryable rfl (kind_ofInterruption _)
  | again tried retryable _ waited _ induction =>
      rcases tried.of_isOver isOver with ⟨-, rfl, interruption, ended, allowed⟩
      cases ended
      rcases induction (isOver.later waited.course.context_eq waited.course.onward) with
        ⟨error, ended, kind, -⟩
      exact tells_of_retryable allowed retryable ended kind

/-- What interrupts a step shows in the result of the run. -/
theorem Timeline.of_interrupted (spare : transactions.Spare) {number more : Nat}
    {result : Except Stop α}
    (timeline : Timeline transactions policy work number more before steps result after)
    {step : Step} (member : step ∈ steps) (interrupted : step.interruption? ≠ none) :
    Tells before.context step.finish result := by
  rcases Option.ne_none_iff_exists'.mp interrupted with ⟨interruption, interrupted⟩
  induction timeline with
  | ended tried =>
      rcases tried.of_interrupted spare member interrupted with ⟨ended, -, allowed⟩
      rw [ended]
      exact tells_ofInterruption allowed
  | exhausted tried retryable =>
      rcases tried.of_interrupted spare member interrupted with ⟨ended, -, allowed⟩
      cases ended
      exact tells_of_retryable allowed retryable rfl (.inr rfl)
  | interrupted tried retryable waits waited =>
      rcases List.mem_append.mp member with earlier | last
      · rcases tried.of_interrupted spare earlier interrupted with ⟨ended, -, allowed⟩
        cases ended
        exact tells_of_retryable allowed retryable rfl (kind_ofInterruption _)
      · cases List.mem_singleton.mp last
        have context := waited.course.context_eq.trans (tried.heeded spare).context
        exact tells_ofInterruption (context ▸ waited.course.of_interrupted.2.2)
  | again tried retryable waits waited following induction =>
      rcases List.mem_append.mp member with earlier | later
      · rcases tried.of_interrupted spare earlier interrupted with ⟨ended, isOver, allowed⟩
        cases ended
        rcases following.of_isOver (isOver.later waited.course.context_eq waited.course.onward) with
          ⟨error, ended, kind, -⟩
        exact tells_of_retryable allowed retryable ended kind
      · have context := waited.course.context_eq.trans (tried.heeded spare).context
        rcases List.mem_cons.mp later with rfl | later
        · cases interrupted
        · exact context ▸ induction later

/-- So does the end of the context during a wait, even if the wait ends at the same moment. -/
theorem Timeline.of_waited (spare : transactions.Spare) {number more : Nat} {result : Except Stop α}
    (timeline : Timeline transactions policy work number more before steps result after)
    {step : Step} (member : step ∈ steps) (waits : step.stage = .waiting)
    (isOver : before.context.check step.finish ≠ none) : Tells before.context step.finish result := by
  induction timeline with
  | ended tried => exact absurd waits (tried.stage_ne_waiting member)
  | exhausted tried => exact absurd waits (tried.stage_ne_waiting member)
  | interrupted tried retryable delays waited =>
      rcases List.mem_append.mp member with earlier | last
      · exact absurd waits (tried.stage_ne_waiting earlier)
      · cases List.mem_singleton.mp last
        have context := waited.course.context_eq.trans (tried.heeded spare).context
        exact tells_ofInterruption (context ▸ waited.course.of_interrupted.2.2)
  | again tried retryable delays waited following induction =>
      have context := waited.course.context_eq.trans (tried.heeded spare).context
      rcases List.mem_append.mp member with earlier | later
      · exact absurd waits (tried.stage_ne_waiting earlier)
      · rcases List.mem_cons.mp later with rfl | later
        · rw [← context] at isOver ⊢
          exact following.of_isOver (Situation.isOver_iff_check.mpr isOver)
        · rw [← context] at isOver ⊢
          exact induction later isOver

end

end LinkShortener.Retry
