import LinkShortener.Proofs.Retry.Discipline

/-! # Races against the end of a context

A computation whose calls race the end of the caller's context either comes to what it comes to for a
caller who never stops waiting, or is interrupted at the moment the context ends.
-/

namespace LinkShortener.Retry

variable {σ α β : Type}

/-- At this time, this is a reason why the context is over. -/
def Context.Allows (context : Context) (now : Nat) : Interruption → Prop
  | .cancelled => context.isCancelledAt now = true
  | .deadlinePassed => context.isPastDeadlineAt now = true

theorem Context.allows_of_check {context : Context} {now : Nat} {interruption : Interruption}
    (ended : context.check now = some interruption) : context.Allows now interruption := by
  unfold check at ended
  split at ended
  next cancelled =>
    cases ended
    exact cancelled
  · split at ended
    next past =>
      cases ended
      exact past
    · cases ended

/-- The caller as one who never stops waiting. -/
def Situation.unbounded (situation : Situation σ) : Situation σ :=
  { situation with context := .background, ties := [] }

theorem Situation.allows_reason {situation : Situation σ} (isOver : situation.IsOver) (tie : Bool) :
    situation.context.Allows situation.now (situation.context.reason situation.now tie) := by
  have reasons := Situation.isOver_iff.mp isOver
  unfold Context.reason
  cases cancelled : situation.context.isCancelledAt situation.now with
  | false => exact reasons.resolve_left (by rw [cancelled]; decide)
  | true =>
      cases past : situation.context.isPastDeadlineAt situation.now with
      | false => cases tie <;> exact cancelled
      | true => cases tie <;> assumption

/-- How a computation goes whose calls race the end of the context. Either it comes to what it comes to
for a caller who never stops waiting, and does so before the context ends or at once, or the end of the
context interrupts it. -/
inductive Course (run : Run σ α) (before : Situation σ) :
    Except Stop α → Situation σ → Option Interruption → Prop where
  | finished {result : Except Stop α} {after : Situation σ}
      (ended : run.Ends before.unbounded result after.unbounded)
      (context : after.context = before.context) (onward : before.now ≤ after.now)
      (inTime : ∀ moment, before.context.endsAt = some moment → after.now ≤ max before.now moment) :
      Course run before result after none
  | interrupted {after : Situation σ} {moment : Nat} (interruption : Interruption)
      (ends : before.context.endsAt = some moment) (context : after.context = before.context)
      (time : after.now = max before.now moment)
      (allowed : after.context.Allows after.now interruption) :
      Course run before (.error (.error (.ofInterruption interruption))) after (some interruption)

/-- A computation that ends so goes this way. -/
structure Raced (run : Run σ α) (before : Situation σ) (result : Except Stop α) (after : Situation σ)
    (interruption? : Option Interruption) : Prop where
  ran : run.Ends before result after
  course : Course run before result after interruption?

/-- Whatever a computation does, it does in a race against the end of the context. -/
def Run.Heeds (run : Run σ α) : Prop :=
  ∀ before, Ensures run before fun result after =>
    ∃ interruption?, Course run before result after interruption?

namespace Course

variable {run : Run σ α} {before after : Situation σ} {result : Except Stop α}
  {interruption? : Option Interruption}

theorem context_eq (course : Course run before result after interruption?) :
    after.context = before.context := by
  cases course <;> assumption

theorem inTime (course : Course run before result after interruption?) {moment : Nat}
    (ends : before.context.endsAt = some moment) : after.now ≤ max before.now moment := by
  cases course with
  | finished _ _ _ inTime => exact inTime moment ends
  | interrupted _ same _ time =>
      cases ends.symm.trans same
      exact Nat.le_of_eq time

theorem onward (course : Course run before result after interruption?) : before.now ≤ after.now := by
  cases course with
  | finished _ _ onward _ => exact onward
  | interrupted _ _ _ time =>
      rw [time]
      exact Nat.le_max_left _ _

theorem uninterrupted_of_ok {value : α} (course : Course run before (.ok value) after interruption?) :
    interruption? = none := by
  cases course
  rfl

/-- What interrupts a computation is the error that it ends with, and the context is over then. -/
theorem of_interrupted {interruption : Interruption}
    (course : Course run before result after (some interruption)) :
    result = .error (.error (.ofInterruption interruption)) ∧ after.IsOver ∧
      after.context.Allows after.now interruption := by
  cases course with
  | interrupted _ ends context time allowed =>
      refine ⟨rfl, ⟨_, context ▸ ends, ?_⟩, allowed⟩
      rw [time]
      exact Nat.le_max_right _ _

end Course

namespace Run

theorem Heeds.raced {run : Run σ α} (heeds : run.Heeds) {before after : Situation σ}
    {result : Except Stop α} (ended : run.Ends before result after) :
    ∃ interruption?, Raced run before result after interruption? := by
  have course := heeds before
  unfold Ensures at course
  rw [ended] at course
  rcases course with ⟨interruption?, course⟩
  exact ⟨interruption?, ended, course⟩

theorem ends_race_unbounded {call : Nat → σ → Call σ α} (situation : Situation σ) :
    (race call).Ends situation.unbounded (call situation.now situation.store).outcome
      (situation.unbounded.completed (call situation.now situation.store)) := by
  apply ends_of_ensures
  refine ensures_get_bind ?_
  exact ensures_perform ⟨rfl, rfl⟩

theorem heeds_pure (value : α) : Heeds (pure value : Run σ α) := fun _ =>
  ensures_pure ⟨none, .finished rfl rfl (Nat.le_refl _) fun _ _ => Nat.le_max_left _ _⟩

theorem heeds_throw (stop : Stop) : Heeds (throw stop : Run σ α) := fun _ =>
  ensures_throw ⟨none, .finished rfl rfl (Nat.le_refl _) fun _ _ => Nat.le_max_left _ _⟩

theorem Heeds.bind {run : Run σ β} {next : β → Run σ α} (heeds : run.Heeds)
    (following : ∀ value, (next value).Heeds) : Heeds (run >>= next) := by
  intro before
  refine ensures_bind ((heeds before).imp ?_)
  rintro result between ⟨interruption?, course⟩
  cases course with
  | interrupted interruption ends context time allowed =>
      exact ⟨_, .interrupted interruption ends context time allowed⟩
  | finished ended context onward inTime =>
      cases result with
      | error stop =>
          have stopped : (run >>= next).Ends before.unbounded (.error stop) between.unbounded := by
            apply ends_of_ensures
            refine ensures_bind ((Run.ensures_ends run _).imp ?_)
            intro _ _ same
            cases ended.symm.trans same
            exact ⟨rfl, rfl⟩
          exact ⟨none, .finished stopped context onward inTime⟩
      | ok value =>
          apply (following value between).imp
          rintro result after ⟨interruption?, course⟩
          cases course with
          | finished endedNext contextNext onwardNext inTimeNext =>
              have continued : (run >>= next).Ends before.unbounded result after.unbounded := by
                apply ends_of_ensures
                refine ensures_bind ((Run.ensures_ends run _).imp ?_)
                intro _ _ same
                cases ended.symm.trans same
                exact ⟨congrArg Prod.fst endedNext, congrArg Prod.snd endedNext⟩
              refine ⟨none, .finished continued (contextNext.trans context)
                (Nat.le_trans onward onwardNext) fun moment ends => ?_⟩
              have first := inTime moment ends
              have second := inTimeNext moment (context ▸ ends)
              omega
          | @interrupted _ moment interruption ends contextNext time allowed =>
              have ends : before.context.endsAt = some moment := context ▸ ends
              refine ⟨_, .interrupted interruption ends (contextNext.trans context) ?_ allowed⟩
              have first := inTime moment ends
              omega

/-- The end of the context interrupts a race at this time, for a reason that there is then. -/
theorem ensures_interrupt_course {run : Run σ α} {before : Situation σ} {moment time : Nat}
    {store : σ} {ties : List Bool} (ends : before.context.endsAt = some moment)
    (latest : time = max before.now moment) :
    Ensures (interrupt time store : Run σ α) { before with ties } fun result after =>
      ∃ interruption?, Course run before result after interruption? := by
  have isOver : ∀ ties, Situation.IsOver { before with store, now := time, ties } := fun _ =>
    ⟨moment, ends, latest ▸ Nat.le_max_right _ _⟩
  refine ensures_modify_bind (ensures_get_bind ?_)
  dsimp only
  split
  · refine ensures_bind (ensures_settle fun tie ties => ?_)
    exact ensures_throw ⟨_, .interrupted _ ends rfl latest (Situation.allows_reason (isOver ties) tie)⟩
  · exact ensures_throw ⟨_, .interrupted _ ends rfl latest (Situation.allows_reason (isOver ties) true)⟩

theorem heeds_race {call : Nat → σ → Call σ α}
    (spares : ∀ now store, (call now store).cancels = false) : (race call).Heeds := by
  intro before
  -- The call that is completed before the context ends, or takes no time at all.
  have performed : ∀ ties, (∀ moment, before.context.endsAt = some moment →
      before.now + (call before.now before.store).duration ≤ max before.now moment) →
      Ensures (perform call) { before with ties } fun result after =>
        ∃ interruption?, Course (race call) before result after interruption? := by
    intro ties inTime
    have unbounded : ({ before with ties }.completed (call before.now before.store)).unbounded =
        before.unbounded.completed (call before.now before.store) := by
      simp [Situation.unbounded, Situation.completed, spares]
    apply ensures_perform
    refine ⟨none, .finished ?_ ?_ (Nat.le_add_right _ _) inTime⟩
    · dsimp only
      rw [unbounded]
      exact ends_race_unbounded before
    · simp [Situation.completed, spares]
  apply ensures_get_bind
  dsimp only
  split
  next endless =>
    exact performed before.ties fun moment ends => by rw [endless] at ends; cases ends
  next moment ends =>
    have only : ∀ other, before.context.endsAt = some other → other = moment := by
      intro other same
      cases ends.symm.trans same
      rfl
    split
    next late =>
      refine ensures_bind (ensures_settle fun tie ties => ?_)
      cases tie with
      | true =>
          dsimp only
          rw [if_pos rfl]
          split
          next instant => exact performed ties fun other _ => by omega
          next lasting => exact ensures_interrupt_course ends (Nat.max_eq_left late).symm
      | false => exact ensures_interrupt_course ends (Nat.max_eq_left late).symm
    next early =>
      have latest : moment = max before.now moment := by omega
      split
      next first =>
        refine performed before.ties fun other same => ?_
        rw [only other same]
        omega
      next last =>
        split
        next interrupted => exact ensures_interrupt_course ends latest
        next together =>
          refine ensures_bind (ensures_settle fun tie ties => ?_)
          cases tie with
          | true =>
              refine performed ties fun other same => ?_
              rw [only other same]
              omega
          | false => exact ensures_interrupt_course ends latest

end Run

end LinkShortener.Retry
