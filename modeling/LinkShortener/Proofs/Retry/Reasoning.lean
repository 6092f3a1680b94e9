import LinkShortener.Retry.Executor

/-! # Reasoning about computations with a state

A computation with errors and a state is one function of the state it starts in, so a property of
how it ends follows the steps it is made of. For computations on a store only the store is followed:
what a race leaves is either the completed or the abandoned call.
-/

namespace LinkShortener

variable {ε σ α β : Type}

/-- Started in the given state, a computation ends in a way that meets the goal. -/
def Ensures (run : ExceptT ε (StateM σ) α) (state : σ) (goal : Except ε α → σ → Prop) : Prop :=
  goal (run.run.run state).1 (run.run.run state).2

section

variable {state : σ} {goal : Except ε α → σ → Prop}

theorem Ensures.imp {run : ExceptT ε (StateM σ) α} {stronger : Except ε α → σ → Prop}
    (ensured : Ensures run state stronger)
    (weaken : ∀ result after, stronger result after → goal result after) :
    Ensures run state goal :=
  weaken _ _ ensured

theorem Ensures.and {run : ExceptT ε (StateM σ) α} {other : Except ε α → σ → Prop}
    (first : Ensures run state goal) (second : Ensures run state other) :
    Ensures run state fun result after => goal result after ∧ other result after :=
  ⟨first, second⟩

theorem Ensures.run_eq {run : ExceptT ε (StateM σ) α} {outcome : Except ε α × σ}
    (ensured : Ensures run state fun result after => (result, after) = outcome) :
    run.run.run state = outcome :=
  ensured

theorem ensures_run (run : ExceptT ε (StateM σ) α) (state : σ) :
    Ensures run state fun result after => (result, after) = run.run.run state :=
  rfl

theorem ensures_pure {value : α} (holds : goal (.ok value) state) :
    Ensures (pure value) state goal :=
  holds

theorem ensures_throw {error : ε} (holds : goal (.error error) state) :
    Ensures (throw error) state goal :=
  holds

theorem ensures_bind {run : ExceptT ε (StateM σ) β} {next : β → ExceptT ε (StateM σ) α}
    (ensured : Ensures run state fun result after =>
      match result with
      | .ok value => Ensures (next value) after goal
      | .error error => goal (.error error) after) : Ensures (run >>= next) state goal := by
  have stepped : (run >>= next).run.run state =
      (ExceptT.bindCont next (run.run.run state).1).run (run.run.run state).2 := rfl
  unfold Ensures at ensured ⊢
  rw [stepped]
  cases ran : run.run.run state with
  | mk result after =>
      rw [ran] at ensured
      cases result with
      | ok value => exact ensured
      | error error => exact ensured

theorem ensures_get_bind {next : σ → ExceptT ε (StateM σ) α}
    (ensured : Ensures (next state) state goal) : Ensures (get >>= next) state goal :=
  ensured

theorem ensures_set_bind {after : σ} {next : PUnit → ExceptT ε (StateM σ) α}
    (ensured : Ensures (next ⟨⟩) after goal) : Ensures (set after >>= next) state goal :=
  ensured

theorem ensures_modify_bind {change : σ → σ} {next : PUnit → ExceptT ε (StateM σ) α}
    (ensured : Ensures (next ⟨⟩) (change state) goal) :
    Ensures (modify change >>= next) state goal :=
  ensured

end

/-- What holds of the state before a computation holds of the state after it. -/
def Preserves (holds : σ → Prop) (run : ExceptT ε (StateM σ) α) : Prop :=
  ∀ state, holds state → Ensures run state fun _ after => holds after

section

variable {holds : σ → Prop}

theorem preserves_pure (value : α) : Preserves holds (pure value : ExceptT ε (StateM σ) α) :=
  fun _ before => ensures_pure before

theorem preserves_throw (error : ε) : Preserves holds (throw error : ExceptT ε (StateM σ) α) :=
  fun _ before => ensures_throw before

theorem Preserves.bind {run : ExceptT ε (StateM σ) β} {next : β → ExceptT ε (StateM σ) α}
    (preserves : Preserves holds run) (following : ∀ value, Preserves holds (next value)) :
    Preserves holds (run >>= next) := by
  intro state before
  refine ensures_bind ((preserves state before).imp fun result after middle => ?_)
  cases result with
  | ok value => exact following value after middle
  | error error => exact middle

/-- A goal is met step by step, except where a state is left that no later step mends. -/
theorem ensures_bind_unless {state : σ} {goal : Except ε α → σ → Prop}
    {run : ExceptT ε (StateM σ) β} {next : β → ExceptT ε (StateM σ) α}
    (ensured : Ensures run state fun result after => holds after ∨
      match result with
      | .ok value => Ensures (next value) after fun result after => holds after ∨ goal result after
      | .error error => goal (.error error) after)
    (preserves : ∀ value, Preserves holds (next value)) :
    Ensures (run >>= next) state fun result after => holds after ∨ goal result after := by
  refine ensures_bind (ensured.imp fun result after ended => ?_)
  cases result with
  | ok value =>
      rcases ended with lost | continued
      · exact (preserves value after lost).imp fun _ _ => .inl
      · exact continued
  | error error => exact ended

end

namespace Retry

namespace Situation

def IsOver (situation : Situation σ) : Prop :=
  ∃ moment, situation.context.endsAt = some moment ∧ moment ≤ situation.now

def completed (situation : Situation σ) (call : Call σ α) : Situation σ :=
  { situation with
    store := call.completed
    now := situation.now + call.duration
    context :=
      if call.cancels then situation.context.cancelBy (situation.now + call.duration)
      else situation.context }

end Situation

namespace Run

variable {situation : Situation σ} {goal : Except Stop α → Situation σ → Prop}

/-- A result as the caller that catches errors sees it. -/
def handed : Except Stop α → Except Stop (Except StoreError α)
  | .ok value => .ok (.ok value)
  | .error (.error error) => .ok (.error error)
  | .error (.crash text) => .error (.crash text)

theorem ensures_caught {goal : Except Stop (Except StoreError α) → Situation σ → Prop}
    {run : Run σ α}
    (ensured : Ensures run situation fun result after => goal (handed result) after) :
    Ensures (caught run) situation goal := by
  unfold Ensures at ensured ⊢
  cases ran : run.run.run situation with
  | mk result after =>
      rw [ran] at ensured
      have stepped : (caught run).run.run situation = (handed result, after) := by
        simp only [caught, ExceptT.run_mk, StateT.run_bind, ran]
        rcases result with (error | text) | value <;> rfl
      rw [stepped]
      exact ensured

theorem ensures_note {goal : Except Stop Unit → Situation σ → Prop} {event : Event}
    (holds : goal (.ok ()) { situation with log := situation.log ++ [event] }) :
    Ensures (note event) situation goal :=
  holds

theorem ensures_settle {goal : Except Stop Bool → Situation σ → Prop}
    (holds : ∀ tie ties, goal (.ok tie) { situation with ties }) :
    Ensures settle situation goal := by
  apply ensures_get_bind
  cases listed : situation.ties with
  | nil =>
      have same : situation = { situation with ties := [] } := by rw [← listed]
      have settled := holds true []
      rw [← same] at settled
      exact settled
  | cons tie rest => exact holds tie rest

theorem ensures_perform {call : Nat → σ → Call σ α}
    (holds : goal (call situation.now situation.store).outcome
      (situation.completed (call situation.now situation.store))) :
    Ensures (perform call) situation goal := by
  refine ensures_get_bind (ensures_set_bind ?_)
  cases ended : (call situation.now situation.store).outcome with
  | ok value =>
      rw [ended] at holds
      exact holds
  | error stop =>
      rw [ended] at holds
      exact holds

theorem ensures_interrupt {time : Nat} {store : σ}
    (holds : ∀ interruption ties, goal (.error (.error (.ofInterruption interruption)))
      { situation with store, now := time, ties }) :
    Ensures (interrupt time store) situation goal := by
  refine ensures_modify_bind (ensures_get_bind ?_)
  dsimp only
  split
  · refine ensures_bind (ensures_settle ?_)
    intro tie ties
    exact holds _ ties
  · exact holds _ situation.ties

/-- A race completes the call, unless the context ends it. -/
theorem ensures_race {call : Nat → σ → Call σ α}
    (won : ∀ ties, goal (call situation.now situation.store).outcome
      { situation.completed (call situation.now situation.store) with ties })
    (lost : ∀ interruption after, after.IsOver → after.context = situation.context →
      after.store = situation.store ∨
        after.store = (call situation.now situation.store).abandoned →
      goal (.error (.error (.ofInterruption interruption))) after) :
    Ensures (race call) situation goal := by
  apply ensures_get_bind
  dsimp only
  split
  next endless => exact ensures_perform (won situation.ties)
  next moment ends =>
    split
    next late =>
      refine ensures_bind (ensures_settle ?_)
      intro tie ties
      cases tie with
      | true =>
          dsimp only
          rw [if_pos rfl]
          split
          next instant => exact ensures_perform (won ties)
          next lasting =>
            refine ensures_interrupt fun interruption ties => ?_
            exact lost interruption _ ⟨moment, ends, late⟩ rfl (.inr rfl)
      | false =>
          refine ensures_interrupt fun interruption ties => ?_
          exact lost interruption _ ⟨moment, ends, late⟩ rfl (.inl rfl)
    next before =>
      split
      next first => exact ensures_perform (won situation.ties)
      next late =>
        split
        next interrupted =>
          refine ensures_interrupt fun interruption ties => ?_
          exact lost interruption _ ⟨moment, ends, Nat.le_refl _⟩ rfl (.inr rfl)
        next together =>
          refine ensures_bind (ensures_settle ?_)
          intro tie ties
          cases tie with
          | true => exact ensures_perform (won ties)
          | false =>
              refine ensures_interrupt fun interruption ties => ?_
              exact lost interruption _ ⟨moment, ends, Nat.le_refl _⟩ rfl (.inr rfl)

/-! ## Following the store alone -/

/-- Whatever the rest of the situation, a computation on a store ends in a way that meets the
goal. -/
def Leads (run : Run σ α) (store : σ) (goal : Except Stop α → σ → Prop) : Prop :=
  ∀ situation : Situation σ, situation.store = store →
    Ensures run situation fun result after => goal result after.store

variable {store : σ} {goal : Except Stop α → σ → Prop}

theorem Leads.imp {run : Run σ α} {stronger : Except Stop α → σ → Prop}
    (leads : run.Leads store stronger)
    (weaken : ∀ result after, stronger result after → goal result after) :
    run.Leads store goal :=
  fun situation same => (leads situation same).imp fun result after => weaken result after.store

theorem Leads.and {run : Run σ α} {other : Except Stop α → σ → Prop}
    (first : run.Leads store goal) (second : run.Leads store other) :
    run.Leads store fun result after => goal result after ∧ other result after :=
  fun situation same => (first situation same).and (second situation same)

theorem leads_pure {value : α} (holds : goal (.ok value) store) :
    Leads (pure value : Run σ α) store goal := by
  intro situation same
  subst same
  exact holds

theorem leads_throw {stop : Stop} (holds : goal (.error stop) store) :
    Leads (throw stop : Run σ α) store goal := by
  intro situation same
  subst same
  exact holds

theorem leads_bind {run : Run σ β} {next : β → Run σ α}
    (leads : run.Leads store fun result after =>
      match result with
      | .ok value => (next value).Leads after goal
      | .error stop => goal (.error stop) after) : Leads (run >>= next) store goal := by
  intro situation same
  refine ensures_bind ((leads situation same).imp fun result after continued => ?_)
  cases result with
  | ok value => exact continued after rfl
  | error stop => exact continued

theorem leads_note {goal : Except Stop Unit → σ → Prop} {event : Event}
    (holds : goal (.ok ()) store) : Leads (note event) store goal := by
  intro situation same
  subst same
  exact holds

theorem leads_caught {goal : Except Stop (Except StoreError α) → σ → Prop} {run : Run σ α}
    (leads : run.Leads store fun result after => goal (handed result) after) :
    Leads (caught run) store goal :=
  fun situation same => ensures_caught (leads situation same)

theorem leads_perform {call : Nat → σ → Call σ α}
    (holds : ∀ now, goal (call now store).outcome (call now store).completed) :
    Leads (perform call) store goal := by
  intro situation same
  subst same
  exact ensures_perform (holds situation.now)

theorem leads_race {call : Nat → σ → Call σ α}
    (won : ∀ now, goal (call now store).outcome (call now store).completed)
    (lost : ∀ error now, goal (.error (.error error)) (call now store).abandoned)
    (ignored : ∀ error, goal (.error (.error error)) store) : Leads (race call) store goal := by
  intro situation same
  subst same
  apply ensures_race (fun _ => won situation.now)
  intro interruption after late kept left
  rcases left with left | left
  · rw [left]
    exact ignored _
  · rw [left]
    exact lost _ situation.now

theorem leads_checkContext {goal : Except Stop Unit → σ → Prop} (goes : goal (.ok ()) store)
    (stops : ∀ error, goal (.error (.error error)) store) : Leads checkContext store goal := by
  intro situation same
  subst same
  apply ensures_get_bind
  split
  · exact stops _
  · exact goes

end Run

/-! ## Retried work -/

variable {transactions : Transactions σ} {policy : Policy} {work : Run σ α} {store : σ}
  {goal : Except Stop α → σ → Prop}

theorem leads_backOff {goal : Except Stop Unit → σ → Prop} {number : Nat} {error : StoreError}
    (holds : ∀ result, goal result store) :
    Run.Leads (backOff policy number error) store goal := by
  unfold backOff
  split
  · exact Run.leads_throw (holds _)
  · refine Run.leads_bind (Run.leads_note ?_)
    exact Run.leads_race (fun _ => holds _) (fun _ _ => holds _) (fun _ => holds _)

/-- What every failed attempt preserves holds where no attempt succeeds. -/
theorem leads_attemptsFrom (invariant : σ → Prop)
    (attempted : ∀ store, invariant store →
      (attempt transactions work).Leads store fun result after =>
        match result with
        | .ok value => goal (.ok value) after
        | .error _ => invariant after)
    (failed : ∀ stop store, invariant store → goal (.error stop) store) (remaining number : Nat)
    (holds : invariant store) :
    (attemptsFrom transactions policy work number remaining).Leads store goal := by
  induction remaining generalizing number store with
  | zero => exact Run.leads_throw (failed _ _ holds)
  | succ remaining induction =>
      unfold attemptsFrom
      refine Run.leads_bind (Run.leads_caught ((attempted store holds).imp ?_))
      intro result after ended
      rcases result with (error | text) | value
      · dsimp only [Run.handed]
        split
        · exact Run.leads_throw (failed _ _ ended)
        · split
          · exact Run.leads_throw (failed _ _ ended)
          · refine Run.leads_bind (leads_backOff fun waited => ?_)
            cases waited with
            | ok value => exact induction (number + 1) ended
            | error stop => exact failed _ _ ended
      · exact failed _ _ ended
      · exact Run.leads_pure ended

end Retry

end LinkShortener
