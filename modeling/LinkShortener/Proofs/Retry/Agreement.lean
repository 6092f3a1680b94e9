import LinkShortener.Proofs.Retry.Coupling

/-! # Runs side by side

The same computation on two states that differ in ways that it does not notice: it returns the same
from both, and the states after it are related again. A computation on a store also takes the same time
and the same turns on both.
-/

namespace LinkShortener

variable {ε σ α β : Type}

/-- Two computations return the same, and the goal relates what they return to both states after
them. -/
def Agree (first second : ExceptT ε (StateM σ) α) (state other : σ)
    (goal : Except ε α → σ → σ → Prop) : Prop :=
  Ensures first state fun result after =>
    Ensures second other fun otherResult otherAfter =>
      otherResult = result ∧ goal result after otherAfter

section

variable {state other : σ} {goal : Except ε α → σ → σ → Prop}

theorem Agree.imp {first second : ExceptT ε (StateM σ) α} {stronger : Except ε α → σ → σ → Prop}
    (agree : Agree first second state other stronger)
    (weaken : ∀ result after otherAfter, stronger result after otherAfter →
      goal result after otherAfter) : Agree first second state other goal :=
  ⟨agree.1, weaken _ _ _ agree.2⟩

theorem agree_pure {value : α} (holds : goal (.ok value) state other) :
    Agree (pure value) (pure value) state other goal :=
  ⟨rfl, holds⟩

theorem agree_throw {error : ε} (holds : goal (.error error) state other) :
    Agree (throw error) (throw error) state other goal :=
  ⟨rfl, holds⟩

theorem agree_bind {first second : ExceptT ε (StateM σ) β}
    {next otherNext : β → ExceptT ε (StateM σ) α}
    (agree : Agree first second state other fun result after otherAfter =>
      match result with
      | .ok value => Agree (next value) (otherNext value) after otherAfter goal
      | .error error => goal (.error error) after otherAfter) :
    Agree (first >>= next) (second >>= otherNext) state other goal := by
  apply couple_bind
  refine Couple.imp agree ?_
  rintro _ result after otherAfter ⟨rfl, continued⟩
  cases result with
  | ok value => exact continued
  | error error => exact ⟨rfl, continued⟩

theorem agree_get_bind {next otherNext : σ → ExceptT ε (StateM σ) α}
    (agree : Agree (next state) (otherNext other) state other goal) :
    Agree (get >>= next) (get >>= otherNext) state other goal :=
  agree

theorem agree_set_bind {after otherAfter : σ} {next otherNext : PUnit → ExceptT ε (StateM σ) α}
    (agree : Agree (next ⟨⟩) (otherNext ⟨⟩) after otherAfter goal) :
    Agree (set after >>= next) (set otherAfter >>= otherNext) state other goal :=
  agree

theorem agree_modify_bind {change otherChange : σ → σ}
    {next otherNext : PUnit → ExceptT ε (StateM σ) α}
    (agree : Agree (next ⟨⟩) (otherNext ⟨⟩) (change state) (otherChange other) goal) :
    Agree (modify change >>= next) (modify otherChange >>= otherNext) state other goal :=
  agree

end

/-- Where nothing may differ but the store, a computation returns the same. -/
theorem Retry.Run.Relates.agree {run : Run σ α} {relates : σ → σ → Prop} {first second : σ}
    (related : run.Relates .none relates first second) (situation : Situation σ) :
    Agree run run (situation.on first) (situation.on second) fun _ after other =>
      other = after.on other.store ∧ relates after.store other.store := by
  refine Couple.imp (related situation situation ⟨rfl, rfl, rfl, rfl⟩) ?_
  rintro result otherResult after ⟨store, now, context, ties, log⟩ ⟨⟨rfl, rfl, rfl, rfl⟩, alike, holds⟩
  exact ⟨Veil.results_none.mp alike, rfl, holds⟩

end LinkShortener
