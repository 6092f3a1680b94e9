import LinkShortener.Retry.Policy

/-! # The schedule of waits

Each wait is twice as long as the one before it until the growth reaches the end of 32 bits, and the
random part stays below a quarter. For a first wait of a century or less no product is cut and no sum
is too long, so waits with random parts of any kind never get shorter while they double.
-/

namespace LinkShortener

theorem Duration.sum?_of_le {first second : Duration}
    (fits : first.nanoseconds + second.nanoseconds ≤ longest.nanoseconds) :
    first.sum? second = some ⟨first.nanoseconds + second.nanoseconds⟩ :=
  if_pos fits

namespace Retry

/-! ## Growth -/

namespace Policy

theorem growth_eq (attempt : Nat) : growth attempt = min (Nat.pow 2 attempt) 4294967295 := by
  unfold growth
  by_cases early : attempt ≤ 32
  · rw [Nat.min_eq_left early]
  · -- From here on both powers exceed the bound, whatever the attempt.
    have large : Nat.pow 2 32 ≤ Nat.pow 2 attempt := Nat.pow_le_pow_right (by decide) (by omega)
    have bound : 4294967295 ≤ Nat.pow 2 32 := by decide
    have late : 32 ≤ attempt := by omega
    rw [Nat.min_eq_right late, Nat.min_eq_right bound, Nat.min_eq_right (Nat.le_trans bound large)]

theorem growth_le (attempt : Nat) : growth attempt ≤ 4294967295 := Nat.min_le_right _ _

/-- While the growth doubles it gains more than a quarter, also where its last step is cut. -/
theorem growth_succ {attempt : Nat} (doubling : attempt ≤ 31) :
    5 * growth attempt ≤ 4 * growth (attempt + 1) := by
  have small : Nat.pow 2 attempt ≤ Nat.pow 2 31 := Nat.pow_le_pow_right (by decide) doubling
  have last : Nat.pow 2 31 = 2147483648 := by decide
  have double : Nat.pow 2 (attempt + 1) = Nat.pow 2 attempt * 2 := rfl
  rw [growth_eq, growth_eq, double]
  omega

/-! ## Waits after a short first one -/

variable {policy : Policy}

section

variable (short : policy.initialDelay.nanoseconds ≤ 36500 * 86400 * Duration.perSecond)

include short

theorem scaled_lt_longest (attempt : Nat) :
    5 * (policy.initialDelay.nanoseconds * growth attempt) < 4 * Duration.longest.nanoseconds := by
  have bounded := Nat.mul_le_mul short (growth_le attempt)
  simp only [Duration.longest, Duration.perSecond] at bounded ⊢
  omega

theorem nanoseconds_baseDelay (attempt : Nat) :
    (policy.baseDelay attempt).nanoseconds =
      policy.initialDelay.nanoseconds * growth attempt := by
  have fits := scaled_lt_longest short attempt
  exact Duration.nanoseconds_scaled (by omega)

theorem quarter_longer_lt_longest (attempt : Nat) :
    (policy.baseDelay attempt).nanoseconds + (policy.baseDelay attempt).nanoseconds / 4 <
      Duration.longest.nanoseconds := by
  have fits := scaled_lt_longest short attempt
  rw [← nanoseconds_baseDelay short attempt] at fits
  omega

/-- The random part is used if it is less than a quarter, and else there is none. -/
theorem exists_addition (attempt : Nat) : ∃ addition,
    policy.backoff? attempt = some ⟨(policy.baseDelay attempt).nanoseconds + addition⟩ ∧
      (addition = 0 ∨ addition < (policy.baseDelay attempt).nanoseconds / 4) := by
  have fits := quarter_longer_lt_longest short attempt
  unfold backoff?
  dsimp only
  split
  next small =>
    have below : (policy.jitter (policy.baseDelay attempt)).nanoseconds <
        (policy.baseDelay attempt).nanoseconds / 4 := small
    exact ⟨_, Duration.sum?_of_le (by omega), .inr below⟩
  · have alone : (policy.baseDelay attempt).nanoseconds + 0 ≤ Duration.longest.nanoseconds := by omega
    exact ⟨0, Duration.sum?_of_le alone, .inl rfl⟩

theorem backoff?_bounds {attempt : Nat} {wait : Duration}
    (waits : policy.backoff? attempt = some wait) :
    (policy.baseDelay attempt).nanoseconds ≤ wait.nanoseconds ∧
      wait.nanoseconds ≤
        (policy.baseDelay attempt).nanoseconds + (policy.baseDelay attempt).nanoseconds / 4 := by
  rcases exists_addition short attempt with ⟨addition, added, small⟩
  cases waits.symm.trans added
  constructor
  · exact Nat.le_add_right _ addition
  · dsimp only
    omega

/-- A wait is no longer than the next one without its random part. -/
theorem backoff?_le_baseDelay {attempt : Nat} (doubling : attempt ≤ 31) {wait : Duration}
    (waits : policy.backoff? attempt = some wait) :
    wait.nanoseconds ≤ (policy.baseDelay (attempt + 1)).nanoseconds := by
  have most := (backoff?_bounds short waits).2
  have grows := Nat.mul_le_mul_left policy.initialDelay.nanoseconds (growth_succ doubling)
  have base := nanoseconds_baseDelay short attempt
  have next := nanoseconds_baseDelay short (attempt + 1)
  rw [Nat.mul_left_comm, ← base, Nat.mul_left_comm, ← next] at grows
  omega

end

/-- There is a wait after every attempt, however many there are, where the first one takes no more
than a century. -/
theorem isSome_backoff? (number : Nat)
    (short : policy.initialDelay.nanoseconds ≤ 36500 * 86400 * Duration.perSecond) :
    (policy.backoff? number).isSome = true := by
  rcases exists_addition short number with ⟨addition, waits, -⟩
  rw [waits]
  rfl

end Policy

/-! ## Random parts -/

theorem Jitter.bound_le (delay : Duration) : bound delay ≤ delay.quarter.nanoseconds :=
  Nat.mod_le _ _

/-- A random part stays below the quarter even where its bound has lost the upper bits of it. -/
theorem Jitter.random_lt (number : Nat) (delay : Duration) :
    random number delay = .zero ∨
      (random number delay).nanoseconds < delay.quarter.nanoseconds := by
  unfold random
  split
  · exact .inl rfl
  next positive =>
    have below : number % bound delay < bound delay := Nat.mod_lt _ (Nat.pos_of_ne_zero positive)
    exact .inr (Nat.lt_of_lt_of_le below (bound_le delay))

/-- Of this quarter only eight nanoseconds fit in 64 bits. -/
example : (Jitter.random 13 ⟨4 * (18446744073709551616 + 8)⟩).nanoseconds = 5 := by decide

/-! ## The schedule -/

/-- The schedule of a policy whose first wait takes three billion seconds at most, and a part of a
second: no wait is cut and none overflows, each is the exact multiple of the first with less than a
quarter added, and while they double they never get shorter, from whatever sources their random parts
come. A random number adds less than a quarter to any wait. -/
theorem backoff_scheduled (policy : Policy) :
    (policy.initialDelay.seconds ≤ 3000000000 →
      (∀ attempt,
        let base := policy.baseDelay attempt
        base.nanoseconds = policy.initialDelay.nanoseconds * min (Nat.pow 2 attempt) 4294967295 ∧
        base.nanoseconds < Duration.longest.nanoseconds ∧
        ∃ wait, policy.backoff? attempt = some wait ∧
          wait.nanoseconds < Duration.longest.nanoseconds ∧
          base.nanoseconds ≤ wait.nanoseconds ∧
          (base.nanoseconds / 4 ≠ 0 →
            wait.nanoseconds < base.nanoseconds + base.nanoseconds / 4) ∧
          (base.nanoseconds / 4 = 0 → wait = base)) ∧
      ∀ (other : Jitter) (attempt : Nat) (wait next : Duration), attempt ≤ 31 →
        policy.backoff? attempt = some wait →
        ({ policy with jitter := other } : Policy).backoff? (attempt + 1) = some next →
        wait.nanoseconds ≤ next.nanoseconds) ∧
    ∀ number delay, Jitter.random number delay = .zero ∨
      (Jitter.random number delay).nanoseconds < delay.quarter.nanoseconds := by
  refine ⟨fun moderate => ?_, Jitter.random_lt⟩
  have short : policy.initialDelay.nanoseconds ≤ 36500 * 86400 * Duration.perSecond := by
    simp only [Duration.seconds, Duration.perSecond] at moderate ⊢
    omega
  constructor
  · intro attempt base
    have fits : base.nanoseconds + base.nanoseconds / 4 < Duration.longest.nanoseconds :=
      Policy.quarter_longer_lt_longest short attempt
    rcases Policy.exists_addition short attempt with ⟨addition, waits, small⟩
    refine ⟨?_, by omega, _, waits, ?_⟩
    · rw [← Policy.growth_eq]
      exact Policy.nanoseconds_baseDelay short attempt
    · change addition = 0 ∨ addition < base.nanoseconds / 4 at small
      refine ⟨?_, Nat.le_add_right _ addition, fun wide => ?_, fun narrow => ?_⟩
      · change base.nanoseconds + addition < _
        omega
      · change base.nanoseconds + addition < _
        omega
      · rw [show addition = 0 by omega]
        rfl
  · intro other attempt wait next doubling waits following
    have same : ({ policy with jitter := other } : Policy).initialDelay.nanoseconds ≤
        36500 * 86400 * Duration.perSecond := short
    have later : (policy.baseDelay (attempt + 1)).nanoseconds ≤ next.nanoseconds :=
      (Policy.backoff?_bounds same following).1
    exact Nat.le_trans (Policy.backoff?_le_baseDelay short doubling waits) later

/-- The first wait is as long as it may be, and seven seconds are added to the last wait but one that
doubles. -/
theorem backoff_scheduled_longest :
    let policy := Policy.ofAttempts 3 ⟨3000000000999999999⟩ (.fixed (.ofSeconds 7))
    policy.initialDelay.seconds ≤ 3000000000 ∧
    ∃ wait next, policy.backoff? 31 = some wait ∧
      ({ policy with jitter := .none } : Policy).backoff? 32 = some next ∧
      (policy.baseDelay 31).nanoseconds + 7000000000 = wait.nanoseconds ∧
      wait.nanoseconds < Duration.longest.nanoseconds ∧ wait.nanoseconds ≤ next.nanoseconds := by
  intro policy
  have moderate : policy.initialDelay.seconds ≤ 3000000000 := by decide
  rcases (backoff_scheduled policy).1 moderate with ⟨scheduled, grows⟩
  rcases scheduled 31 with ⟨-, -, wait, waits, short, -⟩
  rcases (backoff_scheduled { policy with jitter := .none }).1 moderate with ⟨following, -⟩
  rcases following 32 with ⟨-, -, next, nextWaits, -⟩
  have added : policy.backoff? 31 =
      some ⟨(policy.baseDelay 31).nanoseconds + 7000000000⟩ := by decide
  refine ⟨moderate, wait, next, waits, nextWaits, ?_, short, ?_⟩
  · cases waits.symm.trans added
    rfl
  · exact grows .none 31 wait next (Nat.le_refl 31) waits nextWaits

end Retry

end LinkShortener
