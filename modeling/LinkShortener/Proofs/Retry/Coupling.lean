import LinkShortener.Proofs.Retry.Reasoning

/-! # Coupled runs

A computation on two states at once, with what relates the results and the states after it. Retried
work goes the same way on two stores whose errors look alike: it takes the same time and the same turns,
and its errors look alike again.
-/

namespace LinkShortener

variable {ε σ α β : Type}

/-- Two computations, and a goal that relates how they end. -/
def Couple (first second : ExceptT ε (StateM σ) α) (state other : σ)
    (goal : Except ε α → Except ε α → σ → σ → Prop) : Prop :=
  Ensures first state fun result after =>
    Ensures second other fun otherResult otherAfter => goal result otherResult after otherAfter

section

variable {state other : σ} {goal : Except ε α → Except ε α → σ → σ → Prop}

theorem Couple.imp {first second : ExceptT ε (StateM σ) α}
    {stronger : Except ε α → Except ε α → σ → σ → Prop}
    (couple : Couple first second state other stronger)
    (weaken : ∀ result otherResult after otherAfter, stronger result otherResult after otherAfter →
      goal result otherResult after otherAfter) : Couple first second state other goal :=
  weaken _ _ _ _ couple

theorem couple_pure {value otherValue : α} (holds : goal (.ok value) (.ok otherValue) state other) :
    Couple (pure value) (pure otherValue) state other goal :=
  holds

theorem couple_throw {error otherError : ε}
    (holds : goal (.error error) (.error otherError) state other) :
    Couple (throw error) (throw otherError) state other goal :=
  holds

/-- Coupled computations succeed together or fail together. -/
theorem couple_bind {first second : ExceptT ε (StateM σ) β}
    {next otherNext : β → ExceptT ε (StateM σ) α}
    (couple : Couple first second state other fun result otherResult after otherAfter =>
      match result, otherResult with
      | .ok value, .ok otherValue => Couple (next value) (otherNext otherValue) after otherAfter goal
      | .error error, .error otherError => goal (.error error) (.error otherError) after otherAfter
      | .ok _, .error _ => False
      | .error _, .ok _ => False) :
    Couple (first >>= next) (second >>= otherNext) state other goal := by
  apply ensures_bind
  apply Ensures.imp couple
  intro result after ended
  cases result with
  | ok value =>
      have continued : Ensures (second >>= otherNext) other fun otherResult otherAfter =>
          goal ((next value).run.run after).1 otherResult ((next value).run.run after).2
            otherAfter := by
        apply ensures_bind
        apply Ensures.imp ended
        intro otherResult otherAfter following
        cases otherResult with
        | ok otherValue => exact following
        | error otherError => exact following.elim
      exact continued
  | error error =>
      apply ensures_bind
      apply Ensures.imp ended
      intro otherResult otherAfter following
      cases otherResult with
      | ok otherValue => exact following.elim
      | error otherError => exact following

theorem couple_get_bind {next otherNext : σ → ExceptT ε (StateM σ) α}
    (couple : Couple (next state) (otherNext other) state other goal) :
    Couple (get >>= next) (get >>= otherNext) state other goal :=
  couple

theorem couple_set_bind {after otherAfter : σ} {next otherNext : PUnit → ExceptT ε (StateM σ) α}
    (couple : Couple (next ⟨⟩) (otherNext ⟨⟩) after otherAfter goal) :
    Couple (set after >>= next) (set otherAfter >>= otherNext) state other goal :=
  couple

theorem couple_modify_bind {change otherChange : σ → σ}
    {next otherNext : PUnit → ExceptT ε (StateM σ) α}
    (couple : Couple (next ⟨⟩) (otherNext ⟨⟩) (change state) (otherChange other) goal) :
    Couple (modify change >>= next) (modify otherChange >>= otherNext) state other goal :=
  couple

end

namespace Retry

def Situation.on (situation : Situation σ) (store : σ) : Situation σ := { situation with store }

/-! ## What looks alike -/

/-- Which errors of a store and which logs look alike. Nothing that decides about another attempt may
differ between such errors, and what is made of them looks alike as well. -/
structure Veil where
  errors : StoreError → StoreError → Prop
  logs : List Event → List Event → Prop
  same : ∀ error, errors error error
  retryable : ∀ {error other}, errors error other → other.retryable = error.retryable
  exhausted : ∀ {error other} attempts, errors error other →
    errors (.retriesExhausted attempts error) (.retriesExhausted attempts other)
  retrying : ∀ {log otherLog error other} attempt attempts delay, logs log otherLog →
    errors error other → logs (log ++ [.retrying attempt attempts delay error])
      (otherLog ++ [.retrying attempt attempts delay other])
  rollbackFailed : ∀ {log otherLog error other}, logs log otherLog → errors error other →
    logs (log ++ [.rollbackFailed error]) (otherLog ++ [.rollbackFailed other])

namespace Veil

/-- Nothing looks alike but what is the same. -/
def none : Veil where
  errors error other := other = error
  logs log other := other = log
  same _ := rfl
  retryable same := congrArg StoreError.retryable same
  exhausted _ same := same ▸ rfl
  retrying _ _ _ log same := log ▸ same ▸ rfl
  rollbackFailed log same := log ▸ same ▸ rfl

variable (veil : Veil)

/-- Results that look alike: the same value, or errors that look alike, or the same fault. -/
inductive Results : Except Stop α → Except Stop α → Prop where
  | ok (value : α) : Results (.ok value) (.ok value)
  | error {error other : StoreError} (alike : veil.errors error other) :
      Results (.error (.error error)) (.error (.error other))
  | crash (text : String) : Results (.error (.crash text)) (.error (.crash text))

/-- Results that look alike where the values need not be the same either, but are related. -/
inductive Likens (values : α → α → Prop) : Except Stop α → Except Stop α → Prop where
  | ok {value other : α} (alike : values value other) : Likens values (.ok value) (.ok other)
  | error {error other : StoreError} (alike : veil.errors error other) :
      Likens values (.error (.error error)) (.error (.error other))
  | crash (text : String) : Likens values (.error (.crash text)) (.error (.crash text))

theorem results_iff {veil : Veil} {result other : Except Stop α} :
    veil.Results result other ↔ veil.Likens Eq result other := by
  constructor
  · intro alike
    cases alike with
    | ok value => exact .ok rfl
    | error alike => exact .error alike
    | crash text => exact .crash text
  · intro alike
    cases alike with
    | ok same =>
        subst same
        exact .ok _
    | error alike => exact .error alike
    | crash text => exact .crash text

theorem results_none {result other : Except Stop α} : none.Results result other ↔ other = result := by
  constructor
  · intro alike
    cases alike with
    | ok value => rfl
    | error same => rw [same]
    | crash text => rfl
  · rintro rfl
    rcases other with (error | text) | value
    · exact .error rfl
    · exact .crash text
    · exact .ok value

/-- Situations whose stores may differ in any way, and whose logs look alike. -/
structure Situations (situation other : Situation σ) : Prop where
  now : other.now = situation.now
  context : other.context = situation.context
  ties : other.ties = situation.ties
  log : veil.logs situation.log other.log

end Veil

/-- Two calls that take the same time and do the same to the context. -/
structure Call.Paces (first second : Call σ α) : Prop where
  duration : second.duration = first.duration
  cancels : second.cancels = first.cancels

namespace Run

/-- In situations that look alike but for the stores, two computations leave such situations, and the
goal relates what they return and the stores after them. -/
def Couples (veil : Veil) (run other : Run σ α) (first second : σ)
    (goal : Except Stop α → Except Stop α → σ → σ → Prop) : Prop :=
  ∀ situation otherSituation : Situation σ, veil.Situations situation otherSituation →
    Couple run other (situation.on first) (otherSituation.on second)
      fun result otherResult after otherAfter =>
        veil.Situations after otherAfter ∧ goal result otherResult after.store otherAfter.store

variable {veil : Veil} {first second : σ} {goal : Except Stop α → Except Stop α → σ → σ → Prop}

theorem Couples.imp {run other : Run σ α} {stronger : Except Stop α → Except Stop α → σ → σ → Prop}
    (couples : Couples veil run other first second stronger)
    (weaken : ∀ result otherResult after otherAfter, stronger result otherResult after otherAfter →
      goal result otherResult after otherAfter) : Couples veil run other first second goal :=
  fun situation otherSituation alike => (couples situation otherSituation alike).imp
    fun _ _ _ _ ⟨still, holds⟩ => ⟨still, weaken _ _ _ _ holds⟩

theorem couples_pure {value otherValue : α} (holds : goal (.ok value) (.ok otherValue) first second) :
    Couples veil (pure value) (pure otherValue) first second goal :=
  fun _ _ ⟨now, context, ties, log⟩ => couple_pure ⟨⟨now, context, ties, log⟩, holds⟩

theorem couples_throw {stop otherStop : Stop}
    (holds : goal (.error stop) (.error otherStop) first second) :
    Couples veil (throw stop) (throw otherStop) first second goal :=
  fun _ _ ⟨now, context, ties, log⟩ => couple_throw ⟨⟨now, context, ties, log⟩, holds⟩

theorem couples_bind {run other : Run σ β} {next otherNext : β → Run σ α}
    (couples : Couples veil run other first second fun result otherResult after otherAfter =>
      match result, otherResult with
      | .ok value, .ok otherValue =>
        Couples veil (next value) (otherNext otherValue) after otherAfter goal
      | .error stop, .error otherStop => goal (.error stop) (.error otherStop) after otherAfter
      | .ok _, .error _ => False
      | .error _, .ok _ => False) :
    Couples veil (run >>= next) (other >>= otherNext) first second goal := by
  intro situation otherSituation alike
  apply couple_bind
  refine (couples situation otherSituation alike).imp ?_
  rintro result otherResult after otherAfter ⟨still, continued⟩
  cases result with
  | ok value =>
      cases otherResult with
      | ok otherValue => exact continued after otherAfter still
      | error otherStop => exact continued
  | error stop =>
      cases otherResult with
      | ok otherValue => exact continued
      | error otherStop => exact ⟨still, continued⟩

theorem couples_note {goal : Except Stop Unit → Except Stop Unit → σ → σ → Prop}
    {event other : Event}
    (written : ∀ {log otherLog}, veil.logs log otherLog →
      veil.logs (log ++ [event]) (otherLog ++ [other]))
    (holds : goal (.ok ()) (.ok ()) first second) :
    Couples veil (note event) (note other) first second goal :=
  fun _ _ ⟨now, context, ties, log⟩ => ⟨⟨now, context, ties, written log⟩, holds⟩

theorem couples_caught
    {goal : Except Stop (Except StoreError α) → Except Stop (Except StoreError α) → σ → σ → Prop}
    {run other : Run σ α}
    (couples : Couples veil run other first second fun result otherResult =>
      goal (handed result) (handed otherResult)) :
    Couples veil (caught run) (caught other) first second goal := by
  intro situation otherSituation alike
  apply ensures_caught
  apply Ensures.imp (couples situation otherSituation alike)
  intro result after ended
  apply ensures_caught
  exact Ensures.imp ended fun otherResult otherAfter holds => holds

theorem couples_checkContext {goal : Except Stop Unit → Except Stop Unit → σ → σ → Prop}
    (goes : goal (.ok ()) (.ok ()) first second)
    (stops : ∀ error, goal (.error (.error error)) (.error (.error error)) first second) :
    Couples veil checkContext checkContext first second goal := by
  rintro situation otherSituation ⟨now, context, ties, log⟩
  have checked : otherSituation.context.check otherSituation.now =
      situation.context.check situation.now := by rw [now, context]
  apply couple_get_bind
  dsimp only [Situation.on]
  rw [checked]
  cases situation.context.check situation.now with
  | none => exact couple_pure ⟨⟨now, context, ties, log⟩, goes⟩
  | some interruption => exact couple_throw ⟨⟨now, context, ties, log⟩, stops _⟩

section

variable {situation otherSituation : Situation σ} {call otherCall : Nat → σ → Call σ α}

/-- Two situations that look alike but for the stores, after computations that reach the goal. -/
private abbrev Apart (veil : Veil) (goal : Except Stop α → Except Stop α → σ → σ → Prop)
    (result otherResult : Except Stop α) (after otherAfter : Situation σ) : Prop :=
  veil.Situations after otherAfter ∧ goal result otherResult after.store otherAfter.store

private theorem situations_completed (alike : veil.Situations situation otherSituation)
    {call other : Call σ α} (paces : call.Paces other) :
    veil.Situations ((situation.on first).completed call) ((otherSituation.on second).completed other)
    where
  now := by
    dsimp only [Situation.completed, Situation.on]
    rw [alike.now, paces.duration]
  context := by
    simp only [Situation.completed, Situation.on, alike.now, alike.context, paces.duration,
      paces.cancels]
  ties := alike.ties
  log := alike.log

private theorem couple_perform (alike : veil.Situations situation otherSituation)
    (paces : (call situation.now first).Paces (otherCall situation.now second))
    (holds : goal (call situation.now first).outcome (otherCall situation.now second).outcome
      (call situation.now first).completed (otherCall situation.now second).completed) :
    Couple (perform call) (perform otherCall) (situation.on first) (otherSituation.on second)
      (Apart veil goal) := by
  have same : otherCall (otherSituation.on second).now second = otherCall situation.now second :=
    congrArg (otherCall · second) alike.now
  apply ensures_perform
  apply ensures_perform
  rw [show otherCall (otherSituation.on second).now (otherSituation.on second).store = _ from same]
  exact ⟨situations_completed alike paces, holds⟩

private theorem couple_settle
    {goal : Except Stop Bool → Except Stop Bool → Situation σ → Situation σ → Prop}
    (alike : veil.Situations situation otherSituation)
    (holds : ∀ tie ties, goal (.ok tie) (.ok tie) ({ situation with ties }.on first)
      ({ otherSituation with ties }.on second)) :
    Couple settle settle (situation.on first) (otherSituation.on second) goal := by
  apply couple_get_bind
  rcases situation with ⟨store, now, context, ties, log⟩
  rcases otherSituation with ⟨otherStore, otherNow, otherContext, otherTies, otherLog⟩
  rcases alike with ⟨rfl, rfl, rfl, logs⟩
  cases otherTies with
  | nil => exact couple_pure (holds true [])
  | cons tie rest => exact couple_set_bind (couple_pure (holds tie rest))

private theorem couple_interrupt (alike : veil.Situations situation otherSituation) {time : Nat}
    {left otherLeft : σ}
    (holds : ∀ error, goal (.error (.error error)) (.error (.error error)) left otherLeft) :
    Couple (interrupt time left) (interrupt time otherLeft) (situation.on first)
      (otherSituation.on second) (Apart veil goal) := by
  rcases situation with ⟨store, now, context, ties, log⟩
  rcases otherSituation with ⟨otherStore, otherNow, otherContext, otherTies, otherLog⟩
  rcases alike with ⟨rfl, rfl, rfl, logs⟩
  have there : veil.Situations (σ := σ) ⟨store, time, otherContext, otherTies, log⟩
      ⟨otherStore, time, otherContext, otherTies, otherLog⟩ := ⟨rfl, rfl, rfl, logs⟩
  refine couple_modify_bind (couple_get_bind ?_)
  dsimp only [Situation.on]
  split
  · apply couple_bind
    apply couple_settle there
    intro tie ties
    exact couple_throw ⟨⟨rfl, rfl, rfl, logs⟩, holds _⟩
  · exact couple_throw ⟨⟨rfl, rfl, rfl, logs⟩, holds _⟩

end

theorem couples_perform {call otherCall : Nat → σ → Call σ α}
    (paces : ∀ now, (call now first).Paces (otherCall now second))
    (holds : ∀ now, goal (call now first).outcome (otherCall now second).outcome
      (call now first).completed (otherCall now second).completed) :
    Couples veil (perform call) (perform otherCall) first second goal :=
  fun situation _ alike => couple_perform alike (paces situation.now) (holds situation.now)

/-- A race of two calls that take the same time goes the same way. -/
theorem couples_race {call otherCall : Nat → σ → Call σ α}
    (paces : ∀ now, (call now first).Paces (otherCall now second))
    (won : ∀ now, goal (call now first).outcome (otherCall now second).outcome
      (call now first).completed (otherCall now second).completed)
    (lost : ∀ error now, goal (.error (.error error)) (.error (.error error))
      (call now first).abandoned (otherCall now second).abandoned)
    (ignored : ∀ error, goal (.error (.error error)) (.error (.error error)) first second) :
    Couples veil (race call) (race otherCall) first second goal := by
  rintro ⟨store, _, _, _, log⟩ ⟨otherStore, now, context, ties, otherLog⟩ ⟨rfl, rfl, rfl, logs⟩
  have alike : ∀ ties, veil.Situations (σ := σ) ⟨store, now, context, ties, log⟩
      ⟨otherStore, now, context, ties, otherLog⟩ := fun _ => ⟨rfl, rfl, rfl, logs⟩
  have performed : Couples veil (perform call) (perform otherCall) first second goal :=
    couples_perform paces won
  apply couple_get_bind
  dsimp only [Situation.on]
  -- What decides the race is the same for both stores, so the same branch is taken.
  rw [(paces now).duration]
  cases context.endsAt with
  | none => exact performed _ _ (alike ties)
  | some moment =>
      dsimp only
      split
      · apply couple_bind
        apply couple_settle (alike ties)
        intro tie ties
        cases tie with
        | true =>
            dsimp only
            rw [if_pos rfl, if_pos rfl]
            split
            · exact performed _ _ (alike ties)
            · exact couple_interrupt (alike ties) fun error => lost error now
        | false => exact couple_interrupt (alike ties) ignored
      · split
        · exact performed _ _ (alike ties)
        · split
          · exact couple_interrupt (alike ties) fun error => lost error now
          · apply couple_bind
            apply couple_settle (alike ties)
            intro tie ties
            cases tie with
            | true => exact performed _ _ (alike ties)
            | false => exact couple_interrupt (alike ties) fun error => lost error now

end Run

/-! ## Retried work -/

variable {veil : Veil} {transactions : Transactions σ} {policy : Policy} {work otherWork : Run σ α}
  {values : α → α → Prop} {relates amid : σ → σ → Prop} {first second : σ}

/-- A computation on two related stores: its results look alike, and the stores are related after
it. -/
def Run.Relates (veil : Veil) (run : Run σ α) (relates : σ → σ → Prop) (first second : σ) : Prop :=
  Run.Couples veil run run first second fun result other after otherAfter =>
    veil.Results result other ∧ relates after otherAfter

/-- Two computations on two related stores: they return related values or look alike otherwise, and the
stores are related after them. -/
def Run.Likens (veil : Veil) (values : α → α → Prop) (run other : Run σ α) (relates : σ → σ → Prop)
    (first second : σ) : Prop :=
  Run.Couples veil run other first second fun result otherResult after otherAfter =>
    veil.Likens values result otherResult ∧ relates after otherAfter

theorem Run.relates_iff {run : Run σ α} :
    run.Relates veil relates first second ↔ Run.Likens veil Eq run run relates first second := by
  constructor
  · exact fun related => related.imp fun _ _ _ _ ⟨alike, still⟩ => ⟨Veil.results_iff.mp alike, still⟩
  · exact fun likens => likens.imp fun _ _ _ _ ⟨alike, still⟩ => ⟨Veil.results_iff.mpr alike, still⟩

theorem Run.likens_pure {value other : α} (alike : values value other) (related : relates first second) :
    Run.Likens veil values (pure value) (pure other) relates first second :=
  Run.couples_pure ⟨.ok alike, related⟩

theorem Run.likens_throw (error : StoreError) (related : relates first second) :
    Run.Likens veil values (throw (.error error)) (throw (.error error)) relates first second :=
  Run.couples_throw ⟨.error (veil.same error), related⟩

theorem Run.Likens.bind {returns : β → β → Prop} {run other : Run σ β} {next otherNext : β → Run σ α}
    (likens : Run.Likens veil returns run other relates first second)
    (following : ∀ value otherValue after otherAfter, returns value otherValue →
      relates after otherAfter →
        Run.Likens veil values (next value) (otherNext otherValue) relates after otherAfter) :
    Run.Likens veil values (run >>= next) (other >>= otherNext) relates first second := by
  refine Run.couples_bind (likens.imp ?_)
  rintro result otherResult after otherAfter ⟨alike, still⟩
  cases alike with
  | ok alike => exact following _ _ _ _ alike still
  | error alike => exact ⟨.error alike, still⟩
  | crash text => exact ⟨.crash text, still⟩

/-- Where the calls of two attempts are coupled, these are: the stores are related before and after
them, and in another way amid them. -/
theorem likens_attempt
    (opening : Run.Couples veil (Run.race transactions.opening) (Run.race transactions.opening) first
      second fun result other after otherAfter => veil.Results result other ∧
        match result with
        | .ok _ => amid after otherAfter
        | .error _ => relates after otherAfter)
    (worked : ∀ first second, amid first second →
      Run.Likens veil values work otherWork amid first second)
    (undone : ∀ first second, amid first second →
      (undo transactions).Relates veil relates first second)
    (committed : ∀ first second, amid first second →
      (Run.race transactions.committing).Relates veil relates first second)
    (left : ∀ first second, amid first second → relates first second)
    (related : relates first second) :
    Run.Likens veil values (attempt transactions work) (attempt transactions otherWork) relates first
      second := by
  refine Run.couples_bind (Run.couples_checkContext ?_ fun error => ⟨.error (veil.same error), related⟩)
  refine Run.couples_bind (opening.imp ?_)
  rintro result other after otherAfter ⟨alike, opened⟩
  cases alike with
  | error alike => exact ⟨.error alike, opened⟩
  | crash text => exact ⟨.crash text, opened⟩
  | ok _ =>
      refine Run.couples_bind (Run.couples_caught ((worked _ _ opened).imp ?_))
      rintro result other after otherAfter ⟨alike, still⟩
      -- The transaction is closed as the work ended: undone after an error, else committed.
      cases alike with
      | error failed =>
          refine Run.couples_bind ((undone _ _ still).imp ?_)
          rintro result other after otherAfter ⟨alike, closed⟩
          cases alike with
          | ok _ => exact Run.couples_throw ⟨.error failed, closed⟩
          | error alike => exact ⟨.error alike, closed⟩
          | crash text => exact ⟨.crash text, closed⟩
      | crash text => exact ⟨.crash text, left _ _ still⟩
      | ok returned =>
          refine Run.couples_bind ((committed _ _ still).imp ?_)
          rintro result other after otherAfter ⟨alike, closed⟩
          cases alike with
          | ok _ => exact Run.couples_pure ⟨.ok returned, closed⟩
          | error alike => exact ⟨.error alike, closed⟩
          | crash text => exact ⟨.crash text, closed⟩

theorem relates_attempt
    (opening : Run.Couples veil (Run.race transactions.opening) (Run.race transactions.opening) first
      second fun result other after otherAfter => veil.Results result other ∧
        match result with
        | .ok _ => amid after otherAfter
        | .error _ => relates after otherAfter)
    (worked : ∀ first second, amid first second → work.Relates veil amid first second)
    (undone : ∀ first second, amid first second →
      (undo transactions).Relates veil relates first second)
    (committed : ∀ first second, amid first second →
      (Run.race transactions.committing).Relates veil relates first second)
    (left : ∀ first second, amid first second → relates first second)
    (related : relates first second) :
    (attempt transactions work).Relates veil relates first second :=
  Run.relates_iff.mpr (likens_attempt opening
    (fun first second midst => Run.relates_iff.mp (worked first second midst)) undone committed left
    related)

theorem relates_backOff {number : Nat} {error other : StoreError} (alike : veil.errors error other)
    (related : relates first second) :
    Run.Couples veil (backOff policy number error) (backOff policy number other) first second
      fun result other after otherAfter => veil.Results result other ∧ relates after otherAfter := by
  unfold backOff
  split
  · exact Run.couples_throw ⟨.crash _, related⟩
  · refine Run.couples_bind (Run.couples_note (fun log => veil.retrying _ _ _ log alike) ?_)
    exact Run.couples_race (fun _ => ⟨rfl, rfl⟩) (fun _ => ⟨.ok (), related⟩)
      (fun error _ => ⟨.error (veil.same error), related⟩)
      fun error => ⟨.error (veil.same error), related⟩

/-- Where attempts look alike, retried work does. -/
theorem likens_attemptsFrom
    (attempted : ∀ first second, relates first second →
      Run.Likens veil values (attempt transactions work) (attempt transactions otherWork) relates first
        second)
    (remaining number : Nat) (related : relates first second) :
    Run.Likens veil values (attemptsFrom transactions policy work number remaining)
      (attemptsFrom transactions policy otherWork number remaining) relates first second := by
  induction remaining generalizing number first second with
  | zero => exact Run.couples_throw ⟨.error (veil.same _), related⟩
  | succ remaining induction =>
      unfold attemptsFrom Run.Likens
      refine Run.couples_bind (Run.couples_caught ((attempted _ _ related).imp ?_))
      rintro result other after otherAfter ⟨alike, still⟩
      cases alike with
      | crash text => exact ⟨.crash text, still⟩
      | ok returned => exact Run.couples_pure ⟨.ok returned, still⟩
      | @error error other alike =>
          dsimp only [Run.handed]
          rw [veil.retryable alike]
          split
          · exact Run.couples_throw ⟨.error alike, still⟩
          · split
            · exact Run.couples_throw ⟨.error (veil.exhausted _ alike), still⟩
            · refine Run.couples_bind ((relates_backOff alike still).imp ?_)
              rintro waited otherWaited after otherAfter ⟨alike, still⟩
              cases alike with
              | ok _ => exact induction (number + 1) still
              | error alike => exact ⟨.error alike, still⟩
              | crash text => exact ⟨.crash text, still⟩

theorem relates_attemptsFrom
    (attempted : ∀ first second, relates first second →
      (attempt transactions work).Relates veil relates first second)
    (remaining number : Nat) (related : relates first second) :
    (attemptsFrom transactions policy work number remaining).Relates veil relates first second :=
  Run.relates_iff.mpr (likens_attemptsFrom
    (fun first second still => Run.relates_iff.mp (attempted first second still)) remaining number
    related)

end Retry

end LinkShortener
