import LinkShortener.Proofs.Retry.Backoff
import LinkShortener.Proofs.Retry.Punctuality
import LinkShortener.Proofs.Service.Creation
import LinkShortener.Proofs.Store.Transience

/-! # Calls in a context that ends

A creation is a chain of runs of retried work under one context. So when the context ends, the whole
chain has as little time left as one run has.
-/

namespace LinkShortener

open Retry

/-! ## The database -/

theorem Database.returns_call {α : Type} (name : String) (abandon : Database → Database)
    (operation : Database → Except DatabaseError α × Database) (database : Database) :
    (call name abandon operation database).Returns := by
  refine ⟨(operation database).1.mapError DatabaseError.classify, ?_⟩
  dsimp only [call]
  cases (operation database).1 <;> rfl

theorem Database.return_transactions : transactions.Return where
  opening _ _ := returns_call _ _ _ _
  committing _ _ := returns_call _ _ _ _
  rollingBack _ _ := returns_call _ _ _ _

theorem Database.spare_transactions : transactions.Spare where
  opening _ _ := rfl
  committing _ _ := rfl
  rollingBack _ _ := rfl

namespace Work

variable {α : Type}

theorem heeds_send (work : Work α) : work.send.Heeds := by
  induction work with
  | finished value => exact Run.heeds_pure value
  | failed error => exact Run.heeds_throw _
  | query statement next induction => exact (Run.heeds_race fun _ _ => rfl).bind induction

theorem returns_send (work : Work α) : work.send.Returns := by
  induction work with
  | finished value =>
      rintro before result after ended
      cases ended
      exact ⟨.ok value, rfl⟩
  | failed error =>
      rintro before result after ended
      cases ended
      exact ⟨.error error, rfl⟩
  | query statement next induction =>
      intro before result after ended
      have sent : Ensures (query statement next).send before fun result _ =>
          ∃ report : Except StoreError _, result = report.mapError .error := by
        refine ensures_bind ((Run.ensures_ends _ before).imp fun answer between asked => ?_)
        rcases Run.returns_race (fun _ _ => Database.returns_call _ _ _ _) _ _ _ asked with
          ⟨error | answer, rfl⟩
        · exact ⟨.error error, rfl⟩
        · exact (Run.ensures_ends _ between).imp fun _ _ ended => induction answer _ _ _ ended
      rw [Ensures, ended] at sent
      exact sent

end Work

/-! ## Chains of calls -/

/-- Nothing happens between two scenes but what is drawn and what is written to the log. -/
structure Scene.Rests (before after : Scene) : Prop where
  policy : after.policy = before.policy
  situation : after.situation = { before.situation with log := after.situation.log }

/-- From the first scene to the second there are these runs of retried work, one after the other. -/
inductive Scene.Calls : Scene → List (List Step) → Scene → Prop where
  | nil {before after : Scene} (rests : before.Rests after) : Calls before [] after
  | cons {α : Type} {work : Work α} {before calling called after : Scene} {steps : List Step}
      {result : Except Stop α} {situation : Situation Database} {calls : List (List Step)}
      (rests : before.Rests calling)
      (timeline : Timeline Database.transactions calling.policy work.send 0
        (calling.policy.maxAttempts - 1) calling.situation steps result situation)
      (left : ({ calling with situation } : Scene).Rests called) (following : Calls called calls after) :
      Calls before (steps :: calls) after

namespace Scene

theorem Rests.refl (scene : Scene) : scene.Rests scene := ⟨rfl, rfl⟩

theorem Rests.trans {before middle after : Scene} (first : before.Rests middle)
    (second : middle.Rests after) : before.Rests after where
  policy := second.policy.trans first.policy
  situation := by rw [second.situation, first.situation]

namespace Calls

variable {before middle after : Scene} {calls others : List (List Step)}

theorem policy_eq (run : before.Calls calls after) : after.policy = before.policy := by
  induction run with
  | nil rests => exact rests.policy
  | cons rests _ left _ induction => exact induction.trans (left.policy.trans rests.policy)

theorem of_rests (rests : before.Rests middle) (run : middle.Calls calls after) :
    before.Calls calls after := by
  cases run with
  | nil following => exact .nil (rests.trans following)
  | cons following timeline left run => exact .cons (rests.trans following) timeline left run

theorem append (run : before.Calls calls middle) (following : middle.Calls others after) :
    before.Calls (calls ++ others) after := by
  induction run with
  | nil rests => exact .of_rests rests following
  | cons rests timeline left _ induction => exact .cons rests timeline left (induction following)

/-- A chain of runs keeps to the context as each of them does. -/
theorem heeded (run : before.Calls calls after) :
    Heeded Database.transactions before.situation calls.flatten after.situation := by
  induction run with
  | nil rests => exact .nil rests.situation
  | cons rests timeline left _ induction =>
      have called := timeline.heeded Database.spare_transactions
      exact (Heeded.nil rests.situation).append (called.append
        ((Heeded.nil left.situation).append induction))

end Calls

end Scene

/-! ## Services -/

namespace Service

variable {α β : Type}

/-- Whatever a service does, it does in so many runs of retried work at most. -/
def CallsAtMost (limit : Nat) (service : Service α) : Prop :=
  ∀ scene, scene.policy.IsUnbroken → Ensures service scene fun _ after =>
    ∃ calls, scene.Calls calls after ∧ calls.length ≤ limit

variable {limit : Nat}

theorem callsAtMost_of_rests {service : Service α}
    (rests : ∀ scene, Ensures service scene fun _ after => scene.Rests after) :
    CallsAtMost limit service :=
  fun scene _ => (rests scene).imp fun _ _ rests => ⟨[], .nil rests, Nat.zero_le limit⟩

theorem CallsAtMost.bind {further total : Nat} {service : Service β} {next : β → Service α}
    (calls : CallsAtMost limit service) (following : ∀ value, CallsAtMost further (next value))
    (sum : limit + further ≤ total) : CallsAtMost total (service >>= next) := by
  intro scene unbroken
  refine ensures_bind ((calls scene unbroken).imp ?_)
  rintro result middle ⟨calls, run, few⟩
  cases result with
  | error failure => exact ⟨calls, run, by omega⟩
  | ok value =>
      have unbroken : middle.policy.IsUnbroken := run.policy_eq ▸ unbroken
      apply (following value middle unbroken).imp
      rintro result after ⟨others, rest, limited⟩
      refine ⟨calls ++ others, run.append rest, ?_⟩
      rw [List.length_append]
      omega

theorem callsAtMost_pure (value : α) : CallsAtMost limit (pure value : Service α) :=
  callsAtMost_of_rests fun scene => ensures_pure (Scene.Rests.refl scene)

theorem callsAtMost_refuse (error : ServiceError) : CallsAtMost limit (refuse error : Service α) :=
  callsAtMost_of_rests fun scene => ensures_throw (Scene.Rests.refl scene)

theorem callsAtMost_note (events : List Event) : CallsAtMost limit (note events) :=
  callsAtMost_of_rests fun _ => ⟨rfl, rfl⟩

theorem callsAtMost_drawId : CallsAtMost limit drawId := callsAtMost_of_rests fun _ => ⟨rfl, rfl⟩

theorem callsAtMost_drawSlug : CallsAtMost limit drawSlug := callsAtMost_of_rests fun _ => ⟨rfl, rfl⟩

theorem callsAtMost_transact (work : Work α) (answered : StoreError → ServiceError × List Event) :
    CallsAtMost 1 (transact work answered) := by
  intro scene unbroken
  have timeline := ensures_execute_timeline Database.return_transactions
    Database.spare_transactions work.returns_send work.heeds_send unbroken scene.situation
  unfold Ensures at timeline
  apply ensures_get_bind
  rw [Database.transact]
  cases ran : (execute Database.transactions scene.policy work.send).run.run scene.situation with
  | mk result situation =>
      rw [ran] at timeline
      rcases timeline with ⟨steps, timeline⟩
      have called : ∀ {after : Scene}, ({ scene with situation } : Scene).Rests after →
          ∃ calls, scene.Calls calls after ∧ calls.length ≤ 1 := fun rests =>
        ⟨[steps], .cons (.refl scene) timeline rests (.nil (.refl _)), Nat.le_refl 1⟩
      dsimp only
      apply ensures_set_bind
      rcases result with (error | text) | value
      · exact ensures_modify_bind (ensures_throw (called ⟨rfl, rfl⟩))
      · exact ensures_throw (called (.refl _))
      · exact ensures_pure (called (.refl _))

theorem callsAtMost_searchFree (attempts : Nat) :
    CallsAtMost attempts
      (searchFree drawSlug (fun slug => return (← findBySlug slug).isSome) attempts) := by
  induction attempts with
  | zero => exact callsAtMost_pure none
  | succ attempts induction =>
      have looks : ∀ slug, CallsAtMost 1
          (do return (← findBySlug slug).isSome : Service Bool) := fun slug =>
        (callsAtMost_transact _ _).bind (fun _ => callsAtMost_pure _) (Nat.le_refl (1 + 0))
      have continued : ∀ (slug : String) (taken : Bool), CallsAtMost attempts
          (if taken then searchFree drawSlug (fun slug => return (← findBySlug slug).isSome) attempts
            else return some slug : Service (Option String)) := by
        intro slug taken
        cases taken with
        | false => exact callsAtMost_pure (some slug)
        | true => exact induction
      have drawn := fun slug =>
        (looks slug).bind (continued slug) (Nat.le_refl (1 + attempts))
      exact callsAtMost_drawSlug.bind drawn (show 0 + (1 + attempts) ≤ attempts + 1 by omega)

theorem callsAtMost_freeSlug : CallsAtMost slugAttempts freeSlug := by
  refine (callsAtMost_searchFree slugAttempts).bind (fun found => ?_) (Nat.le_refl (slugAttempts + 0))
  cases found with
  | some slug => exact callsAtMost_pure slug
  | none => exact (callsAtMost_note _).bind (fun _ => callsAtMost_refuse _) (Nat.le_refl (0 + 0))

theorem callsAtMost_createShortUrl (key : IdempotencyKey) (destination : String) :
    CallsAtMost 11 (createShortUrl key destination) := by
  have few : slugAttempts + 1 ≤ 11 := by decide
  unfold createShortUrl
  dsimp only
  split
  · exact fun scene _ => ensures_bind (ensures_throw ⟨[], .nil (.refl scene), Nat.zero_le 11⟩)
  · refine callsAtMost_drawId.bind (fun id => callsAtMost_freeSlug.bind (fun slug => ?_) few)
      (Nat.le_refl (0 + 11))
    refine (callsAtMost_transact _ _).bind (fun creation => ?_) (Nat.le_refl (1 + 0))
    cases creation <;>
      exact (callsAtMost_note _).bind (fun _ => callsAtMost_pure _) (Nat.le_refl (0 + 0))

/-- The end of a context stops a run of retried work, however long its calls take, however they end and
whenever it comes. The same time bounds a whole creation, which is a chain of at most eleven such runs
under one context. -/
theorem stopped_by_context {σ : Type} {transactions : Transactions σ}
    (returns : transactions.Return) (spare : transactions.Spare) {call : Nat → σ → Call σ α}
    (callReturns : ∀ now store, (call now store).Returns)
    (callSpares : ∀ now store, (call now store).cancels = false) {policy : Policy}
    (unbroken : policy.IsUnbroken) (before : Situation σ) (key : IdempotencyKey)
    (destination : String) (scene : Scene) (sceneUnbroken : scene.policy.IsUnbroken) :
    Ensures (execute transactions policy (Run.race call)) before (fun result after => ∃ steps,
      Timeline transactions policy (Run.race call) 0 (policy.maxAttempts - 1) before steps result
        after ∧
      Heeded transactions before steps after ∧
      (∀ step ∈ steps, step.interruption? ≠ none → Tells before.context step.finish result) ∧
      (∀ step ∈ steps, step.stage = .waiting → before.context.check step.finish ≠ none →
        Tells before.context step.finish result) ∧
      (before.IsOver → Tells before.context before.now result)) ∧
    Ensures (createShortUrl key destination) scene (fun _ after => ∃ calls,
      scene.Calls calls after ∧ calls.length ≤ 11 ∧
      Heeded Database.transactions scene.situation calls.flatten after.situation) := by
  constructor
  · refine (ensures_execute_timeline returns spare (Run.returns_race callReturns)
      (Run.heeds_race callSpares) unbroken before).imp ?_
    rintro result after ⟨steps, timeline⟩
    exact ⟨steps, timeline, timeline.heeded spare,
      fun step member => timeline.of_interrupted spare member,
      fun step member => timeline.of_waited spare member, timeline.of_isOver⟩
  · refine (callsAtMost_createShortUrl key destination scene sceneUnbroken).imp ?_
    rintro result after ⟨calls, run, few⟩
    exact ⟨calls, run, few, run.heeded⟩

/-- A scene in which a transaction takes longer to open than the caller waits. -/
def hurried : Scene :=
  let situation := Scene.calm.situation
  { Scene.calm with
    situation := { situation with
      store := { situation.store with latency := fun _ name => if name = "begin" then 10 else 0 }
      context := .withDeadline 4 } }

theorem stopped_by_context_hurried :
    Ensures (execute Database.transactions (.standard .none) (Run.race fun _ => Call.wait 5))
      hurried.situation (fun result after => ∃ steps, after.now ≤ 4 + rollbackTime steps ∧
        ∀ step ∈ steps, step.interruption? ≠ none → result.isOk = false) ∧
    Ensures (createShortUrl ⟨.ofDigit 2⟩ "https://example.com") hurried (fun _ after =>
      ∃ calls : List (List Step), calls.length ≤ 11 ∧ after.situation.now ≤ 4 + rollbackTime calls.flatten) := by
  have unbroken : hurried.policy.IsUnbroken := fun number =>
    Policy.isSome_backoff? number (by decide)
  have returns : ∀ (_ : Nat) (store : Database), (Call.wait 5 store).Returns :=
    fun _ _ => ⟨.ok (), rfl⟩
  have spares : ∀ (_ : Nat) (store : Database), (Call.wait 5 store).cancels = false :=
    fun _ _ => rfl
  rcases stopped_by_context Database.return_transactions Database.spare_transactions returns spares
    unbroken hurried.situation ⟨.ofDigit 2⟩ "https://example.com" hurried unbroken with
    ⟨runs, creates⟩
  constructor
  · apply runs.imp
    rintro result after ⟨steps, -, heeded, tells, -, -⟩
    refine ⟨steps, heeded.inTime 4 rfl, fun step member interrupted => ?_⟩
    rcases tells step member interrupted with ⟨error, rfl, -⟩
    rfl
  · apply creates.imp
    rintro result after ⟨calls, -, few, heeded⟩
    exact ⟨calls, few, heeded.inTime 4 rfl⟩

end Service

end LinkShortener
