import LinkShortener.Proofs.Service.Creation
import LinkShortener.Proofs.Store.Calm

/-! # Calls without obstacles

What a service comes to for a client whose context does not end and whose connection is calm.
-/

namespace LinkShortener

open Retry

/-- A scene of a client who has the store alone and whom no fault strikes. -/
structure Scene.IsCalm (scene : Scene) : Prop where
  isOpen : scene.situation.store.isClosed = false
  spent : ∀ fault ∈ scene.situation.store.faults, fault.times = 0
  solitary : scene.situation.store.IsSolitary

/-- What lies between two scenes of such a client who changes nothing. -/
structure Scene.Stays (before after : Scene) : Prop where
  calm : after.IsCalm
  tables : after.situation.store.tables = before.situation.store.tables
  ids : after.ids = before.ids
  slugs : after.slugs.values = before.slugs.values

theorem Scene.Stays.trans {before middle after : Scene} (first : before.Stays middle)
    (second : middle.Stays after) : before.Stays after where
  calm := second.calm
  tables := second.tables.trans first.tables
  ids := second.ids.trans first.ids
  slugs := second.slugs.trans first.slugs

namespace Database

/-- What a unit of work comes to where no fault strikes. -/
def Settles {α : Type} (before : Database) (work : Work α) (result : Except Stop α)
    (after : Database) : Prop :=
  match work.run after.clock before.tables with
  | .error error =>
    result = .error (.error error) ∧ before.resumed.Becomes before.tables before.faults after
  | .ok (value, tables) =>
    result = .ok value ∧ before.resumed.Becomes tables before.faults after

variable {α : Type} {database : Database}

theorem completes_transact_calm (policy : Policy) (work : Work α)
    (isOpen : database.isClosed = false) (solitary : database.IsSolitary)
    (spent : ∀ fault ∈ database.faults, fault.times = 0)
    (final : ∀ now error, work.run now database.tables = .error error → error.retryable = false) :
    (transact policy work).Completes database (database.Settles work) := by
  have calm : database.IsCalm := ⟨isOpen, fun fault member => .inr (spent fault member)⟩
  have idle : Fault.next "commit" database.resumed.faults = (none, database.faults) := by
    rw [faults_resumed]
    exact Fault.next_of_idle fun fault member _ => spent fault member
  refine (completes_transact policy work calm (by rw [idle]) ?_).imp fun result after ends => ?_
  · rw [solitary.tables_resumed]
    exact final _
  · unfold Ends at ends
    rw [solitary.tables_resumed, idle, faults_resumed] at ends
    unfold Settles
    cases ran : work.run database.resumed.clock database.tables with
    | error error =>
        rw [ran] at ends
        rcases ends with ⟨rfl, becomes⟩
        rw [becomes.clock, ran]
        exact ⟨rfl, becomes⟩
    | ok outcome =>
        rw [ran] at ends
        rcases ends with ⟨rfl, becomes⟩
        rw [becomes.clock, ran]
        exact ⟨rfl, becomes⟩

end Database

namespace Service

variable {α β : Type}

def KeepsOver (service : Service α) : Prop :=
  Preserves (fun scene => scene.situation.IsOver) service

/-- A computation that leaves the context in time meets the goal. -/
def Completes (service : Service α) (scene : Scene) (goal : Except Failure α → Scene → Prop) :
    Prop :=
  Ensures service scene fun result after => after.situation.IsOver ∨ goal result after

section

variable {scene : Scene} {goal : Except Failure α → Scene → Prop}

theorem Completes.imp {service : Service α} {stronger : Except Failure α → Scene → Prop}
    (completes : service.Completes scene stronger)
    (weaken : ∀ result after, stronger result after → goal result after) :
    service.Completes scene goal :=
  Ensures.imp completes fun result after => Or.imp_right (weaken result after)

theorem completes_pure {value : α} (holds : goal (.ok value) scene) :
    Completes (pure value) scene goal :=
  ensures_pure (.inr holds)

theorem completes_bind {service : Service β} {next : β → Service α}
    (completes : service.Completes scene fun result after =>
      match result with
      | .ok value => (next value).Completes after goal
      | .error failure => goal (.error failure) after)
    (keeps : ∀ value, (next value).KeepsOver) : Completes (service >>= next) scene goal :=
  ensures_bind_unless (completes.imp fun result after continued => by cases result <;> exact continued)
    keeps

end

theorem keepsOver_modify {change : Scene → Scene}
    (same : ∀ scene, (change scene).situation.context = scene.situation.context ∧
      (change scene).situation.now = scene.situation.now) :
    KeepsOver (modify change : Service PUnit) := by
  intro scene late
  rcases late with ⟨moment, ends, past⟩
  exact ⟨moment, (same scene).1 ▸ ends, (same scene).2 ▸ past⟩

theorem keepsOver_note (events : List Event) : KeepsOver (note events) :=
  keepsOver_modify fun _ => ⟨rfl, rfl⟩

theorem keepsOver_drawSlug : KeepsOver drawSlug := fun _ late => late

/-- What a caller is told about the end of a unit of work. -/
def told (answered : StoreError → ServiceError × List Event) : Except Stop α → Except Failure α
  | .ok value => .ok value
  | .error (.crash text) => .error (.crash (some text))
  | .error (.error error) => .error (.error (answered error).1)

variable {work : Work α} {answered : StoreError → ServiceError × List Event}

theorem ensures_transact_told {goal : Except Stop α → Situation Database → Prop} {scene : Scene}
    (ensured : Ensures (Database.transact scene.policy work) scene.situation goal)
    (unlogged : ∀ result situation log, goal result situation → goal result { situation with log }) :
    Ensures (transact work answered) scene fun result after => ∃ ended,
      result = told answered ended ∧ goal ended after.situation ∧
        after = { scene with situation := after.situation } := by
  unfold Ensures at ensured
  apply ensures_get_bind
  cases ran : (Database.transact scene.policy work).run.run scene.situation with
  | mk result situation =>
      rw [ran] at ensured
      dsimp only
      apply ensures_set_bind
      rcases result with (error | text) | value
      · exact ensures_modify_bind
          (ensures_throw ⟨_, rfl, unlogged _ situation _ ensured, rfl⟩)
      · exact ensures_throw ⟨_, rfl, ensured, rfl⟩
      · exact ensures_pure ⟨_, rfl, ensured, rfl⟩

theorem keepsOver_transact : KeepsOver (transact work answered) := by
  intro scene late
  have kept : (Database.transact scene.policy work).KeepsOver :=
    keep_isOver.attemptsFrom work.keepsOver_send _ _
  exact (ensures_transact_told (kept scene.situation late) fun _ _ _ late => late).imp
    fun _ _ ⟨_, _, late, _⟩ => late

/-- For a client who never stops waiting, a unit of work ends with its calls completed. -/
theorem Completes.ensures_transact {goal : Except Failure α → Scene → Prop} {scene : Scene}
    (completes : (transact work answered).Completes scene goal)
    (endless : scene.situation.IsEndless) : Ensures (transact work answered) scene goal := by
  have kept := Database.preserves_isEndless_transact scene.policy work scene.situation endless
  have stays : Ensures (transact work answered) scene fun _ after => after.situation.IsEndless :=
    (ensures_transact_told kept fun _ _ _ endless => endless).imp fun _ _ ⟨_, _, endless, _⟩ => endless
  exact completes.resolve_left stays.not_isOver

theorem completes_transact {goal : Except Stop α → Database → Prop} {scene : Scene}
    (completes : (Database.transact scene.policy work).Completes scene.situation.store goal) :
    (transact work answered).Completes scene fun result after => ∃ ended,
      result = told answered ended ∧ goal ended after.situation.store ∧
        after = { scene with situation := after.situation } := by
  have ensured := completes scene.situation rfl
  apply (ensures_transact_told ensured fun _ _ _ ended => ended).imp
  rintro result after ⟨ended, equal, late | holds, scenery⟩
  · exact .inl late
  · exact .inr ⟨ended, equal, holds, scenery⟩

/-- Without faults a unit of work is one step. -/
theorem completes_transact_calm {scene : Scene} (calm : scene.IsCalm)
    (final : ∀ now error, work.run now scene.situation.store.tables = .error error →
      error.retryable = false) :
    (transact work answered).Completes scene fun result after =>
      after.IsCalm ∧ after = { scene with situation := after.situation } ∧
        match work.run after.situation.store.clock scene.situation.store.tables with
        | .error error =>
          result = .error (.error (answered error).1) ∧
            after.situation.store.tables = scene.situation.store.tables
        | .ok (value, tables) => result = .ok value ∧ after.situation.store.tables = tables := by
  refine (completes_transact (Database.completes_transact_calm _ _ calm.isOpen calm.solitary
    calm.spent final)).imp ?_
  rintro result after ⟨ended, rfl, settles, scenery⟩
  have alone := scene.situation.store.advances_resumed.alone calm.solitary
  have stays : ∀ {tables}, scene.situation.store.resumed.Becomes tables
      scene.situation.store.faults after.situation.store → after.IsCalm := fun becomes => {
    isOpen := by
      rcases scene.situation.store.resumed_eq with ⟨clock, tables, interludes, equal⟩
      rw [becomes.isClosed, equal]
      exact calm.isOpen
    spent := becomes.faults ▸ calm.spent
    solitary := becomes.solitary alone }
  unfold Database.Settles at settles
  cases ran : work.run after.situation.store.clock scene.situation.store.tables with
  | error error =>
      rw [ran] at settles
      rcases settles with ⟨rfl, becomes⟩
      exact ⟨stays becomes, scenery, rfl, becomes.tables⟩
  | ok outcome =>
      rw [ran] at settles
      rcases settles with ⟨rfl, becomes⟩
      exact ⟨stays becomes, scenery, rfl, becomes.tables⟩

end Service

end LinkShortener
