import LinkShortener.Proofs.Service.Repositories
import LinkShortener.Proofs.Service.Resemblance
import LinkShortener.Proofs.Store.Likeness

/-! # Services side by side

Two scenes that differ in the expired entries of their stores only. Nothing that is done for a client
tells them apart.
-/

namespace LinkShortener

open Retry

namespace Scene

def on (scene : Scene) (store : Database) : Scene :=
  { scene with situation := scene.situation.on store }

structure Alike (first second : Scene) : Prop where
  same : second = first.on second.situation.store
  store : first.situation.store.Alike second.situation.store

end Scene

namespace Service

variable {α β : Type}

/-- A computation that returns the same on scenes that differ in expired entries only, and leaves such
scenes. -/
def Agrees (service : Service α) : Prop :=
  ∀ first second : Scene, first.Alike second →
    Agree service service first second fun _ => Scene.Alike

/-! ## Without the store -/

/-- A computation to which the store makes no difference and which leaves it. -/
def IsDetached (service : Service α) : Prop :=
  ∀ scene store, service.run.run (scene.on store) =
    ((service.run.run scene).1, (service.run.run scene).2.on store)

theorem IsDetached.agrees {service : Service α} (detached : service.IsDetached) :
    service.Agrees := by
  rintro first second ⟨same, store⟩
  have own : service.run.run first = ((service.run.run first).1,
    (service.run.run first).2.on first.situation.store) := detached first first.situation.store
  have other : service.run.run second = ((service.run.run first).1,
      (service.run.run first).2.on second.situation.store) := by
    rw [same]
    exact detached first second.situation.store
  unfold Agree Ensures
  rw [other]
  refine ⟨rfl, rfl, ?_⟩
  rw [own]
  exact store

theorem agrees_note (events : List Event) : Agrees (note events) :=
  IsDetached.agrees fun _ _ => rfl

theorem agrees_drawId : Agrees drawId := IsDetached.agrees fun _ _ => rfl

theorem agrees_drawSlug : Agrees drawSlug := IsDetached.agrees fun _ _ => rfl

theorem agrees_hashPassword (password : String) : Agrees (hashPassword password) := by
  intro first second alike
  have hasher : second.hasher = first.hasher := by
    rw [alike.same]
    rfl
  apply agree_get_bind
  rw [hasher]
  rcases first.hasher password with (_ | _) | hash
  · exact agree_throw alike
  · exact Respects.bind (agrees_note _) (fun _ => respects_refuse _) first second alike
  · exact agree_pure alike

theorem agrees_cached (slug : String) : Agrees (cached slug) := IsDetached.agrees fun _ _ => rfl

theorem agrees_remember (slug destination : String) : Agrees (remember slug destination) :=
  IsDetached.agrees fun _ _ => rfl

theorem agrees_startRequest (timeout : Duration) : Agrees (startRequest timeout) := by
  apply IsDetached.agrees
  intro scene store
  unfold startRequest
  cases timeout.fitsClock with
  | true => rfl
  | false => rfl

/-! ## With the store -/

/-- Work that is blind to expired entries returns the same. -/
theorem agrees_transact {work : Work α} (blind : work.IsBlind)
    (answered : StoreError → ServiceError × List Event) : Agrees (transact work answered) := by
  rintro first second ⟨same, store⟩
  have agree := (Database.relates_transact first.policy blind store).agree first.situation
  generalize second.situation.store = other at same agree
  subst same
  apply agree_get_bind
  dsimp only [Scene.on]
  cases ran : (Database.transact first.policy work).run.run first.situation with
  | mk result situation =>
      cases otherRan :
          (Database.transact first.policy work).run.run (first.situation.on other) with
      | mk otherResult otherSituation =>
          unfold Agree Ensures at agree
          rw [show first.situation.on first.situation.store = first.situation from rfl, ran,
            otherRan] at agree
          rcases agree with ⟨returned, same, still⟩
          dsimp only at returned same still
          generalize otherSituation.store = left at same still
          subst returned same
          apply agree_set_bind
          rcases otherResult with (error | text) | value
          · exact agree_modify_bind (agree_throw ⟨rfl, still⟩)
          · exact agree_throw ⟨rfl, still⟩
          · exact agree_pure ⟨rfl, still⟩

/-- So does a statement that is. -/
theorem agrees_ask {statement : Statement} (blind : statement.IsBlind) : Agrees (ask statement) := by
  rintro first second ⟨same, store⟩
  have answered := store.asked blind
  generalize second.situation.store = other at same answered
  subst same
  apply agree_get_bind
  dsimp only [Scene.on, Situation.on]
  cases asked : first.situation.store.queryAlone statement with
  | mk outcome database =>
      cases otherAsked : other.queryAlone statement with
      | mk otherOutcome otherDatabase =>
          rw [asked, otherAsked] at answered
          rcases answered with ⟨returned, still⟩
          dsimp only at returned still
          subst returned
          apply agree_set_bind
          apply agree_pure
          exact ⟨rfl, still⟩

theorem agrees_findBySlug (slug : String) : Agrees (findBySlug slug) :=
  agrees_transact (Work.isBlind_findBySlug slug) _

theorem isHidden_alike : IsHiddenFromUsers Scene.Alike where
  noting := agrees_note
  drawingId := agrees_drawId
  drawingSlug := agrees_drawSlug
  reading := agrees_cached
  remembering := agrees_remember
  starting := agrees_startRequest
  finding := agrees_findBySlug
  storing _ _ := agrees_transact (Work.isBlind_createShortUrl _ _) _
  hashing := agrees_hashPassword
  registering _ _ := agrees_transact (Work.isBlind_createUser _ _) _

end Service

theorem RepositoryCall.agrees_run {α : Type} (call : RepositoryCall α) : call.run.Agrees := by
  cases call with
  | createShortUrl claim row => exact Service.isHidden_alike.storing claim row
  | createUser claim row => exact Service.isHidden_alike.registering claim row
  | findBySlug slug => exact Service.agrees_findBySlug slug

end LinkShortener
