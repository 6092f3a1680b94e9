import LinkShortener.Proofs.Service.Resemblance
import LinkShortener.Proofs.Store.Discretion

/-! # Services that keep errors to themselves

Two scenes whose stores are struck by errors of the same kinds, which may read in any way, and whose logs
may differ. Nothing that is done for a client tells them apart.
-/

namespace LinkShortener

open Retry

variable {seen : Option String → Option String}

/-! ## Answers -/

namespace StoreError

variable {error other : StoreError}

theorem Kind.seen_eq {first second : Kind} (same : second.seen seen = first.seen seen) :
    second = first ∨ ∃ constraint otherConstraint, first = .uniqueViolation constraint ∧
      second = .uniqueViolation otherConstraint ∧ seen otherConstraint = seen constraint := by
  cases first <;> cases second <;> simp_all [Kind.seen]

/-- The name of the constraint does not matter to an answer about a short URL. -/
theorem Resembles.answeredForShortUrl (alike : error.Resembles seen other) :
    other.answeredForShortUrl.1 = error.answeredForShortUrl.1 := by
  rcases error with ⟨kind, retryable, message⟩
  rcases other with ⟨otherKind, otherRetryable, otherMessage⟩
  rcases Kind.seen_eq alike.kind with same | ⟨constraint, otherConstraint, own, other, -⟩
  · dsimp only at same
    subst same
    cases otherKind <;> rfl
  · dsimp only at own other
    subst own other
    rfl

/-- Whether it is that on names, that on addresses, or neither, is all that matters to an answer about
a user. -/
theorem Resembles.answeredForUser
    (telling : ∀ {first second}, seen second = seen first → userField? second = userField? first)
    (alike : error.Resembles seen other) :
    other.answeredForUser.1 = error.answeredForUser.1 := by
  rcases error with ⟨kind, retryable, message⟩
  rcases other with ⟨otherKind, otherRetryable, otherMessage⟩
  rcases Kind.seen_eq alike.kind with same | ⟨constraint, otherConstraint, own, other, same⟩
  · dsimp only at same
    subst same
    cases otherKind <;> rfl
  · dsimp only at own other
    subst own other
    dsimp only [StoreError.answeredForUser]
    rw [telling same]

end StoreError

/-! ## Scenes -/

namespace Scene

def beside (scene : Scene) (store : Database) (log : List Event) : Scene :=
  { scene with situation := { scene.situation with store, log } }

/-- The same scene with a store that is struck alike, and with any log. -/
inductive Resembles (seen : Option String → Option String) (scene : Scene) : Scene → Prop where
  | intro (store : Database) (log : List Event)
      (alike : scene.situation.store.Resembles seen store) :
      Resembles seen scene (scene.beside store log)

end Scene

namespace Service

variable {α : Type}

/-- A computation to which store and log make no difference. It leaves the store, and may write to the
log. -/
def IsMute (service : Service α) : Prop :=
  ∀ scene store log, ∃ written, service.run.run (scene.beside store log) =
    ((service.run.run scene).1, (service.run.run scene).2.beside store written)

theorem IsMute.respects {service : Service α} (mute : service.IsMute) :
    Respects (Scene.Resembles seen) service := by
  rintro first _ ⟨store, log, alike⟩
  rcases mute first first.situation.store first.situation.log with ⟨own, ran⟩
  rcases mute first store log with ⟨written, otherRan⟩
  have left : (service.run.run first).2.situation.store = first.situation.store :=
    congrArg (fun ended => ended.2.situation.store) ran
  unfold Agree Ensures
  rw [otherRan]
  refine ⟨rfl, .intro store written ?_⟩
  rw [left]
  exact alike

theorem isMute_note (events : List Event) : IsMute (note events) := fun _ _ _ => ⟨_, rfl⟩

theorem isMute_startRequest (timeout : Duration) : IsMute (startRequest timeout) := by
  intro scene store log
  unfold startRequest
  cases timeout.fitsClock with
  | true => exact ⟨_, rfl⟩
  | false => exact ⟨_, rfl⟩

theorem respects_hashPassword (password : String) :
    Respects (Scene.Resembles seen) (hashPassword password) := by
  rintro first _ ⟨store, log, alike⟩
  apply agree_get_bind
  dsimp only [Scene.beside]
  rcases first.hasher password with (_ | _) | hash
  · exact agree_throw (.intro store log alike)
  · exact agree_modify_bind (agree_throw (.intro store _ alike))
  · exact agree_pure (.intro store log alike)

/-- Work comes to the same where answers do not tell errors of one kind apart. -/
theorem respects_transact {work : Work α} {answered : StoreError → ServiceError × List Event}
    (discreet : ∀ {error other : StoreError}, error.Resembles seen other →
      (answered other).1 = (answered error).1) :
    Respects (Scene.Resembles seen) (transact work answered) := by
  rintro first _ ⟨store, log, alike⟩
  have coupled := alike.relates_transact first.policy work first.situation
    { first.situation with log } ⟨rfl, rfl, rfl, trivial⟩
  apply agree_get_bind
  dsimp only [Scene.beside]
  unfold Couple Ensures at coupled
  dsimp only [Situation.on] at coupled
  generalize (Database.transact first.policy work).run.run first.situation = own at coupled ⊢
  generalize (Database.transact first.policy work).run.run
    { first.situation with store, log } = other at coupled ⊢
  rcases own with ⟨result, situation⟩
  rcases other with ⟨otherResult, ⟨left, now, context, ties, written⟩⟩
  rcases coupled with ⟨⟨rfl, rfl, rfl, -⟩, results, still⟩
  apply agree_set_bind
  cases results with
  | ok value => exact agree_pure (.intro left written still)
  | crash text => exact agree_throw (.intro left written still)
  | @error error other alike =>
      have refusal := discreet alike
      dsimp only
      generalize answered error = own at refusal ⊢
      generalize answered other = told at refusal ⊢
      rcases own with ⟨refused, events⟩
      rcases told with ⟨otherRefused, otherEvents⟩
      cases refusal
      exact agree_modify_bind (agree_throw (.intro left (written ++ otherEvents) still))

theorem isHidden_resembles : IsHidden (Scene.Resembles seen) where
  noting events := (isMute_note events).respects
  drawingId := IsMute.respects fun _ _ log => ⟨log, rfl⟩
  drawingSlug := IsMute.respects fun _ _ log => ⟨log, rfl⟩
  reading _ := IsMute.respects fun _ _ _ => ⟨_, rfl⟩
  remembering _ _ := IsMute.respects fun _ _ _ => ⟨_, rfl⟩
  starting timeout := (isMute_startRequest timeout).respects
  finding _ := respects_transact StoreError.Resembles.answeredForShortUrl
  storing _ _ := respects_transact StoreError.Resembles.answeredForShortUrl

theorem isHidden_resembles_telling
    (telling : ∀ {first second}, seen second = seen first →
      StoreError.userField? second = StoreError.userField? first) :
    IsHiddenFromUsers (Scene.Resembles seen) where
  toIsHidden := isHidden_resembles
  hashing := respects_hashPassword
  registering _ _ := respects_transact (StoreError.Resembles.answeredForUser telling)

end Service

end LinkShortener
