import LinkShortener.Proofs.Service.Resemblance
import LinkShortener.Proofs.Store.Secrecy

/-! # Registrations with different passwords

Two registrations that differ in the password only, each with a hasher of its own, on scenes whose stores
are twins. They are refused alike, go the same way through the store, and have the same user to show.
-/

namespace LinkShortener

open Retry

/-! ## What is entered -/

/-- Two registrations that keep the rules for passwords and are the same otherwise. -/
structure Registration.DiffersInPassword (own other : Registration) : Prop where
  username : other.username = own.username
  email : other.email = own.email
  password : own.passwordProblems = [] ∧ other.passwordProblems = []
  confirmation : own.confirmationProblems = [] ∧ other.confirmationProblems = []

/-- A password that is kept to the rules is no reason to refuse a registration, and no detail of why it
is refused. -/
theorem Registration.DiffersInPassword.validate {own other : Registration}
    (differs : own.DiffersInPassword other) : other.validate = own.validate := by
  have usernames : other.usernameProblems = own.usernameProblems := by
    rw [usernameProblems, usernameProblems, differs.username]
  have emails : other.emailProblems = own.emailProblems := by
    rw [emailProblems, emailProblems, differs.email]
  have problems : other.problems = own.problems := by
    rw [Registration.problems, Registration.problems, usernames, emails, differs.password.1,
      differs.password.2, differs.confirmation.1, differs.confirmation.2]
  rw [Registration.validate, Registration.validate, problems]

/-- A hasher that makes a hash of a password which the store can hold. -/
structure Password.Makes (hasher : Password.Hasher) (password hash : String) : Prop where
  hashed : hasher password = .ok hash
  storable : IsStorable hash

/-! ## Scenes -/

namespace Scene

/-- The scene with another hasher and another store. -/
def holding (scene : Scene) (hasher : Password.Hasher) (store : Database) : Scene :=
  { scene with hasher, situation := scene.situation.on store }

/-- The same scene but for the hasher, over a twin of its store. -/
inductive Twins (related : Tables → Tables → Prop) (scene : Scene) : Scene → Prop where
  | intro (hasher : Password.Hasher) (store : Database)
      (twins : scene.situation.store.RestTwins related store) :
      Twins related scene (scene.holding hasher store)

end Scene

namespace Service

variable {α : Type} {related : Tables → Tables → Prop}

/-- A computation that has nothing to do with the hasher and the store. -/
def IsAloof (service : Service α) : Prop :=
  ∀ scene hasher store, service.run.run (scene.holding hasher store) =
    ((service.run.run scene).1, (service.run.run scene).2.holding hasher store)

theorem IsAloof.respects {service : Service α} (aloof : service.IsAloof) :
    Respects (Scene.Twins related) service := by
  rintro first _ ⟨hasher, store, twins⟩
  have left : (service.run.run first).2.situation.store = first.situation.store :=
    congrArg (fun ended => ended.2.situation.store)
      (aloof first first.hasher first.situation.store)
  unfold Agree Ensures
  rw [aloof first hasher store]
  refine ⟨rfl, .intro hasher store ?_⟩
  rw [left]
  exact twins

theorem respects_note (events : List Event) : Respects (Scene.Twins related) (note events) :=
  IsAloof.respects fun _ _ _ => rfl

/-- Two ends of a computation on twins: related values or the same failure, and twins again. -/
def EndsTwin (related : Tables → Tables → Prop) (values : α → α → Prop)
    (result other : Except Failure α) (after otherAfter : Scene) : Prop :=
  (match result, other with
    | .ok value, .ok otherValue => values value otherValue
    | .error failure, .error otherFailure => otherFailure = failure
    | .ok _, .error _ => False
    | .error _, .ok _ => False) ∧ after.Twins related otherAfter

theorem Respects.endsTwin {service : Service α}
    (respects : Respects (Scene.Twins related) service) {first second : Scene}
    (twins : first.Twins related second) :
    Couple service service first second (EndsTwin related Eq) := by
  refine Couple.imp (respects first second twins) ?_
  rintro result otherResult after otherAfter ⟨rfl, still⟩
  cases otherResult with
  | ok value => exact ⟨rfl, still⟩
  | error failure => exact ⟨rfl, still⟩

theorem agree_of_endsTwin {service other : Service α} {first second : Scene}
    (couple : Couple service other first second (EndsTwin related Eq)) :
    Agree service other first second fun _ => Scene.Twins related := by
  refine Couple.imp couple ?_
  rintro (failure | value) (otherFailure | otherValue) after otherAfter ⟨ended, still⟩
  · exact ⟨congrArg Except.error ended, still⟩
  · exact ended.elim
  · exact ended.elim
  · exact ⟨congrArg Except.ok ended.symm, still⟩

theorem couple_bind_twin {β : Type} {values : α → α → Prop} {returns : β → β → Prop}
    {service other : Service β} {next otherNext : β → Service α} {first second : Scene}
    (couple : Couple service other first second (EndsTwin related returns))
    (following : ∀ value otherValue after otherAfter, returns value otherValue →
      after.Twins related otherAfter →
        Couple (next value) (otherNext otherValue) after otherAfter (EndsTwin related values)) :
    Couple (service >>= next) (other >>= otherNext) first second (EndsTwin related values) := by
  refine couple_bind (couple.imp ?_)
  rintro result otherResult after otherAfter ⟨ended, still⟩
  cases result with
  | ok value =>
      cases otherResult with
      | ok otherValue => exact following value otherValue after otherAfter ended still
      | error failure => exact ended
  | error failure =>
      cases otherResult with
      | ok otherValue => exact ended
      | error otherFailure => exact ⟨ended, still⟩

/-- Work goes to the same end on twins if each single run of it does. -/
theorem couple_transact {values : α → α → Prop} {work otherWork : Work α} {first second : Scene}
    (answered : StoreError → ServiceError × List Event)
    (worked : ∀ first second, first.WorkTwins related second →
      Run.Likens .none values work.send otherWork.send (Database.WorkTwins related) first second)
    (twins : first.Twins related second) :
    Couple (transact work answered) (transact otherWork answered) first second
      (EndsTwin related values) := by
  rcases twins with ⟨hasher, store, twins⟩
  have coupled := Database.RestTwins.likens_transact first.policy worked twins first.situation
    first.situation ⟨rfl, rfl, rfl, rfl⟩
  apply couple_get_bind
  dsimp only [Scene.holding]
  unfold Couple Ensures at coupled
  rw [show first.situation.on first.situation.store = first.situation from rfl] at coupled
  generalize (Database.transact first.policy work).run.run first.situation = own at coupled ⊢
  generalize (Database.transact first.policy otherWork).run.run (first.situation.on store) = other
    at coupled ⊢
  rcases own with ⟨result, situation⟩
  rcases other with ⟨otherResult, ⟨left, now, context, ties, log⟩⟩
  rcases coupled with ⟨⟨rfl, rfl, rfl, rfl⟩, likens, still⟩
  apply couple_set_bind
  cases likens with
  | ok alike => exact couple_pure ⟨alike, .intro hasher left still⟩
  | crash text => exact couple_throw ⟨rfl, .intro hasher left still⟩
  | error same =>
      cases same
      exact couple_modify_bind (couple_throw ⟨rfl, .intro hasher left still⟩)

/-- The user that two registrations lead to looks the same, whatever the passwords. -/
theorem couple_createUser {first second : Scene} {own other : Registration} {hash otherHash : String}
    {users : List User} (key : IdempotencyKey) (differs : own.DiffersInPassword other)
    (makes : Password.Makes first.hasher own.password hash)
    (otherMakes : Password.Makes second.hasher other.password otherHash)
    (twins : first.Twins (Tables.Twins users ⟨first.ids.draw.1, own.username, own.email, hash⟩
      otherHash) second) :
    Couple (createUser key own) (createUser key other) first second
      (EndsTwin (Tables.Twins users ⟨first.ids.draw.1, own.username, own.email, hash⟩ otherHash)
        Creation.DiffersInHash) := by
  rcases twins with ⟨hasher, store, twins⟩
  unfold createUser
  rw [differs.validate, differs.username, differs.email]
  cases own.validate with
  | error error => exact couple_bind (couple_throw ⟨rfl, .intro hasher store twins⟩)
  | ok _ =>
      apply couple_bind
      apply couple_get_bind
      rw [makes.hashed, otherMakes.hashed]
      refine couple_pure (couple_bind (couple_get_bind (couple_set_bind (couple_pure ?_))))
      refine couple_bind_twin (couple_transact _ (fun _ _ twins => Work.likens_createUser _
        makes.storable otherMakes.storable twins) (.intro hasher store twins)) ?_
      intro creation other after otherAfter alike still
      rw [alike.id, alike.isReplay]
      refine couple_bind_twin ((respects_note _).endsTwin still) fun _ _ after otherAfter _ still => ?_
      exact couple_pure ⟨alike, still⟩

end Service

end LinkShortener
