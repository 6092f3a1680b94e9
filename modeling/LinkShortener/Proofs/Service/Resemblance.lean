import LinkShortener.Proofs.Retry.Agreement
import LinkShortener.Proofs.Service.Creation

/-! # Scenes that a client cannot tell apart

A relation of scenes is hidden from the clients of a service if each single step of the service returns
the same on related scenes and leaves related scenes. Then all that is done for a client does.
-/

namespace LinkShortener.Service

variable {α β : Type} {related : Scene → Scene → Prop}

/-- A computation that returns the same on related scenes, and leaves related scenes. -/
def Respects (related : Scene → Scene → Prop) (service : Service α) : Prop :=
  ∀ first second, related first second → Agree service service first second fun _ => related

theorem respects_pure (value : α) : Respects related (pure value) :=
  fun _ _ alike => agree_pure alike

theorem respects_refuse (error : ServiceError) : Respects related (refuse error : Service α) :=
  fun _ _ alike => agree_throw alike

theorem Respects.bind {service : Service β} {next : β → Service α}
    (respects : Respects related service) (following : ∀ value, Respects related (next value)) :
    Respects related (service >>= next) := by
  intro first second alike
  apply agree_bind
  apply Agree.imp (respects first second alike)
  intro result after other still
  cases result with
  | ok value => exact following value after other still
  | error failure => exact still

theorem Respects.unless {service : Service α} (respects : Respects related service)
    (error : ServiceError) (unfit : Prop) [Decidable unfit] :
    Respects related (if unfit then refuse error >>= fun (_ : PUnit) => service else service) := by
  split
  · exact (respects_refuse _).bind fun _ => respects
  · exact respects

/-- The steps of everything but registrations respect a relation of scenes. -/
structure IsHidden (related : Scene → Scene → Prop) : Prop where
  noting (events : List Event) : Respects related (note events)
  drawingId : Respects related drawId
  drawingSlug : Respects related drawSlug
  reading (slug : String) : Respects related (cached slug)
  remembering (slug destination : String) : Respects related (remember slug destination)
  starting (timeout : Duration) : Respects related (startRequest timeout)
  finding (slug : String) : Respects related (findBySlug slug)
  storing (claim : Claim) (row : NewShortUrl) : Respects related (storeShortUrl claim row)

/-- So do those of registrations. -/
structure IsHiddenFromUsers (related : Scene → Scene → Prop) : Prop extends IsHidden related where
  hashing (password : String) : Respects related (hashPassword password)
  registering (claim : Claim) (row : NewUser) : Respects related (storeUser claim row)

namespace IsHidden

variable (hidden : IsHidden related)

include hidden

private theorem searchFree (attempts : Nat) :
    Respects related
      (searchFree drawSlug (fun slug => return (← findBySlug slug).isSome) attempts) := by
  induction attempts with
  | zero => exact respects_pure _
  | succ attempts induction =>
      refine hidden.drawingSlug.bind fun candidate => ?_
      refine ((hidden.finding candidate).bind fun found => respects_pure _).bind fun taken => ?_
      cases taken with
      | true => exact induction
      | false => exact respects_pure _

theorem freeSlug : Respects related freeSlug := by
  refine (hidden.searchFree slugAttempts).bind fun found => ?_
  cases found with
  | some slug => exact respects_pure _
  | none => exact (hidden.noting _).bind fun _ => respects_refuse _

theorem resolveSlug (slug : String) : Respects related (resolveSlug slug) := by
  apply Respects.unless
  refine (hidden.finding slug).bind fun found => ?_
  cases found with
  | some shortUrl => exact respects_pure _
  | none => exact respects_refuse _

theorem createShortUrl (key : IdempotencyKey) (destination : String) :
    Respects related (createShortUrl key destination) := by
  apply Respects.unless
  refine hidden.drawingId.bind fun id => hidden.freeSlug.bind fun slug => ?_
  refine (hidden.storing _ _).bind fun creation => ?_
  cases creation with
  | created row => exact (hidden.noting _).bind fun _ => respects_pure _
  | replayed row => exact (hidden.noting _).bind fun _ => respects_pure _

end IsHidden

namespace IsHiddenFromUsers

variable (hidden : IsHiddenFromUsers related)

include hidden

theorem createUser (key : IdempotencyKey) (registration : Registration) :
    Respects related (createUser key registration) := by
  have created : Respects related (do
      let passwordHash ← hashPassword registration.password
      let id ← drawId
      let creation ← storeUser
        ⟨key, Fingerprint.user registration.username registration.email⟩
        ⟨id, registration.username, registration.email, passwordHash⟩
      note [.userHandled creation.row.id creation.isReplay]
      return creation) := by
    refine (hidden.hashing _).bind fun passwordHash => hidden.drawingId.bind fun id => ?_
    refine (hidden.registering _ _).bind fun creation => ?_
    exact (hidden.noting _).bind fun _ => respects_pure _
  unfold Service.createUser
  cases registration.validate with
  | error error => exact (respects_refuse _).bind fun _ => created
  | ok _ => exact created

theorem create (key : IdempotencyKey) (submission : Submission) :
    Respects related (create key submission) := by
  cases submission with
  | shortUrl destination =>
      exact (hidden.toIsHidden.createShortUrl key destination).bind fun _ => respects_pure _
  | user registration =>
      exact (hidden.createUser key registration).bind fun _ => respects_pure _

end IsHiddenFromUsers

end LinkShortener.Service
