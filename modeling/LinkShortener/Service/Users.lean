import LinkShortener.Fingerprint
import LinkShortener.Registration
import LinkShortener.Service.Scene

/-!
# Users as a service

Registers a user at most once for each idempotency key. The password is not part of what identifies
the request.
-/

namespace LinkShortener.Service

/-- Stores a user under a claim, or finds the one that is stored under it. -/
def storeUser (claim : Claim) (row : NewUser) : Service (Creation User) :=
  transact (Work.createUser claim row) StoreError.answeredForUser

/-- Registers a user, or returns the account that an earlier request with the key created. -/
def createUser (key : IdempotencyKey) (registration : Registration) : Service (Creation User) := do
  match registration.validate with
  | .error error => refuse error
  | .ok () => pure ()
  let passwordHash ← hashPassword registration.password
  let id ← drawId
  let creation ← storeUser
    ⟨key, Fingerprint.user registration.username registration.email⟩
    ⟨id, registration.username, registration.email, passwordHash⟩
  note [.userHandled creation.row.id creation.isReplay]
  return creation

end LinkShortener.Service
