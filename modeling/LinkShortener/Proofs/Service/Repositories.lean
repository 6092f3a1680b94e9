import LinkShortener.Proofs.Service.Settlement

/-! # Calls of the repositories

What the services ask of the store: to create a row of either table at most once for each key, or to
find a short URL. Each call is one unit of work in a transaction of its own, with retries.
-/

namespace LinkShortener

inductive RepositoryCall : Type → Type where
  | createShortUrl (claim : Claim) (row : NewShortUrl) : RepositoryCall (Creation ShortUrl)
  | createUser (claim : Claim) (row : NewUser) : RepositoryCall (Creation User)
  | findBySlug (slug : String) : RepositoryCall (Option ShortUrl)

namespace RepositoryCall

variable {α : Type}

def run : RepositoryCall α → Service α
  | .createShortUrl claim row => Service.storeShortUrl claim row
  | .createUser claim row => Service.storeUser claim row
  | .findBySlug slug => Service.findBySlug slug

def work : RepositoryCall α → Work α
  | .createShortUrl claim row => .createShortUrl claim row
  | .createUser claim row => .createUser claim row
  | .findBySlug slug => .findBySlug slug

def answered : RepositoryCall α → StoreError → ServiceError × List Event
  | .createShortUrl _ _ => StoreError.answeredForShortUrl
  | .createUser _ _ => StoreError.answeredForUser
  | .findBySlug _ => StoreError.answeredForShortUrl

theorem run_eq_transact (call : RepositoryCall α) :
    call.run = Service.transact call.work call.answered := by
  cases call <;> rfl

/-- No other attempt mends an error of the work itself. -/
theorem work_final (call : RepositoryCall α) {now : Instant} {tables : Tables} {error : StoreError}
    (failed : call.work.run now tables = .error error) : error.retryable = false := by
  cases call with
  | createShortUrl claim row =>
      exact Work.final_of_create (fun now tables => Work.run_createShortUrl claim row now tables) failed
  | createUser claim row =>
      exact Work.final_of_create (fun now tables => Work.run_createUser claim row now tables) failed
  | findBySlug slug =>
      rw [work, Work.findBySlug, Work.run_ask, Statement.run] at failed
      cases refused : (Statement.fetchShortUrlBySlug slug).unstorable? with
      | none => simp [refused, Statement.effect] at failed
      | some error =>
          rw [refused] at failed
          cases failed
          exact Tables.unstorable?_final refused

end RepositoryCall

end LinkShortener
