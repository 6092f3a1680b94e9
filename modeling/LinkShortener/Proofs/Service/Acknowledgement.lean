import LinkShortener.Proofs.Service.Calm
import LinkShortener.Proofs.Store.Soundness

/-! # Lost acknowledgements

A commit can take effect although the client is told that it failed. The next attempt then meets the
row that the client has stored itself, and the store refuses to store it again. So the creation
fails for good, and its row stays.
-/

namespace LinkShortener

open Retry

/-- The constraint that keeps the ids of a table unique. -/
def Row.Kind.primaryKey : Row.Kind → String
  | .shortUrl => "short_urls_pkey"
  | .user => "users_pkey"

def Row.Kind.idTaken (kind : Row.Kind) : StoreError :=
  (Statement.duplicate kind.primaryKey).classify

/-- What a client is told whose row has an id that is taken. -/
def Row.Kind.idRefusal : Row.Kind → ServiceError
  | .shortUrl =>
    .conflict "Slug is already in use, please retry" (.object [("field", .string "slug")])
  | .user =>
    .conflict "A user with that username or email already exists" (.object [("field", .null)])

/-- Every fault is a commit that takes effect and is reported as failed, in a way that another
attempt may mend. -/
def Fault.LoseAcknowledgements (faults : List Fault) : Prop :=
  ∀ fault ∈ faults, fault.statement = "commit" ∧
    ∃ report, fault.failure = .unacknowledged report ∧
      (DatabaseError.reported report).classify.retryable = true

namespace Fault

variable {faults rest : List Fault} {failure : Failure}

theorem LoseAcknowledgements.spare (lose : LoseAcknowledgements faults) :
    SpareAllButCommit faults :=
  fun fault member => .inl (lose fault member).1

theorem LoseAcknowledgements.of_next (lose : LoseAcknowledgements faults)
    (struck : next "commit" faults = (some failure, rest)) :
    failure.takesEffect = true ∧ failure.report.classify.retryable = true ∧
      1 ≤ (faults.map Fault.times).sum := by
  induction faults generalizing rest with
  | nil => cases struck
  | cons fault others induction =>
      rcases lose fault List.mem_cons_self with ⟨commit, report, failing, retryable⟩
      rw [next] at struck
      split at struck
      next strikes =>
        split at struck
        · cases struck
        · cases struck
          rw [failing]
          refine ⟨rfl, retryable, ?_⟩
          rw [List.map_cons, List.sum_cons]
          omega
      next passes =>
        cases later : next "commit" others with
        | mk other left =>
            rw [later] at struck
            cases struck
            have rest := fun other member => lose other (List.mem_cons_of_mem _ member)
            rcases induction rest later with ⟨effect, again, some⟩
            refine ⟨effect, again, ?_⟩
            rw [List.map_cons, List.sum_cons]
            omega

end Fault

namespace Tables

variable {tables after : Tables} {now : Instant} {claim : Claim} {row : NewRow} {stored : Row}

theorem refusal?_of_taken (storable : row.insertion.unstorable? = none)
    (taken : row.storedAt now ∈ tables.rows) :
    tables.refusal? row = some (Statement.duplicate row.kind.primaryKey) := by
  have parts := mem_rowsOf_iff.mpr ⟨taken, rfl⟩
  cases row with
  | shortUrl row =>
      rcases List.mem_map.mp parts with ⟨shortUrl, present, same⟩
      cases same
      have any : tables.shortUrls.any (·.id = row.id) = true :=
        List.any_eq_true.mpr ⟨_, present, by simp [shortUrlRow]⟩
      simp [refusal?, storable, conflict?, shortUrlConflict?, any, Row.Kind.primaryKey, NewRow.kind]
  | user row =>
      rcases List.mem_map.mp parts with ⟨user, present, same⟩
      cases same
      have any : tables.users.any (·.id = row.id) = true :=
        List.any_eq_true.mpr ⟨_, present, by simp [userRow]⟩
      simp [refusal?, storable, conflict?, userConflict?, any, Row.Kind.primaryKey, NewRow.kind]

/-- A row that was created under a claim cannot be created again, now or later. -/
theorem create_again (made : tables.create now claim row = .ok (.created stored, after))
    (later : Instant) : after.create later claim row = .error row.kind.idTaken := by
  have storable : (Statement.reserve claim row.id).unstorable? = none := by
    cases unstorable : (Statement.reserve claim row.id).unstorable? with
    | none => rfl
    | some error => simp [create, unstorable] at made
  have own : (∀ entry, after.ledger.find? claim.key.token = some entry →
      entry.referenceId = row.id) ∧ row.storedAt now ∈ after.rows ∧ tables.refusal? row = none := by
    cases creates_of_create made with
    | opened free accepted =>
        refine ⟨fun entry found => ?_, mem_rows_insert_iff.mpr (.inl rfl), accepted⟩
        rw [ledger_insert, show claim.key.token = (LedgerEntry.opened claim row.id now).token from rfl,
          Ledger.find?_put_self] at found
        cases found
        rfl
    | resumed entry live own accepted =>
        refine ⟨fun other found => ?_, mem_rows_insert_iff.mpr (.inl rfl), accepted⟩
        rw [ledger_insert, (Ledger.live?_eq_some_iff.mp live).1] at found
        cases found
        exact own
  rcases own with ⟨own, taken, accepted⟩
  have insertable : row.insertion.unstorable? = none := by
    rw [refusal?, Option.or_eq_none_iff] at accepted
    exact accepted.1
  have refused := refusal?_of_taken insertable taken
  cases live : after.ledger.live? claim.key.token later with
  | none =>
      rw [create_of_free storable live, refused]
      rfl
  | some entry =>
      rw [create_of_own storable live (own entry (Ledger.live?_eq_some_iff.mp live).1), refused]
      rfl

/-- A row with a fresh id is the only one with its id once it is created. -/
theorem sole_created (made : tables.create now claim row = .ok (.created stored, after))
    (fresh : ∀ other ∈ tables.rows, other.id ≠ row.id) :
    after.rows.filter (fun other => other.id = row.id) = [stored] := by
  have others : ∀ ledger, { tables with ledger : Tables }.rows.filter
      (fun other => other.id = row.id) = [] := by
    intro ledger
    rw [rows_ledger, List.filter_eq_nil_iff]
    exact fun other member => by simpa using fresh other member
  have sole : ∀ ledger, ({ tables with ledger }.insert (row.storedAt now)).rows.filter
      (fun other => other.id = row.id) = [row.storedAt now] := by
    intro ledger
    have inserted := (rows_insert_perm { tables with ledger } (row.storedAt now)).filter
      fun other => other.id = row.id
    rw [List.filter_cons_of_pos (by simp), others] at inserted
    exact List.perm_singleton.mp inserted
  cases creates_of_create made with
  | opened free accepted => exact sole _
  | resumed entry live own accepted => exact sole _

end Tables

/-- How a creation ends that an attempt without faults would have completed: as created where the
first commit is acknowledged, and otherwise with its id taken. -/
def Fault.creationEnd (policy : Policy) (kind : Row.Kind) (stored : Row) (faults : List Fault) :
    Except Stop (Creation Row) :=
  match (Fault.next "commit" faults).1, policy.backoff? 0 with
  | none, _ => .ok (.created stored)
  | some _, none => .error (.crash overflowText)
  | some _, some _ => .error (.error kind.idTaken)

namespace Database

variable {α : Type} {work : Work (Creation α)} {embed : α → Row} {policy : Policy}
  {database : Database} {claim : Claim} {row : NewRow} {stored : Row} {after : Tables}

private theorem completes_attempt_create
    (runs : ∀ now tables,
      (work.run now tables).map (Work.embedded embed) = tables.create now claim row)
    (calm : database.IsCalm) :
    (attempt transactions work.send).Completes database fun result last =>
      Ends database.resumed (database.resumed.tables.create database.resumed.clock claim row)
        (result.map (Creation.map embed)) last := by
  refine (completes_attempt work calm).imp fun result last ends => ?_
  rw [← runs]
  exact ends.map (Creation.map embed)

/-- No attempt follows one whose creation the tables refuse for good. -/
private theorem completes_attempts_refused
    (runs : ∀ now tables,
      (work.run now tables).map (Work.embedded embed) = tables.create now claim row)
    (calm : database.IsCalm) (solitary : database.IsSolitary) {error : StoreError}
    (refused : ∀ now, database.tables.create now claim row = .error error) (number more : Nat) :
    (Retry.attemptsFrom transactions policy work.send number (more + 1)).Completes database
      fun result last => last.tables = database.tables ∧ result = .error (.error error) := by
  refine completes_attemptsFrom work.keepsOver_send ((completes_attempt_create runs calm).imp ?_)
  intro result last ends
  rw [solitary.tables_resumed, refused] at ends
  rcases ends with ⟨same, becomes⟩
  have tables : last.tables = database.tables := becomes.tables.trans solitary.tables_resumed
  rcases result with (other | text) | value
  · cases same
    dsimp only
    rw [if_pos (Tables.create_final (refused database.clock))]
    exact ⟨tables, rfl⟩
  · cases same
  · cases same

private theorem completes_unacknowledged
    (runs : ∀ now tables,
      (work.run now tables).map (Work.embedded embed) = tables.create now claim row)
    (isOpen : database.isClosed = false) (solitary : database.IsSolitary)
    (lose : Fault.LoseAcknowledgements database.faults)
    (few : (database.faults.map Fault.times).sum < policy.maxAttempts)
    (created : database.tables.create database.resumed.clock claim row =
      .ok (.created stored, after)) :
    (transact policy work).Completes database fun result last => last.tables = after ∧
      result.map (Creation.map embed) =
        Fault.creationEnd policy row.kind stored database.faults := by
  have calm : database.IsCalm := ⟨isOpen, lose.spare⟩
  have alone := database.advances_resumed.alone solitary
  rcases policy.maxAttempts_eq_succ with ⟨more, budget⟩
  rw [transact, execute, budget]
  refine completes_attemptsFrom work.keepsOver_send ((completes_attempt_create runs calm).imp ?_)
  intro result middle ends
  rw [solitary.tables_resumed, created] at ends
  unfold Ends at ends
  dsimp only at ends
  rw [faults_resumed] at ends
  unfold Fault.creationEnd
  cases failing : Fault.next "commit" database.faults with
  | mk failure faults =>
      rw [failing] at ends
      cases failure with
      | none =>
          rcases ends with ⟨same, becomes⟩
          cases result with
          | error stop => cases same
          | ok value => exact ⟨becomes.tables, same⟩
      | some failure =>
          rcases lose.of_next failing with ⟨effect, retryable, strikes⟩
          rcases ends with ⟨same, becomes⟩
          rw [if_pos effect] at becomes
          rcases result with (error | text) | value
          · cases same
            dsimp only
            rw [if_neg (by rw [retryable]; decide), if_neg (by omega)]
            cases policy.backoff? 0 with
            | none => exact ⟨becomes.tables, rfl⟩
            | some wait =>
                -- The next attempt meets the row that this one has stored.
                obtain ⟨fewer, rfl⟩ : ∃ fewer, more = fewer + 1 := ⟨more - 1, by omega⟩
                have spare : Fault.SpareAllButCommit faults := by
                  have left := Fault.spare_next lose.spare
                  rwa [failing] at left
                have refused : ∀ now, middle.tables.create now claim row =
                    .error row.kind.idTaken := becomes.tables ▸ Tables.create_again created
                refine (completes_attempts_refused runs (becomes.isCalm calm.resumed spare)
                  (becomes.solitary alone) refused 1 fewer).imp ?_
                rintro result last ⟨stays, rfl⟩
                exact ⟨stays.trans becomes.tables, rfl⟩
          · cases same
          · cases same

end Database

namespace Service

def store (claim : Claim) : NewRow → Service (Creation Row)
  | .shortUrl row => return (← storeShortUrl claim row).map .shortUrl
  | .user row => return (← storeUser claim row).map .user

variable {scene : Scene} {claim : Claim} {row : NewRow} {stored : Row} {after : Tables}

private theorem completes_store {α : Type} {work : Work (Creation α)} {embed : α → Row}
    (answered : StoreError → ServiceError × List Event)
    (runs : ∀ now tables,
      (work.run now tables).map (Work.embedded embed) = tables.create now claim row)
    (isOpen : scene.situation.store.isClosed = false)
    (solitary : scene.situation.store.IsSolitary)
    (lose : Fault.LoseAcknowledgements scene.situation.store.faults)
    (few : (scene.situation.store.faults.map Fault.times).sum < scene.policy.maxAttempts)
    (created : scene.situation.store.tables.create scene.situation.store.resumed.clock claim row =
      .ok (.created stored, after)) :
    Completes (return (← transact work answered).map embed) scene fun result last =>
      last.situation.store.tables = after ∧ result = told answered
        (Fault.creationEnd scene.policy row.kind stored scene.situation.store.faults) := by
  refine completes_bind ((completes_transact (Database.completes_unacknowledged runs isOpen solitary
    lose few created)).imp ?_) fun _ => preserves_pure _
  rintro result last ⟨ended, rfl, ⟨stays, same⟩, -⟩
  rw [← same]
  rcases ended with (error | text) | value
  · exact ⟨stays, rfl⟩
  · exact ⟨stays, rfl⟩
  · exact completes_pure ⟨stays, rfl⟩

/-- Exactly where the first commit is acknowledged, the row of a creation is returned. Where it takes
effect and is reported as failed, the caller is refused, although the row is stored, once. -/
theorem store_unacknowledged (isOpen : scene.situation.store.isClosed = false)
    (solitary : scene.situation.store.IsSolitary)
    (lose : Fault.LoseAcknowledgements scene.situation.store.faults)
    (few : (scene.situation.store.faults.map Fault.times).sum < scene.policy.maxAttempts)
    (fresh : ∀ other ∈ scene.situation.store.tables.rows, other.id ≠ row.id)
    (created : scene.situation.store.tables.create scene.situation.store.resumed.clock claim row =
      .ok (.created stored, after)) :
    (store claim row).Completes scene fun result last =>
      last.situation.store.tables = after ∧
        after.rows.filter (fun other => other.id = row.id) = [stored] ∧
        result = match (Fault.next "commit" scene.situation.store.faults).1,
            scene.policy.backoff? 0 with
          | none, _ => .ok (.created stored)
          | some _, none => .error (.crash (some overflowText))
          | some _, some _ => .error (.error row.kind.idRefusal) := by
  have sole := Tables.sole_created created fresh
  cases row with
  | shortUrl row =>
      refine (completes_store StoreError.answeredForShortUrl
        (fun now tables => Work.run_createShortUrl claim row now tables) isOpen solitary lose few
        created).imp ?_
      rintro result last ⟨stays, rfl⟩
      refine ⟨stays, sole, ?_⟩
      unfold Fault.creationEnd
      split <;> rfl
  | user row =>
      refine (completes_store StoreError.answeredForUser
        (fun now tables => Work.run_createUser claim row now tables) isOpen solitary lose few
        created).imp ?_
      rintro result last ⟨stays, rfl⟩
      refine ⟨stays, sole, ?_⟩
      unfold Fault.creationEnd
      split <;> rfl

/-- A scene in which one commit takes effect and is reported as failed. -/
def unheard : Scene :=
  let situation := Scene.calm.situation
  let report : ServerReport := ⟨some "08006", "connection failure", none, false⟩
  { Scene.calm with
    situation := { situation with
      store := { situation.store with faults := [⟨"commit", .unacknowledged report, 1, 0⟩] } } }

def unheardClaim : Claim := ⟨⟨.ofDigit 2⟩, "hash"⟩

def unheardRow : NewRow := .shortUrl ⟨.ofDigit 1, "https://example.com", "abcd"⟩

def unheardTables : Tables where
  shortUrls := [⟨.ofDigit 1, "https://example.com", "abcd", ⟨0, 0⟩⟩]
  users := []
  ledger := [.opened unheardClaim unheardRow.id ⟨0, 0⟩]

private theorem lose_unheard : Fault.LoseAcknowledgements unheard.situation.store.faults := by
  intro fault member
  cases List.mem_singleton.mp member
  exact ⟨rfl, _, rfl, by decide⟩

private theorem created_unheard :
    unheard.situation.store.tables.create unheard.situation.store.resumed.clock unheardClaim
      unheardRow = .ok (.created (unheardRow.storedAt ⟨0, 0⟩), unheardTables) := rfl

theorem store_unacknowledged_unheard :
    (store unheardClaim unheardRow).Completes unheard fun result last =>
      last.situation.store.tables = unheardTables ∧
        unheardTables.rows.filter (fun other => other.id = unheardRow.id) =
          [unheardRow.storedAt ⟨0, 0⟩] ∧
        result = .error (.error (Row.Kind.idRefusal .shortUrl)) :=
  store_unacknowledged rfl nofun lose_unheard (by decide) nofun created_unheard

/-- An unacknowledged commit is not made good by the next attempt. -/
theorem store_unacknowledged_not_ok :
    ¬ ∀ (scene : Scene) (claim : Claim) (row : NewRow) (stored : Row) (after : Tables),
      scene.situation.store.isClosed = false → scene.situation.store.IsSolitary →
      Fault.LoseAcknowledgements scene.situation.store.faults →
      (scene.situation.store.faults.map Fault.times).sum < scene.policy.maxAttempts →
      (∀ other ∈ scene.situation.store.tables.rows, other.id ≠ row.id) →
      scene.situation.store.tables.create scene.situation.store.resumed.clock claim row =
        .ok (.created stored, after) →
      (store claim row).Completes scene fun result _ => ∃ creation, result = .ok creation := by
  intro absorbed
  have waiting : ((store unheardClaim unheardRow).run.run unheard).2.situation.context.endsAt =
      none := by decide +kernel
  have refused : ((store unheardClaim unheardRow).run.run unheard).1.isOk = false := by
    decide +kernel
  rcases absorbed unheard unheardClaim unheardRow _ _ rfl nofun lose_unheard (by decide) nofun
    created_unheard with ⟨moment, ends, -⟩ | ⟨creation, returned⟩
  · rw [waiting] at ends
    cases ends
  · rw [returned] at refused
    cases refused

end Service

end LinkShortener
