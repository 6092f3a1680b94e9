import LinkShortener.Proofs.Ledger.Reservation
import LinkShortener.Proofs.Store.Rows
import LinkShortener.Store.Work

/-! # Creations as one step

What the unit of work of a creation does to the tables, for both paths at once. It ends in one of
two ways: its row and its entry are stored together, or the row of the live entry is returned and
nothing changes. If it fails, it changes nothing.
-/

namespace LinkShortener

namespace Tables

/-- The constraint that a new row would break. -/
def conflict? (tables : Tables) : NewRow → Option String
  | .shortUrl row => tables.shortUrlConflict? row
  | .user row => tables.userConflict? row

/-- Why the store refuses to insert a row: a text that it cannot hold, or a constraint. -/
def refusal? (tables : Tables) (row : NewRow) : Option DatabaseError :=
  row.insertion.unstorable?.or ((tables.conflict? row).map Statement.duplicate)

/-- The creation of a row under a claim as one step: the result and the tables after it. -/
def create (tables : Tables) (now : Instant) (claim : Claim) (row : NewRow) :
    Except StoreError (Creation Row × Tables) :=
  match (Statement.reserve claim row.id).unstorable? with
  | some error => .error error.classify
  | none =>
    let (entry, ledger) := tables.ledger.reserve claim row.id now
    match entry.resolve row.id claim.requestHash with
    | .fresh =>
      match tables.refusal? row with
      | some error => .error error.classify
      | none => .ok (.created (row.storedAt now), { tables with ledger }.insert (row.storedAt now))
    | .replay id =>
      match tables.rowById? row.kind id with
      | some found => .ok (.replayed found, { tables with ledger })
      | none => .error .idempotencyMismatch
    | .mismatch => .error .idempotencyMismatch

section

variable {tables after : Tables} {now : Instant} {claim : Claim} {row : NewRow}

/-- The ways in which a creation succeeds. -/
inductive Creates (tables : Tables) (now : Instant) (claim : Claim) (row : NewRow) :
    Creation Row → Tables → Prop where
  /-- No live entry has the key. -/
  | opened (free : tables.ledger.live? claim.key.token now = none)
      (accepted : tables.refusal? row = none) :
      Creates tables now claim row (.created (row.storedAt now))
        ({ tables with ledger := tables.ledger.put (.opened claim row.id now) }.insert
          (row.storedAt now))
  /-- The live entry is for the id of the row. -/
  | resumed (entry : LedgerEntry) (live : tables.ledger.live? claim.key.token now = some entry)
      (own : entry.referenceId = row.id) (accepted : tables.refusal? row = none) :
      Creates tables now claim row (.created (row.storedAt now)) (tables.insert (row.storedAt now))
  /-- The live entry is for the row of an equal request. -/
  | repeated (entry : LedgerEntry) (found : Row)
      (live : tables.ledger.live? claim.key.token now = some entry)
      (other : entry.referenceId ≠ row.id) (equal : entry.requestHash = claim.requestHash)
      (present : tables.rowById? row.kind entry.referenceId = some found) :
      Creates tables now claim row (.replayed found) tables

theorem storable_claim (row : NewRow) (key : IdempotencyKey) :
    (Statement.reserve (row.claim key) row.id).unstorable? = none := by
  have clean : (Statement.reserve (row.claim key) row.id).texts.any (fun text =>
      text.toList.contains (Char.ofNat 0)) = false := by
    rw [Statement.texts, List.any_cons, List.any_nil, Bool.or_false]
    exact row.identity.fingerprint_holds_no_zero
  unfold Statement.unstorable?
  rw [clean]
  rfl

/-- Where no live entry has the key, only the store can refuse the row. -/
theorem create_of_free (storable : (Statement.reserve claim row.id).unstorable? = none)
    (free : tables.ledger.live? claim.key.token now = none) :
    tables.create now claim row =
      match tables.refusal? row with
      | some error => .error error.classify
      | none => .ok (.created (row.storedAt now),
          { tables with ledger := tables.ledger.put (.opened claim row.id now) }.insert
            (row.storedAt now)) := by
  have own : (LedgerEntry.opened claim row.id now).resolve row.id claim.requestHash = .fresh :=
    if_pos rfl
  simp only [create, storable, Ledger.reserve_of_free free, own]

/-- Where the live entry is for the id of the row, the row is still to be inserted. -/
theorem create_of_own (storable : (Statement.reserve claim row.id).unstorable? = none)
    {entry : LedgerEntry} (live : tables.ledger.live? claim.key.token now = some entry)
    (own : entry.referenceId = row.id) :
    tables.create now claim row =
      match tables.refusal? row with
      | some error => .error error.classify
      | none => .ok (.created (row.storedAt now), tables.insert (row.storedAt now)) := by
  have resolved : entry.resolve row.id claim.requestHash = .fresh := if_pos own
  simp only [create, storable, Ledger.reserve_of_live live, resolved]

/-- Where the live entry is for the row of an equal request, that row is returned. -/
theorem create_of_equal (storable : (Statement.reserve claim row.id).unstorable? = none)
    {entry : LedgerEntry} (live : tables.ledger.live? claim.key.token now = some entry)
    (other : entry.referenceId ≠ row.id) (equal : entry.requestHash = claim.requestHash) :
    tables.create now claim row =
      match tables.rowById? row.kind entry.referenceId with
      | some found => .ok (.replayed found, tables)
      | none => .error .idempotencyMismatch := by
  have resolved : entry.resolve row.id claim.requestHash = .replay entry.referenceId := by
    rw [LedgerEntry.resolve, if_neg other, if_pos equal]
  simp only [create, storable, Ledger.reserve_of_live live, resolved]

/-- Where the live entry is for a different request, the request is refused. -/
theorem create_of_different (storable : (Statement.reserve claim row.id).unstorable? = none)
    {entry : LedgerEntry} (live : tables.ledger.live? claim.key.token now = some entry)
    (other : entry.referenceId ≠ row.id) (different : entry.requestHash ≠ claim.requestHash) :
    tables.create now claim row = .error .idempotencyMismatch := by
  have resolved : entry.resolve row.id claim.requestHash = .mismatch := by
    rw [LedgerEntry.resolve, if_neg other, if_neg different]
  simp only [create, storable, Ledger.reserve_of_live live, resolved]

theorem creates_of_create {creation : Creation Row}
    (made : tables.create now claim row = .ok (creation, after)) :
    Creates tables now claim row creation after := by
  cases storable : (Statement.reserve claim row.id).unstorable? with
  | some error => simp [create, storable] at made
  | none =>
      cases live : tables.ledger.live? claim.key.token now with
      | none =>
          rw [create_of_free storable live] at made
          cases accepted : tables.refusal? row with
          | some error => simp [accepted] at made
          | none =>
              rw [accepted] at made
              cases made
              exact .opened live accepted
      | some entry =>
          by_cases own : entry.referenceId = row.id
          · rw [create_of_own storable live own] at made
            cases accepted : tables.refusal? row with
            | some error => simp [accepted] at made
            | none =>
                rw [accepted] at made
                cases made
                exact .resumed entry live own accepted
          · by_cases equal : entry.requestHash = claim.requestHash
            · rw [create_of_equal storable live own equal] at made
              cases present : tables.rowById? row.kind entry.referenceId with
              | none => simp [present] at made
              | some found =>
                  rw [present] at made
                  cases made
                  exact .repeated entry _ live own equal present
            · simp [create_of_different storable live own equal] at made

theorem mem_rows_of_create {creation : Creation Row}
    (made : tables.create now claim row = .ok (creation, after)) {other : Row}
    (member : other ∈ after.rows) : other = row.storedAt now ∨ other ∈ tables.rows := by
  cases creates_of_create made with
  | opened free accepted =>
      rw [mem_rows_insert_iff, rows_ledger] at member
      exact member
  | resumed entry live own accepted => exact mem_rows_insert_iff.mp member
  | repeated entry found live other equal present => exact .inr member

/-- The row that a creation returns is stored in its table. -/
theorem mem_rowsOf_of_create {creation : Creation Row}
    (made : tables.create now claim row = .ok (creation, after)) :
    creation.row ∈ after.rowsOf row.kind := by
  rw [mem_rowsOf_iff]
  cases creates_of_create made with
  | opened free accepted =>
      exact ⟨mem_rows_insert_iff.mpr (.inl rfl), NewRow.kind_storedAt row now⟩
  | resumed entry live own accepted =>
      exact ⟨mem_rows_insert_iff.mpr (.inl rfl), NewRow.kind_storedAt row now⟩
  | repeated entry found live other equal present =>
      exact ⟨(mem_of_rowById? present).1, (mem_of_rowById? present).2.1⟩

/-- After a creation its key has the entry that it had before, or one for the row. -/
theorem find?_of_create {creation : Creation Row}
    (made : tables.create now claim row = .ok (creation, after)) :
    after.ledger.find? claim.key.token = tables.ledger.find? claim.key.token ∨
      after.ledger.find? claim.key.token = some (.opened claim row.id now) := by
  cases creates_of_create made with
  | opened free accepted =>
      right
      rw [ledger_insert]
      exact Ledger.find?_put_self _ (.opened claim row.id now)
  | resumed entry live own accepted =>
      left
      rw [ledger_insert]
  | repeated entry found live other equal present => exact .inl rfl

/-- A creation leaves the entries of other keys alone. -/
theorem find?_of_create_of_ne {creation : Creation Row}
    (made : tables.create now claim row = .ok (creation, after)) {token : Uuid}
    (different : claim.key.token ≠ token) : after.ledger.find? token = tables.ledger.find? token := by
  cases creates_of_create made with
  | opened free accepted =>
      rw [ledger_insert]
      exact Ledger.find?_put_of_ne _ (.opened claim row.id now) different
  | resumed entry live own accepted => rw [ledger_insert]
  | repeated entry found live other equal present => rfl

theorem unstorable?_final {statement : Statement} {error : DatabaseError}
    (refused : statement.unstorable? = some error) : error.classify.retryable = false := by
  unfold Statement.unstorable? at refused
  split at refused
  · cases refused
    rfl
  · split at refused
    · split at refused
      · cases refused
        rfl
      · cases refused
    · cases refused

theorem refusal?_final {error : DatabaseError} (refused : tables.refusal? row = some error) :
    error.classify.retryable = false := by
  unfold refusal? at refused
  cases unstorable : row.insertion.unstorable? with
  | some other =>
      rw [unstorable] at refused
      cases refused
      exact unstorable?_final unstorable
  | none =>
      rw [unstorable] at refused
      cases conflict : tables.conflict? row with
      | none => simp [conflict] at refused
      | some constraint =>
          rw [conflict] at refused
          cases refused
          rfl

/-- No error of a creation is worth another attempt. -/
theorem create_final {error : StoreError} (refused : tables.create now claim row = .error error) :
    error.retryable = false := by
  unfold create at refused
  split at refused
  next other unstorable =>
    cases refused
    exact unstorable?_final unstorable
  · dsimp only at refused
    split at refused
    · split at refused
      next other refusal =>
        cases refused
        exact refusal?_final refusal
      · cases refused
    · split at refused
      · cases refused
      · cases refused
        rfl
    · cases refused
      rfl

end

end Tables

namespace Work

variable {α β : Type} {now : Instant} {tables : Tables}

theorem run_bind (work : Work α) (next : α → Work β) (now : Instant) (tables : Tables) :
    (work >>= next).run now tables =
      match work.run now tables with
      | .ok (value, after) => (next value).run now after
      | .error error => .error error := by
  change (work.andThen next).run now tables = _
  induction work generalizing tables with
  | finished value => rfl
  | failed error => rfl
  | query statement rest induction =>
      rw [andThen, run, run]
      cases statement.run tables now with
      | error error => rfl
      | ok result => exact induction result.1 result.2

theorem run_ask (statement : Statement) (now : Instant) (tables : Tables) :
    (ask statement).run now tables =
      match statement.run tables now with
      | .ok result => .ok result
      | .error error => .error error.classify := by
  rw [ask, run]
  cases statement.run tables now <;> rfl

theorem run_findBySlug_ok {slug : String} {found : Option ShortUrl} {after : Tables}
    (ran : (findBySlug slug).run now tables = .ok (found, after)) :
    found = tables.shortUrlBySlug? slug ∧ after = tables := by
  rw [findBySlug, run_ask, Statement.run] at ran
  cases refused : (Statement.fetchShortUrlBySlug slug).unstorable? with
  | some error => simp [refused] at ran
  | none =>
      simp only [refused, Statement.effect, Except.ok.injEq, Prod.mk.injEq] at ran
      exact ⟨ran.1.symm, ran.2.symm⟩

def embedded (embed : α → Row) (result : Creation α × Tables) : Creation Row × Tables :=
  (result.1.map embed, result.2)

/-- Inserting a row of either table: what the store answers, and the tables after it. -/
private def Inserts (insert : Work α) (embed : α → Row) (row : NewRow) (now : Instant) : Prop :=
  ∀ tables : Tables, (insert.run now tables).map (Prod.map embed id) =
    match tables.refusal? row with
    | some error => .error error.classify
    | none => .ok (row.storedAt now, tables.insert (row.storedAt now))

private theorem inserts_shortUrl (row : NewShortUrl) (now : Instant) :
    Inserts (ask (.insertShortUrl row)) .shortUrl (.shortUrl row) now := by
  intro tables
  rw [run_ask, Statement.run, Tables.refusal?]
  simp only [NewRow.insertion, Tables.conflict?]
  cases (Statement.insertShortUrl row).unstorable? with
  | some error => rfl
  | none =>
      simp only [Statement.effect]
      cases tables.shortUrlConflict? row <;> rfl

private theorem inserts_user (row : NewUser) (now : Instant) :
    Inserts (ask (.insertUser row)) .user (.user row) now := by
  intro tables
  rw [run_ask, Statement.run, Tables.refusal?]
  simp only [NewRow.insertion, Tables.conflict?]
  cases (Statement.insertUser row).unstorable? with
  | some error => rfl
  | none =>
      simp only [Statement.effect]
      cases tables.userConflict? row <;> rfl

/-- Fetching a row of either table by its id. -/
private def Fetches (fetch : Uuid → Work (Option α)) (embed : α → Row) (kind : Row.Kind)
    (now : Instant) : Prop :=
  ∀ id (tables : Tables), ∃ found, (fetch id).run now tables = .ok (found, tables) ∧
    found.map embed = tables.rowById? kind id

private theorem fetches_shortUrl (now : Instant) :
    Fetches (fun id => ask (.fetchShortUrlById id)) .shortUrl .shortUrl now := by
  intro id tables
  refine ⟨tables.shortUrlById? id, rfl, ?_⟩
  simp only [Tables.rowById?, Tables.rowsOf, Tables.shortUrlById?, List.find?_map]
  rfl

private theorem fetches_user (now : Instant) :
    Fetches (fun id => ask (.fetchUserById id)) .user .user now := by
  intro id tables
  refine ⟨tables.userById? id, rfl, ?_⟩
  simp only [Tables.rowById?, Tables.rowsOf, Tables.userById?, List.find?_map]
  rfl

private theorem run_createIdempotent {claim : Claim} {row : NewRow} {insert : Work α}
    {fetch : Uuid → Work (Option α)} {embed : α → Row} (inserts : Inserts insert embed row now)
    (fetches : Fetches fetch embed row.kind now) (tables : Tables) :
    ((createIdempotent claim row.id insert fetch).run now tables).map (embedded embed) =
      tables.create now claim row := by
  rw [createIdempotent, run_bind, run_ask, Statement.run, Tables.create]
  -- The cases are those of the step: the reservation is refused, or it is resolved in three ways.
  cases (Statement.reserve claim row.id).unstorable? with
  | some error => rfl
  | none =>
      simp only [Statement.effect]
      cases (tables.ledger.reserve claim row.id now).1.resolve row.id claim.requestHash with
      | fresh =>
          have inserted := inserts { tables with ledger := (tables.ledger.reserve claim row.id now).2 }
          have same : ∀ ledger, { tables with ledger }.refusal? row = tables.refusal? row := by
            cases row <;> exact fun _ => rfl
          rw [same] at inserted
          simp only [run_bind]
          cases refused : tables.refusal? row with
          | some error =>
              rw [refused] at inserted
              cases ran : insert.run now
                  { tables with ledger := (tables.ledger.reserve claim row.id now).2 } with
              | ok result => rw [ran] at inserted; cases inserted
              | error other => rw [ran] at inserted; cases inserted; rfl
          | none =>
              rw [refused] at inserted
              cases ran : insert.run now
                  { tables with ledger := (tables.ledger.reserve claim row.id now).2 } with
              | error error => rw [ran] at inserted; cases inserted
              | ok result =>
                  rw [ran] at inserted
                  have parts := Prod.mk.inj (Except.ok.inj inserted)
                  exact congrArg Except.ok
                    (Prod.ext (congrArg Creation.created parts.1) parts.2)
      | replay id =>
          have fetched := fetches id
            { tables with ledger := (tables.ledger.reserve claim row.id now).2 }
          rcases fetched with ⟨found, ran, same⟩
          have unchanged : ∀ ledger, { tables with ledger }.rowById? row.kind id =
              tables.rowById? row.kind id := by
            cases row <;> exact fun _ => rfl
          rw [unchanged] at same
          simp only [run_bind, ran, ← same]
          cases found <;> rfl
      | mismatch => rfl

theorem run_createShortUrl (claim : Claim) (row : NewShortUrl) (now : Instant) (tables : Tables) :
    ((createShortUrl claim row).run now tables).map (embedded .shortUrl) =
      tables.create now claim (.shortUrl row) :=
  run_createIdempotent (inserts_shortUrl row now) (fetches_shortUrl now) tables

theorem run_createUser (claim : Claim) (row : NewUser) (now : Instant) (tables : Tables) :
    ((createUser claim row).run now tables).map (embedded .user) =
      tables.create now claim (.user row) :=
  run_createIdempotent (inserts_user row now) (fetches_user now) tables

end Work

end LinkShortener
