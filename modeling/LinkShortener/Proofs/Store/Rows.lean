import LinkShortener.Proofs.Fingerprint.Identity
import LinkShortener.Store.Statement
import Mathlib.Data.List.Nodup
import Mathlib.Data.List.Perm.Basic

/-! # Rows of either table

Short URLs and users are created in the same way, so what holds of one path is stated once for the
rows of both tables.
-/

namespace LinkShortener

/-- The tables that requests add rows to. -/
inductive Row.Kind where
  | shortUrl
  | user
  deriving DecidableEq

/-- A stored row. -/
inductive Row where
  | shortUrl (row : ShortUrl)
  | user (row : User)
  deriving DecidableEq

/-- A row that is to be stored. -/
inductive NewRow where
  | shortUrl (row : NewShortUrl)
  | user (row : NewUser)
  deriving DecidableEq

namespace Row

def kind : Row → Kind
  | .shortUrl _ => .shortUrl
  | .user _ => .user

def id : Row → Uuid
  | .shortUrl row => row.id
  | .user row => row.id

def createdAt : Row → Instant
  | .shortUrl row => row.createdAt
  | .user row => row.createdAt

/-- What tells a request for such a row from others. -/
def identity : Row → Identity
  | .shortUrl row => .shortUrl row.destination
  | .user row => .user row.username row.email

end Row

namespace NewRow

def kind : NewRow → Row.Kind
  | .shortUrl _ => .shortUrl
  | .user _ => .user

def id : NewRow → Uuid
  | .shortUrl row => row.id
  | .user row => row.id

/-- What tells a request for such a row from others. -/
def identity : NewRow → Identity
  | .shortUrl row => .shortUrl row.destination
  | .user row => .user row.username row.email

/-- The claim of a request for such a row. -/
def claim (row : NewRow) (key : IdempotencyKey) : Claim := ⟨key, row.identity.fingerprint⟩

def storedAt (row : NewRow) (now : Instant) : Row :=
  match row with
  | .shortUrl row => .shortUrl (Tables.shortUrlRow row now)
  | .user row => .user (Tables.userRow row now)

def insertion : NewRow → Statement
  | .shortUrl row => .insertShortUrl row
  | .user row => .insertUser row

@[simp] theorem kind_storedAt (row : NewRow) (now : Instant) :
    (row.storedAt now).kind = row.kind := by
  cases row <;> rfl

@[simp] theorem id_storedAt (row : NewRow) (now : Instant) : (row.storedAt now).id = row.id := by
  cases row <;> rfl

@[simp] theorem createdAt_storedAt (row : NewRow) (now : Instant) :
    (row.storedAt now).createdAt = now := by
  cases row <;> rfl

@[simp] theorem identity_storedAt (row : NewRow) (now : Instant) :
    (row.storedAt now).identity = row.identity := by
  cases row <;> rfl

theorem kind_eq_of_identity {row : NewRow} {stored : Row} (equal : stored.identity = row.identity) :
    stored.kind = row.kind := by
  cases stored <;> cases row <;> first | rfl | cases equal

end NewRow

/-- The same creation of another form of the row. -/
def Creation.map {α β : Type} (transform : α → β) : Creation α → Creation β
  | .created row => .created (transform row)
  | .replayed row => .replayed (transform row)

namespace Tables

def rowsOf (tables : Tables) : Row.Kind → List Row
  | .shortUrl => tables.shortUrls.map .shortUrl
  | .user => tables.users.map .user

def rows (tables : Tables) : List Row := tables.rowsOf .shortUrl ++ tables.rowsOf .user

def rowById? (tables : Tables) (kind : Row.Kind) (id : Uuid) : Option Row :=
  (tables.rowsOf kind).find? fun row => row.id = id

def insert (tables : Tables) : Row → Tables
  | .shortUrl row => tables.insertShortUrl row
  | .user row => tables.insertUser row

@[simp] theorem ledger_insert (tables : Tables) (row : Row) :
    (tables.insert row).ledger = tables.ledger := by
  cases row <;> rfl

@[simp] theorem rows_empty : Tables.empty.rows = [] := rfl

@[simp] theorem rows_ledger (tables : Tables) (ledger : Ledger) :
    { tables with ledger }.rows = tables.rows := rfl

theorem mem_rowsOf_iff {tables : Tables} {kind : Row.Kind} {row : Row} :
    row ∈ tables.rowsOf kind ↔ row ∈ tables.rows ∧ row.kind = kind := by
  cases kind <;> cases row <;> simp [rows, rowsOf, Row.kind]

theorem rows_insert_perm (tables : Tables) (row : Row) :
    (tables.insert row).rows.Perm (row :: tables.rows) := by
  cases row with
  | shortUrl row =>
      simp only [rows, rowsOf, insert, insertShortUrl, List.map_append, List.map_cons,
        List.map_nil, List.append_assoc]
      exact List.perm_middle
  | user row =>
      simp only [rows, rowsOf, insert, insertUser, List.map_append, List.map_cons,
        List.map_nil, ← List.append_assoc]
      exact List.perm_append_singleton _ _

theorem mem_rows_insert_iff {tables : Tables} {row other : Row} :
    other ∈ (tables.insert row).rows ↔ other = row ∨ other ∈ tables.rows := by
  rw [(tables.rows_insert_perm row).mem_iff, List.mem_cons]

theorem mem_of_rowById? {tables : Tables} {kind : Row.Kind} {id : Uuid} {row : Row}
    (found : tables.rowById? kind id = some row) :
    row ∈ tables.rows ∧ row.kind = kind ∧ row.id = id := by
  have member := mem_rowsOf_iff.mp (List.mem_of_find?_eq_some found)
  exact ⟨member.1, member.2, by simpa using List.find?_some found⟩

theorem rowById?_eq_none_iff {tables : Tables} {kind : Row.Kind} {id : Uuid} :
    tables.rowById? kind id = none ↔
      ∀ row ∈ tables.rows, row.kind = kind → row.id ≠ id := by
  simp only [rowById?, List.find?_eq_none, decide_eq_true_eq]
  constructor
  · intro absent row member kindOf
    exact absent row (mem_rowsOf_iff.mpr ⟨member, kindOf⟩)
  · intro absent row member
    have parts := mem_rowsOf_iff.mp member
    exact absent row parts.1 parts.2

theorem rowById?_of_mem {tables : Tables} (distinct : (tables.rows.map Row.id).Nodup) {row : Row}
    (member : row ∈ tables.rows) : tables.rowById? row.kind row.id = some row := by
  cases found : tables.rowById? row.kind row.id with
  | none => exact absurd rfl (rowById?_eq_none_iff.mp found row member rfl)
  | some other =>
      have parts := mem_of_rowById? found
      rw [List.inj_on_of_nodup_map distinct parts.1 member parts.2.2]

/-! ## The rows that a step adds -/

/-- The rows of later tables that earlier tables do not hold. -/
def added (before after : Tables) : List Row :=
  after.rows.filter fun row => row ∉ before.rows

@[simp] theorem added_self (tables : Tables) : added tables tables = [] := by
  simp [added]

theorem added_insert {before after : Tables} (kept : after.rows = before.rows) {row : Row}
    (fresh : row ∉ before.rows) : added before (after.insert row) = [row] := by
  have perm := (after.rows_insert_perm row).filter fun other => other ∉ before.rows
  rw [kept, List.filter_cons_of_pos (by simpa using fresh)] at perm
  have none : before.rows.filter (fun other => other ∉ before.rows) = [] := by simp
  rw [none] at perm
  exact List.perm_singleton.mp perm

end Tables

end LinkShortener
