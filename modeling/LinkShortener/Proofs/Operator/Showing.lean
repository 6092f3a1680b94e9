import LinkShortener.Operator.Session
import LinkShortener.Proofs.Ledger.Expiry
import LinkShortener.Proofs.Store.Calm

/-! # Entries shown to the operator

The operator is shown the entry of a key as the store has it, and told whether it is in use. What
the operator is told agrees with what everyone else does with the entry at that moment.
-/

namespace LinkShortener

namespace Operator

/-! ## Sessions -/

section

variable {output : List Span} {database : Database}

theorem ensures_print {line : List Span}
    {goal : Except (List String) Unit → List Span × Database → Prop}
    (printed : goal (.ok ()) (output ++ line ++ [.plain "\n"], database)) :
    Ensures (Session.print line) (output, database) goal :=
  printed

theorem ensures_ask {statement : Statement} {describe : DatabaseError → List String}
    {goal : Except (List String) statement.Answer → List Span × Database → Prop}
    (asked : goal ((database.queryAlone statement).1.mapError describe)
      (output, (database.queryAlone statement).2)) :
    Ensures (Session.ask statement describe) (output, database) goal := by
  refine ensures_get_bind ?_
  rcases queried : database.queryAlone statement with ⟨outcome, after⟩
  rw [queried] at asked
  dsimp only
  rw [queried]
  refine ensures_set_bind ?_
  cases outcome with
  | ok answer => exact asked
  | error error => exact asked

end

/-! ## Shown entries -/

/-- What is shown of an entry, with its status. -/
def entryLines (entry : LedgerEntry) (status : Span) : List Span :=
  [.bold .brightBlue "🔑 Idempotency key", "\n", "\n",
    "  Key:          ", .light .cyan entry.token.toText, "\n",
    "  Reference:    ", .light .white entry.referenceId.toText, "\n",
    "  Request hash: ", .light .grey entry.requestHash, "\n",
    "  Created:      ", .light .grey entry.createdAt.toPlainText, "\n",
    "  Expires:      ", .light .grey entry.expiresAt.toPlainText, "\n",
    "  Status:       ", status, "\n", "\n"]

theorem ensures_showKey {database : Database} (calm : database.IsCalm) {key : Uuid}
    {entry : LedgerEntry} (found : database.tables.ledger.find? key = some entry)
    (present : Instant) (output : List Span) :
    Ensures (showKey present key) (output, database) fun result after => result = .ok () ∧
      after.1 = output ++ entryLines entry (statusOf present entry) ∧
      after.2.tables = database.tables := by
  have ran : Statement.run (.findEntry key) database.tables database.clock =
      .ok (some entry, database.tables) := by
    rw [← found]
    rfl
  rcases Database.queryAlone_calm calm (.findEntry key) with ⟨trace, queried⟩
  rw [ran] at queried
  refine ensures_bind (ensures_ask ?_)
  rw [queried]
  iterate 8 refine ensures_bind (ensures_print ?_)
  refine ensures_print ⟨rfl, ?_, rfl⟩
  simp [entryLines, List.append_assoc]

/-- Wherever the store answers, the entry of the key is shown with the status. -/
def IsShownAs (tables : Tables) (key : Uuid) (entry : LedgerEntry) (present : Instant)
    (status : Span) : Prop :=
  ∀ (output : List Span) (database : Database), database.IsCalm → database.tables = tables →
    Ensures (showKey present key) (output, database) fun result after => result = .ok () ∧
      after.1 = output ++ entryLines entry status ∧ after.2.tables = tables

theorem entryLines_inj {entry : LedgerEntry} {status other : Span} :
    entryLines entry status = entryLines entry other ↔ status = other := by
  simp [entryLines]

theorem isShownAs_iff {tables : Tables} {key : Uuid} {entry : LedgerEntry}
    (found : tables.ledger.find? key = some entry) {present : Instant} {status : Span} :
    IsShownAs tables key entry present status ↔ statusOf present entry = status := by
  constructor
  · intro shown
    have calm : { Database.opened present with tables }.IsCalm := ⟨rfl, nofun⟩
    have both := (ensures_showKey calm found present []).and (shown [] _ calm rfl)
    rw [← entryLines_inj]
    exact both.1.2.1.symm.trans both.2.2.1
  · rintro rfl output database calm rfl
    exact ensures_showKey calm found present output

theorem isShownAs_live_iff {tables : Tables} {key : Uuid} {entry : LedgerEntry}
    (found : tables.ledger.find? key = some entry) {present : Instant} :
    IsShownAs tables key entry present (.light .green "LIVE") ↔
      entry.isExpiredAt present = false := by
  rw [isShownAs_iff found, statusOf]
  cases entry.isExpiredAt present <;> simp [Span.light]

theorem isShownAs_expired_iff {tables : Tables} {key : Uuid} {entry : LedgerEntry}
    (found : tables.ledger.find? key = some entry) {present : Instant} :
    IsShownAs tables key entry present (.light .red "EXPIRED") ↔
      entry.isExpiredAt present = true := by
  rw [isShownAs_iff found, statusOf]
  cases entry.isExpiredAt present <;> simp [Span.light]

end Operator

/-! ## Agreement -/

namespace Tables

/-- Every view of the entry of a key at a moment calls it live, or every one calls it expired. -/
structure AgreeOn (tables : Tables) (token : Uuid) (entry : LedgerEntry) (now : Instant) :
    Prop where
  ends : entry.isExpiredAt now = false ↔ now < entry.expiresAt
  /-- A reservation of the key returns the row that the key has then. -/
  reserved (call : Reservation) (same : call.token = token) (present : call.now = now)
    (storable : call.IsStorable) : ∃ held after,
      call.statement.run tables now = .ok (held, after) ∧
        after.ledger.find? token = some held ∧
        (held = entry ↔ entry.isExpiredAt now = false) ∧
        (after = tables ↔ entry.isExpiredAt now = false)
  /-- A reservation that the store cannot hold fails, live or expired as the row may be. -/
  refused (call : Reservation) (present : call.now = now) (unstorable : ¬ call.IsStorable) :
    ∃ report, call.statement.run tables now = .error (.reported report) ∧
      report.sqlstate = some "22021"
  countedLive : (tables.ledger.stats now).live =
    (Ledger.stats (tables.ledger.erase entry) now).live + 1 ↔ entry.isExpiredAt now = false
  countedExpired : (tables.ledger.stats now).expired =
    (Ledger.stats (tables.ledger.erase entry) now).expired + 1 ↔ entry.isExpiredAt now = true
  purged : (tables.ledger.purge now).find? token = some entry ↔ entry.isExpiredAt now = false
  shownLive : Operator.IsShownAs tables token entry now (.light .green "LIVE") ↔
    entry.isExpiredAt now = false
  shownExpired : Operator.IsShownAs tables token entry now (.light .red "EXPIRED") ↔
    entry.isExpiredAt now = true

theorem agreeOn_of_found {tables : Tables} {token : Uuid} {entry : LedgerEntry}
    (found : tables.ledger.find? token = some entry) (now : Instant) :
    tables.AgreeOn token entry now where
  ends := LedgerEntry.isExpiredAt_eq_false_iff
  reserved call same present storable := by
    subst same present
    exact run_reserve_keeps_iff found storable
  refused call present unstorable := by
    subst present
    exact run_reserve_of_unstorable tables unstorable
  countedLive := Ledger.stats_erase_live_iff found
  countedExpired := Ledger.stats_erase_expired_iff found
  purged := Ledger.find?_purge_iff found
  shownLive := Operator.isShownAs_live_iff found
  shownExpired := Operator.isShownAs_expired_iff found

/-- All views of expiry agree. The counts divide the rows, purging removes just the expired ones and
as many as were counted, and nothing more when it is repeated; and for the row of each key, being live
is the same to reservations, counts, purging and the operator. -/
theorem expiry_agrees (tables : Tables) (now : Instant) :
    (∃ stats purged, Statement.stats.run tables now = .ok (stats, tables) ∧
      stats.live = tables.ledger.countP (fun entry => !entry.isExpiredAt now) ∧
      stats.expired = tables.ledger.countP (fun entry => entry.isExpiredAt now) ∧
      stats.live + stats.expired = tables.ledger.length ∧
      Statement.purge.run tables now = .ok (stats.expired, purged) ∧
      purged = { tables with
        ledger := tables.ledger.filter fun entry => !entry.isExpiredAt now } ∧
      Statement.purge.run purged now = .ok (0, purged) ∧
      Statement.stats.run purged now = .ok (⟨stats.live, 0⟩, purged)) ∧
    ∀ token entry, tables.ledger.find? token = some entry → tables.AgreeOn token entry now := by
  refine ⟨⟨tables.ledger.stats now, { tables with ledger := tables.ledger.purge now }, rfl, rfl,
    rfl, Ledger.live_add_expired tables.ledger now, rfl, rfl, ?_, ?_⟩, ?_⟩
  · have again : Statement.purge.run { tables with ledger := tables.ledger.purge now } now =
        .ok ((tables.ledger.purge now).expiredCount now,
          { tables with ledger := (tables.ledger.purge now).purge now }) := rfl
    rw [again, Ledger.expiredCount_purge, Ledger.purge_purge]
  · have counted : Statement.stats.run { tables with ledger := tables.ledger.purge now } now =
        .ok ((tables.ledger.purge now).stats now,
          { tables with ledger := tables.ledger.purge now }) := rfl
    rw [counted, Ledger.stats_purge]
  · exact fun token entry found => agreeOn_of_found found now

def endingEntry : LedgerEntry := ⟨.ofNat 1, .ofNat 2, "first", ⟨0, 0⟩, ⟨86400, 0⟩⟩

def lastingEntry : LedgerEntry := ⟨.ofNat 3, .ofNat 4, "second", ⟨1, 0⟩, ⟨86401, 0⟩⟩

/-- At the last instant of the first entry, and a second before that of the other. -/
theorem expiry_agrees_at_end : ∃ purged,
    Statement.purge.run ⟨[], [], [endingEntry, lastingEntry]⟩ ⟨86400, 0⟩ = .ok (1, purged) ∧
      purged.ledger = [lastingEntry] ∧
      Operator.IsShownAs ⟨[], [], [endingEntry, lastingEntry]⟩ (.ofNat 1) endingEntry ⟨86400, 0⟩
        (.light .red "EXPIRED") ∧
      Operator.IsShownAs ⟨[], [], [endingEntry, lastingEntry]⟩ (.ofNat 3) lastingEntry ⟨86400, 0⟩
        (.light .green "LIVE") := by
  rcases expiry_agrees ⟨[], [], [endingEntry, lastingEntry]⟩ ⟨86400, 0⟩ with
    ⟨⟨stats, purged, -, -, expired, -, ran, same, -⟩, agree⟩
  have one : stats.expired = 1 := expired.trans (by decide +kernel)
  have ending : Ledger.find? [endingEntry, lastingEntry] (.ofNat 1) = some endingEntry := by
    decide +kernel
  have lasting : Ledger.find? [endingEntry, lastingEntry] (.ofNat 3) = some lastingEntry := by
    decide +kernel
  rw [one] at ran
  refine ⟨purged, ran, ?_, (agree _ _ ending).shownExpired.mpr (by decide),
    (agree _ _ lasting).shownLive.mpr (by decide)⟩
  rw [same]
  decide +kernel

/-- A reservation with a fingerprint that the store cannot hold leaves even an expired row alone. -/
theorem expiry_agrees_not_always :
    LedgerEntry.isExpiredAt ⟨.ofNat 1, .ofNat 2, "first", ⟨0, 0⟩, ⟨86400, 0⟩⟩ ⟨86400, 0⟩ = true ∧
      Tables.reserving ⟨[], [], [⟨.ofNat 1, .ofNat 2, "first", ⟨0, 0⟩, ⟨86400, 0⟩⟩]⟩
        ⟨⟨⟨.ofNat 1⟩, "h\x00"⟩, .ofNat 3, ⟨86400, 0⟩⟩ =
      ⟨[], [], [⟨.ofNat 1, .ofNat 2, "first", ⟨0, 0⟩, ⟨86400, 0⟩⟩]⟩ :=
  ⟨by decide, rfl⟩

end Tables

end LinkShortener
