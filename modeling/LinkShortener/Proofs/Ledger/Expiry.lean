import LinkShortener.Proofs.Ledger.Windows

/-! # Ends of entries

Counting, purging and reserving compare the end of an entry with the clock each on its own. They draw
the line in the same place: at its last instant an entry is expired for all of them.
-/

namespace LinkShortener

namespace Ledger

variable {ledger : Ledger} {token : Uuid} {entry : LedgerEntry} {now : Instant}

/-- An entry is counted as live or as expired, and never as both. -/
theorem stats_eq (ledger : Ledger) (now : Instant) : ledger.stats now =
    { live := ledger.countP fun entry => !entry.isExpiredAt now
      expired := ledger.countP fun entry => entry.isExpiredAt now } := rfl

theorem live_add_expired (ledger : Ledger) (now : Instant) :
    (ledger.stats now).live + (ledger.stats now).expired = ledger.length := by
  rw [stats_eq, Nat.add_comm, List.length_eq_countP_add_countP fun entry => entry.isExpiredAt now]
  simp

theorem expiredCount_purge (ledger : Ledger) (now : Instant) :
    (ledger.purge now).expiredCount now = 0 := by
  simp [expiredCount, purge, List.countP_eq_zero]

theorem purge_purge (ledger : Ledger) (now : Instant) :
    (ledger.purge now).purge now = ledger.purge now := by
  simp [purge]

theorem stats_purge (ledger : Ledger) (now : Instant) :
    (ledger.purge now).stats now = { live := (ledger.stats now).live, expired := 0 } := by
  simp [stats_eq, purge, LedgerEntry.isExpiredAt, List.countP_filter]

/-- Purging leaves an entry in place just if it is not expired. -/
theorem find?_purge_iff (found : ledger.find? token = some entry) :
    (ledger.purge now).find? token = some entry ↔ entry.isExpiredAt now = false := by
  constructor
  · intro kept
    simpa [LedgerEntry.isExpiredAt] using (List.mem_filter.mp (mem_of_find? kept)).2
  · intro live
    exact find?_purge_of_live found (LedgerEntry.isExpiredAt_eq_false_iff.mp live)

/-- The counts with one entry and without it. -/
theorem stats_erase (found : ledger.find? token = some entry) (now : Instant) : ledger.stats now =
    let others := stats (ledger.erase entry) now
    if entry.isExpiredAt now then { others with expired := others.expired + 1 }
    else { others with live := others.live + 1 } := by
  have counted (p : LedgerEntry → Bool) : ledger.countP p =
      (ledger.erase entry).countP p + if p entry then 1 else 0 := by
    rw [(List.perm_cons_erase (mem_of_find? found)).countP_eq p, List.countP_cons]
  rw [stats_eq, stats_eq, counted, counted]
  cases entry.isExpiredAt now <;> rfl

theorem stats_erase_live_iff (found : ledger.find? token = some entry) :
    (ledger.stats now).live = (stats (ledger.erase entry) now).live + 1 ↔
      entry.isExpiredAt now = false := by
  rw [stats_erase found]
  cases entry.isExpiredAt now <;> simp

theorem stats_erase_expired_iff (found : ledger.find? token = some entry) :
    (ledger.stats now).expired = (stats (ledger.erase entry) now).expired + 1 ↔
      entry.isExpiredAt now = true := by
  rw [stats_erase found]
  cases entry.isExpiredAt now <;> simp

end Ledger

namespace Tables

/-- A reservation leaves the entry of its key alone just if the entry is not expired. -/
theorem run_reserve_keeps_iff {tables : Tables} {call : Reservation} {entry : LedgerEntry}
    (found : tables.ledger.find? call.token = some entry) (storable : call.IsStorable) :
    ∃ held after, call.statement.run tables call.now = .ok (held, after) ∧
      after.ledger.find? call.token = some held ∧
      (held = entry ↔ entry.isExpiredAt call.now = false) ∧
      (after = tables ↔ entry.isExpiredAt call.now = false) := by
  cases live : tables.ledger.live? call.token call.now with
  | some other =>
      rcases Ledger.live?_eq_some_iff.mp live with ⟨same, inside⟩
      have same : other = entry := Option.some.inj (same.symm.trans found)
      subst same
      have unexpired := LedgerEntry.isExpiredAt_eq_false_iff.mpr inside
      exact ⟨other, tables, Tables.run_reserve_of_live storable live, found,
        iff_of_true rfl unexpired, iff_of_true rfl unexpired⟩
  | none =>
      have ended := Ledger.live?_eq_none_iff.mp live entry found
      have expired : ¬ entry.isExpiredAt call.now = false := by
        rw [LedgerEntry.isExpiredAt_eq_false_iff]
        exact not_lt.mpr ended
      have other : call.entry ≠ entry := by
        rintro rfl
        exact expired (LedgerEntry.opened_isLive _ _ _)
      have written := Ledger.find?_put_self tables.ledger call.entry
      refine ⟨call.entry, _, Tables.run_reserve_of_free storable live, written,
        iff_of_false other expired, iff_of_false (fun same => other ?_) expired⟩
      have kept := congrArg Tables.ledger same
      dsimp only at kept
      rw [kept] at written
      exact Option.some.inj (written.symm.trans found)

end Tables

end LinkShortener
