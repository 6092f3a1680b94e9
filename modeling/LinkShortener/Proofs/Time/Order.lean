import LinkShortener.Ledger.Entry
import Mathlib.Order.Lattice

/-! # The order of instants

Instants are linearly ordered, the earlier before the later, and moving the
clock on never leads back.
-/

namespace LinkShortener

namespace Instant

theorem notAfter_iff (first second : Instant) :
    first.notAfter second = true ↔
      first.seconds < second.seconds ∨
        first.seconds = second.seconds ∧ first.nanos ≤ second.nanos := by
  simp [notAfter]

instance : LinearOrder Instant where
  le first second := first.notAfter second = true
  le_refl instant := by
    rw [notAfter_iff]
    omega
  le_trans first second third := by
    simp only [notAfter_iff]
    omega
  le_antisymm first second := by
    simp only [notAfter_iff]
    intro forward backward
    rcases first with ⟨seconds, nanos⟩
    rcases second with ⟨otherSeconds, otherNanos⟩
    rw [mk.injEq]
    dsimp only at forward backward
    omega
  le_total first second := by
    simp only [notAfter_iff]
    omega
  toDecidableLE first second := inferInstanceAs (Decidable (first.notAfter second = true))

theorem le_iff {first second : Instant} :
    first ≤ second ↔
      first.seconds < second.seconds ∨
        first.seconds = second.seconds ∧ first.nanos ≤ second.nanos :=
  notAfter_iff first second

theorem notAfter_iff_le {first second : Instant} :
    first.notAfter second = true ↔ first ≤ second := Iff.rfl

theorem notAfter_eq_false_iff {first second : Instant} :
    first.notAfter second = false ↔ second < first := by
  rw [← not_le, ← notAfter_iff_le, Bool.not_eq_true]

theorem lt_later (instant : Instant) {seconds : Int} (positive : 0 < seconds) :
    instant < instant.later seconds := by
  rw [← not_le, le_iff]
  simp only [later]
  omega

theorem le_laterByMicros (instant : Instant) (micros : Nat) :
    instant ≤ instant.laterByMicros micros := by
  have divisor : (0 : Int) ≤ 1000000000 := by decide
  rw [le_iff]
  simp only [laterByMicros]
  rw [Int.fdiv_eq_ediv_of_nonneg _ divisor, Int.fmod_eq_emod_of_nonneg _ divisor]
  omega

end Instant

namespace LedgerEntry

theorem isExpiredAt_iff {entry : LedgerEntry} {now : Instant} :
    entry.isExpiredAt now = true ↔ entry.expiresAt ≤ now := Iff.rfl

theorem isExpiredAt_eq_false_iff {entry : LedgerEntry} {now : Instant} :
    entry.isExpiredAt now = false ↔ now < entry.expiresAt := Instant.notAfter_eq_false_iff

theorem opened_isLive (claim : Claim) (candidate : Uuid) (now : Instant) :
    (opened claim candidate now).isExpiredAt now = false :=
  isExpiredAt_eq_false_iff.mpr (now.lt_later (by decide))

end LedgerEntry

end LinkShortener
