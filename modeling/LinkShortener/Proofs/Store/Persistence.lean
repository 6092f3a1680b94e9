import LinkShortener.Proofs.Store.Soundness
import LinkShortener.Proofs.Store.Transactions

/-! # What stays

Rows are never taken away, and entries not before they expire. What one transaction keeps, a chain
of them keeps until the time at which it ends.
-/

namespace LinkShortener

namespace Tables

variable {tables after : Tables} {now : Instant} {row : NewRow} {key : IdempotencyKey}

/-- Everything stays but entries that are expired. -/
structure Keeps (now : Instant) (before after : Tables) : Prop where
  rows : ∀ row ∈ before.rows, row ∈ after.rows
  entries : ∀ token entry, before.ledger.find? token = some entry → now < entry.expiresAt →
    after.ledger.find? token = some entry

namespace Keeps

theorem refl (now : Instant) (tables : Tables) : Keeps now tables tables :=
  ⟨fun _ member => member, fun _ _ found _ => found⟩

theorem trans {middle : Tables} (first : Keeps now tables middle)
    (second : Keeps now middle after) : Keeps now tables after where
  rows row member := second.rows row (first.rows row member)
  entries token entry found live :=
    second.entries token entry (first.entries token entry found live) live

theorem later {moment : Instant} (kept : Keeps now tables after) (ordered : now ≤ moment) :
    Keeps moment tables after :=
  ⟨kept.rows, fun token entry found live =>
    kept.entries token entry found (lt_of_le_of_lt ordered live)⟩

theorem create (sound : tables.Sound) (sole : tables.SoleKind row) {creation : Creation Row}
    (made : tables.create now (row.claim key) row = .ok (creation, after)) :
    Keeps now tables after := by
  cases creates_of_create made with
  | opened free accepted =>
      constructor
      · exact fun other member => mem_rows_insert_iff.mpr (.inr member)
      · intro token entry found live
        rw [ledger_insert, Ledger.find?_put_of_ne _ _ ?_, found]
        intro same
        subst same
        have expired := Ledger.live?_eq_none_iff.mp free entry found
        exact absurd live (not_lt.mpr expired)
  | resumed entry live own accepted =>
      have member := Ledger.mem_of_find? (Ledger.live?_eq_some_iff.mp live).1
      exact absurd accepted (sound.not_accepted_again sole member own)
  | repeated entry found live other equal present => exact refl now tables

theorem purge (tables : Tables) (now : Instant) :
    Keeps now tables { tables with ledger := tables.ledger.purge now } where
  rows _ member := member
  entries _ _ found live := Ledger.find?_purge_of_live found live

end Keeps

end Tables

/-- What every transaction of a chain preserves holds at its end, and everything but expired entries
has stayed. -/
theorem Commit.Chain.run {holds : Tables → Prop} {clock finish : Instant} {tables after : Tables}
    {commits : List Commit} (chain : Chain clock tables finish after commits) (first : holds tables)
    (step : ∀ commit ∈ commits, holds commit.before →
      holds commit.after ∧ Tables.Keeps commit.now commit.before commit.after) :
    holds after ∧ Tables.Keeps finish tables after := by
  induction commits generalizing clock tables with
  | nil =>
      rcases chain with ⟨-, rfl⟩
      exact ⟨first, .refl _ _⟩
  | cons commit rest induction =>
      rcases chain with ⟨-, rfl, following⟩
      rcases step commit List.mem_cons_self first with ⟨next, kept⟩
      obtain ⟨last, others⟩ := induction following next fun other member =>
        step other (List.mem_cons_of_mem _ member)
      exact ⟨last, (kept.later following.clock_le).trans others⟩

end LinkShortener
