import LinkShortener.Proofs.Store.Creation

/-! # Sound tables

The ledger and the rows belong together: every entry is for one row, and its fingerprint is that of
the row. Creations keep it so, and so does purging.
-/

namespace LinkShortener.Tables

/-- No key and no row has two entries, no id has two rows, and every entry is for a row with its
fingerprint. -/
structure Sound (tables : Tables) : Prop where
  tokens : (tables.ledger.map (·.token)).Nodup
  references : (tables.ledger.map (·.referenceId)).Nodup
  ids : (tables.rows.map Row.id).Nodup
  referenced : ∀ entry ∈ tables.ledger,
    ∃ row ∈ tables.rows, row.id = entry.referenceId ∧ row.identity.fingerprint = entry.requestHash
  lifetimes : ∀ entry ∈ tables.ledger, entry.expiresAt = entry.createdAt.later entryLifetime

theorem sound_empty : Tables.empty.Sound where
  tokens := List.nodup_nil
  references := List.nodup_nil
  ids := List.nodup_nil
  referenced := nofun
  lifetimes := nofun

/-- No row of another table has the id of a new row. -/
def SoleKind (tables : Tables) (row : NewRow) : Prop :=
  ∀ other ∈ tables.rows, other.id = row.id → other.kind = row.kind

variable {tables after : Tables} {now : Instant} {row : NewRow} {key : IdempotencyKey}

theorem absent_of_accepted (accepted : tables.refusal? row = none) :
    ∀ other ∈ tables.rows, other.kind = row.kind → other.id ≠ row.id := by
  have free : tables.conflict? row = none := by
    rw [refusal?, Option.or_eq_none_iff, Option.map_eq_none_iff] at accepted
    exact accepted.2
  cases row with
  | shortUrl row =>
      have idFree : ∀ other ∈ tables.shortUrls, other.id ≠ row.id := by
        intro other member equal
        have taken : tables.shortUrls.any (·.id = row.id) = true :=
          List.any_eq_true.mpr ⟨other, member, by simpa using equal⟩
        simp [conflict?, shortUrlConflict?, taken] at free
      intro other member kind
      have parts := mem_rowsOf_iff.mpr ⟨member, kind⟩
      rcases List.mem_map.mp parts with ⟨shortUrl, present, rfl⟩
      exact idFree shortUrl present
  | user row =>
      have idFree : ∀ other ∈ tables.users, other.id ≠ row.id := by
        intro other member equal
        have taken : tables.users.any (·.id = row.id) = true :=
          List.any_eq_true.mpr ⟨other, member, by simpa using equal⟩
        simp [conflict?, userConflict?, taken] at free
      intro other member kind
      have parts := mem_rowsOf_iff.mpr ⟨member, kind⟩
      rcases List.mem_map.mp parts with ⟨user, present, rfl⟩
      exact idFree user present

theorem fresh_of_accepted (accepted : tables.refusal? row = none) (sole : tables.SoleKind row) :
    ∀ other ∈ tables.rows, other.id ≠ row.id :=
  fun other member equal =>
    absent_of_accepted accepted other member (sole other member equal) equal

/-- After a creation its key has a live entry. -/
theorem live_of_create {creation : Creation Row}
    (made : tables.create now (row.claim key) row = .ok (creation, after)) :
    ∃ entry, after.ledger.live? key.token now = some entry := by
  cases creates_of_create made with
  | opened free accepted =>
      refine ⟨.opened (row.claim key) row.id now, Ledger.live?_eq_some_iff.mpr ⟨?_, ?_⟩⟩
      · rw [ledger_insert]
        exact Ledger.find?_put_self _ _
      · exact now.lt_later (by decide)
  | resumed entry live own accepted =>
      rw [ledger_insert]
      exact ⟨entry, live⟩
  | repeated entry found live other equal present => exact ⟨entry, live⟩

namespace Sound

/-- An entry for the id of a row keeps the store from inserting the row again. -/
theorem not_accepted_again (sound : tables.Sound) (sole : tables.SoleKind row) {entry : LedgerEntry}
    (member : entry ∈ tables.ledger) (own : entry.referenceId = row.id) :
    tables.refusal? row ≠ none := by
  intro accepted
  rcases sound.referenced entry member with ⟨other, present, same, -⟩
  exact fresh_of_accepted accepted sole other present (same.trans own)

/-- While the entry of its key is for the row itself, the row cannot be created. -/
theorem not_created_again (sound : tables.Sound) (sole : tables.SoleKind row) {entry : LedgerEntry}
    (found : tables.ledger.find? key.token = some entry) (own : entry.referenceId = row.id)
    {creation : Creation Row} :
    tables.create now (row.claim key) row ≠ .ok (creation, after) := by
  have refused := sound.not_accepted_again sole (Ledger.mem_of_find? found) own
  intro made
  cases creates_of_create made with
  | opened free accepted => exact refused accepted
  | resumed other live same accepted => exact refused accepted
  | repeated other stored live different equal present =>
      have same := found.symm.trans (Ledger.live?_eq_some_iff.mp live).1
      cases same
      exact different own

theorem row_of_id (sound : tables.Sound) {first second : Row} (firstMember : first ∈ tables.rows)
    (secondMember : second ∈ tables.rows) (equal : first.id = second.id) : first = second :=
  List.inj_on_of_nodup_map sound.ids firstMember secondMember equal

/-- The fingerprint of an entry is that of its row. -/
theorem hash_of_entry (sound : tables.Sound) {entry : LedgerEntry} (entered : entry ∈ tables.ledger)
    {stored : Row} (member : stored ∈ tables.rows) (id : stored.id = entry.referenceId) :
    stored.identity.fingerprint = entry.requestHash := by
  rcases sound.referenced entry entered with ⟨owner, present, owned, hash⟩
  rwa [sound.row_of_id member present (id.trans owned.symm)]

/-- Every entry is for exactly one row of both tables together. -/
theorem sole_row (sound : tables.Sound) {stored : Row} (member : stored ∈ tables.rows) :
    tables.rows.filter (fun other => other.id = stored.id) = [stored] := by
  have distinct : tables.rows.Nodup := sound.ids.of_map
  refine List.perm_singleton.mp ((List.perm_ext_iff_of_nodup (distinct.filter _)
    (List.nodup_singleton _)).mpr fun other => ?_)
  rw [List.mem_filter, List.mem_singleton, decide_eq_true_eq]
  constructor
  · exact fun ⟨present, same⟩ => sound.row_of_id present member same
  · rintro rfl
    exact ⟨member, rfl⟩

/-- A request with the identity of the row that its key is bound to is answered with that row. -/
theorem create_of_same (sound : tables.Sound) {entry : LedgerEntry}
    (live : tables.ledger.live? key.token now = some entry) (other : entry.referenceId ≠ row.id)
    {stored : Row} (member : stored ∈ tables.rows) (id : stored.id = entry.referenceId)
    (hash : stored.identity.fingerprint = entry.requestHash)
    (same : stored.identity = row.identity) :
    tables.create now (row.claim key) row = .ok (.replayed stored, tables) := by
  have equal : entry.requestHash = (row.claim key).requestHash := by
    rw [← hash, same]
    rfl
  have found := rowById?_of_mem sound.ids member
  rw [id, NewRow.kind_eq_of_identity same] at found
  rw [create_of_equal (storable_claim row key) live other equal, found]

theorem opened (sound : tables.Sound) (sole : tables.SoleKind row)
    (accepted : tables.refusal? row = none) :
    ({ tables with ledger := tables.ledger.put (.opened (row.claim key) row.id now) }.insert
      (row.storedAt now)).Sound := by
  let entry := LedgerEntry.opened (row.claim key) row.id now
  let others := tables.ledger.filter fun other => other.token ≠ entry.token
  have fresh := fresh_of_accepted accepted sole
  have ledger : (tables.ledger.put entry).Perm (entry :: others) :=
    Ledger.put_perm sound.tokens entry
  have kept : others.Sublist tables.ledger := List.filter_sublist
  have rows := rows_insert_perm { tables with ledger := tables.ledger.put entry } (row.storedAt now)
  -- Up to order there is one more entry and one more row, and neither shares a key or an id.
  constructor
  · rw [ledger_insert]
    exact Ledger.nodup_put sound.tokens entry
  · rw [ledger_insert, (ledger.map _).nodup_iff, List.map_cons, List.nodup_cons]
    refine ⟨fun member => ?_, sound.references.sublist (kept.map _)⟩
    rcases List.mem_map.mp member with ⟨other, present, same⟩
    rcases sound.referenced other (kept.subset present) with ⟨holder, stored, id, -⟩
    exact fresh holder stored (id.trans same)
  · rw [(rows.map _).nodup_iff, List.map_cons, List.nodup_cons, NewRow.id_storedAt]
    refine ⟨fun member => ?_, sound.ids⟩
    rcases List.mem_map.mp member with ⟨other, present, same⟩
    exact fresh other present same
  · intro other member
    rw [ledger_insert, ledger.mem_iff, List.mem_cons] at member
    rcases member with rfl | member
    · exact ⟨row.storedAt now, mem_rows_insert_iff.mpr (.inl rfl), by simp [entry,
        LedgerEntry.opened, NewRow.claim]⟩
    · rcases sound.referenced other (kept.subset member) with ⟨holder, stored, same⟩
      exact ⟨holder, mem_rows_insert_iff.mpr (.inr stored), same⟩
  · intro other member
    rw [ledger_insert, ledger.mem_iff, List.mem_cons] at member
    rcases member with rfl | member
    · rfl
    · exact sound.lifetimes other (kept.subset member)

theorem create (sound : tables.Sound) (sole : tables.SoleKind row) {creation : Creation Row}
    (made : tables.create now (row.claim key) row = .ok (creation, after)) : after.Sound := by
  cases creates_of_create made with
  | opened free accepted => exact sound.opened sole accepted
  | resumed entry live own accepted =>
      have member := Ledger.mem_of_find? (Ledger.live?_eq_some_iff.mp live).1
      exact absurd accepted (sound.not_accepted_again sole member own)
  | repeated entry found live other equal present => exact sound

/-- While an entry is live, creations under its key return its row and change nothing. -/
theorem create_of_live (sound : tables.Sound) (sole : tables.SoleKind row) {entry : LedgerEntry}
    (live : tables.ledger.live? key.token now = some entry) {stored : Row}
    (member : stored ∈ tables.rows) (id : stored.id = entry.referenceId) {creation : Creation Row}
    (made : tables.create now (row.claim key) row = .ok (creation, after)) :
    creation = .replayed stored ∧ after = tables := by
  cases creates_of_create made with
  | opened free accepted =>
      rw [show (row.claim key).key.token = key.token from rfl, live] at free
      cases free
  | resumed other otherLive own accepted =>
      have present := Ledger.mem_of_find? (Ledger.live?_eq_some_iff.mp otherLive).1
      exact absurd accepted (sound.not_accepted_again sole present own)
  | repeated other found otherLive different equal present =>
      rw [show (row.claim key).key.token = key.token from rfl, live] at otherLive
      cases otherLive
      rcases mem_of_rowById? present with ⟨foundMember, -, foundId⟩
      rw [sound.row_of_id foundMember member (foundId.trans id.symm)]
      exact ⟨rfl, rfl⟩

/-- A creation that changes the entry of its key stores its row together with a new entry. -/
theorem create_of_changed (sound : tables.Sound) (sole : tables.SoleKind row)
    {creation : Creation Row}
    (made : tables.create now (row.claim key) row = .ok (creation, after))
    (changed : after.ledger.find? key.token ≠ tables.ledger.find? key.token) :
    creation = .created (row.storedAt now) ∧ added tables after = [row.storedAt now] ∧
      row.storedAt now ∈ after.rows ∧
      after.ledger.find? key.token = some (.opened (row.claim key) row.id now) := by
  cases creates_of_create made with
  | opened free accepted =>
      have fresh : row.storedAt now ∉ tables.rows := fun member =>
        fresh_of_accepted accepted sole _ member (row.id_storedAt now)
      refine ⟨rfl, added_insert (rows_ledger tables _) fresh, mem_rows_insert_iff.mpr (.inl rfl), ?_⟩
      rw [ledger_insert]
      exact Ledger.find?_put_self _ _
  | resumed entry live own accepted =>
      have present := Ledger.mem_of_find? (Ledger.live?_eq_some_iff.mp live).1
      exact absurd accepted (sound.not_accepted_again sole present own)
  | repeated entry found live other equal present => exact absurd rfl changed

theorem purge (sound : tables.Sound) (now : Instant) :
    { tables with ledger := tables.ledger.purge now }.Sound := by
  have kept : (tables.ledger.purge now).Sublist tables.ledger := List.filter_sublist
  exact {
    tokens := Ledger.nodup_purge sound.tokens now
    references := sound.references.sublist (kept.map _)
    ids := sound.ids
    referenced := fun entry member => sound.referenced entry (kept.subset member)
    lifetimes := fun entry member => sound.lifetimes entry (kept.subset member) }

end Sound

end LinkShortener.Tables
