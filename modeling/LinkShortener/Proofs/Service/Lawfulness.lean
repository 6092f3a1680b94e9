import LinkShortener.Proofs.Registration.Rules
import LinkShortener.Proofs.Service.Creation
import LinkShortener.Proofs.Store.Persistence
import LinkShortener.Proofs.Text.Trimming

/-! # Lawful scenes

The scenes of a client who has the store alone. The tables are sound, every row is proper and has an
id that was drawn before, and no operation changes that, whatever fails on the way.
-/

namespace LinkShortener

/-- A row with values that the service accepts. -/
inductive Row.IsProper : Row → Prop where
  | shortUrl (row : ShortUrl) (slug : Slug.isWellFormed row.slug = true)
      (filled : row.destination ≠ "") (trimmed : Text.trim row.destination = row.destination) :
      IsProper (.shortUrl row)
  | user (row : User) (long : 3 ≤ row.username.toList.length)
      (letters : ∀ c ∈ row.username.toList, Registration.isUsernameChar c = true)
      (email : Email.isValid row.email = true) : IsProper (.user row)

theorem Registration.proper_of_validate {registration : Registration}
    (valid : registration.validate = .ok ()) :
    3 ≤ registration.username.toList.length ∧
      (∀ c ∈ registration.username.toList, isUsernameChar c = true) ∧
      Email.isValid registration.email = true := by
  have kept := validate_eq_ok_iff.mp valid
  have long : 3 ≤ registration.username.length := kept .usernameLength
  rw [← String.length_toList] at long
  exact ⟨long, fun c member => isUsernameChar_iff.mpr (kept .usernameCharacters c member),
    kept .email⟩

/-- The rows that a submission leads to are proper, if all slugs are well formed. -/
theorem Submission.Yields.proper {slugs : Nat → String} {id : Uuid} {submission : Submission}
    {row : NewRow} (yields : submission.Yields slugs id row)
    (wellFormed : ∀ place, Slug.isWellFormed (slugs place) = true) (now : Instant) :
    (row.storedAt now).IsProper := by
  cases yields with
  | shortUrl destination place acceptable =>
      refine .shortUrl _ (wellFormed place) (fun blank => ?_) (Text.trim_trim destination)
      have blank : Text.trim destination = "" := blank
      simp [IsAcceptable, blank] at acceptable
  | user registration passwordHash acceptable =>
      rcases Registration.proper_of_validate acceptable with ⟨long, letters, email⟩
      exact .user _ long letters email

/-- A scene of a client who has the store alone. -/
structure Scene.IsLawful (scene : Scene) : Prop where
  solitary : scene.situation.store.IsSolitary
  sound : scene.situation.store.tables.Sound
  proper : ∀ row ∈ scene.situation.store.tables.rows, row.IsProper
  used : ∀ row ∈ scene.situation.store.tables.rows,
    ∃ place < scene.ids.drawn, row.id = scene.ids.values place
  wellFormed : ∀ place, Slug.isWellFormed (scene.slugs.values place) = true

def Scene.IsFresh (scene : Scene) : Prop :=
  ∀ place < scene.ids.drawn, scene.ids.values place ≠ scene.ids.draw.1

/-- What lies between two scenes of such a client: nothing was lost but expired entries. -/
structure Scene.Proceeds (before after : Scene) : Prop where
  lawful : before.IsLawful → after.IsLawful
  kept : before.IsLawful → Tables.Keeps after.situation.store.clock before.situation.store.tables
    after.situation.store.tables
  clock : before.IsLawful → before.situation.store.clock ≤ after.situation.store.clock

namespace Scene.Proceeds

theorem trans {before middle after : Scene} (first : before.Proceeds middle)
    (second : middle.Proceeds after) : before.Proceeds after where
  lawful before := second.lawful (first.lawful before)
  kept before := ((first.kept before).later (second.clock (first.lawful before))).trans
    (second.kept (first.lawful before))
  clock before := le_trans (first.clock before) (second.clock (first.lawful before))

theorem of_same {before after : Scene}
    (alone : before.situation.store.IsSolitary → after.situation.store.IsSolitary)
    (tables : before.situation.store.IsSolitary →
      after.situation.store.tables = before.situation.store.tables)
    (clock : before.situation.store.IsSolitary →
      before.situation.store.clock ≤ after.situation.store.clock)
    (ids : after.ids = before.ids) (slugs : after.slugs.values = before.slugs.values) :
    before.Proceeds after where
  lawful lawful := by
    have tables := tables lawful.solitary
    exact {
      solitary := alone lawful.solitary
      sound := tables ▸ lawful.sound
      proper := tables ▸ lawful.proper
      used := by rw [tables, ids]; exact lawful.used
      wellFormed := slugs ▸ lawful.wellFormed }
  kept lawful := by
    rw [tables lawful.solitary]
    exact .refl _ _
  clock lawful := clock lawful.solitary

theorem of_purge {before after : Scene} {now : Instant}
    (alone : before.situation.store.IsSolitary → after.situation.store.IsSolitary)
    (tables : after.situation.store.tables = { before.situation.store.tables with
      ledger := before.situation.store.tables.ledger.purge now })
    (ordered : now ≤ after.situation.store.clock)
    (clock : before.situation.store.clock ≤ after.situation.store.clock)
    (ids : after.ids = before.ids) (slugs : after.slugs = before.slugs) :
    before.Proceeds after where
  lawful lawful := by
    have rows : after.situation.store.tables.rows = before.situation.store.tables.rows := by
      rw [tables, Tables.rows_ledger]
    exact {
      solitary := alone lawful.solitary
      sound := tables ▸ lawful.sound.purge now
      proper := rows ▸ lawful.proper
      used := by rw [rows, ids]; exact lawful.used
      wellFormed := slugs ▸ lawful.wellFormed }
  kept _ := by
    rw [tables]
    exact (Tables.Keeps.purge _ now).later ordered
  clock _ := clock

end Scene.Proceeds

namespace Service

variable {before after : Scene}

theorem Looks.proceeds (looks : Looks before after) : before.Proceeds after := by
  rcases looks with ⟨commits, passes, idle⟩
  have store := passes.advances.store
  exact .of_same store.alone (fun solitary => (store.chain solitary).tables_of_idle idle)
    (fun solitary => (store.chain solitary).clock_le) passes.ids passes.advances.slugs

/-- What holds of the tables while a call runs: a row has an id that was drawn before the call, or
it is the row of the call. -/
structure Calls.Holds (submission : Submission) (before after : Scene) (tables : Tables) :
    Prop where
  sound : tables.Sound
  proper : ∀ row ∈ tables.rows, row.IsProper
  owned : ∀ row ∈ tables.rows, (∃ place < before.ids.drawn, row.id = before.ids.values place) ∨
    row.id = before.ids.draw.1 ∧ row.kind = submission.kind ∧
      after.ids.drawn = before.ids.drawn + 1

namespace Calls

variable {key : IdempotencyKey} {submission : Submission} {row : NewRow} {commits : List Commit}
  {result : Except Failure (Creation Row)}

theorem Holds.of_lawful (lawful : before.IsLawful) :
    Holds submission before after before.situation.store.tables :=
  ⟨lawful.sound, lawful.proper, fun row member => .inl (lawful.used row member)⟩

theorem Holds.soleKind {tables : Tables} (holds : Holds submission before after tables)
    (fresh : before.IsFresh) (yields : submission.Yields before.slugs.values before.ids.draw.1 row) :
    tables.SoleKind row := by
  intro other present same
  rcases holds.owned other present with ⟨place, earlier, id⟩ | ⟨-, kind, -⟩
  · exact absurd (id.symm.trans (same.trans yields.id_eq)) (fresh place earlier)
  · rw [kind, yields.kind_eq]

/-- What one transaction of a call preserves. -/
theorem step (calls : Calls key submission before row commits result after)
    (lawful : before.IsLawful) (fresh : before.IsFresh) {commit : Commit}
    (member : commit ∈ commits) (holds : Holds submission before after commit.before) :
    Holds submission before after commit.after ∧
      Tables.Keeps commit.now commit.before commit.after := by
  rcases calls.made commit member with idle | ⟨drawn, yields, creation, makes⟩
  · rw [Commit.IsIdle] at idle
    rw [idle]
    exact ⟨holds, .refl _ _⟩
  · have sole := holds.soleKind fresh yields
    refine ⟨⟨holds.sound.create sole makes, fun other present => ?_, fun other present => ?_⟩,
      .create holds.sound sole makes⟩
    · rcases Tables.mem_rows_of_create makes present with rfl | present
      · exact yields.proper lawful.wellFormed _
      · exact holds.proper other present
    · rcases Tables.mem_rows_of_create makes present with rfl | present
      · exact .inr ⟨by rw [NewRow.id_storedAt, yields.id_eq],
          by rw [NewRow.kind_storedAt, yields.kind_eq], drawn⟩
      · exact holds.owned other present

theorem proceeds (calls : Calls key submission before row commits result after)
    (fresh : before.IsFresh) : before.Proceeds after := by
  have ran : before.IsLawful → Holds submission before after after.situation.store.tables ∧
      Tables.Keeps after.situation.store.clock before.situation.store.tables
        after.situation.store.tables := fun lawful =>
    (calls.advances.store.chain lawful.solitary).run (.of_lawful lawful) fun commit member =>
      calls.step lawful fresh member
  constructor
  · intro lawful
    rcases ran lawful with ⟨holds, -⟩
    refine ⟨calls.advances.store.alone lawful.solitary, holds.sound, holds.proper, ?_, ?_⟩
    · intro row member
      rw [calls.advances.ids]
      rcases holds.owned row member with ⟨place, earlier, id⟩ | ⟨id, -, drawn⟩
      · -- A call draws one id at most, so an id that was drawn before it stays drawn.
        refine ⟨place, ?_, id⟩
        rcases calls.drawn with same | next <;> omega
      · exact ⟨before.ids.drawn, by omega, id⟩
    · rw [calls.advances.slugs]
      exact lawful.wellFormed
  · exact fun lawful => (ran lawful).2
  · exact fun lawful => (calls.advances.store.chain lawful.solitary).clock_le

/-- While a call runs, the entry of its key is the one from before the call, or it is for the row of
the call. -/
private structure Binds (key : IdempotencyKey) (submission : Submission) (before after : Scene)
    (row : NewRow) (tables : Tables) : Prop where
  holds : Holds submission before after tables
  entry : tables.ledger.find? key.token = before.situation.store.tables.ledger.find? key.token ∨
    ∃ own, tables.ledger.find? key.token = some own ∧ own.referenceId = row.id

private theorem Binds.step {commit : Commit}
    (binds : Binds key submission before after row commit.before)
    (calls : Calls key submission before row commits result after) (lawful : before.IsLawful)
    (fresh : before.IsFresh) (member : commit ∈ commits) :
    Binds key submission before after row commit.after ∧
      Tables.Keeps commit.now commit.before commit.after := by
  rcases binds with ⟨holds, entry⟩
  rcases calls.step lawful fresh member holds with ⟨next, kept⟩
  refine ⟨⟨next, ?_⟩, kept⟩
  rcases calls.made commit member with idle | ⟨-, yields, creation, makes⟩
  · rw [Commit.IsIdle] at idle
    rwa [idle]
  · rcases entry with unchanged | ⟨own, found, same⟩
    · rcases Tables.find?_of_create makes with same | opened
      · exact .inl (same.trans unchanged)
      · exact .inr ⟨_, opened, rfl⟩
    · exact absurd makes (holds.sound.not_created_again (holds.soleKind fresh yields) found same)

/-- A call that returns a row and writes the entry of its key has created the row. -/
theorem opening_stores {creation : Creation Row}
    (calls : Calls key submission before row commits (.ok creation) after)
    (lawful : before.IsLawful) (fresh : before.IsFresh) {entry : LedgerEntry}
    (entered : after.situation.store.tables.ledger.find? key.token = some entry)
    (new : before.situation.store.tables.ledger.find? key.token ≠ some entry) :
    ∃ now, creation = .created (row.storedAt now) ∧
      entry = .opened (row.claim key) row.id now ∧
      row.storedAt now ∈ after.situation.store.tables.rows := by
  rcases calls.returned creation rfl with ⟨yields, last, final, makes⟩
  rcases List.getLast?_eq_some_iff.mp final with ⟨earlier, parts⟩
  have chain := calls.advances.store.chain lawful.solitary
  rw [parts] at chain
  rcases chain.split with ⟨leading, -, tables⟩
  have start : Binds key submission before after row before.situation.store.tables :=
    ⟨.of_lawful lawful, .inl rfl⟩
  obtain ⟨⟨holds, before⟩, -⟩ := leading.run start fun commit member binds =>
    binds.step calls lawful fresh (parts ▸ List.mem_append_left _ member)
  have sole := holds.soleKind fresh yields
  rw [tables] at entered ⊢
  -- Only the last transaction can have written the entry: had an earlier one, the row would be there
  -- already, and the last one could not have created it.
  rcases before with unchanged | ⟨own, found, same⟩
  · have changed : last.after.ledger.find? key.token ≠ last.before.ledger.find? key.token := by
      rw [entered, unchanged]
      exact fun same => new same.symm
    rcases holds.sound.create_of_changed sole makes changed with ⟨created, -, present, opened⟩
    exact ⟨last.now, created, Option.some.inj (entered.symm.trans opened), present⟩
  · exact absurd makes (holds.sound.not_created_again sole found same)

/-- While the entry of its key stays live, a call for the row that the entry is for changes nothing, and
returns no other row. -/
theorem replays (calls : Calls key submission before row commits result after)
    (lawful : before.IsLawful) {entry : LedgerEntry} {stored : Row}
    (found : before.situation.store.tables.ledger.find? key.token = some entry)
    (live : after.situation.store.clock < entry.expiresAt)
    (unminted : entry.referenceId ≠ before.ids.draw.1)
    (member : stored ∈ before.situation.store.tables.rows) (id : stored.id = entry.referenceId)
    (same : stored.identity = submission.identity) :
    after.situation.store.tables = before.situation.store.tables ∧
      ∀ creation, result = .ok creation → creation = .replayed stored := by
  have sound := lawful.sound
  have hash := sound.hash_of_entry (Ledger.mem_of_find? found) member id
  have replayed : ∀ commit : Commit, commit.now ≤ after.situation.store.clock →
      commit.before = before.situation.store.tables →
      submission.Yields before.slugs.values before.ids.draw.1 row →
      ∀ creation, commit.Makes key row creation → creation = .replayed stored ∧
        commit.after = before.situation.store.tables := by
    intro commit now unchanged yields creation makes
    have different : entry.referenceId ≠ row.id := yields.id_eq ▸ unminted
    have bound := Ledger.live?_eq_some_iff.mpr ⟨found, lt_of_le_of_lt now live⟩
    rw [Commit.Makes, unchanged, sound.create_of_same bound different member id hash
      (same.trans yields.identity_eq.symm)] at makes
    rcases Prod.mk.inj (Except.ok.inj makes) with ⟨returned, left⟩
    exact ⟨returned.symm, left.symm⟩
  have chain : after.situation.store.tables = before.situation.store.tables ∧
      ∀ commit ∈ commits, commit.now ≤ after.situation.store.clock ∧
        commit.before = before.situation.store.tables := by
    refine (calls.advances.store.chain lawful.solitary).constant fun commit present now unchanged => ?_
    rcases calls.made commit present with idle | ⟨-, yields, creation, makes⟩
    · exact idle.trans unchanged
    · exact (replayed commit now unchanged yields creation makes).2
  refine ⟨chain.1, fun creation returned => ?_⟩
  rcases calls.returned creation returned with ⟨yields, last, final, makes⟩
  rcases chain.2 last (List.mem_of_getLast? final) with ⟨now, unchanged⟩
  exact (replayed last now unchanged yields creation makes).1

end Calls

end Service

end LinkShortener
