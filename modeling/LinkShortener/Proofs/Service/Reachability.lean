import LinkShortener.Proofs.Service.Lawfulness
import LinkShortener.Proofs.Slug.Generation

/-! # Reachable scenes

A run starts with empty tables and performs one operation after the other. Each may fail at any
statement and be given up at any time. Whatever the run, the tables at its end are consistent.
-/

namespace LinkShortener

/-- The operations on the store. -/
inductive Operation where
  | create (key : IdempotencyKey) (submission : Submission)
  | resolveSlug (slug : String)
  | find (token : Uuid)
  | stats
  | purge

namespace Operation

def run : Operation → Service Unit
  | .create key submission => do
    let _ ← Service.create key submission
  | .resolveSlug slug => do
    let _ ← Service.resolveSlug slug
  | .find token => do
    let _ ← Service.ask (.findEntry token)
  | .stats => do
    let _ ← Service.ask .stats
  | .purge => do
    let _ ← Service.ask .purge

def after (operation : Operation) (scene : Scene) : Scene := (operation.run.run.run scene).2

end Operation

namespace Scene

/-- What may change between two operations of a run: everything but the tables and the supplies, but
the clock does not go back, and no other client changes the tables during the next operation. -/
structure Continues (before after : Scene) : Prop where
  tables : after.situation.store.tables = before.situation.store.tables
  clock : before.situation.store.clock ≤ after.situation.store.clock
  solitary : after.situation.store.IsSolitary
  ids : after.ids = before.ids
  slugs : after.slugs.values = before.slugs.values

/-- The scenes at the ends of runs. No operation draws an id that was drawn before, and the slugs
are those of the generator. -/
inductive Reachable : Scene → Prop where
  | start (scene : Scene) (empty : scene.situation.store.tables = .empty)
      (solitary : scene.situation.store.IsSolitary)
      (generated : ∀ place, ∃ words rest,
        Slug.generate words = some (scene.slugs.values place, rest)) : Reachable scene
  | step {before during : Scene} (reachable : Reachable before)
      (continues : before.Continues during) (fresh : during.IsFresh) (operation : Operation) :
      Reachable (operation.after during)

theorem Continues.proceeds {before after : Scene} (continues : before.Continues after) :
    before.Proceeds after :=
  .of_same (fun _ => continues.solitary) (fun _ => continues.tables) (fun _ => continues.clock)
    continues.ids continues.slugs

end Scene

namespace Service

/-- A statement that changes nothing or takes expired entries away. -/
def IsHarmless (statement : Statement) : Prop :=
  ∀ tables now answer after, statement.run tables now = .ok (answer, after) →
    after = tables ∨ after = { tables with ledger := tables.ledger.purge now }

theorem ensures_ask {statement : Statement} (harmless : IsHarmless statement) (scene : Scene) :
    Ensures (ask statement) scene fun _ after => scene.Proceeds after := by
  have ended := scene.situation.store.queryAlone_ends statement
  apply ensures_get_bind
  cases asked : scene.situation.store.queryAlone statement with
  | mk outcome database =>
      rw [asked] at ended
      refine ensures_set_bind (ensures_pure ?_)
      rcases ended with untouched | ⟨answer, tables, ran, untouched⟩
      · exact .of_same untouched.advances.alone (fun _ => untouched.tables)
          (fun _ => le_of_eq untouched.clock.symm) rfl rfl
      · have alone : scene.situation.store.IsSolitary → database.IsSolitary :=
          untouched.advances.alone
        have clock : scene.situation.store.clock ≤ database.clock := le_of_eq untouched.clock.symm
        rcases harmless _ _ _ _ ran with rfl | rfl
        · exact .of_same alone (fun _ => untouched.tables) (fun _ => clock) rfl rfl
        · exact .of_purge alone untouched.tables clock clock rfl rfl

theorem isHarmless_findEntry (token : Uuid) : IsHarmless (.findEntry token) := by
  intro tables now answer after ran
  cases ran
  exact .inl rfl

theorem isHarmless_stats : IsHarmless .stats := by
  intro tables now answer after ran
  cases ran
  exact .inl rfl

theorem isHarmless_purge : IsHarmless .purge := by
  intro tables now answer after ran
  cases ran
  exact .inr rfl

theorem ensures_resolveSlug (slug : String) (scene : Scene) :
    Ensures (resolveSlug slug) scene fun _ after => scene.Proceeds after := by
  unfold resolveSlug
  dsimp only
  split
  · exact ensures_bind (ensures_throw (Looks.refl scene).proceeds)
  · refine ensures_bind ((ensures_findBySlug slug scene).imp fun result after looks => ?_)
    rcases result with failure | _ | found
    · exact looks.proceeds
    · exact ensures_throw looks.proceeds
    · exact ensures_pure looks.proceeds

end Service

/-- No operation harms the tables, whatever fails. -/
theorem Operation.proceeds (operation : Operation) {scene : Scene} (fresh : scene.IsFresh) :
    scene.Proceeds (operation.after scene) := by
  have discards : ∀ {α : Type} {service : Service α},
      Ensures service scene (fun _ after => scene.Proceeds after) →
        Ensures (service >>= fun _ => pure ()) scene fun _ after => scene.Proceeds after := by
    intro α service ensured
    refine ensures_bind (ensured.imp fun result after proceeds => ?_)
    cases result with
    | ok value => exact ensures_pure proceeds
    | error failure => exact proceeds
  cases operation with
  | create key submission =>
      refine discards ((Service.ensures_create key submission scene).imp ?_)
      exact fun _ _ ⟨_, _, calls⟩ => calls.proceeds fresh
  | resolveSlug slug => exact discards (Service.ensures_resolveSlug slug scene)
  | find token => exact discards (Service.ensures_ask (Service.isHarmless_findEntry token) scene)
  | stats => exact discards (Service.ensures_ask Service.isHarmless_stats scene)
  | purge => exact discards (Service.ensures_ask Service.isHarmless_purge scene)

theorem Scene.Reachable.lawful {scene : Scene} (reachable : scene.Reachable) : scene.IsLawful := by
  induction reachable with
  | start scene empty solitary generated =>
      refine ⟨solitary, empty ▸ Tables.sound_empty, empty ▸ nofun, empty ▸ nofun, ?_⟩
      intro place
      rcases generated place with ⟨words, rest, drawn⟩
      exact Slug.generate_wellFormed drawn
  | step reachable continues fresh operation induction =>
      exact (operation.proceeds fresh).lawful (continues.proceeds.lawful induction)

namespace Tables

/-- Tables that could have come about in one run of the service, as an operator would check them. -/
structure IsConsistent (tables : Tables) : Prop where
  /-- No two entries share a key. -/
  tokens : (tables.ledger.map (·.token)).Nodup
  /-- No two entries are for the same row. -/
  references : (tables.ledger.map (·.referenceId)).Nodup
  /-- Every entry is for exactly one row of both tables together, with its fingerprint. -/
  referenced : ∀ entry ∈ tables.ledger, ∃ row,
    tables.rows.filter (fun other => other.id = entry.referenceId) = [row] ∧
      row.identity.fingerprint = entry.requestHash
  lifetimes : ∀ entry ∈ tables.ledger, entry.expiresAt = entry.createdAt.later entryLifetime
  shortUrls : ∀ row ∈ tables.shortUrls, Slug.isWellFormed row.slug = true ∧
    row.destination ≠ "" ∧ Text.trim row.destination = row.destination
  users : ∀ row ∈ tables.users, 3 ≤ row.username.toList.length ∧
    (∀ c ∈ row.username.toList, Registration.isUsernameChar c = true) ∧
    Email.isValid row.email = true

/-- A repeated request is answered with the row that its key is bound to, which has the fields of
the request, unless the hash confuses them with those of another row. -/
def Replays (tables : Tables) : Prop :=
  ∀ now key row entry, tables.ledger.live? key.token now = some entry →
    entry.requestHash = row.identity.fingerprint → entry.referenceId ≠ row.id →
    (∀ stored ∈ tables.rows, stored.identity.IsTellable row.identity) →
    ∃ stored ∈ tables.rows, stored.id = entry.referenceId ∧ stored.identity = row.identity ∧
      tables.create now (row.claim key) row = .ok (.replayed stored, tables)

end Tables

/-- In every run, whatever fails and whoever gives up, the tables are consistent, and a repeated
request finds its row. -/
theorem Scene.Reachable.consistent {scene : Scene} (reachable : scene.Reachable) :
    scene.situation.store.tables.IsConsistent ∧ scene.situation.store.tables.Replays := by
  have lawful := reachable.lawful
  have sound := lawful.sound
  constructor
  · refine ⟨sound.tokens, sound.references, fun entry member => ?_, sound.lifetimes,
      fun row member => ?_, fun row member => ?_⟩
    · rcases sound.referenced entry member with ⟨row, present, id, hash⟩
      exact ⟨row, id ▸ sound.sole_row present, hash⟩
    · have present : Row.shortUrl row ∈ scene.situation.store.tables.rows :=
        List.mem_append_left _ (List.mem_map_of_mem member)
      cases lawful.proper _ present with
      | shortUrl _ slug filled trimmed => exact ⟨slug, filled, trimmed⟩
    · have present : Row.user row ∈ scene.situation.store.tables.rows :=
        List.mem_append_right _ (List.mem_map_of_mem member)
      cases lawful.proper _ present with
      | user _ long letters email => exact ⟨long, letters, email⟩
  · intro now key row entry live hash other tellable
    have member := Ledger.mem_of_find? (Ledger.live?_eq_some_iff.mp live).1
    rcases sound.referenced entry member with ⟨stored, present, id, storedHash⟩
    have same := Identity.eq_of_fingerprint (tellable stored present) (storedHash.trans hash)
    exact ⟨stored, present, id, same,
      sound.create_of_same live other present id storedHash same⟩

theorem Scene.Reachable.consistent_after_creation :
    let scene := (Operation.create ⟨.ofDigit 2⟩ (.shortUrl "https://example.com")).after
      .calm
    scene.situation.store.tables.shortUrls.length = 1 ∧
      scene.situation.store.tables.IsConsistent ∧ scene.situation.store.tables.Replays := by
  have generated : Slug.generate [0, 1744830464, 1811939328, 1879048192, 1946157056] =
      some ("abcd", []) := by decide
  have start : Scene.calm.Reachable := .start .calm rfl nofun fun _ => ⟨_, _, generated⟩
  have continues : Scene.calm.Continues .calm := ⟨rfl, le_refl _, nofun, rfl, rfl⟩
  exact ⟨by decide +kernel, consistent (start.step continues nofun _)⟩

end LinkShortener
