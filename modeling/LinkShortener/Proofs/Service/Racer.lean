import LinkShortener.Proofs.Service.Growth
import LinkShortener.Proofs.Service.Undisturbed

/-! # A client in a race

One client looks for a slug and then stores a short URL under it, while others do what they like between
its transactions. Its last transaction tells how the call ends.
-/

namespace LinkShortener

/-! ## Tables of short URLs -/

namespace Tables

/-- Short URLs are only added, and no two come to share a slug. -/
structure Extends (before after : Tables) : Prop where
  kept : before.shortUrls ⊆ after.shortUrls
  distinct : (before.shortUrls.map (·.slug)).Nodup → (after.shortUrls.map (·.slug)).Nodup

theorem Extends.refl (tables : Tables) : tables.Extends tables := ⟨List.Subset.refl _, id⟩

theorem Extends.trans {before middle after : Tables} (first : before.Extends middle)
    (second : middle.Extends after) : before.Extends after :=
  ⟨List.Subset.trans first.kept second.kept, second.distinct ∘ first.distinct⟩

variable {tables after : Tables} {now : Instant} {claim : Claim} {row : NewShortUrl}
  {creation : Creation Row}

/-- A creation adds its short URL, or leaves the table as it is. -/
theorem shortUrls_of_create (made : tables.create now claim (.shortUrl row) = .ok (creation, after)) :
    after.shortUrls = tables.shortUrls ∨ tables.shortUrlConflict? row = none ∧
      after.shortUrls = (tables.insertShortUrl (shortUrlRow row now)).shortUrls := by
  have vacant : tables.refusal? (.shortUrl row) = none → tables.shortUrlConflict? row = none := by
    intro accepted
    rw [refusal?, Option.or_eq_none_iff, Option.map_eq_none_iff] at accepted
    exact accepted.2
  cases creates_of_create made with
  | opened free accepted => exact .inr ⟨vacant accepted, rfl⟩
  | resumed entry live own accepted => exact .inr ⟨vacant accepted, rfl⟩
  | repeated entry found live other equal present => exact .inl rfl

theorem extends_of_create (made : tables.create now claim (.shortUrl row) = .ok (creation, after)) :
    tables.Extends after := by
  rcases shortUrls_of_create made with same | ⟨vacant, added⟩
  · exact ⟨same ▸ List.Subset.refl _, same ▸ id⟩
  · rw [insertShortUrl] at added
    refine ⟨added ▸ List.subset_append_left _ _, fun distinct => ?_⟩
    rw [added]
    exact distinct_insertShortUrl vacant distinct

/-- The constraint that a short URL of a new id would break is that on slugs. -/
theorem taken_of_conflict {constraint : String} (fresh : ∀ other ∈ tables.shortUrls, other.id ≠ row.id)
    (conflict : tables.shortUrlConflict? row = some constraint) :
    constraint = "short_urls_slug_key" ∧ ∃ other ∈ tables.shortUrls, other.slug = row.slug := by
  have apart : tables.shortUrls.any (fun stored => decide (stored.id = row.id)) = false := by
    simpa using fresh
  rw [shortUrlConflict?, apart] at conflict
  cases taken : tables.shortUrls.any (fun stored => decide (stored.slug = row.slug)) with
  | false => simp [taken] at conflict
  | true =>
      rw [taken] at conflict
      cases conflict
      exact ⟨rfl, by simpa using taken⟩

/-- A request under the key is handled as a first one: its row is stored with a new entry, unless the
store refuses it. -/
def TakesFirst (tables : Tables) (key : IdempotencyKey) (now : Instant) : Prop :=
  ∀ row : NewShortUrl, let claim : Claim := ⟨key, Fingerprint.shortUrl row.destination⟩
    (Work.createShortUrl claim row).run now tables =
      match tables.refusal? (.shortUrl row) with
      | some error => .error error.classify
      | none => .ok (.created (shortUrlRow row now),
          { tables with ledger := tables.ledger.put (.opened claim row.id now) }.insertShortUrl
            (shortUrlRow row now))

theorem takesFirst_of_free {key : IdempotencyKey} (free : tables.ledger.live? key.token now = none) :
    tables.TakesFirst key now := by
  intro row claim
  have same := Work.run_createShortUrl claim row now tables
  have created : tables.create now claim (.shortUrl row) = _ :=
    create_of_free (storable_claim (.shortUrl row) key) free
  rw [created] at same
  cases refused : tables.refusal? (.shortUrl row) with
  | some error =>
      rw [refused] at same
      cases ran : (Work.createShortUrl claim row).run now tables with
      | error other =>
          rw [ran] at same
          cases same
          rfl
      | ok outcome =>
          rw [ran] at same
          cases same
  | none =>
      rw [refused] at same
      cases ran : (Work.createShortUrl claim row).run now tables with
      | error other =>
          rw [ran] at same
          cases same
      | ok outcome =>
          rw [ran] at same
          rcases outcome with ⟨made | made, changed⟩
          · cases same
            rfl
          · cases same

end Tables

/-- The statements of a creation whose slug is taken: the key is reserved, and the row is refused. -/
theorem Work.record_createShortUrl_of_taken {claim : Claim} {row : NewShortUrl} {now : Instant}
    {tables : Tables} {constraint : String}
    (storable : (Statement.reserve claim row.id).unstorable? = none)
    (free : tables.ledger.live? claim.key.token now = none)
    (storableRow : (Statement.insertShortUrl row).unstorable? = none)
    (taken : tables.shortUrlConflict? row = some constraint) :
    (Work.createShortUrl claim row).record now tables = ["reserve", "insert_short_url!23505"] := by
  have own : (LedgerEntry.opened claim row.id now).resolve row.id claim.requestHash = .fresh :=
    if_pos rfl
  change (Work.query (.reserve claim row.id) _).record now tables = _
  rw [record, Statement.run, storable]
  simp only [Statement.effect, Ledger.reserve_of_free free]
  rw [andThen, own]
  let reserved : Tables :=
    { tables with ledger := tables.ledger.put (.opened claim row.id now) }
  have conflict : reserved.shortUrlConflict? row = some constraint := taken
  have refused : (Statement.insertShortUrl row).run reserved now =
      .error (Statement.duplicate constraint) := by
    rw [Statement.run, storableRow]
    dsimp only [Statement.effect]
    rw [conflict]
  change _ :: (Work.query (.insertShortUrl row) _).record now reserved = _
  rw [record, refused]
  rfl

/-! ## One client -/

open Service

/-- A client who wants to have a short URL, with everything that the call depends on. No fault strikes
it; what others do between its transactions is part of the scene. -/
structure Racer where
  key : IdempotencyKey
  destination : String
  scene : Scene
  unused : scene.situation.store.commits = []
  undisturbed : scene.situation.store.IsUndisturbed

/-- The answer where another short URL has the slug. -/
def slugTaken : ServiceError :=
  .conflict "Slug is already in use, please retry" (.object [("field", .string "slug")])

theorem Work.created_eq_of_run {claim : Claim} {row : NewShortUrl} {now : Instant}
    {tables after : Tables} {stored : ShortUrl}
    (ran : (createShortUrl claim row).run now tables = .ok (.created stored, after)) :
    stored = Tables.shortUrlRow row now := by
  have made := run_createShortUrl claim row now tables
  rw [ran] at made
  cases Tables.creates_of_create made.symm <;> rfl

namespace Racer

variable (racer : Racer)

def candidate : Uuid := racer.scene.ids.draw.1

/-- The call: what it returns, and the scene after it. -/
def call : Except Service.Failure (Creation ShortUrl) × Scene :=
  (createShortUrl racer.key racer.destination).run.run racer.scene

/-- The scene in which the call has drawn its id. -/
def drawn : Scene := { racer.scene with ids := racer.scene.ids.draw.2 }

/-- What the call does then: it looks for a slug that is free. -/
def search : Except Service.Failure String × Scene := freeSlug.run.run racer.drawn

def row (slug : String) : NewShortUrl := ⟨racer.candidate, Text.trim racer.destination, slug⟩

/-- The unit of work that stores the row under a slug. -/
def work (slug : String) : Work (Creation ShortUrl) :=
  .createShortUrl ⟨racer.key, Fingerprint.shortUrl (Text.trim racer.destination)⟩ (racer.row slug)

/-- The store as the unit of work finds it. -/
def base : Database := racer.search.2.situation.store.resumed

/-- The tables as the unit of work leaves them. -/
def left (slug : String) : Tables :=
  match (racer.work slug).run racer.base.clock racer.base.tables with
  | .ok (_, after) => after
  | .error _ => racer.base.tables

/-- What the call does with the slug that it has found. -/
def storing (slug : String) : Service (Creation ShortUrl) := do
  let creation ← transact (racer.work slug) StoreError.answeredForShortUrl
  match creation with
  | .created row => note [.shortUrlCreated row.id row.slug]
  | .replayed row => note [.shortUrlReplayed row.id row.slug racer.key.token]
  return creation

/-- The search of the call has come to the slug. -/
structure Chooses (slug : String) : Prop where
  acceptable : (Submission.shortUrl racer.destination).IsAcceptable
  found : racer.search.1.toOption = some slug

/-- The transactions of the call in their order: those that take effect, and the last one if the call
has undone it, which has changed nothing. -/
def transactions : List Commit :=
  let store := racer.call.2.situation.store
  store.commits ++
    if store.trace.getLast? = some "rollback" then [store.closing store.tables] else []

/-- What a transaction of the call does. -/
inductive Does (commit : Commit) : Prop where
  | idle (unchanged : commit.IsIdle)
  | creation (row : NewShortUrl) (made : Creation Row) (id : row.id = racer.candidate)
      (makes : commit.Makes racer.key (.shortUrl row) made)

variable {racer} {slug : String}

theorem calls (racer : Racer) : ∃ row, Calls racer.key (.shortUrl racer.destination) racer.scene row
    racer.call.2.situation.store.commits (racer.call.1.map (Creation.map .shortUrl))
    racer.call.2 := by
  have made : ∃ row commits, Calls racer.key (.shortUrl racer.destination) racer.scene row commits
      (racer.call.1.map (Creation.map .shortUrl)) racer.call.2 :=
    ensures_createShortUrl racer.destination
  rcases made with ⟨row, commits, calls⟩
  have recorded := calls.advances.store.recorded
  rw [racer.unused, List.nil_append] at recorded
  exact ⟨row, recorded ▸ calls⟩

theorem does_of_mem {commit : Commit} (member : commit ∈ racer.transactions) :
    racer.Does commit := by
  rcases List.mem_append.mp member with effective | undone
  · rcases racer.calls with ⟨row, calls⟩
    rcases calls.made commit effective with idle | ⟨-, yields, made, makes⟩
    · exact .idle idle
    · cases yields with
      | shortUrl destination place acceptable => exact .creation _ made rfl makes
  · split at undone
    · rw [List.mem_singleton.mp undone]
      exact .idle rfl
    · cases undone

/-- The call is a search, and then the storing of a row. -/
theorem ensures_call (acceptable : (Submission.shortUrl racer.destination).IsAcceptable)
    {goal : Except Service.Failure (Creation ShortUrl) → Scene → Prop}
    (ensured : Ensures (freeSlug >>= racer.storing) racer.drawn goal) :
    goal racer.call.1 racer.call.2 := by
  suffices called : Ensures (createShortUrl racer.key racer.destination) racer.scene goal from called
  refine ensures_createShortUrl_parts (fun blank => ?_) fun _ => ensured
  cases acceptable.symm.trans blank

theorem ensures_call_of_chooses (chooses : racer.Chooses slug)
    {goal : Except Service.Failure (Creation ShortUrl) → Scene → Prop}
    (unlogged : ∀ result scene log, goal result scene →
      goal result { scene with situation := { scene.situation with log } })
    (ensured : Ensures (transact (racer.work slug) StoreError.answeredForShortUrl) racer.search.2
      goal) : goal racer.call.1 racer.call.2 := by
  have searching : Ensures freeSlug racer.drawn fun result found =>
      result.toOption = some slug ∧ found = racer.search.2 := ⟨chooses.found, rfl⟩
  apply ensures_call chooses.acceptable
  refine ensures_bind (searching.imp ?_)
  rintro result found ⟨chosen, rfl⟩
  cases result with
  | error failure => cases chosen
  | ok other =>
  cases chosen
  change Ensures (Service.storing racer.key (racer.row slug)) racer.search.2 goal
  exact ensures_storing (fun result after events => unlogged result after _) ensured

/-- Only a call that has found a slug can meet with one that is taken. -/
theorem chooses_of_taken (inTime : ¬ racer.call.2.situation.IsOver)
    (returned : racer.call.1 = .error (.error slugTaken)) : ∃ slug, racer.Chooses slug := by
  by_cases acceptable : (Submission.shortUrl racer.destination).IsAcceptable
  · cases found : racer.search.1 with
    | ok slug => exact ⟨slug, acceptable, congrArg Except.toOption found⟩
    | error failure =>
        have searching : Ensures freeSlug racer.drawn fun result after =>
            result = .error failure ∧ after = racer.search.2 := ⟨found, rfl⟩
        have stopped : Ensures (freeSlug >>= racer.storing) racer.drawn fun result after =>
            result = .error failure ∧ after = racer.search.2 := by
          refine ensures_bind (searching.imp ?_)
          rintro result after ⟨rfl, rfl⟩
          exact ⟨rfl, rfl⟩
        have ended := ensures_call acceptable stopped
        have same : failure = .error slugTaken := Except.error.inj (ended.1.symm.trans returned)
        have searched : racer.search.2.situation.IsOver ∨ Searches racer.search.1 racer.search.2 :=
          completes_freeSlug_searches racer.undisturbed
        rcases searched with late | ⟨-, quiet⟩
        · rw [ended.2] at inTime
          exact absurd late inTime
        · rw [found, same] at quiet
          rcases quiet with internal | exhausted
          · cases internal
          · cases exhausted
  · have refused : Ensures (createShortUrl racer.key racer.destination) racer.scene
        fun result _ => result ≠ .error (.error slugTaken) := by
      refine ensures_createShortUrl_parts (fun _ => ?_) fun filled => absurd filled acceptable
      simp [slugTaken, blankDestination, ServiceError.badRequest, ServiceError.conflict]
    exact absurd returned refused

/-- The transactions of the search change nothing. -/
theorem isIdle_of_search (racer : Racer) :
    ∀ commit ∈ racer.search.2.situation.store.commits, commit.IsIdle := by
  rcases (ensures_freeSlug racer.drawn).1 with ⟨commits, passes, idle⟩
  have recorded : racer.search.2.situation.store.commits = _ ++ commits :=
    passes.advances.store.recorded
  rw [show racer.drawn.situation.store.commits = [] from racer.unused, List.nil_append] at recorded
  exact fun commit member => idle commit (recorded ▸ member)

/-- How a call ends that stores its row in one undisturbed transaction. -/
structure Ends (racer : Racer) (slug : String)
    (result : Except Service.Failure (Creation ShortUrl)) (after : Scene) : Prop where
  returned : result =
    told StoreError.answeredForShortUrl (racer.base.concluded (racer.work slug)).1
  store : after.situation.store = (racer.base.concluded (racer.work slug)).2
  slugs : after.slugs = racer.search.2.slugs

theorem final_work {now : Instant} {tables : Tables} {error : StoreError}
    (failed : (racer.work slug).run now tables = .error error) : error.retryable = false := by
  have same := Work.run_createShortUrl
    ⟨racer.key, Fingerprint.shortUrl (Text.trim racer.destination)⟩ (racer.row slug) now tables
  rw [show (Work.createShortUrl _ (racer.row slug)).run now tables = .error error from failed] at same
  exact Tables.create_final same.symm

private theorem completes_work (undisturbed : racer.search.2.situation.store.IsUndisturbed) :
    (transact (racer.work slug) StoreError.answeredForShortUrl).Completes racer.search.2
      (racer.Ends slug) := by
  refine (completes_transact_undisturbed undisturbed fun _ _ _ => final_work).imp ?_
  rintro result after ⟨returned, store, scenery⟩
  have slugs := congrArg Scene.slugs scenery
  exact ⟨returned, store, slugs⟩

theorem ends_of_chooses (chooses : racer.Chooses slug)
    (inTime : ¬ racer.call.2.situation.IsOver) : racer.Ends slug racer.call.1 racer.call.2 := by
  have searched : racer.search.2.situation.IsOver ∨ Searches racer.search.1 racer.search.2 :=
    completes_freeSlug_searches racer.undisturbed
  have stored : (transact (racer.work slug) StoreError.answeredForShortUrl).Completes
      racer.search.2 (racer.Ends slug) := by
    rcases searched with late | ⟨undisturbed, -⟩
    · exact Ensures.imp (keepsOver_transact racer.search.2 late) fun _ _ => .inl
    · exact completes_work undisturbed
  have ended := ensures_call_of_chooses chooses (fun result scene log ended => ?_) stored
  · exact ended.resolve_left inTime
  · exact ended.imp_right fun ends => ⟨ends.returned, ends.store, ends.slugs⟩

theorem commits_base (racer : Racer) :
    racer.base.commits = racer.search.2.situation.store.commits := by
  rcases racer.search.2.situation.store.resumed_eq with ⟨clock, tables, interludes, equal⟩
  rw [base, equal]

theorem trace_base (racer : Racer) :
    racer.base.trace = racer.search.2.situation.store.trace := by
  rcases racer.search.2.situation.store.resumed_eq with ⟨clock, tables, interludes, equal⟩
  rw [base, equal]

/-- After its lookups such a call has one more transaction, and no others. -/
theorem transactions_of_ends (ends : racer.Ends slug racer.call.1 racer.call.2) :
    racer.transactions = racer.search.2.situation.store.commits ++
      [racer.base.closing (racer.left slug)] := by
  have ended : ∀ record : List String, ∀ mark,
      (racer.base.trace ++ ("begin" :: record ++ [mark])).getLast? = some mark := by
    intro record mark
    rw [← List.append_assoc, List.getLast?_concat]
  have effective : ∀ record : List String,
      ¬ (racer.base.trace ++ ("begin" :: record ++ ["commit"])).getLast? = some "rollback" := by
    intro record
    rw [ended]
    decide
  unfold transactions left
  dsimp only
  rw [ends.store, Database.concluded, ← racer.commits_base]
  cases (racer.work slug).run racer.base.clock racer.base.tables with
  | ok outcome =>
      exact (congrArg _ (if_neg (effective _))).trans (List.append_nil _)
  | error error => exact congrArg _ (if_pos (ended _ _))

/-- How a call for a slug comes out, going by its last transaction. -/
inductive Outcome (racer : Racer) (slug : String) (last : Commit) : Prop where
  | created (row : ShortUrl) (returned : racer.call.1 = .ok (.created row)) (own : row.slug = slug)
      (stored : row ∈ last.after.shortUrls)
  /-- Another short URL has the slug. -/
  | taken (returned : racer.call.1 = .error (.error slugTaken)) (idle : last.IsIdle)
      (once : racer.call.2.situation.store.trace = racer.search.2.situation.store.trace ++
        ["begin", "reserve", "insert_short_url!23505", "rollback"])
      (held : ∃ other ∈ last.before.shortUrls, other.slug = slug)
  /-- The store cannot hold the texts of the row. -/
  | unstorable (refused : (Statement.insertShortUrl (racer.row slug)).unstorable?.isSome)
      (returned : racer.call.1 = .error (.error .internal))

/-- Where its key is free and its id is new, a call fails only if its slug is taken or the store cannot
hold the row. -/
theorem outcome_of_ends (ends : racer.Ends slug racer.call.1 racer.call.2)
    (free : racer.base.tables.ledger.live? racer.key.token racer.base.clock = none)
    (fresh : ∀ other ∈ racer.base.tables.shortUrls, other.id ≠ racer.candidate) :
    racer.Outcome slug (racer.base.closing (racer.left slug)) := by
  have ran : (racer.work slug).run racer.base.clock racer.base.tables = _ :=
    Tables.takesFirst_of_free free (racer.row slug)
  have returned := ends.returned
  have store := ends.store
  rw [Database.concluded, ran] at returned store
  unfold left
  rw [ran]
  cases refused : racer.base.tables.refusal? (.shortUrl (racer.row slug)) with
  | none =>
      rw [refused] at returned
      exact .created _ returned rfl (List.mem_append_right _ List.mem_cons_self)
  | some error =>
      rw [refused] at returned store
      rw [Tables.refusal?] at refused
      cases unstorable : (Statement.insertShortUrl (racer.row slug)).unstorable? with
      | some other =>
          rw [show (NewRow.shortUrl (racer.row slug)).insertion.unstorable? = _ from unstorable]
            at refused
          cases refused
          refine .unstorable (by rw [unstorable]; rfl) ?_
          rw [returned]
          dsimp only [told]
          rw [answered_of_unstorable unstorable]
      | none =>
          rw [show (NewRow.shortUrl (racer.row slug)).insertion.unstorable? = _ from unstorable,
            Option.none_or, Option.map_eq_some_iff] at refused
          rcases refused with ⟨constraint, conflict, rfl⟩
          rcases Tables.taken_of_conflict fresh conflict with ⟨-, held⟩
          refine .taken returned rfl ?_ held
          have record : (racer.work slug).record racer.base.clock racer.base.tables = _ :=
            Work.record_createShortUrl_of_taken
              (Tables.storable_claim (.shortUrl (racer.row slug)) racer.key) free unstorable conflict
          rw [store, record, ← racer.trace_base]
          rfl

/-- A row that a call has created is stored under the slug of the call. -/
theorem stored_of_created (chooses : racer.Chooses slug) {row : ShortUrl}
    (returned : racer.call.1 = .ok (.created row)) :
    row.slug = slug ∧ row.id = racer.candidate ∧
      ∃ commit ∈ racer.transactions, row ∈ commit.after.shortUrls := by
  have stored : Ensures (transact (racer.work slug) StoreError.answeredForShortUrl)
      racer.search.2 fun result after => ∀ row, result = .ok (.created row) →
        row.slug = slug ∧ row.id = racer.candidate ∧
          ∃ commit ∈ after.situation.store.commits, row ∈ commit.after.shortUrls := by
    refine (ensures_transact _ _ racer.search.2).imp fun result after ⟨commits, transacts⟩ => ?_
    rintro row rfl
    rcases transacts.returned _ rfl with ⟨last, final, runs⟩
    have created : row = Tables.shortUrlRow (racer.row slug) last.now :=
      Work.created_eq_of_run runs
    refine ⟨by rw [created]; rfl, by rw [created]; rfl, last, ?_, Work.mem_of_createShortUrl runs⟩
    rw [transacts.passes.advances.store.recorded]
    exact List.mem_append_right _ (List.mem_of_getLast? final)
  rcases ensures_call_of_chooses chooses (fun _ _ _ ended => ended) stored row returned with
    ⟨own, id, commit, member, present⟩
  exact ⟨own, id, commit, List.mem_append_left _ member, present⟩

end Racer

end LinkShortener
