import LinkShortener.Proofs.Service.Undisturbed

/-! # Creations without obstacles

A creation that nothing gets in the way of is one step on the tables, with the row that it was asked
for.
-/

namespace LinkShortener

open Retry

/-- The answer where the store refuses to insert a row. -/
def Row.Kind.answered : Row.Kind → StoreError → ServiceError × List Event
  | .shortUrl => StoreError.answeredForShortUrl
  | .user => StoreError.answeredForUser

/-- Whether the service can make a row of a submission: one of the candidates for the slug is free, or
the password can be hashed. -/
def Scene.Serves (scene : Scene) : Submission → Prop
  | .shortUrl _ => ∃ place < Service.slugAttempts,
    scene.situation.store.tables.shortUrlBySlug? (scene.slugs.values (scene.slugs.drawn + place)) =
      none
  | .user registration => ∃ hash, scene.hasher registration.password = .ok hash

def Tables.HasRoom (tables : Tables) : NewRow → Prop
  | .shortUrl row => tables.shortUrlBySlug? row.slug = none
  | .user _ => True

namespace Work

variable {α : Type} {work : Work (Creation α)} {embed : α → Row} {claim : Claim} {row : NewRow}

theorem final_of_create
    (runs : ∀ now tables, (work.run now tables).map (embedded embed) = tables.create now claim row)
    {now : Instant} {tables : Tables} {error : StoreError}
    (failed : work.run now tables = .error error) : error.retryable = false := by
  have same := runs now tables
  rw [failed] at same
  exact Tables.create_final same.symm

end Work

namespace Service

theorem completes_findBySlug {scene : Scene} (calm : scene.IsCalm) {slug : String}
    (wellFormed : Slug.isWellFormed slug = true) :
    (findBySlug slug).Completes scene fun result after =>
      result = .ok (scene.situation.store.tables.shortUrlBySlug? slug) ∧ scene.Stays after ∧
        after.slugs = scene.slugs := by
  refine (completes_transact_calm calm fun now error failed => ?_).imp ?_
  · rw [Work.run_findBySlug_of_wellFormed wellFormed] at failed
    cases failed
  · rintro result after ⟨stays, scenery, settled⟩
    rw [Work.run_findBySlug_of_wellFormed wellFormed] at settled
    rcases settled with ⟨rfl, tables⟩
    have slugs : after.slugs = scene.slugs := by rw [scenery]
    exact ⟨rfl, ⟨stays, tables, by rw [scenery], congrArg Supply.values slugs⟩, slugs⟩

theorem completes_searchFree (attempts : Nat) {scene : Scene} (calm : scene.IsCalm)
    (wellFormed : ∀ place, Slug.isWellFormed (scene.slugs.values place) = true)
    (free : ∃ place < attempts, scene.situation.store.tables.shortUrlBySlug?
      (scene.slugs.values (scene.slugs.drawn + place)) = none) :
    Completes (searchFree drawSlug (fun slug => return (← findBySlug slug).isSome) attempts) scene
      fun result after => scene.Stays after ∧ ∃ place,
        result = .ok (some (scene.slugs.values place)) ∧
          scene.situation.store.tables.shortUrlBySlug? (scene.slugs.values place) = none := by
  induction attempts generalizing scene with
  | zero =>
      rcases free with ⟨place, absurd, -⟩
      cases absurd
  | succ attempts induction =>
      let drawn : Scene := { scene with slugs := scene.slugs.draw.2 }
      have drawnCalm : drawn.IsCalm := ⟨calm.isOpen, calm.spent, calm.solitary⟩
      refine ensures_bind (ensures_get_bind (ensures_set_bind (ensures_pure ?_)))
      refine completes_bind (completes_bind
        ((completes_findBySlug drawnCalm (wellFormed scene.slugs.drawn)).imp ?_)
        fun _ => preserves_pure _) fun taken => ?_
      · rintro result looked ⟨rfl, stays, slugs⟩
        have looking : scene.Stays looked := ⟨stays.calm, stays.tables, stays.ids, stays.slugs⟩
        apply completes_pure
        cases found : drawn.situation.store.tables.shortUrlBySlug?
            (scene.slugs.values scene.slugs.drawn) with
        | none => exact completes_pure ⟨looking, scene.slugs.drawn, rfl, found⟩
        | some shortUrl =>
            rcases free with ⟨place, small, vacant⟩
            -- This candidate is taken, so the free one is among those that are still to come.
            cases place with
            | zero =>
                rw [Nat.add_zero] at vacant
                cases vacant.symm.trans found
            | succ place =>
                have later : ∃ place < attempts, looked.situation.store.tables.shortUrlBySlug?
                    (looked.slugs.values (looked.slugs.drawn + place)) = none := by
                  refine ⟨place, Nat.lt_of_succ_lt_succ small, ?_⟩
                  have next : looked.slugs.drawn + place = scene.slugs.drawn + (place + 1) := by
                    rw [slugs]
                    exact Nat.add_right_comm scene.slugs.drawn 1 place
                  rw [looking.tables, looking.slugs, next]
                  exact vacant
                apply (induction looking.calm (looking.slugs ▸ wellFormed) later).imp
                rintro result after ⟨following, chosen, rfl, vacant⟩
                refine ⟨looking.trans following, chosen, by rw [looking.slugs], ?_⟩
                rwa [looking.tables, looking.slugs] at vacant
      · cases taken with
        | false => exact preserves_pure _
        | true => exact lookupsKeep_isOver.searchFree attempts

theorem completes_freeSlug {scene : Scene} (calm : scene.IsCalm)
    (wellFormed : ∀ place, Slug.isWellFormed (scene.slugs.values place) = true)
    (free : ∃ place < slugAttempts, scene.situation.store.tables.shortUrlBySlug?
      (scene.slugs.values (scene.slugs.drawn + place)) = none) :
    freeSlug.Completes scene fun result after => scene.Stays after ∧ ∃ place,
      result = .ok (scene.slugs.values place) ∧
        scene.situation.store.tables.shortUrlBySlug? (scene.slugs.values place) = none := by
  refine completes_bind ((completes_searchFree slugAttempts calm wellFormed free).imp ?_) ?_
  · rintro result after ⟨stays, place, rfl, vacant⟩
    exact completes_pure ⟨stays, place, rfl, vacant⟩
  · intro found
    cases found with
    | none => exact (keepsOver_note _).bind fun _ => preserves_throw _
    | some slug => exact preserves_pure _

/-- What a creation comes to: its result and the tables after it. -/
def Settles (kind : Row.Kind) (outcome : Except StoreError (Creation Row × Tables))
    (before : Tables) (result : Except Failure (Creation Row)) (after : Tables) : Prop :=
  match outcome with
  | .ok (creation, tables) => result = .ok creation ∧ after = tables
  | .error error => result = .error (.error (kind.answered error).1) ∧ after = before

private theorem completes_stored {α : Type} {work : Work (Creation α)} {embed : α → Row}
    {claim : Claim} {row : NewRow} {scene : Scene} (kind : Row.Kind) (calm : scene.IsCalm)
    (runs : ∀ now tables,
      (work.run now tables).map (Work.embedded embed) = tables.create now claim row) :
    (transact work kind.answered).Completes scene fun result after =>
      Settles kind
        (scene.situation.store.tables.create after.situation.store.clock claim row)
        scene.situation.store.tables (result.map (Creation.map embed))
        after.situation.store.tables := by
  refine (completes_transact_calm calm fun now error failed => Work.final_of_create runs failed).imp
    ?_
  rintro result after ⟨-, -, settled⟩
  rw [← runs]
  cases ran : work.run after.situation.store.clock scene.situation.store.tables with
  | error error =>
      rw [ran] at settled
      rcases settled with ⟨rfl, tables⟩
      exact ⟨rfl, tables⟩
  | ok outcome =>
      rw [ran] at settled
      rcases settled with ⟨rfl, tables⟩
      exact ⟨rfl, tables⟩

/-- A creation that nothing gets in the way of is one step on the tables. -/
structure Creates (key : IdempotencyKey) (submission : Submission) (before : Scene) (row : NewRow)
    (result : Except Failure (Creation Row)) (after : Scene) : Prop where
  yields : submission.Yields before.slugs.values before.ids.draw.1 row
  room : before.situation.store.tables.HasRoom row
  settles : Settles submission.kind (before.situation.store.tables.create
      after.situation.store.clock (row.claim key) row)
    before.situation.store.tables result after.situation.store.tables

variable {key : IdempotencyKey} {scene : Scene}

theorem completes_createShortUrl (calm : scene.IsCalm)
    (wellFormed : ∀ place, Slug.isWellFormed (scene.slugs.values place) = true)
    {destination : String} (acceptable : (Submission.shortUrl destination).IsAcceptable)
    (serves : scene.Serves (.shortUrl destination)) :
    (createShortUrl key destination).Completes scene fun result after => ∃ row,
      Creates key (.shortUrl destination) scene row (result.map (Creation.map .shortUrl)) after := by
  have drawnCalm : scene.idDrawn.IsCalm := ⟨calm.isOpen, calm.spent, calm.solitary⟩
  refine ensures_createShortUrl_parts (fun blank => ?_) fun _ => ?_
  · cases acceptable.symm.trans blank
  refine completes_bind ((completes_freeSlug drawnCalm wellFormed serves).imp ?_) fun slug => ?_
  · rintro result found ⟨stays, place, rfl, vacant⟩
    have runs := Work.run_createShortUrl ⟨key, Fingerprint.shortUrl (Text.trim destination)⟩
      ⟨scene.ids.draw.1, Text.trim destination, scene.slugs.values place⟩
    apply ensures_storing
    · rintro result after events (late | ⟨row, creates⟩)
      · exact .inl late
      · exact .inr ⟨row, creates.yields, creates.room, creates.settles⟩
    · exact (completes_stored .shortUrl stays.calm runs).imp fun result after settles =>
        ⟨_, .shortUrl destination place acceptable, vacant, stays.tables ▸ settles⟩
  · refine keepsOver_transact.bind fun creation => ?_
    cases creation <;> exact (keepsOver_note _).bind fun _ => preserves_pure _

/-- The row is that of the registration, with the hash of its password. -/
theorem completes_createUser_of_hashed (calm : scene.IsCalm) {registration : Registration}
    (valid : registration.validate = .ok ()) {hash : String}
    (hashed : scene.hasher registration.password = .ok hash) :
    (createUser key registration).Completes scene fun result after =>
      let row : NewRow :=
        .user ⟨scene.ids.draw.1, registration.username, registration.email, hash⟩
      Settles .user
        (scene.situation.store.tables.create after.situation.store.clock (row.claim key) row)
        scene.situation.store.tables (result.map (Creation.map .user))
        after.situation.store.tables := by
  have drawnCalm : { scene with ids := scene.ids.draw.2 }.IsCalm :=
    ⟨calm.isOpen, calm.spent, calm.solitary⟩
  unfold createUser hashPassword
  rw [valid]
  refine ensures_bind (ensures_get_bind ?_)
  rw [hashed]
  refine ensures_pure (ensures_bind (ensures_get_bind (ensures_set_bind (ensures_pure ?_))))
  have runs := Work.run_createUser ⟨key, Fingerprint.user registration.username registration.email⟩
    ⟨scene.ids.draw.1, registration.username, registration.email, hash⟩
  refine completes_bind ((completes_stored .user drawnCalm runs).imp ?_) fun creation =>
    (keepsOver_note _).bind fun _ => preserves_pure _
  intro result after settles
  cases result with
  | error failure => exact settles
  | ok creation => exact ensures_modify_bind (completes_pure settles)

theorem completes_createUser (calm : scene.IsCalm) {registration : Registration}
    (acceptable : (Submission.user registration).IsAcceptable)
    (serves : scene.Serves (.user registration)) :
    (createUser key registration).Completes scene fun result after => ∃ row,
      Creates key (.user registration) scene row (result.map (Creation.map .user)) after := by
  rcases serves with ⟨hash, hashed⟩
  exact (completes_createUser_of_hashed calm acceptable hashed).imp fun result after settles =>
    ⟨_, .user registration hash acceptable, trivial, settles⟩

/-- A creation that nothing gets in the way of, on either path. -/
theorem completes_create (calm : scene.IsCalm)
    (wellFormed : ∀ place, Slug.isWellFormed (scene.slugs.values place) = true)
    {submission : Submission} (acceptable : submission.IsAcceptable)
    (serves : scene.Serves submission) :
    (create key submission).Completes scene fun result after => ∃ row,
      Creates key submission scene row result after := by
  cases submission with
  | shortUrl destination =>
      refine completes_bind ((completes_createShortUrl calm wellFormed acceptable serves).imp ?_)
        fun _ => preserves_pure _
      intro result after creates
      cases result with
      | ok creation => exact completes_pure creates
      | error failure => exact creates
  | user registration =>
      refine completes_bind ((completes_createUser calm acceptable serves).imp ?_)
        fun _ => preserves_pure _
      intro result after creates
      cases result with
      | ok creation => exact completes_pure creates
      | error failure => exact creates

end Service

end LinkShortener
