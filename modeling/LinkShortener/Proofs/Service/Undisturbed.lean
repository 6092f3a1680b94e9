import LinkShortener.Proofs.Service.Calm
import LinkShortener.Proofs.Service.Lookups
import LinkShortener.Proofs.Store.Undisturbed

/-! # Calls that nothing disturbs

What a unit of work and the lookup of a slug come to for a service on an undisturbed connection, while
other clients do what they like between its transactions.
-/

namespace LinkShortener

/-- A slug can be looked up: it holds no zero character. -/
theorem Statement.storable_slug {slug : String} (wellFormed : Slug.isWellFormed slug = true) :
    (Statement.fetchShortUrlBySlug slug).unstorable? = none := by
  have letters : slug.toList.all Slug.isLetter = true := by
    simp only [Slug.isWellFormed, Bool.and_eq_true] at wellFormed
    exact wellFormed.2
  have clean : Char.ofNat 0 ∉ slug.toList := fun member =>
    absurd (List.all_eq_true.mp letters _ member) (by decide)
  simp [unstorable?, texts, clean]

theorem Work.run_findBySlug_of_wellFormed {slug : String}
    (wellFormed : Slug.isWellFormed slug = true) (now : Instant) (tables : Tables) :
    (Work.findBySlug slug).run now tables = .ok (tables.shortUrlBySlug? slug, tables) := by
  rw [findBySlug, run_ask, Statement.run, Statement.storable_slug wellFormed]
  rfl

theorem Work.record_findBySlug {slug : String} (wellFormed : Slug.isWellFormed slug = true)
    (now : Instant) (tables : Tables) :
    (Work.findBySlug slug).record now tables = ["fetch_short_url_by_slug"] := by
  rw [findBySlug, ask, record, Statement.run, Statement.storable_slug wellFormed]
  rfl

namespace Service

variable {α : Type} {scene : Scene}

theorem completes_transact_undisturbed {work : Work α}
    {answered : StoreError → ServiceError × List Event}
    (undisturbed : scene.situation.store.IsUndisturbed)
    (final : ∀ now tables error, work.run now tables = .error error → error.retryable = false) :
    (transact work answered).Completes scene fun result after =>
      result = told answered (scene.situation.store.resumed.concluded work).1 ∧
        after.situation.store = (scene.situation.store.resumed.concluded work).2 ∧
        after = { scene with situation := after.situation } := by
  refine (completes_transact (Database.completes_transact_undisturbed _ undisturbed
    fun error => final _ _ error)).imp ?_
  rintro result after ⟨ended, rfl, concluded, scenery⟩
  rcases Prod.mk.inj concluded with ⟨rfl, store⟩
  exact ⟨rfl, store, scenery⟩

/-- The database after the lookup of a slug. -/
def lookedUp (database : Database) : Database :=
  (database.effected database.tables).closed ["begin", "fetch_short_url_by_slug", "commit"]

theorem completes_findBySlug_undisturbed (undisturbed : scene.situation.store.IsUndisturbed)
    {slug : String} (wellFormed : Slug.isWellFormed slug = true) :
    (findBySlug slug).Completes scene fun result after =>
      result = .ok (scene.situation.store.resumed.tables.shortUrlBySlug? slug) ∧
        after.situation.store = lookedUp scene.situation.store.resumed ∧
        after = { scene with situation := after.situation } := by
  refine (completes_transact_undisturbed undisturbed fun now tables error failed => ?_).imp ?_
  · rw [Work.run_findBySlug_of_wellFormed wellFormed] at failed
    cases failed
  · rintro result after ⟨rfl, store, scenery⟩
    rw [Database.concluded, Work.run_findBySlug_of_wellFormed wellFormed,
      Work.record_findBySlug wellFormed] at store ⊢
    exact ⟨rfl, store, scenery⟩

theorem lookupsKeep_isOver : LookupsKeep fun scene => scene.situation.IsOver where
  noting := keepsOver_note
  drawing := keepsOver_drawSlug
  finding _ := keepsOver_transact

/-- The client learns nothing of a text that the store cannot hold. -/
theorem answered_of_unstorable {statement : Statement} {error : DatabaseError}
    (refused : statement.unstorable? = some error) :
    (StoreError.answeredForShortUrl error.classify).1 = .internal := by
  unfold Statement.unstorable? at refused
  split at refused
  · cases refused
    rfl
  · split at refused
    · split at refused
      · cases refused
        rfl
      · cases refused
    · cases refused

/-- A search that nothing disturbs leaves the connection as it was, and its failures are none of the
client's doing. -/
def Searches {α : Type} (result : Except Failure α) (after : Scene) : Prop :=
  after.situation.store.IsUndisturbed ∧
    match result with
    | .ok _ => True
    | .error (.error error) => error.kind = .internal ∨ error.kind = .capacityExhausted
    | .error (.crash _) => False

theorem completes_findBySlug_searches (undisturbed : scene.situation.store.IsUndisturbed)
    (slug : String) : (findBySlug slug).Completes scene Searches := by
  refine (completes_transact_undisturbed undisturbed fun now tables error failed => ?_).imp ?_
  · rw [Work.findBySlug, Work.run_ask, Statement.run] at failed
    cases refused : (Statement.fetchShortUrlBySlug slug).unstorable? with
    | none => simp [refused, Statement.effect] at failed
    | some other =>
        rw [refused] at failed
        cases failed
        exact Tables.unstorable?_final refused
  · rintro result after ⟨rfl, store, -⟩
    refine ⟨store ▸ undisturbed.resumed.concluded _, ?_⟩
    rw [Database.concluded, Work.findBySlug, Work.run_ask, Statement.run]
    cases refused : (Statement.fetchShortUrlBySlug slug).unstorable? with
    | none => exact trivial
    | some other => exact .inl (congrArg ServiceError.kind (answered_of_unstorable refused))

theorem completes_searchFree_searches (attempts : Nat) {scene : Scene}
    (undisturbed : scene.situation.store.IsUndisturbed) :
    Completes (searchFree drawSlug (fun slug => return (← findBySlug slug).isSome) attempts) scene
      Searches := by
  induction attempts generalizing scene with
  | zero => exact completes_pure ⟨undisturbed, trivial⟩
  | succ attempts induction =>
      let drawn : Scene := { scene with slugs := scene.slugs.draw.2 }
      have quiet : drawn.situation.store.IsUndisturbed := undisturbed
      refine ensures_bind (ensures_get_bind (ensures_set_bind (ensures_pure ?_)))
      refine completes_bind (completes_bind
        ((completes_findBySlug_searches quiet _).imp ?_) fun _ => preserves_pure _) fun taken => ?_
      · intro result looked searched
        rcases result with (error | detail) | found
        · exact searched
        · exact searched
        · apply completes_pure
          cases found with
          | none => exact completes_pure ⟨searched.1, trivial⟩
          | some shortUrl => exact induction searched.1
      · cases taken with
        | false => exact preserves_pure _
        | true => exact lookupsKeep_isOver.searchFree attempts

theorem completes_freeSlug_searches (undisturbed : scene.situation.store.IsUndisturbed) :
    freeSlug.Completes scene Searches := by
  refine completes_bind ((completes_searchFree_searches slugAttempts undisturbed).imp ?_) ?_
  · intro result after searched
    rcases result with (error | detail) | _ | slug
    · exact searched
    · exact searched
    · exact ensures_modify_bind (ensures_throw (.inr ⟨searched.1, .inr rfl⟩))
    · exact completes_pure ⟨searched.1, trivial⟩
  · intro found
    cases found with
    | none => exact (keepsOver_note _).bind fun _ => preserves_throw _
    | some slug => exact preserves_pure _

/-- What a slug is resolved to in the given tables. -/
def resolution (tables : Tables) (slug : String) : Except Failure ShortUrl :=
  if Slug.isWellFormed slug then
    match tables.shortUrlBySlug? slug with
    | some shortUrl => .ok shortUrl
    | none => .error (.error (slugNotFound slug))
  else .error (.error (slugNotFound slug))

theorem completes_resolveSlug_undisturbed (undisturbed : scene.situation.store.IsUndisturbed)
    (slug : String) :
    (resolveSlug slug).Completes scene fun result _ =>
      result = resolution scene.situation.store.resumed.tables slug := by
  unfold resolveSlug resolution
  dsimp only
  cases wellFormed : Slug.isWellFormed slug with
  | false => exact ensures_bind (ensures_throw (.inr rfl))
  | true =>
      refine completes_bind ((completes_findBySlug_undisturbed undisturbed wellFormed).imp ?_) ?_
      · rintro result after ⟨rfl, -, -⟩
        cases scene.situation.store.resumed.tables.shortUrlBySlug? slug with
        | none => exact ensures_throw (.inr rfl)
        | some shortUrl => exact completes_pure rfl
      · intro found
        cases found with
        | none => exact preserves_throw _
        | some shortUrl => exact preserves_pure _

end Service

end LinkShortener
