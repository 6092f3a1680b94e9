import LinkShortener.Proofs.Service.Calm
import LinkShortener.Proofs.Service.Lookups
import LinkShortener.Proofs.Service.Reachability
import LinkShortener.Proofs.Store.Growth

/-! # Services and growing tables

Whatever a service is asked for, whatever fails and whatever other clients do in the midst of it, the
tables only grow. What it returns of a short URL is what the tables hold, and what the cache holds
stays right.
-/

namespace LinkShortener

/-- A slug and a destination are those of a stored short URL. They were found within a request, so a
request can be given its time. -/
structure Tables.Vouches (tables : Tables) (timeout : Duration) (entry : String × String) : Prop where
  stored : ∃ row ∈ tables.shortUrls, row.slug = entry.1 ∧ row.destination = entry.2
  timed : timeout.fitsClock = true

theorem Tables.Vouches.grown {before after : Tables} {timeout : Duration} {entry : String × String}
    (vouches : before.Vouches timeout entry) (grows : before.Grows after) :
    after.Vouches timeout entry := by
  rcases vouches.stored with ⟨row, member, same⟩
  exact ⟨⟨row, grows.mem member, same⟩, vouches.timed⟩

/-- A scene whose tables have grown from the given ones, with slugs that are well formed and a cache
that is right. -/
structure Scene.IsCoherent (origin : Tables) (timeout : Duration) (scene : Scene) : Prop where
  store : scene.situation.store.GrownFrom origin
  wellFormed : ∀ place, Slug.isWellFormed (scene.slugs.values place) = true
  vouched : ∀ entry ∈ scene.cache.entries, scene.situation.store.tables.Vouches timeout entry

namespace Scene.IsCoherent

variable {origin : Tables} {timeout : Duration} {before after : Scene}

/-- What grows from a coherent scene is coherent, if nothing is added to the cache. -/
theorem grown (coherent : before.IsCoherent origin timeout)
    (store : after.situation.store.GrownFrom before.situation.store.tables)
    (slugs : after.slugs.values = before.slugs.values)
    (cache : after.cache.entries ⊆ before.cache.entries) : after.IsCoherent origin timeout where
  store := coherent.store.trans store
  wellFormed := slugs ▸ coherent.wellFormed
  vouched entry member := (coherent.vouched entry (cache member)).grown store.grown

theorem of_scenery (coherent : before.IsCoherent origin timeout)
    (store : after.situation.store = before.situation.store)
    (slugs : after.slugs.values = before.slugs.values)
    (cache : after.cache.entries = before.cache.entries) : after.IsCoherent origin timeout := by
  refine coherent.grown ?_ slugs (cache ▸ List.Subset.refl _)
  rw [store]
  exact .self coherent.store.orderly

/-- The next transaction finds tables that have grown from the present ones. -/
theorem grows_resumed (coherent : before.IsCoherent origin timeout) :
    before.situation.store.tables.Grows before.situation.store.resumed.tables :=
  (Database.GrownFrom.self coherent.store.orderly).resumed.grown

theorem unambiguous_resumed (coherent : before.IsCoherent origin timeout)
    (unambiguous : origin.AreUnambiguous) :
    before.situation.store.resumed.tables.AreUnambiguous :=
  coherent.store.resumed.grown.unambiguous unambiguous

end Scene.IsCoherent

theorem Work.mem_of_createShortUrl {claim : Claim} {row : NewShortUrl} {now : Instant}
    {tables after : Tables} {creation : Creation ShortUrl}
    (ran : (createShortUrl claim row).run now tables = .ok (creation, after)) :
    creation.row ∈ after.shortUrls := by
  have made := run_createShortUrl claim row now tables
  rw [ran] at made
  have member := Tables.mem_rowsOf_of_create made.symm
  cases creation <;> simpa [Tables.rowsOf, NewRow.kind, Creation.map, Creation.row] using member

namespace Service

variable {α : Type} {origin : Tables} {timeout : Duration} {scene : Scene}

theorem ensures_transact_coherent {work : Work α} {answered : StoreError → ServiceError × List Event}
    (ofService : work.IsOfService) (coherent : scene.IsCoherent origin timeout) :
    Ensures (transact work answered) scene fun result after => after.IsCoherent origin timeout ∧
      ∀ value, result = .ok value →
        ∃ now tables, work.run now tables = .ok (value, after.situation.store.tables) := by
  have leads := Database.leads_transact_growing scene.policy ofService coherent.store.orderly
    scene.situation rfl
  apply (ensures_transact_told leads fun _ _ _ ended => ended).imp
  rintro result after ⟨ended, rfl, ⟨grown, returned⟩, scenery⟩
  refine ⟨coherent.grown grown (by rw [scenery]) (by rw [scenery]; exact List.Subset.refl _), ?_⟩
  intro value same
  rcases ended with (error | text) | other
  · cases same
  · cases same
  · cases same
    exact returned _ rfl

theorem ensures_findBySlug_coherent (slug : String) (coherent : scene.IsCoherent origin timeout) :
    Ensures (findBySlug slug) scene fun result after => after.IsCoherent origin timeout ∧
      ∀ row, result = .ok (some row) →
        row ∈ after.situation.store.tables.shortUrls ∧ row.slug = slug := by
  apply (ensures_transact_coherent (Work.isOfService_findBySlug slug) coherent).imp
  rintro result after ⟨grown, returned⟩
  refine ⟨grown, fun row same => ?_⟩
  rcases returned _ same with ⟨now, tables, ran⟩
  rcases Work.run_findBySlug_ok ran with ⟨found, same⟩
  rw [same]
  exact Tables.mem_of_shortUrlBySlug? found.symm

theorem lookupsKeep_isCoherent : LookupsKeep (Scene.IsCoherent origin timeout) where
  noting _ _ coherent := coherent.of_scenery rfl rfl rfl
  drawing _ coherent := coherent.of_scenery rfl rfl rfl
  finding slug _ coherent := (ensures_findBySlug_coherent slug coherent).imp fun _ _ => And.left

theorem ensures_resolveSlug_coherent (slug : String) (coherent : scene.IsCoherent origin timeout) :
    Ensures (resolveSlug slug) scene fun result after => after.IsCoherent origin timeout ∧
      ∀ row, result = .ok row →
        row ∈ after.situation.store.tables.shortUrls ∧ row.slug = slug := by
  unfold resolveSlug
  dsimp only
  split
  · exact ensures_bind (ensures_throw ⟨coherent, nofun⟩)
  · refine ensures_bind ((ensures_findBySlug_coherent slug coherent).imp ?_)
    rintro (failure | _ | row) after ⟨grown, found⟩
    · exact ⟨grown, nofun⟩
    · exact ensures_throw ⟨grown, nofun⟩
    · refine ensures_pure ⟨grown, fun other same => ?_⟩
      cases same
      exact found row rfl

theorem ensures_storeShortUrl_coherent (claim : Claim) (row : NewShortUrl)
    (wellFormed : Slug.isWellFormed row.slug = true) (coherent : scene.IsCoherent origin timeout) :
    Ensures (storeShortUrl claim row) scene fun result after => after.IsCoherent origin timeout ∧
      ∀ creation, result = .ok creation →
        creation.row ∈ after.situation.store.tables.shortUrls := by
  have ofService := Work.isOfService_createShortUrl claim wellFormed
  refine (ensures_transact_coherent ofService coherent).imp fun result after ⟨grown, returned⟩ => ?_
  refine ⟨grown, fun creation same => ?_⟩
  rcases returned creation same with ⟨now, tables, ran⟩
  exact Work.mem_of_createShortUrl ran

theorem ensures_createShortUrl_coherent (key : IdempotencyKey) (destination : String)
    (coherent : scene.IsCoherent origin timeout) :
    Ensures (createShortUrl key destination) scene fun result after => after.IsCoherent origin timeout ∧
      ∀ creation, result = .ok creation →
        creation.row ∈ after.situation.store.tables.shortUrls := by
  have started : scene.idDrawn.IsCoherent origin timeout := coherent.of_scenery rfl rfl rfl
  refine ensures_createShortUrl_parts (fun _ => ⟨coherent, nofun⟩) fun _ => ?_
  refine ensures_bind ((Ensures.and (lookupsKeep_isCoherent.freeSlug scene.idDrawn started)
    (ensures_freeSlug scene.idDrawn)).imp ?_)
  rintro (failure | slug) found ⟨grown, -, free⟩
  · exact ⟨grown, nofun⟩
  · have wellFormed : Slug.isWellFormed slug = true := by
      rcases free slug rfl with ⟨place, rfl⟩
      exact coherent.wellFormed place
    apply ensures_storing
    · rintro result after events ⟨last, stored⟩
      exact ⟨last.of_scenery rfl rfl rfl, stored⟩
    · exact ensures_storeShortUrl_coherent _ ⟨_, _, slug⟩ wellFormed grown

theorem preserves_createUser_isCoherent (key : IdempotencyKey) (registration : Registration) :
    Preserves (Scene.IsCoherent origin timeout) (createUser key registration) := by
  have hashes : Preserves (Scene.IsCoherent origin timeout) (hashPassword registration.password) := by
    intro scene coherent
    apply ensures_get_bind
    rcases scene.hasher registration.password with (_ | _) | hash
    · exact ensures_throw coherent
    · exact ensures_modify_bind (ensures_throw (coherent.of_scenery rfl rfl rfl))
    · exact ensures_pure coherent
  have draws : Preserves (Scene.IsCoherent origin timeout) drawId := fun _ coherent =>
    coherent.of_scenery rfl rfl rfl
  have stores : ∀ claim row, Preserves (Scene.IsCoherent origin timeout) (storeUser claim row) :=
    fun claim row _ coherent =>
      (ensures_transact_coherent (Work.isOfService_createUser claim row) coherent).imp
        fun _ _ => And.left
  unfold createUser
  cases registration.validate with
  | error error => exact fun _ coherent => ensures_bind (ensures_throw coherent)
  | ok _ =>
      exact hashes.bind fun hash => draws.bind fun id => (stores _ _).bind fun creation =>
        (lookupsKeep_isCoherent.noting _).bind fun _ => preserves_pure _

theorem preserves_ask_isCoherent (statement : Statement) (ofService : statement.IsOfService) :
    Preserves (Scene.IsCoherent origin timeout) (ask statement) := by
  intro scene coherent
  have grown := Database.grownFrom_queryAlone ofService coherent.store.orderly
  exact ensures_get_bind (ensures_set_bind
    (ensures_pure (coherent.grown grown rfl (List.Subset.refl _))))

/-- Whatever becomes of a creation, the scene stays coherent, and a short URL that is returned is
stored. -/
theorem ensures_create_coherent (key : IdempotencyKey) (submission : Submission)
    (coherent : scene.IsCoherent origin timeout) :
    Ensures (create key submission) scene fun result after => after.IsCoherent origin timeout ∧
      ∀ creation, result = .ok creation → submission.kind = .shortUrl →
        ∃ row ∈ after.situation.store.tables.shortUrls, creation.row = .shortUrl row := by
  cases submission with
  | shortUrl destination =>
      refine ensures_bind ((ensures_createShortUrl_coherent key destination coherent).imp ?_)
      rintro (failure | creation) after ⟨coherent, stored⟩
      · exact ⟨coherent, nofun⟩
      · refine ensures_pure ⟨coherent, fun other same _ => ?_⟩
        cases same
        exact ⟨creation.row, stored creation rfl, by cases creation <;> rfl⟩
  | user registration =>
      refine ensures_bind ((preserves_createUser_isCoherent key registration scene coherent).imp ?_)
      rintro (failure | creation) after coherent
      · exact ⟨coherent, nofun⟩
      · exact ensures_pure ⟨coherent, nofun⟩

end Service

theorem Operation.isCoherent_after {origin : Tables} {timeout : Duration} {scene : Scene}
    (operation : Operation) (coherent : scene.IsCoherent origin timeout) :
    (operation.after scene).IsCoherent origin timeout := by
  have preserves : Preserves (Scene.IsCoherent origin timeout) operation.run := by
    cases operation with
    | create key submission =>
        refine Preserves.bind (fun _ coherent => ?_) fun _ => preserves_pure _
        exact (Service.ensures_create_coherent key submission coherent).imp fun _ _ => And.left
    | resolveSlug slug =>
        exact (Service.lookupsKeep_isCoherent.resolveSlug slug).bind fun _ => preserves_pure _
    | find token =>
        exact (Service.preserves_ask_isCoherent (.findEntry token) trivial).bind fun _ =>
          preserves_pure _
    | stats => exact (Service.preserves_ask_isCoherent .stats trivial).bind fun _ => preserves_pure _
    | purge => exact (Service.preserves_ask_isCoherent .purge trivial).bind fun _ => preserves_pure _
  exact preserves scene coherent

end LinkShortener
