import LinkShortener.Proofs.Http.Asking
import LinkShortener.Proofs.Service.Growth
import LinkShortener.Proofs.Service.Undisturbed

/-! # The cache of redirects

What a redirect finds in the cache and what it wants to have kept there are what the tables say. So in
time and without faults it is answered as if it had looked into the tables.
-/

namespace LinkShortener

namespace Cache

variable {cache : Cache} {slug destination : String}

theorem entries_get (cache : Cache) (slug : String) :
    (cache.get slug).2.2.entries = cache.entries := by
  rw [get]
  rcases cache.backend with _ | healthy | ⟨ttlSeconds, failing⟩
  · rfl
  · rfl
  · dsimp only
    split <;> rfl

theorem mem_of_lookup {entries : List (String × String)}
    (found : entries.lookup slug = some destination) : (slug, destination) ∈ entries := by
  rcases List.lookup_eq_some_iff.mp found with ⟨earlier, later, rfl, -⟩
  exact List.mem_append_right _ List.mem_cons_self

/-- A destination is found only where there is an entry with it. -/
theorem mem_of_get (found : (cache.get slug).1 = some destination) :
    (slug, destination) ∈ cache.entries := by
  rw [get] at found
  rcases backend : cache.backend with _ | healthy | ⟨ttlSeconds, failing⟩
  · rw [backend] at found
    cases found
  · rw [backend] at found
    exact mem_of_lookup found
  · rw [backend] at found
    dsimp only at found
    split at found
    · cases found
    · exact mem_of_lookup found

theorem entries_put (cache : Cache) (slug destination : String) :
    (cache.put slug destination).2.entries ⊆ (slug, destination) :: cache.entries := by
  rw [put]
  rcases cache.backend with _ | healthy | ⟨ttlSeconds, failing⟩
  · exact List.subset_cons_self _ _
  · exact List.Subset.refl _
  · dsimp only
    split
    · exact List.subset_cons_self _ _
    · exact List.Subset.refl _

theorem entries_check (cache : Cache) : cache.check.2.entries = cache.entries := by
  rw [check]
  rcases cache.backend with _ | healthy | ⟨ttlSeconds, failing⟩ <;> rfl

end Cache

namespace Http

open Service

variable {settings : HttpSettings}

/-! ## Redirects that answer first -/

/-- A redirect up to its answer, and what it then wants to have kept in the cache. -/
def redirectDeferring (settings : HttpSettings) (slug : String) :
    Service (Response × Option (String × String)) := do
  match ← Service.cached slug with
  | some destination =>
    Service.note [.cacheHit slug]
    return (.redirect destination, none)
  | none =>
    Service.note [.cacheMiss slug]
    Service.startRequest settings.requestTimeout
    let shortUrl ← Service.resolveSlug slug
    return (.redirect shortUrl.destination, some (slug, shortUrl.destination))

/-- Keeps what a redirect wants to have kept. -/
def keep : Option (String × String) → Service Unit
  | some (slug, destination) => Service.remember slug destination
  | none => return ()

/-- A redirect is its answer, and then what it keeps in the cache. -/
theorem redirectFrom_eq (settings : HttpSettings) (slug : String) :
    redirectFrom settings slug = do
      let (response, write) ← redirectDeferring settings slug
      keep write
      return response := by
  simp only [redirectFrom, redirectDeferring, bind_assoc]
  congr 1
  funext found
  cases found with
  | some destination => simp only [bind_assoc, pure_bind, keep]
  | none => simp only [bind_assoc, pure_bind, keep]

/-- When a redirect writes to the cache does not matter for its answer. -/
theorem answer_redirectFrom (settings : HttpSettings) (slug : String) (scene : Scene) :
    ((redirectFrom settings slug).run.run scene).1 =
      ((redirectDeferring settings slug).run.run scene).1.map Prod.fst := by
  rw [redirectFrom_eq]
  have ended : Ensures (do
      let (response, write) ← redirectDeferring settings slug
      keep write
      return response) scene fun result _ =>
        result = ((redirectDeferring settings slug).run.run scene).1.map Prod.fst := by
    apply ensures_bind
    unfold Ensures
    rcases ((redirectDeferring settings slug).run.run scene).1 with
      failure | ⟨response, _ | entry⟩ <;> rfl
  exact ended

/-! ## Coherence -/

section

variable {origin : Tables} {timeout : Duration} {scene : Scene} {slug : String}

theorem ensures_cached {goal : Except Service.Failure (Option String) → Scene → Prop}
    (holds : ∀ after, after.situation.store = scene.situation.store → after.slugs = scene.slugs →
      after.cache.entries = scene.cache.entries → goal (.ok (scene.cache.get slug).1) after) :
    Ensures (cached slug) scene goal :=
  ensures_get_bind (ensures_set_bind (ensures_modify_bind
    (ensures_pure (holds _ rfl rfl (Cache.entries_get scene.cache slug)))))

theorem ensures_remember_isCoherent {destination : String}
    (coherent : scene.IsCoherent origin timeout)
    (vouches : scene.situation.store.tables.Vouches timeout (slug, destination)) :
    Ensures (remember slug destination) scene fun _ after => after.IsCoherent origin timeout ∧
      after.situation.store = scene.situation.store := by
  refine ensures_get_bind (ensures_set_bind ⟨⟨coherent.store, coherent.wellFormed, ?_⟩, rfl⟩)
  intro entry member
  rcases List.mem_cons.mp (scene.cache.entries_put slug destination member) with rfl | member
  · exact vouches
  · exact coherent.vouched entry member

/-- A redirect to the destination of a stored short URL, with an entry that says the same. -/
def Redirects (timeout : Duration) (slug : String)
    (result : Except Service.Failure (Response × Option (String × String))) (after : Scene) : Prop :=
  ∀ response write, result = .ok (response, write) →
    (∃ row ∈ after.situation.store.tables.shortUrls,
      row.slug = slug ∧ response = .redirect row.destination) ∧
    ∀ entry ∈ write, after.situation.store.tables.Vouches timeout entry

private theorem ensures_redirects_resolved (coherent : scene.IsCoherent origin timeout)
    (fits : timeout.fitsClock = true) :
    Ensures (do
      let shortUrl ← Service.resolveSlug slug
      return (Response.redirect shortUrl.destination, some (slug, shortUrl.destination))) scene
      fun result after => after.IsCoherent origin timeout ∧ Redirects timeout slug result after := by
  refine ensures_bind ((ensures_resolveSlug_coherent slug coherent).imp ?_)
  rintro (failure | row) after ⟨grown, resolved⟩
  · exact ⟨grown, nofun⟩
  · rcases resolved row rfl with ⟨member, rfl⟩
    refine ensures_pure ⟨grown, fun response write returned => ?_⟩
    cases returned
    refine ⟨⟨row, member, rfl, rfl⟩, fun entry same => ?_⟩
    cases same
    exact ⟨⟨row, member, rfl, rfl⟩, fits⟩

theorem ensures_redirectDeferring (slug : String)
    (coherent : scene.IsCoherent origin settings.requestTimeout) :
    Ensures (redirectDeferring settings slug) scene fun result after =>
      after.IsCoherent origin settings.requestTimeout ∧
        Redirects settings.requestTimeout slug result after := by
  refine ensures_bind (ensures_cached fun looked store slugs entries => ?_)
  have coherent := coherent.of_scenery store (congrArg Supply.values slugs) entries
  cases found : (scene.cache.get slug).1 with
  | some destination =>
      have entry := Cache.mem_of_get found
      rw [← entries] at entry
      rcases (coherent.vouched _ entry).stored with ⟨row, member, same, rfl⟩
      refine ensures_modify_bind (ensures_pure ⟨coherent.of_scenery rfl rfl rfl, ?_⟩)
      intro response write returned
      cases returned
      exact ⟨⟨row, member, same, rfl⟩, nofun⟩
  | none =>
      refine ensures_modify_bind (ensures_bind (ensures_startRequest ?_))
      split
      next fits => exact ensures_redirects_resolved (coherent.of_scenery rfl rfl rfl) fits
      next unfit => exact ⟨coherent.of_scenery rfl rfl rfl, nofun⟩

theorem ensures_redirectFrom (slug : String)
    (coherent : scene.IsCoherent origin settings.requestTimeout) :
    Ensures (redirectFrom settings slug) scene fun result after =>
      after.IsCoherent origin settings.requestTimeout ∧ ∀ response, result = .ok response →
        ∃ row ∈ after.situation.store.tables.shortUrls,
          row.slug = slug ∧ response = .redirect row.destination := by
  rw [redirectFrom_eq]
  refine ensures_bind ((ensures_redirectDeferring slug coherent).imp ?_)
  rintro (failure | ⟨response, write⟩) after ⟨coherent, answered⟩
  · exact ⟨coherent, nofun⟩
  · rcases answered response write rfl with ⟨stored, vouched⟩
    have returns : ∀ other, Except.ok response = (.ok other : Except Service.Failure Response) →
        ∃ row ∈ after.situation.store.tables.shortUrls,
          row.slug = slug ∧ other = .redirect row.destination := by
      intro other same
      cases same
      exact stored
    cases write with
    | none => exact ensures_bind (ensures_pure (ensures_pure ⟨coherent, returns⟩))
    | some entry =>
        refine ensures_bind ((ensures_remember_isCoherent coherent (vouched entry rfl)).imp ?_)
        rintro (failure | _) last ⟨coherent, store⟩
        · exact ⟨coherent, nofun⟩
        · exact ensures_pure ⟨coherent, store ▸ returns⟩

theorem preserves_redirectFromSegment_isCoherent (segment : List Char) :
    Preserves (Scene.IsCoherent origin settings.requestTimeout)
      (redirectFromSegment settings segment) := by
  intro scene coherent
  unfold redirectFromSegment
  split
  · exact (ensures_redirectFrom _ coherent).imp fun _ _ => And.left
  · exact ensures_pure coherent

theorem preserves_reportHealth_isCoherent :
    Preserves (Scene.IsCoherent origin timeout) reportHealth := by
  have database : Preserves (Scene.IsCoherent origin timeout) checkDatabase := by
    refine (preserves_ask_isCoherent .ping trivial).bind fun outcome => ?_
    cases outcome with
    | ok _ => exact preserves_pure _
    | error error => exact (lookupsKeep_isCoherent.noting _).bind fun _ => preserves_pure _
  have cache : Preserves (Scene.IsCoherent origin timeout) checkCache := fun scene coherent =>
    ensures_get_bind (ensures_set_bind
      (ensures_pure (coherent.of_scenery rfl rfl scene.cache.entries_check)))
  exact database.bind fun _ => cache.bind fun _ => preserves_pure _

/-- What a creation of a short URL is answered with is a short URL that is stored. -/
theorem ensures_respond_coherent (key : IdempotencyKey) (submission : Submission)
    (coherent : scene.IsCoherent origin timeout) :
    Ensures (respond settings key submission) scene fun result after =>
      after.IsCoherent origin timeout ∧
        ∀ response, result = .ok response → submission.kind = .shortUrl →
          settings.requestTimeout.fitsClock = true ∧
            ∃ row ∈ after.situation.store.tables.shortUrls,
              response = .json 201 (row.body settings.baseUrl) := by
  apply ensures_respond
  split
  next fits =>
    have started : (scene.started settings.requestTimeout).IsCoherent origin timeout :=
      coherent.of_scenery rfl rfl rfl
    apply (ensures_create_coherent key submission started).imp
    rintro (failure | creation) after ⟨coherent, stored⟩
    · exact ⟨coherent, nofun⟩
    · refine ⟨coherent, fun response same kind => ?_⟩
      cases same
      rcases stored creation rfl kind with ⟨row, member, equal⟩
      refine ⟨fits, row, member, ?_⟩
      dsimp only
      rw [equal]
      rfl
  next unfit => exact ⟨coherent, nofun⟩

end

theorem Server.handles_isCoherent {origin : Tables} {server : Server} (request : Request)
    (coherent : server.scene.IsCoherent origin server.settings.requestTimeout) :
    server.Handles request (Scene.IsCoherent origin server.settings.requestTimeout) where
  idle := coherent
  logged _ _ coherent := coherent.of_scenery rfl rfl rfl
  health := preserves_reportHealth_isCoherent _ coherent
  redirects segment := preserves_redirectFromSegment_isCoherent segment _ coherent
  shortUrls := ensures_postShortUrl (fun _ => coherent) fun key submission =>
    (ensures_respond_coherent key submission coherent).imp fun _ _ => And.left
  users := ensures_postUser (fun _ => coherent) fun key submission =>
    (ensures_respond_coherent key submission coherent).imp fun _ _ => And.left

/-! ## Answers that nothing disturbs -/

/-- What a redirect is answered, going by the given tables. -/
def redirection (settings : HttpSettings) (tables : Tables) (segment : List Char) :
    Except Service.Failure Response :=
  match decodeSegment? segment with
  | none => .ok (.text 400 "Invalid URL: Invalid UTF-8 in \x60slug\x60")
  | some slug =>
    if settings.requestTimeout.fitsClock then
      (Service.resolution tables slug).map fun row => .redirect row.destination
    else .error (.crash (some Duration.clockOverflowText))

/-- A redirect that has to be looked up is given a deadline. -/
def HasDeadline (settings : HttpSettings) (segment : List Char) (scene : Scene) : Prop :=
  settings.requestTimeout.fitsClock = true ∧
    ∃ slug, decodeSegment? segment = some slug ∧ (scene.cache.get slug).1 = none

/-- A redirect ends before its deadline, if it has one. -/
def IsInTime (settings : HttpSettings) (segment : List Char) (scene : Scene) : Prop :=
  HasDeadline settings segment scene →
    ¬ ((redirectFromSegment settings segment).run.run scene).2.situation.IsOver

theorem IsInTime.of_check {segment : List Char} {scene : Scene}
    (inTime : let situation := ((redirectFromSegment settings segment).run.run scene).2.situation
      situation.context.check situation.now = none) : IsInTime settings segment scene :=
  fun _ late => Retry.Situation.isOver_iff_check.mp late inTime

section

variable {origin : Tables} {scene : Scene}

theorem redirection_of_mem {tables : Tables} (unambiguous : tables.AreUnambiguous) {row : ShortUrl}
    (member : row ∈ tables.shortUrls) {segment : List Char}
    (decoded : decodeSegment? segment = some row.slug)
    (fits : settings.requestTimeout.fitsClock = true) :
    redirection settings tables segment = .ok (.redirect row.destination) := by
  rw [redirection, decoded]
  dsimp only
  rw [if_pos fits, Service.resolution, if_pos (unambiguous.wellFormed row member),
    unambiguous.shortUrlBySlug?_eq member]
  rfl

private theorem completes_resolved (undisturbed : scene.situation.store.IsUndisturbed)
    (slug : String) :
    Service.Completes (do
      let shortUrl ← Service.resolveSlug slug
      Service.remember slug shortUrl.destination
      return Response.redirect shortUrl.destination) scene
      fun result _ => result = (Service.resolution scene.situation.store.resumed.tables slug).map
        fun row => .redirect row.destination := by
  have kept : ∀ destination, KeepsOver (remember slug destination) := fun _ _ late =>
    ensures_get_bind (ensures_set_bind late)
  refine completes_bind ((completes_resolveSlug_undisturbed undisturbed slug).imp ?_) fun row =>
    (kept row.destination).bind fun _ => preserves_pure _
  rintro result after rfl
  cases Service.resolution scene.situation.store.resumed.tables slug with
  | error failure => rfl
  | ok row => exact ensures_bind (ensures_get_bind (ensures_set_bind (.inr rfl)))

/-- In time and without faults, a redirect is answered as the tables say that the request finds. -/
theorem redirectFromSegment_eq (unambiguous : origin.AreUnambiguous)
    (coherent : scene.IsCoherent origin settings.requestTimeout)
    (undisturbed : scene.situation.store.IsUndisturbed) {segment : List Char}
    (inTime : IsInTime settings segment scene) :
    ((redirectFromSegment settings segment).run.run scene).1 =
      redirection settings scene.situation.store.resumed.tables segment := by
  suffices ended : Ensures (redirectFromSegment settings segment) scene fun result after =>
      HasDeadline settings segment scene ∧ after.situation.IsOver ∨
        result = redirection settings scene.situation.store.resumed.tables segment from
    ended.resolve_left fun late => inTime late.1 late.2
  unfold redirectFromSegment
  cases decoded : decodeSegment? segment with
  | none =>
      refine ensures_pure (.inr ?_)
      rw [redirection, decoded]
  | some slug =>
      refine ensures_bind (ensures_cached fun looked store slugs entries => ?_)
      cases found : (scene.cache.get slug).1 with
      | some destination =>
          -- The entry is that of a stored short URL, which the tables would have led to as well.
          rcases coherent.vouched _ (Cache.mem_of_get found) with ⟨⟨row, member, rfl, rfl⟩, fits⟩
          refine ensures_modify_bind (ensures_pure (.inr ?_))
          exact (redirection_of_mem (coherent.unambiguous_resumed unambiguous)
            (coherent.grows_resumed.mem member) decoded fits).symm
      | none =>
          refine ensures_modify_bind (ensures_bind (ensures_startRequest ?_))
          rw [redirection, decoded, ← store]
          dsimp only
          split
          next fits =>
            refine Ensures.imp (completes_resolved ?_ slug) fun result after => ?_
            · exact store ▸ undisturbed
            · exact .imp_left fun late => ⟨⟨fits, slug, decoded, found⟩, late⟩
          next unfit => exact .inr rfl

end

end Http

end LinkShortener
