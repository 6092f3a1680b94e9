import LinkShortener.Proofs.Http.Caching
import LinkShortener.Proofs.Http.Repetition

/-! # Runs with a cache

The cache never changes an answer. A redirect is answered first, and its destination is put into the
cache at some later time or never; what is in the cache may get lost, and the cache may fail. Whatever
happens, an entry is what the tables say, because a short URL is never changed or taken away.
-/

namespace LinkShortener

/-- The scene without a cache. -/
def Scene.uncached (scene : Scene) : Scene := { scene with cache := .ofBackend .disabled }

namespace Http

/-- A redirect has its destination as its location. -/
theorem Response.headers_redirect {destination : String}
    (status : (Response.redirect destination).status = 307) :
    (Response.redirect destination).headers = [⟨"location", Text.encodeUtf8 destination⟩] := by
  unfold Response.redirect at status ⊢
  dsimp only at status ⊢
  split
  · rfl
  next unfit =>
    rw [if_neg unfit] at status
    cases status

/-- A server, and what redirects that are answered still want to have kept in its cache. -/
structure Running where
  server : Server
  pending : List (String × String)

namespace Running

abbrev scene (running : Running) : Scene := running.server.scene

abbrev tables (running : Running) : Tables := running.server.scene.situation.store.tables

/-- What a redirect that ends in the given way adds to what is to be kept. -/
def deferred : Except Service.Failure (Response × Option (String × String)) →
    List (String × String)
  | .ok (_, some entry) => [entry]
  | .ok (_, none) => []
  | .error _ => []

/-- The state after a redirect that is answered and has not written to the cache. -/
def redirected (running : Running) (slug : String) : Running :=
  let (result, scene) :=
    (redirectDeferring running.server.settings slug).run.run running.server.scene
  ⟨{ running.server with scene }, deferred result ++ running.pending⟩

/-- The state after a pending write to the cache. -/
def written (running : Running) (entry : String × String) : Running where
  server := { running.server with
    scene := ((Service.remember entry.1 entry.2).run.run running.server.scene).2 }
  pending := running.pending.erase entry

/-- The state after the answer to a request. -/
def answered (running : Running) (request : Request) (id : Uuid) : Running :=
  ⟨(running.server.answer request id).2, running.pending⟩

/-- What may change between two things that a server does: everything but the settings and the slugs
to come. Other clients use the store as the service does, and entries of the cache get lost. -/
structure Continues (before after : Running) : Prop where
  settings : after.server.settings = before.server.settings
  tables : before.tables.Moves after.tables
  orderly : after.scene.situation.store.IsOrderly
  slugs : after.scene.slugs.values = before.scene.slugs.values
  entries : after.scene.cache.entries ⊆ before.scene.cache.entries
  pending : after.pending ⊆ before.pending

/-- The states that a server comes to. Redirects write to the cache at once or at any later time. -/
inductive Later (first : Running) : Running → Prop where
  | now : Later first first
  | continues {before after : Running} (later : Later first before)
      (continues : before.Continues after) : Later first after
  | answers {before : Running} (later : Later first before) (request : Request) (id : Uuid) :
      Later first (before.answered request id)
  | operates {before : Running} (later : Later first before) (operation : Operation) :
      Later first ⟨{ before.server with scene := operation.after before.scene }, before.pending⟩
  | redirects {before : Running} (later : Later first before) (slug : String) :
      Later first (before.redirected slug)
  | writes {before : Running} (later : Later first before) (entry : String × String)
      (awaited : entry ∈ before.pending) : Later first (before.written entry)

/-- A server with empty tables, an empty cache and the slugs of the generator. -/
structure IsNew (running : Running) : Prop where
  empty : running.tables = .empty
  orderly : running.scene.situation.store.IsOrderly
  generated : ∀ place, ∃ words rest,
    Slug.generate words = some (running.scene.slugs.values place, rest)
  uncached : running.scene.cache.entries = []
  idle : running.pending = []

def Reachable (running : Running) : Prop := ∃ start : Running, start.IsNew ∧ start.Later running

/-- The tables have grown from the given ones, and everything in the cache and on its way there is what
they say. -/
structure IsCoherent (origin : Tables) (running : Running) : Prop where
  scene : running.scene.IsCoherent origin running.server.settings.requestTimeout
  vouched : ∀ entry ∈ running.pending,
    running.tables.Vouches running.server.settings.requestTimeout entry

namespace IsCoherent

variable {origin : Tables} {running after : Running}

/-- What lies between two states in which nothing was added for the cache. -/
theorem grown (coherent : running.IsCoherent origin)
    (scene : after.scene.IsCoherent running.tables running.server.settings.requestTimeout)
    (settings : after.server.settings = running.server.settings)
    (pending : after.pending ⊆ running.pending) : after.IsCoherent origin where
  scene := by
    rw [settings]
    exact ⟨coherent.scene.store.trans scene.store, scene.wellFormed, scene.vouched⟩
  vouched entry member := by
    rw [settings]
    exact (coherent.vouched entry (pending member)).grown scene.store.grown

theorem self (coherent : running.IsCoherent origin) :
    running.scene.IsCoherent running.tables running.server.settings.requestTimeout :=
  ⟨.self coherent.scene.store.orderly, coherent.scene.wellFormed, coherent.scene.vouched⟩

theorem continues (coherent : running.IsCoherent origin) (continues : running.Continues after) :
    after.IsCoherent origin := by
  have store : after.scene.situation.store.GrownFrom running.tables :=
    ⟨continues.orderly, continues.tables.grows⟩
  exact coherent.grown (coherent.self.grown store continues.slugs continues.entries)
    continues.settings continues.pending

theorem answered (coherent : running.IsCoherent origin) (request : Request) (id : Uuid) :
    (running.answered request id).IsCoherent origin := by
  have kept := (Server.handles_isCoherent request.normalized coherent.self).answer id
  exact coherent.grown kept.1 kept.2 (List.Subset.refl _)

theorem redirected (coherent : running.IsCoherent origin) (slug : String) :
    (running.redirected slug).IsCoherent origin := by
  have ensured := ensures_redirectDeferring slug coherent.self
  unfold Ensures at ensured
  unfold Running.redirected
  cases ended :
      (redirectDeferring running.server.settings slug).run.run running.server.scene with
  | mk result scene =>
      rw [ended] at ensured
      rcases ensured with ⟨grown, redirects⟩
      refine ⟨⟨coherent.scene.store.trans grown.store, grown.wellFormed, grown.vouched⟩, ?_⟩
      intro entry member
      rcases List.mem_append.mp member with member | member
      · rcases result with failure | ⟨response, _ | write⟩
        · cases member
        · cases member
        · rw [List.mem_singleton.mp member]
          exact (redirects response _ rfl).2 write rfl
      · exact (coherent.vouched entry member).grown grown.store.grown

theorem written (coherent : running.IsCoherent origin) {entry : String × String}
    (awaited : entry ∈ running.pending) : (running.written entry).IsCoherent origin := by
  have kept := ensures_remember_isCoherent coherent.self (coherent.vouched entry awaited)
  exact coherent.grown kept.1 rfl (List.erase_subset)

end IsCoherent

variable {origin : Tables} {first running : Running}

/-- Whatever a server does, its cache stays coherent with the tables. -/
theorem Later.isCoherent (later : first.Later running) (coherent : first.IsCoherent origin) :
    running.IsCoherent origin := by
  induction later with
  | now => exact coherent
  | continues later continues induction => exact induction.continues continues
  | answers later request id induction => exact induction.answered request id
  | operates later operation induction =>
      exact induction.grown (operation.isCoherent_after induction.self) rfl (List.Subset.refl _)
  | redirects later slug induction => exact induction.redirected slug
  | writes later entry awaited induction => exact induction.written awaited

theorem IsNew.isCoherent (new : running.IsNew) : running.IsCoherent .empty where
  scene := by
    refine ⟨⟨new.orderly, new.empty ▸ .refl _⟩, fun place => ?_, new.uncached ▸ nofun⟩
    rcases new.generated place with ⟨words, rest, drawn⟩
    exact Slug.generate_wellFormed drawn
  vouched := new.idle ▸ nofun

theorem Reachable.isCoherent (reachable : running.Reachable) : running.IsCoherent .empty := by
  rcases reachable with ⟨start, new, later⟩
  exact later.isCoherent new.isCoherent

/-- The cache never changes an answer. An entry is what the tables say, a redirect is to the destination
of the stored short URL, and in time and without faults every answer is the one without a cache. -/
theorem Reachable.cache_transparent (reachable : running.Reachable) :
    (∀ entry ∈ running.scene.cache.entries, ∃ row,
      running.tables.shortUrls.filter (fun other => other.slug = entry.1) = [row] ∧
        row.destination = entry.2) ∧
    (∀ slug response, let ended := (redirectFrom running.server.settings slug).run.run running.scene
      ended.1 = .ok response → response.status = 307 → ∃ row,
        ended.2.situation.store.tables.shortUrls.filter (fun other => other.slug = slug) = [row] ∧
          response.headers = [⟨"location", Text.encodeUtf8 row.destination⟩]) ∧
    ∀ segment, running.scene.situation.store.IsUndisturbed →
      IsInTime running.server.settings segment running.scene →
      IsInTime running.server.settings segment running.scene.uncached →
      ((redirectFromSegment running.server.settings segment).run.run running.scene).1 =
        ((redirectFromSegment running.server.settings segment).run.run running.scene.uncached).1 := by
  have coherent := reachable.isCoherent.scene
  refine ⟨fun entry member => ?_, fun slug response => ?_, fun segment undisturbed => ?_⟩
  · rcases (coherent.vouched entry member).stored with ⟨row, member, slug, destination⟩
    have unambiguous := coherent.store.grown.unambiguous Tables.areUnambiguous_empty
    exact ⟨row, slug ▸ unambiguous.sole member, destination⟩
  · intro ended returned status
    rcases ensures_redirectFrom slug coherent with ⟨after, answered⟩
    rcases answered response returned with ⟨row, member, rfl, rfl⟩
    have unambiguous := after.store.grown.unambiguous Tables.areUnambiguous_empty
    exact ⟨row, unambiguous.sole member, Response.headers_redirect status⟩
  · intro inTime inTimeUncached
    have uncached : running.scene.uncached.IsCoherent .empty running.server.settings.requestTimeout :=
      ⟨coherent.store, coherent.wellFormed, nofun⟩
    rw [redirectFromSegment_eq Tables.areUnambiguous_empty coherent undisturbed inTime,
      redirectFromSegment_eq Tables.areUnambiguous_empty uncached undisturbed inTimeUncached]
    rfl

/-- A new server with a cache in its memory. -/
def caching : Running where
  server := { Server.undisturbed with
    scene := { Server.undisturbed.scene with cache := .ofBackend (.memory true) } }
  pending := []

/-- The server after it has shortened an address and answered a redirect to it. -/
def redirecting : Running :=
  (caching.answered .shortening (.ofDigit 7)).redirected "abcd"

/-- The server after it has also kept the destination in its cache. -/
def remembering : Running := redirecting.written ("abcd", "https://example.com")

theorem isNew_caching : caching.IsNew where
  empty := rfl
  orderly := (Database.isSolitary_of_nil rfl).isOrderly
  generated := Server.isNew_undisturbed.generated
  uncached := rfl
  idle := rfl

private theorem computed_remembering :
    ("abcd", "https://example.com") ∈ redirecting.pending ∧
    remembering.scene.cache.entries = [("abcd", "https://example.com")] ∧
    remembering.scene.situation.store.isClosed = false ∧
    remembering.scene.situation.store.faults.isEmpty ∧
    ∀ scene ∈ [remembering.scene, remembering.scene.uncached],
      let after :=
        ((redirectFromSegment remembering.server.settings "abcd".toList).run.run scene).2
      after.situation.context.check after.situation.now = none := by
  decide +kernel

theorem cache_transparent_remembering :
    remembering.scene.cache.entries = [("abcd", "https://example.com")] ∧
      ((redirectFromSegment remembering.server.settings "abcd".toList).run.run
        remembering.scene).1 =
        ((redirectFromSegment remembering.server.settings "abcd".toList).run.run
          remembering.scene.uncached).1 := by
  rcases computed_remembering with ⟨awaited, entries, isOpen, spent, inTime⟩
  have reachable : remembering.Reachable :=
    ⟨caching, isNew_caching, .writes (.redirects (.answers .now _ _) "abcd") _ awaited⟩
  have undisturbed : remembering.scene.situation.store.IsUndisturbed :=
    ⟨isOpen, List.isEmpty_iff.mp spent ▸ nofun⟩
  exact ⟨entries, reachable.cache_transparent.2.2 _ undisturbed
    (.of_check (inTime _ List.mem_cons_self))
    (.of_check (inTime _ (List.mem_cons_of_mem _ List.mem_cons_self)))⟩

end Running

end Http

end LinkShortener
