import LinkShortener.Proofs.Service.Calm

/-! # The search for a slug

Candidates are drawn and looked up one by one, and the first whose lookup finds no short URL is used.
The results of the lookups alone decide how a search ends: other clients may change the store at any
time, and the source may come back to a candidate it has given before.
-/

namespace LinkShortener

/-! ## Searches -/

/-- What a search works with: a source of candidates and a store to look them up in, on a state that
others may change whenever either is used. -/
structure Candidates (σ : Type) where
  draw : StateM σ String
  find : String → ExceptT Service.Failure (StateM σ) (Option ShortUrl)

/-- A candidate, what its lookup came to, and the state after it. -/
structure Trial (σ : Type) where
  slug : String
  found : Except Service.Failure (Option ShortUrl)
  after : σ

/-- The lookup has found a short URL. -/
def Trial.IsTaken {σ : Type} (trial : Trial σ) : Prop := ∃ row, trial.found = .ok (some row)

namespace Candidates

variable {σ : Type} (candidates : Candidates σ) (start : σ)

def search (attempts : Nat) : ExceptT Service.Failure (StateM σ) (Option String) :=
  Service.searchFree (monadLift candidates.draw)
    (fun slug => return (← candidates.find slug).isSome) attempts

/-- Draws one candidate and looks it up. -/
def trial (state : σ) : Trial σ :=
  let drawn := candidates.draw.run state
  let looked := (candidates.find drawn.1).run.run drawn.2
  ⟨drawn.1, looked.1, looked.2⟩

/-- The state after so many trials, one after the other. -/
def reached : Nat → σ
  | 0 => start
  | number + 1 => (candidates.trial (reached number)).after

/-- The trial with the given number. Numbers start from zero. -/
def turn (number : Nat) : Trial σ := candidates.trial (candidates.reached start number)

/-- How a search ends that is allowed so many trials: with the first candidate that is not taken, with
the failure of a lookup, or with none if all are taken. Each time the trials up to this one have been
made and nothing else has happened. -/
inductive Ends (attempts : Nat) : Except Service.Failure (Option String) → σ → Prop where
  | free (number : Nat) (within : number < attempts)
      (taken : ∀ earlier < number, (candidates.turn start earlier).IsTaken)
      (vacant : (candidates.turn start number).found = .ok none) :
      Ends attempts (.ok (some (candidates.turn start number).slug))
        (candidates.turn start number).after
  | failed (number : Nat) (within : number < attempts)
      (taken : ∀ earlier < number, (candidates.turn start earlier).IsTaken)
      (failure : Service.Failure)
      (fails : (candidates.turn start number).found = .error failure) :
      Ends attempts (.error failure) (candidates.turn start number).after
  | exhausted (taken : ∀ number < attempts, (candidates.turn start number).IsTaken) :
      Ends attempts (.ok none) (candidates.reached start attempts)

variable {candidates start}

/-- A search goes on from a taken candidate with one attempt less, and ends at any other. -/
theorem run_search_succ (state : σ) (attempts : Nat) :
    (candidates.search (attempts + 1)).run.run state =
      match (candidates.trial state).found with
      | .ok (some _) => (candidates.search attempts).run.run (candidates.trial state).after
      | .ok none => (.ok (some (candidates.trial state).slug), (candidates.trial state).after)
      | .error failure => (.error failure, (candidates.trial state).after) := by
  let trial := candidates.trial state
  have looks : Ensures (candidates.find trial.slug) (candidates.draw.run state).2
      fun result after => result = trial.found ∧ after = trial.after := ⟨rfl, rfl⟩
  apply Ensures.run_eq
  suffices searches : Ensures (do
        let taken ← (do return (← candidates.find trial.slug).isSome)
        if taken then candidates.search attempts else return some trial.slug)
      (candidates.draw.run state).2 fun result after => (result, after) =
        match trial.found with
        | .ok (some _) => (candidates.search attempts).run.run trial.after
        | .ok none => (.ok (some trial.slug), trial.after)
        | .error failure => (.error failure, trial.after) from searches
  refine ensures_bind (ensures_bind (looks.imp ?_))
  rintro result after ⟨rfl, rfl⟩
  cases found : trial.found with
  | error failure => rfl
  | ok row =>
      cases row with
      | none => exact ensures_pure rfl
      | some row => exact ensures_pure rfl

theorem ends_of_reached (left number : Nat)
    (taken : ∀ earlier < number, (candidates.turn start earlier).IsTaken) :
    Ensures (candidates.search left) (candidates.reached start number)
      (candidates.Ends start (number + left)) := by
  induction left generalizing number with
  | zero => exact .exhausted taken
  | succ left induction =>
      have within : number < number + (left + 1) := by omega
      rw [Ensures, run_search_succ, ← turn]
      cases decided : (candidates.turn start number).found with
      | error failure => exact .failed number within taken failure decided
      | ok found =>
          cases found with
          | none => exact .free number within taken decided
          | some row =>
              have following : ∀ earlier < number + 1, (candidates.turn start earlier).IsTaken := by
                intro earlier before
                rcases Nat.lt_succ_iff_lt_or_eq.mp before with before | rfl
                · exact taken earlier before
                · exact ⟨row, decided⟩
              have continued := induction (number + 1) following
              rw [Nat.add_right_comm] at continued
              exact continued

/-- A search makes no more trials than it is allowed, in their order, and ends with the first that
decides. -/
theorem ensures_search (candidates : Candidates σ) (start : σ) (attempts : Nat) :
    Ensures (candidates.search attempts) start (candidates.Ends start attempts) := by
  have searched : Ensures (candidates.search attempts) start
      (candidates.Ends start (0 + attempts)) := ends_of_reached attempts 0 nofun
  rw [Nat.zero_add] at searched
  exact searched

/-- A search comes to nothing only where every one of its candidates is taken. -/
theorem Ends.eq_none_iff {attempts : Nat} {result : Except Service.Failure (Option String)}
    {after : σ} (ends : candidates.Ends start attempts result after) :
    result = .ok none ↔ ∀ number < attempts, (candidates.turn start number).IsTaken := by
  constructor
  · rintro rfl
    cases ends with
    | exhausted taken => exact taken
  · intro taken
    cases ends with
    | free number within _ vacant =>
        rcases taken number within with ⟨row, found⟩
        cases vacant.symm.trans found
    | failed number within _ failure fails =>
        rcases taken number within with ⟨row, found⟩
        cases fails.symm.trans found
    | exhausted _ => rfl

theorem Ends.exists_of_error {attempts : Nat} {failure : Service.Failure} {after : σ}
    (ends : candidates.Ends start attempts (.error failure) after) :
    ∃ number < attempts, (candidates.turn start number).found = .error failure := by
  cases ends with
  | failed number within _ _ fails => exact ⟨number, within, fails⟩

end Candidates

/-! ## The search of the service -/

/-- The source of slugs and the store of a scene. -/
def Candidates.ofScene : Candidates Scene where
  draw scene := (scene.slugs.draw.1, { scene with slugs := scene.slugs.draw.2 })
  find := Service.findBySlug

namespace Service

/-- What a client is told when all candidates are taken. -/
def noSlugLeft : ServiceError :=
  .capacityExhausted "Could not allocate a short URL, please try again later"
    (.object [("attempts", .ofNat slugAttempts)])

theorem run_freeSlug (scene : Scene) :
    freeSlug.run.run scene =
      match (Candidates.ofScene.search slugAttempts).run.run scene with
      | (.ok (some slug), after) => (.ok slug, after)
      | (.ok none, after) => (.error (.error noSlugLeft), after.noted [.noFreeSlug slugAttempts])
      | (.error failure, after) => (.error failure, after) := by
  apply Ensures.run_eq
  refine ensures_bind ((ensures_run (Candidates.ofScene.search slugAttempts) scene).imp ?_)
  intro result after same
  rw [← same]
  rcases result with failure | found | slug
  · rfl
  · exact ensures_modify_bind (ensures_throw rfl)
  · exact ensures_pure rfl

theorem answeredForShortUrl_kind_ne (error : StoreError) :
    error.answeredForShortUrl.1.kind ≠ .capacityExhausted := by
  cases kind : error.kind <;>
    simp [StoreError.answeredForShortUrl, StoreError.answered, kind, ServiceError.conflict,
      ServiceError.idempotencyKeyReused, ServiceError.internal]

/-- A lookup draws no candidate, and its failures are not those of a search. -/
theorem ensures_findBySlug_told (slug : String) (scene : Scene) :
    Ensures (findBySlug slug) scene fun result after =>
      result ≠ .error (.error noSlugLeft) ∧ after.slugs = scene.slugs := by
  have ended : Ensures (Database.transact scene.policy (Work.findBySlug slug)) scene.situation
      fun _ _ => True := trivial
  refine (ensures_transact_told ended fun _ _ _ _ => trivial).imp ?_
  rintro result after ⟨ended, rfl, -, scenery⟩
  refine ⟨fun exhausted => ?_, by rw [scenery]⟩
  rcases ended with (error | text) | found
  · have same : error.answeredForShortUrl.1 = noSlugLeft := by
      simpa [told] using exhausted
    exact answeredForShortUrl_kind_ne error (congrArg ServiceError.kind same)
  · simp [told] at exhausted
  · cases exhausted

/-- A trial draws one candidate. -/
theorem trial_ofScene (scene : Scene) :
    (Candidates.ofScene.trial scene).slug = scene.slugs.draw.1 ∧
      (Candidates.ofScene.trial scene).found ≠ .error (.error noSlugLeft) ∧
      (Candidates.ofScene.trial scene).after.slugs = scene.slugs.draw.2 :=
  ⟨rfl, ensures_findBySlug_told scene.slugs.draw.1 { scene with slugs := scene.slugs.draw.2 }⟩

theorem slugs_reached (scene : Scene) (number : Nat) :
    (Candidates.ofScene.reached scene number).slugs =
      { scene.slugs with drawn := scene.slugs.drawn + number } := by
  induction number with
  | zero => rfl
  | succ number induction =>
      rw [Candidates.reached, (trial_ofScene _).2.2, induction]
      rfl

theorem slug_turn (scene : Scene) (number : Nat) :
    (Candidates.ofScene.turn scene number).slug =
      scene.slugs.values (scene.slugs.drawn + number) := by
  rw [Candidates.turn, (trial_ofScene _).1, slugs_reached]
  rfl

theorem freeSlug_eq_noSlugLeft_iff (scene : Scene) :
    (freeSlug.run.run scene).1 = .error (.error noSlugLeft) ↔
      ∀ number < slugAttempts, (Candidates.ofScene.turn scene number).IsTaken := by
  have ends := Candidates.ofScene.ensures_search scene slugAttempts
  rw [← ends.eq_none_iff, run_freeSlug]
  unfold Ensures at ends
  cases searched : (Candidates.ofScene.search slugAttempts).run.run scene with
  | mk result after =>
      rw [searched] at ends
      rcases result with failure | found | slug
      · rcases ends.exists_of_error with ⟨number, -, fails⟩
        have other := (trial_ofScene (Candidates.ofScene.reached scene number)).2.1
        rw [← Candidates.turn, fails] at other
        simpa using other
      · simp
      · simp

/-! ## The creation after the search -/

/-- What the log says about the end of a creation. -/
def creationEvents (key : IdempotencyKey) : Except Failure (Creation ShortUrl) → List Event
  | .ok (.created row) => [.shortUrlCreated row.id row.slug]
  | .ok (.replayed row) => [.shortUrlReplayed row.id row.slug key.token]
  | .error _ => []

theorem run_storing (key : IdempotencyKey) (row : NewShortUrl) (scene : Scene) :
    (storing key row).run.run scene =
      let stored :=
        (storeShortUrl ⟨key, Fingerprint.shortUrl row.destination⟩ row).run.run scene
      (stored.1, stored.2.noted (creationEvents key stored.1)) := by
  apply Ensures.run_eq
  refine ensures_bind ((ensures_run (storeShortUrl _ row) scene).imp ?_)
  intro result after same
  rw [← same]
  rcases result with failure | row | row
  · simp [creationEvents, Scene.noted]
  · exact ensures_modify_bind (ensures_pure rfl)
  · exact ensures_modify_bind (ensures_pure rfl)

theorem run_createShortUrl (key : IdempotencyKey) {destination : String}
    (filled : (Text.trim destination).isEmpty = false) (scene : Scene) :
    (createShortUrl key destination).run.run scene =
      match (Candidates.ofScene.search slugAttempts).run.run scene.idDrawn with
      | (.ok (some slug), after) =>
        (storing key ⟨scene.ids.draw.1, Text.trim destination, slug⟩).run.run after
      | (.ok none, after) => (.error (.error noSlugLeft), after.noted [.noFreeSlug slugAttempts])
      | (.error failure, after) => (.error failure, after) := by
  apply Ensures.run_eq
  refine ensures_createShortUrl_parts (fun blank => absurd blank (by simp [filled])) fun _ => ?_
  refine ensures_bind ((ensures_run freeSlug scene.idDrawn).imp ?_)
  intro result found same
  rw [run_freeSlug] at same
  cases searched : (Candidates.ofScene.search slugAttempts).run.run scene.idDrawn with
  | mk searching after =>
      rw [searched] at same
      rcases searching with failure | nothing | slug
      · cases same
        rfl
      · cases same
        rfl
      · cases same
        exact ensures_run _ found

/-- Any search makes its trials in order and ends with the first that decides. The search for a slug is
one of ten trials with the candidates that come next, of which it draws one for each trial; its client
is told that there is none left just when all ten are taken. A creation stores its row once, under the
slug of the first trial that finds no short URL, and stores nothing where there is no such trial or a
lookup before it fails. -/
theorem first_free_slug_used :
    (∀ (σ : Type) (candidates : Candidates σ) (start : σ) (attempts : Nat),
      Ensures (candidates.search attempts) start (candidates.Ends start attempts)) ∧
    (∀ scene : Scene,
      let searched := (Candidates.ofScene.search slugAttempts).run.run scene
      Candidates.ofScene.Ends scene slugAttempts searched.1 searched.2 ∧
      (∀ number,
        (Candidates.ofScene.turn scene number).slug =
          scene.slugs.values (scene.slugs.drawn + number) ∧
        (Candidates.ofScene.turn scene number).after.slugs =
          { scene.slugs with drawn := scene.slugs.drawn + (number + 1) }) ∧
      (freeSlug.run.run scene =
        match searched with
        | (.ok (some slug), after) => (.ok slug, after)
        | (.ok none, after) => (.error (.error noSlugLeft), after.noted [.noFreeSlug slugAttempts])
        | (.error failure, after) => (.error failure, after)) ∧
      ((freeSlug.run.run scene).1 = .error (.error noSlugLeft) ↔
        ∀ number < slugAttempts, (Candidates.ofScene.turn scene number).IsTaken)) ∧
    ∀ (key : IdempotencyKey) (destination : String) (scene : Scene),
      (Text.trim destination).isEmpty = false →
      let searched := (Candidates.ofScene.search slugAttempts).run.run scene.idDrawn
      Candidates.ofScene.Ends scene.idDrawn slugAttempts searched.1 searched.2 ∧
      (createShortUrl key destination).run.run scene =
        match searched with
        | (.ok (some slug), after) =>
          let stored := (storeShortUrl ⟨key, Fingerprint.shortUrl (Text.trim destination)⟩
            ⟨scene.ids.draw.1, Text.trim destination, slug⟩).run.run after
          (stored.1, stored.2.noted (creationEvents key stored.1))
        | (.ok none, after) => (.error (.error noSlugLeft), after.noted [.noFreeSlug slugAttempts])
        | (.error failure, after) => (.error failure, after) := by
  refine ⟨fun _ => Candidates.ensures_search, fun scene => ?_, fun key destination scene filled => ?_⟩
  · refine ⟨Candidates.ofScene.ensures_search scene slugAttempts, fun number => ?_, run_freeSlug scene,
      freeSlug_eq_noSlugLeft_iff scene⟩
    exact ⟨slug_turn scene number, slugs_reached scene (number + 1)⟩
  · refine ⟨Candidates.ofScene.ensures_search scene.idDrawn slugAttempts, ?_⟩
    rw [run_createShortUrl key filled]
    cases (Candidates.ofScene.search slugAttempts).run.run scene.idDrawn with
    | mk result after =>
        rcases result with failure | nothing | slug
        · rfl
        · rfl
        · exact run_storing key _ after

/-- A scene in which another client takes the only candidate before the first lookup and gives it back
before the third. -/
def contested : Scene :=
  { Scene.calm with
    situation := { Scene.calm.situation with
      store := { Scene.calm.situation.store with
        interludes := [
          ⟨0, fun _ => { Tables.empty with
            shortUrls := [⟨.ofDigit 9, "https://example.org", "abcd", ⟨0, 0⟩⟩] }⟩,
          ⟨0, id⟩,
          ⟨0, fun _ => .empty⟩] } } }

private theorem computed_contested :
    let searched := (Candidates.ofScene.search slugAttempts).run.run contested.idDrawn
    (Text.trim "https://example.com").isEmpty = false ∧
    searched.1.toOption = some (some "abcd") ∧ searched.2.slugs.drawn = 3 := by
  decide +kernel

theorem first_free_slug_used_contested :
    (Text.trim "https://example.com").isEmpty = false ∧
    ∃ after, Candidates.ofScene.Ends contested.idDrawn slugAttempts (.ok (some "abcd")) after ∧
      after.slugs.drawn = 3 ∧
      (createShortUrl ⟨.ofDigit 2⟩ "https://example.com").run.run contested =
        let stored := (storeShortUrl
          ⟨⟨.ofDigit 2⟩, Fingerprint.shortUrl (Text.trim "https://example.com")⟩
          ⟨contested.ids.draw.1, Text.trim "https://example.com", "abcd"⟩).run.run after
        (stored.1, stored.2.noted (creationEvents ⟨.ofDigit 2⟩ stored.1)) := by
  rcases computed_contested with ⟨filled, chosen, drawn⟩
  rcases first_free_slug_used.2.2 ⟨.ofDigit 2⟩ "https://example.com" contested filled with
    ⟨ends, creates⟩
  cases searched : (Candidates.ofScene.search slugAttempts).run.run contested.idDrawn with
  | mk result after =>
      rw [searched] at chosen drawn ends creates
      cases result with
      | error failure => cases chosen
      | ok slug =>
          cases chosen
          exact ⟨filled, after, ends, drawn, creates⟩

end Service

end LinkShortener
