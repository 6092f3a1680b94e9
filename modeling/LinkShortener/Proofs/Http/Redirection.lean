import LinkShortener.Proofs.Http.Paths
import LinkShortener.Proofs.Http.Transparency

/-! # Redirects of short URLs that were created

A short URL that was answered as created leads to its destination from then on, through every later
state of the server. There are two exceptions. One slug is shadowed by the health report, and a
destination with a control character in it cannot be the value of a header field.
-/

namespace LinkShortener.Http

open Service

/-! ## Values of header fields -/

/-- A character that a header field can carry: none of the control characters of ASCII but the tab. -/
def IsCarried (c : Char) : Prop := 0x20 ≤ c.toNat ∧ c.toNat ≠ 0x7F ∨ c.toNat = 0x09

instance : DecidablePred IsCarried := fun _ => inferInstanceAs (Decidable (_ ∨ _))

/-- A text that can be the value of a header field. -/
def IsWritable (text : String) : Prop := ∀ c ∈ text.toList, IsCarried c

instance : DecidablePred IsWritable := fun text => List.decidableBAll IsCarried text.toList

theorem isValueByte_iff (byte : UInt8) : isValueByte byte = true ↔
    0x20 ≤ byte.toNat ∧ byte.toNat ≠ 0x7F ∨ byte.toNat = 0x09 := by
  simp only [isValueByte, Bool.or_eq_true, Bool.and_eq_true, decide_eq_true_eq, bne_iff_ne,
    beq_iff_eq, UInt8.le_iff_toNat_le, ne_eq, ← UInt8.toNat_inj]
  rfl

private theorem all_utf8EncodeChar (c : Char) :
    (String.utf8EncodeChar c).all isValueByte = true ↔ IsCarried c := by
  by_cases ascii : c.toNat < 128
  · rw [Text.utf8EncodeChar_ascii ascii, List.all_cons, List.all_nil, Bool.and_true,
      isValueByte_iff, Text.toNat_asciiByte ascii, IsCarried]
  · have carried : IsCarried c := .inl ⟨by omega, by omega⟩
    rw [iff_true_right carried, List.all_eq_true]
    intro byte member
    have high := Text.high_of_mem_utf8EncodeChar (Nat.le_of_not_lt ascii) byte member
    rw [isValueByte_iff]
    omega

/-- A text can be the value of a header field if every character of it can be carried. -/
theorem all_isValueByte_iff (text : String) :
    (Text.encodeUtf8 text).all isValueByte = true ↔ IsWritable text := by
  rw [Text.encodeUtf8_eq_flatMap, List.all_flatMap, List.all_eq_true]
  exact forall₂_congr fun c _ => all_utf8EncodeChar c

/-! ## Visits -/

/-- A request for the path of a slug. -/
structure Request.Visits (request : Request) (slug : String) : Prop where
  get : request.method = "GET"
  path : request.path = '/' :: slug.toList

theorem Request.Visits.normalized {request : Request} {slug : String}
    (visits : request.Visits slug) (wellFormed : Slug.isWellFormed slug = true) :
    request.normalized.Visits slug := by
  refine ⟨visits.get, ?_⟩
  rw [Request.normalized, visits.path, normalizePath_slug wellFormed]
  exact Request.path_withPath visits.path

/-- The answer to a visit: a redirect to the destination, unless the slug is shadowed or no header can
carry the destination. -/
def Response.LeadsTo (response : Response) (row : ShortUrl) : Prop :=
  if row.slug = "health" then response.status = 200 ∨ response.status = 503
  else if IsWritable row.destination then
    response.status = 307 ∧
      response.headers.first? "location" = some (Text.encodeUtf8 row.destination)
  else response.status = 500

/-- A field more changes nothing where the destination is already told. -/
theorem Response.LeadsTo.withField {response : Response} {row : ShortUrl} {field : HeaderField}
    (leads : response.LeadsTo row) : (response.withField field).LeadsTo row := by
  unfold LeadsTo at leads ⊢
  split
  next shadowed =>
    rw [if_pos shadowed] at leads
    exact leads
  next visible =>
    rw [if_neg visible] at leads
    split
    next carried =>
      rw [if_pos carried] at leads
      refine ⟨leads.1, ?_⟩
      have told := leads.2
      rw [Headers.first?, Option.map_eq_some_iff] at told ⊢
      rcases told with ⟨found, first, value⟩
      exact ⟨found, by rw [Response.withField, List.find?_append, first, Option.some_or], value⟩
    next uncarried =>
      rw [if_neg uncarried] at leads
      exact leads

/-- The health report is given in every case, and says by its status whether all is well. -/
theorem ensures_reportHealth (scene : Scene) :
    Ensures reportHealth scene fun result _ => ∃ response, result = .ok response ∧
      (response.status = 200 ∨ response.status = 503) := by
  have database : Ensures checkDatabase scene fun result _ => ∃ check, result = .ok check := by
    have asked : Ensures (ask .ping) scene fun result _ => ∃ outcome, result = .ok outcome :=
      ensures_get_bind (ensures_set_bind (ensures_pure (Exists.intro _ rfl)))
    refine ensures_bind (asked.imp ?_)
    rintro result after ⟨error | _, rfl⟩
    · exact ensures_modify_bind (ensures_pure ⟨_, rfl⟩)
    · exact ensures_pure ⟨_, rfl⟩
  refine ensures_bind (database.imp ?_)
  rintro result after ⟨check, rfl⟩
  refine ensures_bind (ensures_get_bind (ensures_set_bind (ensures_pure ?_)))
  have status : ∀ (healthy : Bool) (report : Json),
      (Response.json (if healthy then 200 else 503) report).status = 200 ∨
        (Response.json (if healthy then 200 else 503) report).status = 503 := by
    intro healthy report
    cases healthy
    · exact .inr rfl
    · exact .inl rfl
  exact ensures_pure ⟨_, rfl, status _ _⟩

namespace Server

variable {server : Server} {request : Request} {row : ShortUrl}

/-- What a visit is answered, before the answer is given an id. -/
theorem leadsTo_dispatch (visits : request.Visits row.slug)
    (wellFormed : Slug.isWellFormed row.slug = true)
    (redirected : ((redirectFromSegment server.settings row.slug.toList).run.run server.scene).1 =
      .ok (.redirect row.destination)) : (server.dispatch request).1.LeadsTo row := by
  have isGet : Methods.get.allow request.method = true := by rw [visits.get]; rfl
  have allowed : ∀ handler, server.answerOpen request handler = server.handle handler := fun _ =>
    if_pos isGet
  unfold dispatch Response.LeadsTo
  rw [visits.path, ofPath?_slug wellFormed]
  by_cases shadowed : row.slug = "health"
  · rw [if_pos shadowed, if_pos shadowed]
    dsimp only
    rw [allowed, handle_eq]
    rcases ensures_reportHealth server.scene with ⟨response, returned, status⟩
    rw [returned]
    exact status
  · rw [if_neg shadowed, if_neg shadowed]
    dsimp only
    rw [allowed, handle_eq, redirected]
    dsimp only [ended]
    rw [Response.redirect]
    by_cases carried : (Text.encodeUtf8 row.destination).all isValueByte = true
    · rw [if_pos carried, if_pos ((all_isValueByte_iff _).mp carried)]
      have same : ("location".toLower == "location") = true := by decide +kernel
      refine ⟨rfl, ?_⟩
      rw [Headers.first?, List.find?_cons, same, Option.map_some]
    · rw [if_neg carried, if_neg fun all => carried ((all_isValueByte_iff _).mpr all)]
      rfl

theorem leadsTo_answer (visits : request.Visits row.slug)
    (wellFormed : Slug.isWellFormed row.slug = true)
    (redirected : ((redirectFromSegment server.settings row.slug.toList).run.run server.scene).1 =
      .ok (.redirect row.destination)) (id : Uuid) : (server.answer request id).1.LeadsTo row := by
  have normalized := visits.normalized wellFormed
  have get : (request.normalized.method == "HEAD") = false := by rw [normalized.get]; rfl
  have answered : (server.answer request id).1 = (server.dispatch request.normalized).1.withField
      ⟨requestIdHeader, responseId request.normalized id⟩ := by
    change leaving request.normalized id (server.dispatch request.normalized).1 = _
    rw [leaving, get]
    rfl
  rw [answered]
  exact (leadsTo_dispatch normalized wellFormed redirected).withField

end Server

/-! ## Short URLs that were created -/

namespace Running

variable {origin : Tables} {first running later : Running} {request visit : Request} {id visitId : Uuid}
  {key : IdempotencyKey} {destination : String} {row : ShortUrl}

theorem Later.settings (later : first.Later running) :
    running.server.settings = first.server.settings := by
  induction later with
  | now => rfl
  | continues later continues induction => exact continues.settings.trans induction
  | answers later request id induction =>
      exact (Server.settings_answer _ request id).trans induction
  | operates later operation induction => exact induction
  | redirects later slug induction => exact induction
  | writes later entry awaited induction => exact induction

/-- What a request is told to have created is stored. -/
theorem IsCoherent.stored_of_created (coherent : running.IsCoherent origin)
    (asks : request.normalized.Asks key (.shortUrl destination))
    (created : (running.server.answer request id).1.status = 201) :
    running.server.settings.requestTimeout.fitsClock = true ∧
      ∃ row ∈ (running.answered request id).tables.shortUrls,
        (running.server.answer request id).1.content =
          .json (row.body running.server.settings.baseUrl) := by
  have admits := Server.admits_of_created asks
    ((Server.answers_dispatch id asks).status ▸ created)
  rcases Server.answers_handled id asks admits (ensures_respond_coherent key _ coherent.self) with
    ⟨result, after, ⟨-, stored⟩, answers⟩
  rcases Server.returned_of_created (answers.status ▸ created) with ⟨response, rfl⟩
  rcases stored response rfl rfl with ⟨fits, row, member, rfl⟩
  refine ⟨fits, row, ?_, answers.content⟩
  rw [tables, Running.answered, answers.after]
  exact member

/-- A stored short URL leads to its destination from then on. -/
theorem IsCoherent.leadsTo (coherent : running.IsCoherent .empty)
    (fits : running.server.settings.requestTimeout.fitsClock = true)
    (member : row ∈ running.tables.shortUrls) (following : running.Later later)
    (undisturbed : later.scene.situation.store.IsUndisturbed) (visits : visit.Visits row.slug)
    (inTime : IsInTime later.server.settings row.slug.toList later.scene) :
    (later.server.answer visit visitId).1.LeadsTo row := by
  have unambiguous := coherent.scene.store.grown.unambiguous Tables.areUnambiguous_empty
  have wellFormed := unambiguous.wellFormed row member
  have started : running.IsCoherent running.tables := ⟨coherent.self, coherent.vouched⟩
  have grown := (following.isCoherent started).scene
  refine Server.leadsTo_answer visits wellFormed ?_ visitId
  rw [redirectFromSegment_eq unambiguous grown undisturbed inTime]
  exact redirection_of_mem (grown.unambiguous_resumed unambiguous)
    (grown.store.resumed.grown.mem member) (decodeSegment?_slug wellFormed)
    (following.settings ▸ fits)

/-- A short URL that a request was told to have created leads to its destination from then on, whatever
else happens to the server: in time and without faults, a visit is redirected there. The exceptions are
the slug of the health report, and destinations that no header field can carry. -/
theorem Reachable.created_redirects (reachable : running.Reachable)
    (asks : request.normalized.Asks key (.shortUrl destination))
    (created : (running.server.answer request id).1.status = 201) :
    ∃ row ∈ (running.answered request id).tables.shortUrls,
      (running.server.answer request id).1.content =
        .json (row.body running.server.settings.baseUrl) ∧
      ∀ later visit visitId, (running.answered request id).Later later →
        later.scene.situation.store.IsUndisturbed → visit.Visits row.slug →
        IsInTime later.server.settings row.slug.toList later.scene →
        (later.server.answer visit visitId).1.LeadsTo row := by
  have coherent := reachable.isCoherent
  rcases coherent.stored_of_created asks created with ⟨fits, row, member, content⟩
  refine ⟨row, member, content, fun later visit visitId following undisturbed visits inTime => ?_⟩
  refine (coherent.answered request id).leadsTo ?_ member following undisturbed visits inTime
  exact (running.server.settings_answer request id).symm ▸ fits

end Running

def Request.visiting : Request where
  method := "GET"
  target := "/abcd".toList
  headers := []
  body := []
  peer := none

/-- A request whose destination has a line break in it. -/
def Request.breaking : Request :=
  { Request.shortening with
    body := Text.encodeUtf8 "\x7b\"destination_url\":\"https://a\\nb\"\x7d" }

namespace Running

theorem visits_visiting : Request.visiting.Visits "abcd" := ⟨rfl, rfl⟩

private theorem computed_visiting :
    let shortened := caching.answered .shortening (.ofDigit 7)
    (caching.server.answer .shortening (.ofDigit 7)).1.status = 201 ∧
    (shortened.scene.situation.store.isClosed = false ∧
      shortened.scene.situation.store.faults.isEmpty) ∧
    (∀ row ∈ shortened.tables.shortUrls,
      row.slug = "abcd" ∧ row.destination = "https://example.com") ∧
    let situation := ((redirectFromSegment shortened.server.settings "abcd".toList).run.run
      shortened.scene).2.situation
    situation.context.check situation.now = none := by
  decide +kernel

theorem created_redirects_visiting :
    let visited := (caching.answered .shortening (.ofDigit 7)).server.answer .visiting (.ofDigit 8)
    visited.1.status = 307 ∧
      visited.1.headers.first? "location" = some (Text.encodeUtf8 "https://example.com") := by
  rcases computed_visiting with ⟨created, ⟨isOpen, spent⟩, rows, inTime⟩
  have reachable : caching.Reachable := ⟨caching, isNew_caching, .now⟩
  rcases reachable.created_redirects Server.asks_shortening created with ⟨row, member, -, works⟩
  rcases rows row member with ⟨slug, destination⟩
  have leads := works _ .visiting (.ofDigit 8) .now ⟨isOpen, List.isEmpty_iff.mp spent ▸ nofun⟩
    (slug ▸ visits_visiting) (slug ▸ .of_check inTime)
  rw [Response.LeadsTo, if_neg (slug ▸ by decide), destination, if_pos (by decide)] at leads
  exact leads

theorem asks_breaking :
    Request.breaking.normalized.Asks ⟨.ofDigit 2⟩ (.shortUrl "https://a\nb") :=
  @Request.Asks.of_computed _ _ [("destination_url", some "https://a\nb")] rfl rfl
    (by decide +kernel) (by decide +kernel)

private theorem computed_breaking :
    let shortened := caching.answered .breaking (.ofDigit 7)
    (caching.server.answer .breaking (.ofDigit 7)).1.status = 201 ∧
    (shortened.scene.situation.store.isClosed = false ∧
      shortened.scene.situation.store.faults.isEmpty) ∧
    (∀ row ∈ shortened.tables.shortUrls, row.slug = "abcd") ∧
    (let situation := ((redirectFromSegment shortened.server.settings "abcd".toList).run.run
      shortened.scene).2.situation
    situation.context.check situation.now = none) ∧
    (shortened.server.answer .visiting (.ofDigit 8)).1.status = 500 := by
  decide +kernel

/-- A destination with a line break is accepted, but nobody is ever led to it. -/
theorem created_redirects_not_always :
    ¬ ∀ (running later : Running) (request visit : Request) (id visitId : Uuid)
      (key : IdempotencyKey) (destination : String) (row : ShortUrl),
      running.Reachable → request.normalized.Asks key (.shortUrl destination) →
      (running.server.answer request id).1.status = 201 →
      row ∈ (running.answered request id).tables.shortUrls →
      (running.server.answer request id).1.content =
        .json (row.body running.server.settings.baseUrl) →
      (running.answered request id).Later later →
      later.scene.situation.store.IsUndisturbed → visit.Visits row.slug →
      IsInTime later.server.settings row.slug.toList later.scene →
      (later.server.answer visit visitId).1.status = 307 ∧
        (later.server.answer visit visitId).1.headers.first? "location" =
          some (Text.encodeUtf8 row.destination) := by
  intro redirects
  rcases computed_breaking with ⟨created, ⟨isOpen, spent⟩, rows, inTime, status⟩
  have reachable : caching.Reachable := ⟨caching, isNew_caching, .now⟩
  rcases (reachable.isCoherent.stored_of_created asks_breaking created).2 with ⟨row, member, content⟩
  have slug := rows row member
  have redirected := redirects caching _ .breaking .visiting (.ofDigit 7) (.ofDigit 8) _ _ row
    reachable asks_breaking created member content .now
    ⟨isOpen, List.isEmpty_iff.mp spent ▸ nofun⟩ (slug ▸ visits_visiting)
    (slug ▸ .of_check inTime)
  rw [status] at redirected
  exact absurd redirected.1 (by decide)

end Running

end LinkShortener.Http
