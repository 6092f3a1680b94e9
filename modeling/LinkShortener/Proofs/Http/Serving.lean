import LinkShortener.Proofs.Http.Asking
import LinkShortener.Proofs.Service.Reachability

/-! # Answers and the store

Whatever a request asks for and however its answer comes about, nothing is lost but expired entries.
-/

namespace LinkShortener

namespace Scene.Proceeds

/-- What a scene holds besides the store and the supplies is of no account. -/
theorem of_scenery {before after : Scene}
    (store : after.situation.store = before.situation.store) (ids : after.ids = before.ids)
    (slugs : after.slugs = before.slugs) : before.Proceeds after :=
  .of_same (fun solitary => store ▸ solitary) (fun _ => congrArg Database.tables store)
    (fun _ => le_of_eq (congrArg Database.clock store).symm) ids (congrArg Supply.values slugs)

theorem refl (scene : Scene) : scene.Proceeds scene := .of_scenery rfl rfl rfl

end Scene.Proceeds

namespace Service

variable {α β : Type}

/-- After the computation nothing is lost but expired entries. -/
def LosesNothing (service : Service α) : Prop :=
  ∀ scene, Ensures service scene fun _ after => scene.Proceeds after

theorem losesNothing_pure (value : α) : LosesNothing (pure value) :=
  fun scene => ensures_pure (.refl scene)

theorem LosesNothing.bind {service : Service β} {next : β → Service α}
    (first : service.LosesNothing) (second : ∀ value, (next value).LosesNothing) :
    LosesNothing (service >>= next) := by
  intro scene
  refine ensures_bind ((first scene).imp fun result middle proceeds => ?_)
  cases result with
  | error failure => exact proceeds
  | ok value => exact (second value middle).imp fun _ _ following => proceeds.trans following

theorem losesNothing_note (events : List Event) : LosesNothing (note events) :=
  fun _ => .of_scenery rfl rfl rfl

theorem losesNothing_cached (slug : String) : LosesNothing (cached slug) :=
  fun _ => ensures_get_bind (ensures_set_bind (ensures_modify_bind
    (ensures_pure (.of_scenery rfl rfl rfl))))

theorem losesNothing_remember (slug destination : String) :
    LosesNothing (remember slug destination) :=
  fun _ => ensures_get_bind (ensures_set_bind (.of_scenery rfl rfl rfl))

theorem losesNothing_startRequest (timeout : Duration) : LosesNothing (startRequest timeout) := by
  intro scene
  apply Http.ensures_startRequest
  split
  · exact .of_scenery rfl rfl rfl
  · exact .refl scene

theorem isHarmless_ping : IsHarmless .ping := by
  intro tables now answer after ran
  cases ran
  exact .inl rfl

end Service

namespace Http

open Service

variable {settings : HttpSettings} {request : Request}

theorem losesNothing_redirectFromSegment (segment : List Char) :
    LosesNothing (redirectFromSegment settings segment) := by
  unfold redirectFromSegment
  split
  next slug decoded =>
    refine (losesNothing_cached slug).bind fun found => ?_
    cases found with
    | some destination => exact (losesNothing_note _).bind fun _ => losesNothing_pure _
    | none =>
        refine (losesNothing_note _).bind fun _ => (losesNothing_startRequest _).bind fun _ => ?_
        have resolves : LosesNothing (resolveSlug slug) := ensures_resolveSlug slug
        exact resolves.bind fun _ => (losesNothing_remember _ _).bind fun _ => losesNothing_pure _
  · exact losesNothing_pure _

theorem losesNothing_reportHealth : LosesNothing reportHealth := by
  have database : LosesNothing checkDatabase := by
    have asks : LosesNothing (Service.ask .ping) := ensures_ask isHarmless_ping
    refine asks.bind fun outcome => ?_
    cases outcome with
    | ok _ => exact losesNothing_pure _
    | error error => exact (losesNothing_note _).bind fun _ => losesNothing_pure _
  have cache : LosesNothing checkCache := fun _ =>
    ensures_get_bind (ensures_set_bind (ensures_pure (.of_scenery rfl rfl rfl)))
  exact database.bind fun _ => cache.bind fun _ => losesNothing_pure _

/-- A creation loses nothing, if its id was never drawn before. -/
theorem ensures_respond_proceeds (key : IdempotencyKey) (submission : Submission) {scene : Scene}
    (fresh : scene.IsFresh) :
    Ensures (respond settings key submission) scene fun _ after => scene.Proceeds after := by
  apply ensures_respond
  split
  · refine (ensures_create key submission _).imp fun _ after ⟨_, _, calls⟩ => ?_
    have started : scene.Proceeds (scene.started settings.requestTimeout) :=
      .of_scenery rfl rfl rfl
    exact started.trans (calls.proceeds fresh)
  · exact .refl scene

theorem ensures_postShortUrl_proceeds {scene : Scene} (fresh : scene.IsFresh) :
    Ensures (postShortUrl settings request) scene fun _ after => scene.Proceeds after :=
  ensures_postShortUrl (fun _ => .refl scene) fun key _ => ensures_respond_proceeds key _ fresh

theorem ensures_postUser_proceeds {scene : Scene} (fresh : scene.IsFresh) :
    Ensures (postUser settings request) scene fun _ after => scene.Proceeds after :=
  ensures_postUser (fun _ => .refl scene) fun key _ => ensures_respond_proceeds key _ fresh

structure Server.Proceeds (before after : Server) : Prop where
  scene : before.scene.Proceeds after.scene
  settings : after.settings = before.settings

namespace Server

variable {server : Server}

/-- Every answer loses nothing but expired entries. -/
theorem proceeds_answer (fresh : server.scene.IsFresh) (request : Request) (id : Uuid) :
    server.Proceeds (server.answer request id).2 := by
  have handles : server.Handles request.normalized server.scene.Proceeds :=
    { idle := .refl _
      logged := fun _ _ proceeds => proceeds.trans (.of_scenery rfl rfl rfl)
      health := losesNothing_reportHealth server.scene
      redirects := fun segment => losesNothing_redirectFromSegment segment server.scene
      shortUrls := ensures_postShortUrl_proceeds fresh
      users := ensures_postUser_proceeds fresh }
  exact ⟨(handles.answer id).1, (handles.answer id).2⟩

end Server

end Http

end LinkShortener
