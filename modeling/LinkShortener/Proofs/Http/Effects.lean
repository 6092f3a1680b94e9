import LinkShortener.Proofs.Http.Repetition
import LinkShortener.Proofs.Service.Effects

/-! # Effects of what is asked for

Everything that a client or the operator can ask for, on a server in any state that it can come to.
What is answered tells what has become of the tables, and a failure tells that nothing has.
-/

namespace LinkShortener.Http

inductive Action : Type → Type 1 where
  | repository {α : Type} (call : RepositoryCall α) : Action α
  | create (key : IdempotencyKey) (submission : Submission) : Action (Creation Row)
  | resolveSlug (slug : String) : Action ShortUrl
  | redirect (settings : HttpSettings) (slug : String) : Action Response
  | find (token : Uuid) : Action (Except DatabaseError (Option LedgerEntry))
  | stats : Action (Except DatabaseError LedgerStats)
  | purge : Action (Except DatabaseError Nat)

namespace Action

variable {α : Type} {scene : Scene}

def run : Action α → Service α
  | .repository call => call.run
  | .create key submission => Service.create key submission
  | .resolveSlug slug => Service.resolveSlug slug
  | .redirect settings slug => redirectFrom settings slug
  | .find token => Service.ask (.findEntry token)
  | .stats => Service.ask .stats
  | .purge => Service.ask .purge

/-- The change of the tables that an answer tells of, where the next id to be drawn is the given one. -/
def change (id : Uuid) : Action α → α → Change
  | .repository call => call.change
  | .create key submission => Service.creationChange key submission id
  | .resolveSlug _ => fun _ => .none
  | .redirect _ _ => fun _ => .none
  | .find _ => fun _ => .none
  | .stats => fun _ => .none
  | .purge => Service.purgeChange

/-- A row that is to be created has an id that was never used before. -/
def IsFresh (scene : Scene) : Action α → Prop
  | .repository call => call.IsFresh scene.situation.store.tables
  | .create _ _ => scene.IsFresh
  | _ => True

theorem preserves_redirectFrom {origin : Scene} (settings : HttpSettings) (slug : String) :
    Preserves origin.Leaves (redirectFrom settings slug) := by
  have cached : Preserves origin.Leaves (Service.cached slug) := fun _ leaves =>
    ensures_get_bind (ensures_set_bind (ensures_modify_bind (ensures_pure (leaves.of_store rfl))))
  have started : Preserves origin.Leaves (Service.startRequest settings.requestTimeout) := by
    intro scene leaves
    apply ensures_startRequest
    split
    · exact leaves.of_store rfl
    · exact leaves
  have remembered : ∀ destination, Preserves origin.Leaves (Service.remember slug destination) :=
    fun _ _ leaves => ensures_get_bind (ensures_set_bind (leaves.of_store rfl))
  refine cached.bind fun found => ?_
  cases found with
  | some destination => exact (Service.preserves_note _).bind fun _ => preserves_pure _
  | none =>
      refine (Service.preserves_note _).bind fun _ => started.bind fun _ => ?_
      refine (Service.lookupsKeep_leaves.resolveSlug slug).bind fun shortUrl => ?_
      exact (remembered shortUrl.destination).bind fun _ => preserves_pure _

/-- Whatever is asked for, the answer tells what has become of the tables. -/
theorem ensures_run (action : Action α) (lawful : scene.IsLawful)
    (honest : Fault.AreHonest scene.situation.store.faults) (fresh : action.IsFresh scene) :
    Ensures action.run scene (Service.Makes (action.change scene.ids.draw.1) scene) := by
  have trusted : scene.IsHonest := ⟨honest, lawful.solitary⟩
  have reads : ∀ {α : Type} {service : Service α}, Preserves scene.Leaves service →
      Ensures service scene (Service.Makes (fun _ => .none) scene) := by
    intro α service preserves
    apply (preserves scene (.refl trusted)).imp
    intro result after leaves
    cases result <;> exact ⟨leaves.clock, leaves.tables⟩
  cases action with
  | repository call => exact call.ensures_run (.refl trusted) lawful.sound fresh
  | create key submission =>
      apply Service.ensures_create_honest key submission trusted lawful.sound
      intro row member same
      rcases lawful.used row member with ⟨place, earlier, drawn⟩
      exact fresh place earlier (drawn.symm.trans same)
  | resolveSlug slug => exact reads (Service.lookupsKeep_leaves.resolveSlug slug)
  | redirect settings slug => exact reads (preserves_redirectFrom settings slug)
  | find token =>
      apply Service.ensures_ask_reading
      intro tables now answer after ran
      cases ran
      rfl
  | stats =>
      apply Service.ensures_ask_reading
      intro tables now answer after ran
      cases ran
      rfl
  | purge => exact Service.ensures_purge_honest trusted

end Action

namespace Server

/-- The effect of everything that can be asked for, in every state, whatever fails and whenever the
client goes away: the change that the answer tells of and no other, and none after a failure. No row
and no live entry is ever lost. -/
theorem Reachable.effect {α : Type} {server : Server} (reachable : server.Reachable)
    (honest : Fault.AreHonest server.scene.situation.store.faults) (action : Action α)
    (fresh : action.IsFresh server.scene) :
    Ensures action.run server.scene fun result after =>
      (match result with
        | .ok value => (action.change server.scene.ids.draw.1 value).Leads
          server.scene.situation.store after.situation.store
        | .error _ => after.situation.store.tables = server.tables) ∧
      Tables.Keeps after.situation.store.clock server.tables after.situation.store.tables := by
  apply (action.ensures_run reachable.lawful honest fresh).imp
  rintro result after ⟨clock, made⟩
  cases result with
  | ok value => exact ⟨made, made.keeps clock⟩
  | error failure => exact ⟨made, made.keeps clock⟩

/-- A new server whose second commit, the first one of a creation, is refused. -/
def stumbling : Server :=
  let scene := undisturbed.scene
  let situation := scene.situation
  let report : ServerReport := ⟨some "40001", "could not serialize access", none, false⟩
  { undisturbed with
    scene := { scene with
      situation := { situation with
        store := { situation.store with faults := [⟨"commit", .refused report, 1, 1⟩] } } } }

theorem effect_stumbling :
    let create := Action.create ⟨.ofDigit 2⟩ (.shortUrl "https://example.com")
    ∃ row, (create.run.run.run stumbling.scene).1 = .ok (.created row) ∧
      Tables.empty.Gains row
        (.opened ⟨⟨.ofDigit 2⟩, (Identity.shortUrl "https://example.com").fingerprint⟩ (.ofDigit 0)
          row.createdAt)
        (create.run.run.run stumbling.scene).2.situation.store.tables := by
  intro create
  have new : stumbling.IsNew := ⟨rfl, Database.isSolitary_of_nil rfl, isNew_undisturbed.generated⟩
  have honest : Fault.AreHonest stumbling.scene.situation.store.faults := by
    intro fault member _
    cases List.mem_singleton.mp member
    rfl
  have created : (match (create.run.run.run stumbling.scene).1 with
      | .ok (.created _) => true
      | _ => false) = true := by decide +kernel
  have trimmed : Text.trim "https://example.com" = "https://example.com" := by decide +kernel
  have effect := Reachable.effect ⟨_, new, .now⟩ honest create nofun
  unfold Ensures at effect
  split at created
  next row returned =>
    rw [returned] at effect
    rcases effect with ⟨⟨-, -, -, -, gains⟩, -⟩
    refine ⟨row, returned, ?_⟩
    rw [← trimmed]
    exact gains
  next => cases created

end Server

end LinkShortener.Http
