import LinkShortener.Proofs.Http.Effects
import LinkShortener.Proofs.Http.SideBySide
import LinkShortener.Proofs.Service.Likeness

/-! # Purges

Two runs that differ in purges only, side by side. Every client is answered the same in both.
-/

namespace LinkShortener.Http

open Service

theorem isConcealed_alike : IsConcealed Scene.Alike where
  toIsHidden := isHidden_alike.toIsHidden
  checkingDatabase := by
    refine Respects.bind (agrees_ask Statement.isBlind_ping) fun outcome => ?_
    cases outcome with
    | ok _ => exact respects_pure _
    | error error => exact Respects.bind (agrees_note _) fun _ => respects_pure _
  checkingCache := IsDetached.agrees fun _ _ => rfl

namespace Action

variable {α : Type}

/-- Everything but what the operator asks for. -/
def IsOfClient : Action α → Prop
  | .find _ => False
  | .stats => False
  | .purge => False
  | _ => True

theorem agrees_run (action : Action α) (ofClient : action.IsOfClient) : action.run.Agrees := by
  cases action with
  | repository call => exact call.agrees_run
  | create key submission => exact isHidden_alike.create key submission
  | resolveSlug slug => exact isHidden_alike.resolveSlug slug
  | redirect settings slug => exact isConcealed_alike.redirectFrom slug
  | find token => exact ofClient.elim
  | stats => exact ofClient.elim
  | purge => exact ofClient.elim

def after (action : Action α) (scene : Scene) : Scene := (action.run.run.run scene).2

end Action

namespace Server

/-! ## Servers side by side -/

/-- Servers that no fault strikes and that are the same but for their stores, which are treated in the
same way apart from purges. -/
structure Together (first second : Server) : Prop where
  same : second = { first with scene := first.scene.on second.scene.situation.store }
  store : first.scene.situation.store.Together second.scene.situation.store

structure Alike (first second : Server) : Prop where
  same : second = { first with scene := second.scene }
  scene : first.scene.Alike second.scene

/-- Two answers that a client cannot tell apart, and the servers after them. -/
def AnswersAlike (answer other : Response × Server) : Prop :=
  other.1 = answer.1 ∧ answer.2.Alike other.2

variable {first second : Server} {α : Type}

theorem Together.alike (together : first.Together second)
    (tables : Tables.Alike first.clock first.tables second.tables) : first.Alike second := by
  have scene : second.scene = first.scene.on second.scene.situation.store :=
    congrArg Server.scene together.same
  refine ⟨?_, scene, { together.store with tables }⟩
  rw [scene]
  exact together.same

namespace Alike

theorem tables (alike : first.Alike second) :
    Tables.Alike first.clock first.tables second.tables :=
  alike.scene.store.tables

theorem of_scene (alike : first.Alike second) {scene other : Scene} (still : scene.Alike other) :
    Alike { first with scene } { second with scene := other } :=
  ⟨by rw [alike.same], still⟩

theorem answer (alike : first.Alike second) (request : Request) (id : Uuid) :
    AnswersAlike (first.answer request id) (second.answer request id) := by
  have beside : first.Beside Scene.Alike second := ⟨alike.same, alike.scene⟩
  rcases beside.answer isConcealed_alike request id fun _ => respects_postUser isHidden_alike with
    ⟨returned, still⟩
  exact ⟨returned, still.same, still.scene⟩

theorem act (alike : first.Alike second) (action : Action α) (ofClient : action.IsOfClient) :
    (action.run.run.run second.scene).1 = (action.run.run.run first.scene).1 ∧
      Alike { first with scene := action.after first.scene }
        { second with scene := action.after second.scene } := by
  have agree := action.agrees_run ofClient first.scene second.scene alike.scene
  unfold Agree Ensures at agree
  exact ⟨agree.1, alike.of_scene agree.2⟩

theorem purge (alike : first.Alike second) :
    Alike first { second with scene := Action.purge.after second.scene } := by
  refine ⟨by rw [alike.same], ?_, alike.scene.store.purged⟩
  rw [alike.scene.same]
  rfl

end Alike

/-! ## Runs side by side -/

/-- Two runs from the same tables. In both of them the same requests are answered and the same is done
for clients, with the same ids and slugs and at the same times. In the second one, expired entries are
taken away besides, between requests or in the midst of them. -/
inductive Parallel : Server → Server → Prop where
  | start {first second : Server} (together : first.Together second)
      (tables : second.tables = first.tables)
      (distinct : (first.tables.ledger.map (·.token)).Nodup) : Parallel first second
  | continues {first second later other : Server} (parallel : Parallel first second)
      (together : later.Together other) (tables : later.tables = first.tables)
      (otherTables : other.tables = second.tables) (clock : first.clock ≤ later.clock) :
      Parallel later other
  | answers {first second : Server} (parallel : Parallel first second) (request : Request)
      (id : Uuid) : Parallel (first.answer request id).2 (second.answer request id).2
  | acts {α : Type} {first second : Server} (parallel : Parallel first second) (action : Action α)
      (ofClient : action.IsOfClient) :
      Parallel { first with scene := action.after first.scene }
        { second with scene := action.after second.scene }
  | purges {first second : Server} (parallel : Parallel first second) :
      Parallel first { second with scene := Action.purge.after second.scene }

theorem Parallel.alike (parallel : first.Parallel second) : first.Alike second := by
  induction parallel with
  | start together tables distinct =>
      apply together.alike
      rw [tables]
      exact .refl _ distinct
  | continues parallel together tables otherTables clock induction =>
      apply together.alike
      rw [tables, otherTables]
      exact induction.tables.later clock
  | answers parallel request id induction => exact (induction.answer request id).2
  | acts parallel action ofClient induction => exact (induction.act action ofClient).2
  | purges parallel induction => exact induction.purge

/-- Purges are unobservable: at every moment of two runs that differ in purges only, there are the same
rows and the same live entries, and every client is answered the same. -/
theorem Parallel.unobservable (parallel : first.Parallel second) :
    (second.tables.shortUrls = first.tables.shortUrls ∧ second.tables.users = first.tables.users ∧
      (second.tables.ledger.filter fun entry => first.clock < entry.expiresAt).Perm
        (first.tables.ledger.filter fun entry => first.clock < entry.expiresAt)) ∧
    (∀ request id, (second.answer request id).1 = (first.answer request id).1) ∧
    ∀ {α : Type} (action : Action α), action.IsOfClient →
      (action.run.run.run second.scene).1 = (action.run.run.run first.scene).1 := by
  have alike := parallel.alike
  have tables := alike.tables
  refine ⟨⟨tables.shortUrls, tables.users, ?_⟩, fun request id => (alike.answer request id).1,
    fun action ofClient => (alike.act action ofClient).1⟩
  exact Ledger.live_perm tables.distinct tables.otherDistinct tables.live

/-- A new server that shortens one address, two days later. -/
def overslept : Server :=
  let server := (undisturbed.answer .shortening (.ofDigit 7)).2
  let situation := server.scene.situation
  { server with
    scene := { server.scene with
      situation := { situation with
        store := { situation.store with clock := situation.store.clock.later (48 * 3600) } } } }

theorem unobservable_overslept :
    let purged := { overslept with scene := Action.purge.after overslept.scene }
    (overslept.tables.ledger.length = 1 ∧ purged.tables.ledger.length = 0) ∧
      (purged.answer .shortening (.ofDigit 8)).1 = (overslept.answer .shortening (.ofDigit 8)).1 := by
  intro purged
  have together : ∀ {server : Server}, server.scene.situation.store.isClosed = false →
      server.scene.situation.store.faults = [] → server.scene.situation.store.interludes = [] →
      server.Together server := by
    intro server isOpen faults interludes
    refine ⟨rfl, rfl, isOpen, isOpen, ?_, rfl, ?_, rfl⟩
    · rw [faults]
      exact nofun
    · rw [interludes]
      exact .nil _
  have computed : (overslept.scene.situation.store.isClosed = false ∧
      overslept.scene.situation.store.faults.isEmpty ∧
      overslept.scene.situation.store.interludes.isEmpty) ∧
      overslept.tables.ledger.length = 1 ∧ purged.tables.ledger.length = 0 := by decide +kernel
  rcases computed with ⟨⟨isOpen, faults, interludes⟩, lengths⟩
  have start : undisturbed.Parallel undisturbed := .start (together rfl rfl rfl) rfl List.nodup_nil
  have overnight : overslept.Parallel overslept :=
    .continues (start.answers .shortening (.ofDigit 7))
      (together isOpen (List.isEmpty_iff.mp faults) (List.isEmpty_iff.mp interludes)) rfl rfl
      (le_of_lt (Instant.lt_later _ (by decide)))
  exact ⟨lengths, overnight.purges.unobservable.2.1 .shortening (.ofDigit 8)⟩

end Server

end LinkShortener.Http
