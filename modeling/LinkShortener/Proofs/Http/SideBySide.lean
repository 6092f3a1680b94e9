import LinkShortener.Proofs.Http.Asking
import LinkShortener.Proofs.Service.Resemblance

/-! # Servers side by side

Two servers whose scenes are related in a way that is hidden from clients. Every request is answered
the same by both.
-/

namespace LinkShortener.Http

open Service

/-! ## Handlers -/

/-- The steps of all routes but that for registrations respect a relation of scenes. -/
structure IsConcealed (related : Scene → Scene → Prop) : Prop extends IsHidden related where
  checkingDatabase : Respects related checkDatabase
  checkingCache : Respects related checkCache

variable {settings : HttpSettings} {request : Request} {related : Scene → Scene → Prop}

theorem respects_demand {α : Type} (part : Except ServiceError α) :
    Respects related (demand part) := by
  cases part with
  | ok value => exact respects_pure _
  | error error => exact respects_refuse _

theorem respects_postUser (hidden : IsHiddenFromUsers related) :
    Respects related (postUser settings request) := by
  refine (respects_demand _).bind fun key => (respects_demand _).bind fun fields => ?_
  refine (hidden.starting _).bind fun _ => ?_
  exact (hidden.createUser key _).bind fun _ => respects_pure _

namespace IsConcealed

variable (concealed : IsConcealed related)

include concealed

theorem redirectFrom (slug : String) : Respects related (redirectFrom settings slug) := by
  refine (concealed.reading slug).bind fun found => ?_
  cases found with
  | some destination => exact (concealed.noting _).bind fun _ => respects_pure _
  | none =>
      refine (concealed.noting _).bind fun _ => (concealed.starting _).bind fun _ => ?_
      refine (concealed.resolveSlug slug).bind fun shortUrl => ?_
      exact (concealed.remembering _ _).bind fun _ => respects_pure _

theorem redirectFromSegment (segment : List Char) :
    Respects related (redirectFromSegment settings segment) := by
  unfold Http.redirectFromSegment
  split
  · exact concealed.redirectFrom _
  · exact respects_pure _

theorem reportHealth : Respects related reportHealth :=
  concealed.checkingDatabase.bind fun _ => concealed.checkingCache.bind fun _ => respects_pure _

theorem postShortUrl : Respects related (postShortUrl settings request) := by
  refine (respects_demand _).bind fun key => (respects_demand _).bind fun fields => ?_
  refine (concealed.starting _).bind fun _ => ?_
  exact (concealed.createShortUrl key _).bind fun _ => respects_pure _

end IsConcealed

/-! ## Servers -/

namespace Server

/-- Servers that are the same but for their scenes, which are related. -/
structure Beside (related : Scene → Scene → Prop) (first second : Server) : Prop where
  same : second = { first with scene := second.scene }
  scene : related first.scene second.scene

/-- Two answers that a client cannot tell apart, and the servers after them. -/
def AnswersBeside (related : Scene → Scene → Prop) (answer other : Response × Server) : Prop :=
  other.1 = answer.1 ∧ answer.2.Beside related other.2

variable {first second : Server}

namespace Beside

theorem of_scene (beside : first.Beside related second) {scene other : Scene}
    (still : related scene other) :
    Beside related { first with scene } { second with scene := other } :=
  ⟨by rw [beside.same], still⟩

section

variable (noting : ∀ events, Respects related (note events))

include noting

/-- A fault of the program is answered in one way, whatever it is. -/
theorem recover (beside : first.Beside related second) (detail : Option String) :
    AnswersBeside related (first.recover detail) (second.recover detail) := by
  have noted := noting (recovered detail).2 first.scene second.scene beside.scene
  exact ⟨rfl, beside.of_scene noted.2⟩

theorem handle (beside : first.Beside related second) {handler otherHandler : Service Response}
    (agree : Agree handler otherHandler first.scene second.scene fun _ => related) :
    AnswersBeside related (first.handle handler) (second.handle otherHandler) := by
  unfold Agree Ensures at agree
  rcases agree with ⟨returned, still⟩
  rw [handle_eq, handle_eq, returned]
  rcases (handler.run.run first.scene).1 with (error | detail) | response
  · exact ⟨rfl, beside.of_scene still⟩
  · exact (beside.of_scene still).recover noting detail
  · exact ⟨rfl, beside.of_scene still⟩

theorem answerOpen (beside : first.Beside related second) {handler : Service Response}
    (respects : Respects related handler) :
    AnswersBeside related (first.answerOpen request handler)
      (second.answerOpen request handler) := by
  unfold Server.answerOpen
  split
  · exact beside.handle noting (respects _ _ beside.scene)
  · exact ⟨rfl, beside⟩

/-- Two requests that count the same are let through together. -/
theorem answerLimited (beside : first.Beside related second) {request other : Request}
    (method : other.method = request.method)
    (counted : first.limiter.charge other = first.limiter.charge request) (isOpen : Bool)
    {handler otherHandler : Service Response}
    (agree : Agree handler otherHandler first.scene second.scene fun _ => related) :
    AnswersBeside related (first.answerLimited request isOpen handler)
      (second.answerLimited other isOpen otherHandler) := by
  have limiter : second.limiter = first.limiter := by rw [beside.same]
  unfold Server.answerLimited
  rw [limiter, counted, method]
  cases first.limiter.charge request with
  | mk admission limiter =>
      have charged : Beside related { first with limiter } { second with limiter } :=
        ⟨by rw [beside.same], beside.scene⟩
      rcases admission with _ | refusal | text
      · dsimp only
        split
        · exact ⟨rfl, charged⟩
        · split
          · exact charged.handle noting agree
          · exact ⟨rfl, charged⟩
      · exact ⟨rfl, charged⟩
      · exact charged.recover noting _

end

variable (concealed : IsConcealed related)

include concealed

theorem dispatch (beside : first.Beside related second) (request : Request)
    (registering : Route.ofPath? request.path = some .users →
      Respects related (postUser first.settings request)) :
    AnswersBeside related (first.dispatch request) (second.dispatch request) := by
  have settings : second.settings = first.settings := by rw [beside.same]
  unfold Server.dispatch
  rw [settings]
  split
  · exact ⟨rfl, beside⟩
  · exact beside.answerOpen concealed.noting concealed.reportHealth
  · exact beside.answerOpen concealed.noting (concealed.redirectFromSegment _)
  · exact beside.answerLimited concealed.noting rfl rfl _ (concealed.postShortUrl _ _ beside.scene)
  next users =>
    exact beside.answerLimited concealed.noting rfl rfl _ (registering users _ _ beside.scene)

theorem answer (beside : first.Beside related second) (request : Request) (id : Uuid)
    (registering : Route.ofPath? request.normalized.path = some .users →
      Respects related (postUser first.settings request.normalized)) :
    AnswersBeside related (first.answer request id) (second.answer request id) := by
  rcases beside.dispatch concealed request.normalized registering with ⟨returned, still⟩
  exact ⟨congrArg (leaving request.normalized id) returned, still⟩

end Beside

end Server

end LinkShortener.Http
