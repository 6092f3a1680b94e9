import LinkShortener.Proofs.Http.Repetition
import LinkShortener.Proofs.Http.SideBySide
import LinkShortener.Proofs.Service.Discretion

/-! # Discretion

What goes wrong inside the store never reaches a client in the words of the store. Two servers whose
stores are struck by errors of the same kinds answer every request alike and come to the same tables,
whatever the errors say.
-/

namespace LinkShortener.Http

open Service

variable {seen : Option String → Option String}

/-- A health report tells whether the database answers, and nothing about an error. -/
theorem respects_checkDatabase : Respects (Scene.Resembles seen) checkDatabase := by
  rintro first _ ⟨store, log, alike⟩
  rcases (Database.ends_queryAlone alike .ping).parts with
    ⟨result, otherResult, left, otherLeft, asked, otherAsked, answers, still⟩
  have coupled : Couple checkDatabase checkDatabase first (first.beside store log)
      fun result otherResult after other => otherResult = result ∧ after.Resembles seen other := by
    refine couple_bind (couple_get_bind ?_)
    dsimp only [Scene.beside]
    rw [asked, otherAsked]
    refine couple_set_bind (couple_pure ?_)
    cases answers with
    | ok _ => exact couple_pure ⟨rfl, .intro otherLeft log still⟩
    | error alike => exact couple_modify_bind (couple_pure ⟨rfl, .intro otherLeft _ still⟩)
  exact coupled

theorem isConcealed_resembles : IsConcealed (Scene.Resembles seen) where
  toIsHidden := isHidden_resembles
  checkingDatabase := respects_checkDatabase
  checkingCache := IsMute.respects fun _ _ log => ⟨log, rfl⟩

namespace Server

/-- The server with another script of faults for its store. -/
def struckBy (server : Server) (faults : List Fault) : Server :=
  let situation := server.scene.situation
  { server with
    scene := { server.scene with situation := { situation with
      store := { situation.store with faults } } } }

/-- The responses to requests that follow each other, each with the id for it if it has none, and the
server after them. -/
def answerEach (server : Server) : List (Request × Uuid) → List Response × Server
  | [] => ([], server)
  | (request, fresh) :: rest =>
    let (response, server) := server.answer request fresh
    let (responses, server) := server.answerEach rest
    (response :: responses, server)

variable {server first second : Server} {faults others : List Fault}

theorem beside_struckBy (server : Server) (alike : Fault.StrikeAlike seen faults others) :
    (server.struckBy faults).Beside (Scene.Resembles seen) (server.struckBy others) :=
  ⟨rfl, .intro _ _ (.intro others _ alike)⟩

theorem Beside.tables_eq (beside : first.Beside (Scene.Resembles seen) second) :
    second.tables = first.tables := by
  have scene := beside.scene
  unfold Server.tables
  generalize first.scene = own at scene ⊢
  generalize second.scene = other at scene ⊢
  rcases scene with ⟨store, log, alike⟩
  exact alike.tables

/-- Requests are answered the same one after the other, if those for registrations are. -/
theorem Beside.answerEach (beside : first.Beside (Scene.Resembles seen) second)
    (requests : List (Request × Uuid))
    (registering : ∀ asked ∈ requests, Route.ofPath? asked.1.normalized.path = some .users →
      ∀ settings, Respects (Scene.Resembles seen) (postUser settings asked.1.normalized)) :
    (second.answerEach requests).1 = (first.answerEach requests).1 ∧
      (second.answerEach requests).2.tables = (first.answerEach requests).2.tables := by
  induction requests generalizing first second with
  | nil => exact ⟨rfl, beside.tables_eq⟩
  | cons asked rest induction =>
      rcases asked with ⟨request, fresh⟩
      rcases beside.answer isConcealed_resembles request fresh fun users =>
        registering _ List.mem_cons_self users _ with ⟨returned, still⟩
      rcases induction still fun other member => registering other (List.mem_cons_of_mem _ member)
        with ⟨responses, tables⟩
      exact ⟨congrArg₂ List.cons returned responses, tables⟩

/-- An insertion fails because a row with the same value exists, and the server says so in its own
words. -/
def conflictReported (message : String) (constraint : Option String) : List Fault :=
  [⟨"insert_short_url", .refused ⟨some "23505", message, constraint, true⟩, 1, 0⟩]

end Server

/-! ## Busy servers -/

def Request.checking : Request where
  method := "GET"
  target := "/health".toList
  headers := []
  body := []
  peer := none

namespace Server

/-- The connection is lost, and the next attempt to connect fails with the given code. -/
def connectionRefused (code : String) : List Fault :=
  [⟨"ping", .dropped, 1, 0⟩, ⟨"connect", .refused ⟨some code, "try later", none, false⟩, 1, 0⟩]

private theorem computed_checking :
    ((undisturbed.struckBy (connectionRefused "53300")).answerEach
      [(.checking, .ofDigit 7), (.checking, .ofDigit 8)]).1.map (·.status) = [503, 200] ∧
    ((undisturbed.struckBy (connectionRefused "08006")).answerEach
      [(.checking, .ofDigit 7), (.checking, .ofDigit 8)]).1.map (·.status) = [503, 503] := by
  decide +kernel

end Server

end LinkShortener.Http
