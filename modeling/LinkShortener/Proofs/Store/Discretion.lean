import LinkShortener.Proofs.Retry.Coupling
import LinkShortener.Proofs.Store.Transactions
import Mathlib.Data.List.Forall2

/-! # Errors in other words

Two databases that are struck at the same places by errors of the same kinds, which may read in any way.
Work goes the same way on both of them and leaves the same tables. How much of the names of constraints
has to be the same is left open.
-/

namespace LinkShortener

/-! ## Errors and faults -/

namespace StoreError

/-- A kind with as much of the name of a constraint as is seen. -/
def Kind.seen (seen : Option String → Option String) : Kind → Kind
  | .uniqueViolation constraint => .uniqueViolation (seen constraint)
  | kind => kind

/-- Errors of the same kind, both or neither of them worth another attempt, in any words. -/
structure Resembles (seen : Option String → Option String) (error other : StoreError) : Prop where
  kind : other.kind.seen seen = error.kind.seen seen
  retryable : other.retryable = error.retryable

variable {seen : Option String → Option String}

theorem Resembles.refl (error : StoreError) : error.Resembles seen error := ⟨rfl, rfl⟩

/-- Such errors look alike, and logs may tell everything. -/
def veil (seen : Option String → Option String) : Retry.Veil where
  errors := Resembles seen
  logs _ _ := True
  same := .refl
  retryable alike := alike.retryable
  exhausted _ _ := ⟨rfl, rfl⟩
  retrying _ _ _ _ _ := trivial
  rollbackFailed _ _ := trivial

end StoreError

variable {seen : Option String → Option String}

def ServerReport.Resembles (seen : Option String → Option String) (report other : ServerReport) :
    Prop :=
  (DatabaseError.reported report).classify.Resembles seen (DatabaseError.reported other).classify

namespace Failure

/-- A statement fails in the same way, which may be reported in any words. -/
inductive Resembles (seen : Option String → Option String) : Failure → Failure → Prop where
  | refused {report other : ServerReport} (alike : report.Resembles seen other) :
      Resembles seen (.refused report) (.refused other)
  | dropped : Resembles seen .dropped .dropped
  | unacknowledged {report other : ServerReport} (alike : report.Resembles seen other) :
      Resembles seen (.unacknowledged report) (.unacknowledged other)

/-- Whether a server that fails in this way to accept a connection is asked again at once. -/
def isBusy : Failure → Bool
  | .refused report => Database.isBusy report
  | .dropped => false
  | .unacknowledged report => Database.isBusy report

end Failure

namespace Fault

structure Resembles (seen : Option String → Option String) (fault other : Fault) : Prop where
  statement : other.statement = fault.statement
  times : other.times = fault.times
  skip : other.skip = fault.skip
  failure : fault.failure.Resembles seen other.failure

structure StrikesLike (seen : Option String → Option String) (fault other : Fault) : Prop
    extends Resembles seen fault other where
  waiting : fault.statement = "connect" → other.failure.isBusy = fault.failure.isBusy

/-- What strikes a statement in two scripts. A failure to connect that the pool waits out is no error
for anyone, so it is matched by such failures only. -/
inductive Struck (seen : Option String → Option String) (name : String) :
    Option Failure → Option Failure → Prop where
  | none : Struck seen name none none
  | some {failure other : Failure} (alike : failure.Resembles seen other)
      (waiting : name = "connect" → other.isBusy = failure.isBusy) :
      Struck seen name (some failure) (some other)

theorem struck_next {faults others : List Fault}
    (alike : List.Forall₂ (StrikesLike seen) faults others) (name : String) :
    Struck seen name (next name faults).1 (next name others).1 ∧
      List.Forall₂ (StrikesLike seen) (next name faults).2 (next name others).2 := by
  induction alike with
  | nil => exact ⟨.none, .nil⟩
  | @cons fault other rest others head tail induction =>
      rcases other with ⟨statement, otherFailure, times, skip⟩
      rcases head with ⟨⟨rfl, rfl, rfl, failure⟩, waiting⟩
      rw [next, next]
      dsimp only
      split
      next active =>
        split
        · exact ⟨.none, .cons ⟨⟨rfl, rfl, rfl, failure⟩, waiting⟩ tail⟩
        · exact ⟨.some failure fun connecting => waiting (active.1.trans connecting),
            .cons ⟨⟨rfl, rfl, rfl, failure⟩, waiting⟩ tail⟩
      · exact ⟨induction.1, .cons ⟨⟨rfl, rfl, rfl, failure⟩, waiting⟩ induction.2⟩

/-- Where the given statements follow each other, two scripts strike the same ones, with failures that
resemble each other. -/
def StrikeAlong (seen : Option String → Option String) :
    List String → List Fault → List Fault → Prop
  | [], _, _ => True
  | name :: names, faults, others =>
    Struck seen name (next name faults).1 (next name others).1 ∧
      StrikeAlong seen names (next name faults).2 (next name others).2

/-- Two scripts strike at the same places, whatever statements follow each other. -/
def StrikeAlike (seen : Option String → Option String) (faults others : List Fault) : Prop :=
  ∀ names, StrikeAlong seen names faults others

theorem StrikeAlike.next {faults others : List Fault} (alike : StrikeAlike seen faults others)
    (name : String) : Struck seen name (next name faults).1 (next name others).1 ∧
      StrikeAlike seen (Fault.next name faults).2 (Fault.next name others).2 :=
  ⟨(alike [name]).1, fun names => (alike (name :: names)).2⟩

/-- Scripts do that whose faults match one by one. -/
theorem strikeAlike_of_forall₂ {faults others : List Fault}
    (alike : List.Forall₂ (StrikesLike seen) faults others) : StrikeAlike seen faults others := by
  intro names
  induction names generalizing faults others with
  | nil => trivial
  | cons name names induction =>
      rcases struck_next alike name with ⟨struck, rest⟩
      exact ⟨struck, induction rest⟩

end Fault

/-! ## Databases -/

open Retry

namespace Database

/-- The same database under scripts of faults that strike alike, with any trace. -/
inductive Resembles (seen : Option String → Option String) (database : Database) :
    Database → Prop where
  | intro (faults : List Fault) (trace : List String)
      (alike : Fault.StrikeAlike seen database.faults faults) :
      Resembles seen database { database with faults, trace }

/-- Two answers of a database: the same, or errors that resemble each other. -/
inductive Answers {α : Type} (seen : Option String → Option String) :
    Except DatabaseError α → Except DatabaseError α → Prop where
  | ok (value : α) : Answers seen (.ok value) (.ok value)
  | error {error other : DatabaseError} (alike : error.classify.Resembles seen other.classify) :
      Answers seen (.error error) (.error other)

/-- An operation on two databases ends alike. -/
def EndsAlike {α : Type} (seen : Option String → Option String)
    (ended other : Except DatabaseError α × Database) : Prop :=
  Answers seen ended.1 other.1 ∧ ended.2.Resembles seen other.2

theorem EndsAlike.parts {α : Type} {ended other : Except DatabaseError α × Database}
    (ends : EndsAlike seen ended other) : ∃ result otherResult left otherLeft, ended = (result, left) ∧
      other = (otherResult, otherLeft) ∧ Answers seen result otherResult ∧
        left.Resembles seen otherLeft :=
  ⟨_, _, _, _, rfl, rfl, ends⟩

variable {first second : Database} {α : Type}

namespace Resembles

/-- Nothing but faults and traces can tell the two apart. -/
theorem reads {β : Type} (read : Database → β)
    (blind : ∀ database faults trace, read { database with faults, trace } = read database)
    (alike : first.Resembles seen second) : read second = read first := by
  rcases alike with ⟨faults, trace, alike⟩
  exact blind first faults trace

theorem tables (alike : first.Resembles seen second) : second.tables = first.tables :=
  alike.reads Database.tables fun _ _ _ => rfl

theorem isConnected (alike : first.Resembles seen second) :
    second.isConnected = first.isConnected :=
  alike.reads Database.isConnected fun _ _ _ => rfl

theorem latency (alike : first.Resembles seen second) (name : String) :
    second.latency second.clock name = first.latency first.clock name :=
  alike.reads (fun database => database.latency database.clock name) fun _ _ _ => rfl

/-- A change that does not look at faults and traces keeps the likeness. -/
theorem changes (change : Database → Database)
    (blind : ∀ database faults trace, ∃ written,
      change { database with faults, trace } = { change database with faults, trace := written })
    (keeps : ∀ database, (change database).faults = database.faults)
    (alike : first.Resembles seen second) : (change first).Resembles seen (change second) := by
  rcases alike with ⟨faults, trace, alike⟩
  rcases blind first faults trace with ⟨written, changed⟩
  rw [changed]
  exact .intro faults written (keeps first ▸ alike)

theorem traced (alike : first.Resembles seen second) (entry other : String) :
    (first.traced entry).Resembles seen (second.traced other) := by
  rcases alike with ⟨faults, trace, alike⟩
  exact .intro faults _ alike

theorem lost (alike : first.Resembles seen second) : first.lost.Resembles seen second.lost :=
  alike.changes Database.lost (fun _ _ trace => ⟨trace, rfl⟩) fun _ => rfl

theorem undone (alike : first.Resembles seen second) :
    first.undone.Resembles seen second.undone :=
  alike.changes Database.undone (fun _ _ trace => ⟨trace, rfl⟩) fun _ => rfl

theorem committed (alike : first.Resembles seen second) :
    first.committed.Resembles seen second.committed :=
  alike.changes Database.committed (fun _ _ trace => ⟨trace, rfl⟩) fun _ => rfl

theorem resumed (alike : first.Resembles seen second) :
    first.resumed.Resembles seen second.resumed := by
  rcases alike with ⟨faults, trace, alike⟩
  unfold Database.resumed
  dsimp only
  split
  · exact .intro faults trace alike
  · exact .intro faults trace alike

theorem strike (alike : first.Resembles seen second) (name : String) :
    ∃ failure other left otherLeft, first.strike name = (failure, left) ∧
      second.strike name = (other, otherLeft) ∧ Fault.Struck seen name failure other ∧
        left.Resembles seen otherLeft := by
  rcases alike with ⟨faults, trace, alike⟩
  rcases first.strike_eq name with ⟨own, struck⟩
  rcases strike_eq { first with faults, trace } name with ⟨other, otherStruck⟩
  rcases alike.next name with ⟨failures, rest⟩
  exact ⟨_, _, _, _, struck, otherStruck, failures, .intro _ other rest⟩

end Resembles

theorem ends_connectWithin (alike : first.Resembles seen second) (attempts : Nat) :
    EndsAlike seen (first.connectWithin attempts) (second.connectWithin attempts) := by
  induction attempts generalizing first second with
  | zero => exact ⟨.error (.refl _), alike⟩
  | succ attempts induction =>
      rcases alike with ⟨faults, trace, alike⟩
      unfold connectWithin
      dsimp only
      rcases alike.next "connect" with ⟨struck, rest⟩
      generalize Fault.next "connect" first.faults = own at struck rest ⊢
      generalize Fault.next "connect" faults = other at struck rest ⊢
      rcases own with ⟨failure, left⟩
      rcases other with ⟨otherFailure, otherLeft⟩
      dsimp only at struck rest ⊢
      have still : ∀ entry otherEntry, Resembles seen
          ({ first with faults := left }.traced entry)
          ({ first with faults := otherLeft, trace }.traced otherEntry) :=
        fun _ _ => .intro otherLeft _ rest
      have turnedAway : ∀ {report other : ServerReport} entry otherEntry,
          report.Resembles seen other → isBusy other = isBusy report → EndsAlike seen
            (if isBusy report then
              connectWithin attempts ({ first with faults := left }.traced entry)
            else (.error (.reported report), { first with faults := left }.traced entry))
            (if isBusy other then
              connectWithin attempts ({ first with faults := otherLeft, trace }.traced otherEntry)
            else (.error (.reported other),
              { first with faults := otherLeft, trace }.traced otherEntry)) := by
        intro report other entry otherEntry alike busy
        rw [busy]
        split
        · exact induction (still _ _)
        · exact ⟨.error alike, still _ _⟩
      cases struck with
      | none => exact ⟨.ok (), .intro otherLeft trace rest⟩
      | some alike waiting =>
          cases alike with
          | dropped => exact ⟨.error (.refl _), still _ _⟩
          | refused alike => exact turnedAway _ _ alike (waiting rfl)
          | unacknowledged alike => exact turnedAway _ _ alike (waiting rfl)

theorem ends_connect (alike : first.Resembles seen second) :
    EndsAlike seen first.connect second.connect := by
  unfold connect
  rw [alike.reads isClosed fun _ _ _ => rfl, alike.isConnected]
  split
  · exact ⟨.error (.refl _), alike⟩
  · split
    · exact ⟨.ok (), alike⟩
    · exact ends_connectWithin alike _

theorem ends_serve {statement : Statement} {keep : Database → Tables → Database}
    (keeps : ∀ {first second : Database} tables, first.Resembles seen second →
      (keep first tables).Resembles seen (keep second tables))
    (alike : first.Resembles seen second) (tables : Tables) :
    EndsAlike seen (first.serve statement tables keep) (second.serve statement tables keep) := by
  unfold serve
  rw [alike.reads clock fun _ _ _ => rfl]
  rcases alike.strike statement.name with
    ⟨failure, other, left, otherLeft, struck, otherStruck, alike, still⟩
  rw [struck, otherStruck]
  cases alike with
  | none =>
      cases statement.run tables first.clock with
      | ok outcome => exact ⟨.ok _, keeps _ still⟩
      | error error =>
          rcases still with ⟨faults, trace, still⟩
          exact ⟨.error (.refl _), .intro faults _ still⟩
  | some alike waiting =>
      cases alike with
      | refused alike => exact ⟨.error alike, still⟩
      | dropped => exact ⟨.error (.refl _), still.lost⟩
      | unacknowledged alike =>
          dsimp only
          cases statement.run tables first.clock with
          | ok outcome => exact ⟨.error alike, keeps _ still⟩
          | error error => exact ⟨.error alike, still⟩

theorem ends_query (alike : first.Resembles seen second) (statement : Statement) :
    EndsAlike seen (first.query statement) (second.query statement) := by
  unfold query
  rw [alike.isConnected, alike.reads working fun _ _ _ => rfl, alike.tables]
  split
  · exact ends_serve (fun tables alike => alike.changes ({ · with working := some tables })
      (fun _ _ trace => ⟨trace, rfl⟩) fun _ => rfl) alike _
  · exact ⟨.error (.refl _), alike⟩

theorem ends_queryAlone (alike : first.Resembles seen second) (statement : Statement) :
    EndsAlike seen (first.queryAlone statement) (second.queryAlone statement) := by
  unfold queryAlone
  rcases (ends_connect alike).parts with
    ⟨result, otherResult, left, otherLeft, connected, otherConnected, answers, still⟩
  rw [connected, otherConnected]
  cases answers with
  | error alike => exact ⟨.error alike, still⟩
  | ok _ =>
      dsimp only
      rw [still.tables]
      exact ends_serve (fun tables alike => alike.changes ({ · with tables })
        (fun _ _ trace => ⟨trace, rfl⟩) fun _ => rfl) still _

theorem ends_begin (alike : first.Resembles seen second) :
    EndsAlike seen first.begin second.begin := by
  unfold begin
  rcases (ends_connect alike.resumed).parts with
    ⟨result, otherResult, left, otherLeft, connected, otherConnected, answers, still⟩
  rw [connected, otherConnected]
  cases answers with
  | error alike => exact ⟨.error alike, still⟩
  | ok _ =>
      dsimp only
      rcases still.strike "begin" with
        ⟨failure, other, left, otherLeft, struck, otherStruck, alike, still⟩
      rw [struck, otherStruck]
      cases alike with
      | none =>
          rcases still with ⟨faults, trace, still⟩
          exact ⟨.ok (), .intro faults trace still⟩
      | some alike waiting =>
          cases alike with
          | refused alike => exact ⟨.error alike, still⟩
          | dropped => exact ⟨.error (.refl _), still.lost⟩
          | unacknowledged alike => exact ⟨.error alike, still⟩

theorem ends_commit (alike : first.Resembles seen second) :
    EndsAlike seen first.commit second.commit := by
  unfold commit
  rw [alike.isConnected]
  split
  · exact ⟨.error (.refl _), alike.undone⟩
  · rcases alike.strike "commit" with
      ⟨failure, other, left, otherLeft, struck, otherStruck, alike, still⟩
    rw [struck, otherStruck]
    cases alike with
    | none => exact ⟨.ok (), still.committed⟩
    | some alike waiting =>
        cases alike with
        | refused alike => exact ⟨.error alike, still.undone⟩
        | dropped => exact ⟨.error (.refl _), still.lost⟩
        | unacknowledged alike => exact ⟨.error alike, still.committed⟩

theorem ends_rollback (alike : first.Resembles seen second) :
    EndsAlike seen first.rollback second.rollback := by
  unfold rollback
  rw [alike.isConnected]
  split
  · exact ⟨.error (.refl _), alike.undone⟩
  · rcases alike.strike "rollback" with
      ⟨failure, other, left, otherLeft, struck, otherStruck, alike, still⟩
    rw [struck, otherStruck]
    cases alike with
    | none => exact ⟨.ok (), still.undone⟩
    | some alike waiting =>
        cases alike with
        | refused alike => exact ⟨.error alike, still.undone⟩
        | dropped => exact ⟨.error (.refl _), still.lost⟩
        | unacknowledged alike => exact ⟨.error alike, still.undone⟩

theorem Resembles.abandonCommit (alike : first.Resembles seen second) :
    first.abandonCommit.Resembles seen second.abandonCommit := by
  unfold Database.abandonCommit
  rcases alike.strike "commit" with
    ⟨failure, other, left, otherLeft, struck, otherStruck, alike, still⟩
  rw [struck, otherStruck]
  cases alike with
  | none => exact still.undone
  | some alike waiting =>
      cases alike with
      | refused alike => exact still.undone
      | dropped => exact still.undone
      | unacknowledged alike => exact still.committed

/-! ## Units of work -/

/-- Operations that end alike are raced alike. -/
theorem relates_race {name : String} {abandon : Database → Database}
    {operation : Database → Except DatabaseError α × Database}
    (ends : EndsAlike seen (operation first) (operation second))
    (abandoned : (abandon first).Resembles seen (abandon second))
    (alike : first.Resembles seen second) :
    Run.Relates (StoreError.veil seen) (Run.race fun _ => call name abandon operation)
      (Resembles seen) first second := by
  refine Run.couples_race (fun _ => ⟨alike.latency name, rfl⟩) (fun _ => ⟨?_, ends.2⟩)
    (fun _ _ => ⟨.error (.refl _), abandoned⟩) fun _ => ⟨.error (.refl _), alike⟩
  rcases ends.parts with ⟨result, otherResult, left, otherLeft, ended, otherEnded, answers, -⟩
  dsimp only [call]
  rw [ended, otherEnded]
  cases answers with
  | ok value => exact .ok value
  | error alike => exact .error alike

end Database

open Database

variable {first second : Database} {α : Type}

theorem Work.relates_send_resembling (work : Work α) (alike : first.Resembles seen second) :
    work.send.Relates (StoreError.veil seen) (Resembles seen) first second := by
  induction work generalizing first second with
  | finished value => exact Run.couples_pure ⟨.ok value, alike⟩
  | failed error => exact Run.couples_throw ⟨.error (.refl error), alike⟩
  | query statement next induction =>
      refine Run.couples_bind ((relates_race (ends_query alike statement) (alike.traced _ _)
        alike).imp ?_)
      rintro result other after otherAfter ⟨answers, still⟩
      cases answers with
      | ok answer => exact induction answer still
      | error alike => exact ⟨.error alike, still⟩
      | crash text => exact ⟨.crash text, still⟩

namespace Database

theorem Resembles.relates_undo (alike : first.Resembles seen second) :
    (undo transactions).Relates (StoreError.veil seen) (Resembles seen) first second := by
  refine Run.couples_bind (Run.couples_caught (Run.couples_perform
    (fun _ => ⟨alike.latency _, rfl⟩) fun _ => ?_))
  rcases (ends_rollback alike).parts with
    ⟨result, otherResult, left, otherLeft, ended, otherEnded, answers, still⟩
  dsimp only [transactions, call]
  rw [ended, otherEnded]
  cases answers with
  | ok _ => exact Run.couples_pure ⟨.ok (), still⟩
  | error alike => exact Run.couples_note (fun _ => trivial) ⟨.ok (), still⟩

/-- Retried work goes the same way on both databases. -/
theorem Resembles.relates_transact (policy : Policy) (work : Work α)
    (alike : first.Resembles seen second) :
    (transact policy work).Relates (StoreError.veil seen) (Resembles seen) first second := by
  refine relates_attemptsFrom (fun first second alike => ?_) _ _ alike
  have opening : (Run.race transactions.opening).Relates (StoreError.veil seen) (Resembles seen)
      first second := relates_race (ends_begin alike) (alike.traced "begin" "begin").undone alike
  refine relates_attempt (opening.imp ?_) (fun _ _ => work.relates_send_resembling)
    (fun _ _ => Resembles.relates_undo)
    (fun _ _ alike => relates_race (ends_commit alike) alike.abandonCommit alike)
    (fun _ _ => id) alike
  rintro result other after otherAfter ⟨answers, still⟩
  refine ⟨answers, ?_⟩
  cases result with
  | ok _ => exact still
  | error stop => exact still

end Database

end LinkShortener
