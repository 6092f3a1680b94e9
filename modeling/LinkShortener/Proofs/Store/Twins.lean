import LinkShortener.Proofs.Retry.Coupling
import LinkShortener.Proofs.Store.Calm

/-! # Twin stores

Two stores that are reached and struck in the same way, over tables that are related but need not be the
same. Work that answers alike on related tables goes the same way on both, whatever fails.
-/

namespace LinkShortener

open Retry

variable {α β : Type} {related : Tables → Tables → Prop}

/-- Two outcomes on tables: answers and tables that are related again, or the same error. -/
inductive Tables.Outcomes (related : Tables → Tables → Prop) (values : α → β → Prop) :
    Except DatabaseError (α × Tables) → Except DatabaseError (β × Tables) → Prop where
  | ok {value : α} {other : β} {after otherAfter : Tables} (alike : values value other)
      (still : related after otherAfter) :
      Outcomes related values (.ok (value, after)) (.ok (other, otherAfter))
  | error (error : DatabaseError) : Outcomes related values (.error error) (.error error)

namespace Database

/-! ## The connection -/

/-- Other contents behind the same connection. -/
def holding (database : Database) (tables : Tables) (working : Option Tables) (commits : List Commit) :
    Database :=
  { database with tables, working, commits }

section

variable (database : Database) (tables : Tables) (working : Option Tables) (commits : List Commit)

theorem strike_holding (name : String) :
    (database.holding tables working commits).strike name =
      ((database.strike name).1, (database.strike name).2.holding tables working commits) := by
  unfold strike
  dsimp only [holding]
  cases Fault.next name database.faults with
  | mk failure faults => cases failure <;> rfl

theorem connectWithin_holding (attempts : Nat) :
    (database.holding tables working commits).connectWithin attempts =
      ((database.connectWithin attempts).1,
        (database.connectWithin attempts).2.holding tables working commits) := by
  induction attempts generalizing database with
  | zero => rfl
  | succ attempts induction =>
      have turnedAway : ∀ (left : Database) report,
          (if isBusy report then connectWithin attempts (left.holding tables working commits)
            else (.error (.reported report), left.holding tables working commits)) =
          ((if isBusy report then connectWithin attempts left
              else (.error (.reported report), left)).1,
            (if isBusy report then connectWithin attempts left
              else (.error (.reported report), left)).2.holding tables working commits) := by
        intro left report
        split
        · exact induction left
        · rfl
      unfold connectWithin
      dsimp only [holding]
      rcases Fault.next "connect" database.faults with ⟨_ | (report | _ | report), faults⟩
      · rfl
      · exact turnedAway ({ database with faults }.traced _) report
      · rfl
      · exact turnedAway ({ database with faults }.traced _) report

theorem connect_holding :
    (database.holding tables working commits).connect =
      (database.connect.1, database.connect.2.holding tables working commits) := by
  have isClosed : (database.holding tables working commits).isClosed = database.isClosed := rfl
  have isConnected : (database.holding tables working commits).isConnected = database.isConnected := rfl
  unfold connect
  rw [isClosed, isConnected]
  split
  · rfl
  · split
    · rfl
    · exact connectWithin_holding database tables working commits _

end

/-! ## Operations -/

/-- The same store over related tables, for a client who has it alone. What the two hold of an open
transaction is related in a way of its own. -/
inductive Twins (related : Tables → Tables → Prop) (held : Option Tables → Option Tables → Prop)
    (database : Database) : Database → Prop where
  | intro {tables : Tables} {working : Option Tables} (commits : List Commit)
      (stored : related database.tables tables) (opened : held database.working working)
      (solitary : database.IsSolitary) :
      Twins related held database (database.holding tables working commits)

/-- Twins between two transactions: what is left of a transaction does not matter. -/
abbrev RestTwins (related : Tables → Tables → Prop) : Database → Database → Prop :=
  Twins related fun _ _ => True

/-- Twins amid a transaction. -/
abbrev WorkTwins (related : Tables → Tables → Prop) : Database → Database → Prop :=
  Twins related (Option.Rel related)

/-- Two ends of an operation on twins: the same result, and twins again. -/
def EndsTwin {ρ : Type} (related : Tables → Tables → Prop)
    (held : Option Tables → Option Tables → Prop) (ended other : ρ × Database) : Prop :=
  other.1 = ended.1 ∧ ended.2.Twins related held other.2

variable {held : Option Tables → Option Tables → Prop} {first second : Database}

theorem EndsTwin.parts {ρ : Type} {ended other : ρ × Database}
    (ends : EndsTwin related held ended other) :
    ∃ result left otherLeft, ended = (result, left) ∧ other = (result, otherLeft) ∧
      left.Twins related held otherLeft := by
  rcases ended with ⟨result, left⟩
  rcases other with ⟨otherResult, otherLeft⟩
  rcases ends with ⟨rfl, still⟩
  exact ⟨_, _, _, rfl, rfl, still⟩

namespace Twins

variable (twins : first.Twins related held second)

include twins

/-- Nothing but the contents can tell the two apart. -/
theorem reads (read : Database → β)
    (blind : ∀ database tables working commits,
      read (holding database tables working commits) = read database) :
    read second = read first := by
  rcases twins with ⟨commits, stored, opened, solitary⟩
  exact blind first _ _ _

theorem isConnected : second.isConnected = first.isConnected :=
  twins.reads Database.isConnected fun _ _ _ _ => rfl

theorem clock : second.clock = first.clock := twins.reads Database.clock fun _ _ _ _ => rfl

theorem latency (name : String) :
    second.latency second.clock name = first.latency first.clock name :=
  twins.reads (fun database => database.latency database.clock name) fun _ _ _ _ => rfl

theorem tables : related first.tables second.tables := by
  cases twins
  assumption

theorem rest : first.RestTwins related second := by
  rcases twins with ⟨commits, stored, opened, solitary⟩
  exact .intro commits stored trivial solitary

theorem written (trace : List String) :
    Twins related held { first with trace } { second with trace } := by
  rcases twins with ⟨commits, stored, opened, solitary⟩
  exact .intro commits stored opened solitary

theorem traced (entry : String) :
    (first.traced entry).Twins related held (second.traced entry) := by
  have same := twins.reads Database.trace fun _ _ _ _ => rfl
  unfold Database.traced
  rw [same]
  exact twins.written _

theorem lost : first.lost.WorkTwins related second.lost := by
  rcases twins with ⟨commits, stored, opened, solitary⟩
  exact .intro commits stored .none solitary

theorem undone : first.undone.WorkTwins related second.undone := by
  rcases twins with ⟨commits, stored, opened, solitary⟩
  exact .intro commits stored .none solitary

theorem begun : WorkTwins related { first with working := some first.tables }
    { second with working := some second.tables } := by
  rcases twins with ⟨commits, stored, opened, solitary⟩
  exact .intro commits stored (.some stored) solitary

theorem worked {own other : Tables} (still : related own other) :
    WorkTwins related { first with working := some own } { second with working := some other } := by
  rcases twins with ⟨commits, stored, opened, solitary⟩
  exact .intro commits stored (.some still) solitary

theorem resumed : first.resumed.Twins related held second.resumed := by
  rcases twins with ⟨commits, stored, opened, solitary⟩
  rcases first with ⟨own, clock, working, isConnected, isClosed, faults, interludes, _, trace, latency⟩
  cases interludes with
  | nil => exact .intro commits stored opened solitary
  | cons interlude rest =>
      have unchanged := solitary interlude List.mem_cons_self
      refine .intro commits ?_ opened fun other member => solitary other (List.mem_cons_of_mem _ member)
      dsimp only [Database.resumed]
      rw [unchanged, unchanged]
      exact stored

theorem strike (name : String) :
    EndsTwin related held (first.strike name) (second.strike name) := by
  rcases twins with ⟨commits, stored, opened, solitary⟩
  rcases first.strike_eq name with ⟨trace, struck⟩
  rw [strike_holding, struck]
  exact ⟨rfl, .intro commits stored opened solitary⟩

theorem connect : EndsTwin related held first.connect second.connect := by
  rcases twins with ⟨commits, stored, opened, solitary⟩
  rcases first.connect_eq with ⟨faults, isConnected, trace, connected⟩
  rw [connect_holding]
  generalize first.connect = ended at connected ⊢
  rcases ended with ⟨result, left⟩
  dsimp only at connected ⊢
  subst connected
  exact ⟨rfl, .intro commits stored opened solitary⟩

/-- A transaction is opened on both or on neither. -/
theorem begin : second.begin.1 = first.begin.1 ∧
    first.begin.2.RestTwins related second.begin.2 ∧
      ∀ opened, first.begin.1 = .ok opened → first.begin.2.WorkTwins related second.begin.2 := by
  unfold Database.begin
  rcases twins.resumed.connect.parts with ⟨result, left, otherLeft, connected, otherConnected, still⟩
  rw [connected, otherConnected]
  cases result with
  | error error => exact ⟨rfl, still.rest, nofun⟩
  | ok _ =>
      rcases (still.strike "begin").parts with ⟨failure, left, otherLeft, struck, otherStruck, still⟩
      dsimp only
      rw [struck, otherStruck]
      rcases failure with _ | (report | _ | report)
      · exact ⟨rfl, still.begun.rest, fun _ _ => still.begun⟩
      · exact ⟨rfl, still.rest, nofun⟩
      · exact ⟨rfl, still.lost.rest, nofun⟩
      · exact ⟨rfl, still.rest, nofun⟩

theorem rollback : EndsTwin related (Option.Rel related) first.rollback second.rollback := by
  unfold Database.rollback
  rw [twins.isConnected]
  split
  · exact ⟨rfl, twins.undone⟩
  · rcases (twins.strike "rollback").parts with ⟨failure, left, otherLeft, struck, otherStruck, still⟩
    rw [struck, otherStruck]
    rcases failure with _ | (report | _ | report)
    · exact ⟨rfl, still.undone⟩
    · exact ⟨rfl, still.undone⟩
    · exact ⟨rfl, still.lost⟩
    · exact ⟨rfl, still.undone⟩

end Twins

namespace WorkTwins

variable (twins : first.WorkTwins related second)

include twins

/-- What a statement works on. -/
theorem current : related (first.working.getD first.tables) (second.working.getD second.tables) := by
  rcases twins with ⟨commits, stored, opened, solitary⟩
  dsimp only [holding]
  generalize first.working = working at opened ⊢
  cases opened with
  | some held => exact held
  | none => exact stored

theorem committed : first.committed.WorkTwins related second.committed := by
  have current := twins.current
  rcases twins with ⟨commits, stored, opened, solitary⟩
  exact .intro _ current .none solitary

theorem commit : EndsTwin related (Option.Rel related) first.commit second.commit := by
  unfold Database.commit
  rw [twins.isConnected]
  split
  · exact ⟨rfl, twins.undone⟩
  · rcases (twins.strike "commit").parts with ⟨failure, left, otherLeft, struck, otherStruck, still⟩
    rw [struck, otherStruck]
    rcases failure with _ | (report | _ | report)
    · exact ⟨rfl, committed still⟩
    · exact ⟨rfl, still.undone⟩
    · exact ⟨rfl, still.lost⟩
    · exact ⟨rfl, committed still⟩

theorem abandonCommit : first.abandonCommit.WorkTwins related second.abandonCommit := by
  unfold Database.abandonCommit
  rcases (twins.strike "commit").parts with ⟨failure, left, otherLeft, struck, otherStruck, still⟩
  rw [struck, otherStruck]
  rcases failure with _ | (report | _ | report)
  · exact still.undone
  · exact still.undone
  · exact still.undone
  · exact committed still

end WorkTwins

/-! ## Statements -/

/-- Two replies to a statement: related answers, or the same error. -/
inductive Replies (values : α → β → Prop) :
    Except DatabaseError α → Except DatabaseError β → Prop where
  | ok {value : α} {other : β} (alike : values value other) : Replies values (.ok value) (.ok other)
  | error (error : DatabaseError) : Replies values (.error error) (.error error)

/-- Statements that answer alike on related tables do so in transactions of twins. -/
theorem WorkTwins.query (twins : first.WorkTwins related second) (statement other : Statement)
    {values : statement.Answer → other.Answer → Prop} (name : other.name = statement.name)
    (alike : ∀ now own otherOwn, related own otherOwn →
      Tables.Outcomes related values (statement.run own now) (other.run otherOwn now)) :
    Replies values (first.query statement).1 (second.query other).1 ∧
      (first.query statement).2.WorkTwins related (second.query other).2 := by
  unfold Database.query
  rw [twins.isConnected]
  split
  · have outcomes := alike first.clock _ _ twins.current
    rcases (twins.strike statement.name).parts with
      ⟨failure, left, otherLeft, struck, otherStruck, still⟩
    unfold serve
    rw [name, struck, otherStruck, twins.clock]
    rcases failure with _ | (report | _ | report)
    · dsimp only
      generalize statement.run _ first.clock = outcome at outcomes ⊢
      generalize other.run _ first.clock = otherOutcome at outcomes ⊢
      cases outcomes with
      | ok alike after => exact ⟨.ok alike, still.worked after⟩
      | error error =>
          dsimp only
          rw [twins.reads Database.trace fun _ _ _ _ => rfl]
          exact ⟨.error error, still.written _⟩
    · exact ⟨.error _, still⟩
    · exact ⟨.error _, still.lost⟩
    · dsimp only
      generalize statement.run _ first.clock = outcome at outcomes ⊢
      generalize other.run _ first.clock = otherOutcome at outcomes ⊢
      cases outcomes with
      | ok alike after => exact ⟨.error _, still.worked after⟩
      | error error => exact ⟨.error _, still⟩
  · exact ⟨.error _, twins⟩

/-! ## Units of work -/

theorem Twins.paces {name : String} {abandon : Database → Database}
    {operation otherOperation : Database → Except DatabaseError α × Database}
    (twins : first.Twins related held second) :
    (call name abandon operation first).Paces (call name abandon otherOperation second) :=
  ⟨twins.latency name, rfl⟩

namespace WorkTwins

/-- Statements that answer alike are raced alike. -/
theorem likens_query {values : α → α → Prop}
    {operation otherOperation : Database → Except DatabaseError α × Database}
    (twins : first.WorkTwins related second) (name : String)
    (ends : Replies values (operation first).1 (otherOperation second).1 ∧
      (operation first).2.WorkTwins related (otherOperation second).2) :
    Run.Likens .none values (Run.race fun _ => call name (·.traced name) operation)
      (Run.race fun _ => call name (·.traced name) otherOperation) (WorkTwins related) first
      second := by
  refine Run.couples_race (fun _ => twins.paces) (fun _ => ⟨?_, ends.2⟩)
    (fun _ _ => ⟨.error rfl, twins.traced name⟩) fun _ => ⟨.error rfl, twins⟩
  have replies := ends.1
  dsimp only [call]
  generalize (operation first).1 = reply at replies ⊢
  generalize (otherOperation second).1 = other at replies ⊢
  cases replies with
  | ok alike => exact .ok alike
  | error error => exact .error rfl

theorem relates_undo (twins : first.WorkTwins related second) :
    (undo transactions).Relates .none (RestTwins related) first second := by
  unfold undo
  dsimp only [transactions]
  refine Run.couples_bind (Run.couples_caught (Run.couples_perform (fun _ => twins.paces)
    fun _ => ?_))
  rcases twins.rollback.parts with ⟨result, left, otherLeft, ended, otherEnded, still⟩
  dsimp only [call]
  rw [ended, otherEnded]
  cases result with
  | ok _ => exact Run.couples_pure ⟨.ok (), still.rest⟩
  | error error =>
      exact Run.couples_note (fun log => Veil.none.rollbackFailed log rfl) ⟨.ok (), still.rest⟩

theorem relates_committing (twins : first.WorkTwins related second) :
    (Run.race transactions.committing).Relates .none (RestTwins related) first second := by
  dsimp only [transactions]
  refine Run.couples_race (fun _ => twins.paces)
    (fun _ => ⟨Veil.results_none.mpr ?_, twins.commit.2.rest⟩)
    (fun _ _ => ⟨.error rfl, twins.abandonCommit.rest⟩) fun _ => ⟨.error rfl, twins.rest⟩
  dsimp only [call]
  rw [twins.commit.1]

end WorkTwins

theorem RestTwins.relates_opening (twins : first.RestTwins related second) :
    Run.Couples .none (Run.race transactions.opening) (Run.race transactions.opening) first second
      fun result other after otherAfter => Veil.none.Results result other ∧
        match result with
        | .ok _ => after.WorkTwins related otherAfter
        | .error _ => after.RestTwins related otherAfter := by
  have unopened := (twins.traced "begin").undone.rest
  dsimp only [transactions]
  refine Run.couples_race (fun _ => twins.paces) (fun _ => ⟨Veil.results_none.mpr ?_, ?_⟩)
    (fun _ _ => ⟨.error rfl, unopened⟩) fun _ => ⟨.error rfl, twins⟩
  · dsimp only [call]
    rw [twins.begin.1]
  · rcases twins.begin with ⟨-, still, opening⟩
    dsimp only [call]
    cases began : first.begin.1 with
    | ok opened => exact opening opened began
    | error error => exact still

/-- Retried work goes the same way on twins if each single run of it does. -/
theorem RestTwins.likens_transact {values : α → α → Prop} {work otherWork : Work α}
    (policy : Policy)
    (worked : ∀ first second, first.WorkTwins related second →
      Run.Likens .none values work.send otherWork.send (WorkTwins related) first second)
    (twins : first.RestTwins related second) :
    Run.Likens .none values (transact policy work) (transact policy otherWork) (RestTwins related)
      first second := by
  refine likens_attemptsFrom (fun _ _ twins => ?_) _ _ twins
  exact likens_attempt twins.relates_opening worked (fun _ _ => WorkTwins.relates_undo)
    (fun _ _ => WorkTwins.relates_committing) (fun _ _ => Twins.rest) twins

end Database

end LinkShortener
