import LinkShortener.Proofs.Store.Creation
import LinkShortener.Proofs.Store.Transactions
import LinkShortener.Slug

/-! # Growth

A short URL is stored once and then neither changed nor taken away, whoever else works on the store.
So what a slug stands for at one time, it stands for at all later times.
-/

namespace LinkShortener

namespace Tables

/-- Every slug is well formed, and no two short URLs share one. -/
structure AreUnambiguous (tables : Tables) : Prop where
  wellFormed : ∀ row ∈ tables.shortUrls, Slug.isWellFormed row.slug = true
  distinct : (tables.shortUrls.map (·.slug)).Nodup

theorem areUnambiguous_empty : empty.AreUnambiguous := ⟨nofun, List.nodup_nil⟩

variable {tables : Tables} {row : ShortUrl} {slug : String}

theorem mem_of_shortUrlBySlug? (found : tables.shortUrlBySlug? slug = some row) :
    row ∈ tables.shortUrls ∧ row.slug = slug :=
  ⟨List.mem_of_find?_eq_some found, by simpa using List.find?_some found⟩

namespace AreUnambiguous

variable (unambiguous : tables.AreUnambiguous) (member : row ∈ tables.shortUrls)

include unambiguous member

theorem shortUrlBySlug?_eq : tables.shortUrlBySlug? row.slug = some row := by
  cases found : tables.shortUrlBySlug? row.slug with
  | none =>
      rw [shortUrlBySlug?, List.find?_eq_none] at found
      exact absurd (decide_eq_true rfl) (found row member)
  | some other =>
      rcases mem_of_shortUrlBySlug? found with ⟨present, same⟩
      rw [List.inj_on_of_nodup_map unambiguous.distinct present member same]

/-- A short URL is the only one with its slug. -/
theorem sole : tables.shortUrls.filter (fun other => other.slug = row.slug) = [row] := by
  have distinct : tables.shortUrls.Nodup := unambiguous.distinct.of_map
  refine List.perm_singleton.mp ((List.perm_ext_iff_of_nodup (distinct.filter _)
    (List.nodup_singleton _)).mpr fun other => ?_)
  rw [List.mem_filter, List.mem_singleton, decide_eq_true_eq]
  constructor
  · exact fun ⟨present, same⟩ => List.inj_on_of_nodup_map unambiguous.distinct present member same
  · rintro rfl
    exact ⟨member, rfl⟩

end AreUnambiguous

/-- The constraint on slugs keeps a new one apart from those that are there. -/
theorem distinct_insertShortUrl {row : NewShortUrl} {now : Instant}
    (accepted : tables.shortUrlConflict? row = none)
    (distinct : (tables.shortUrls.map (·.slug)).Nodup) :
    ((tables.insertShortUrl (shortUrlRow row now)).shortUrls.map (·.slug)).Nodup := by
  have vacant : ∀ other ∈ tables.shortUrls, other.slug ≠ row.slug := by
    intro other member same
    have taken : tables.shortUrls.any (fun stored => decide (stored.slug = row.slug)) = true :=
      List.any_eq_true.mpr ⟨other, member, decide_eq_true same⟩
    rw [shortUrlConflict?, if_pos taken] at accepted
    split at accepted <;> cases accepted
  rw [insertShortUrl, List.map_append, List.nodup_append']
  refine ⟨distinct, List.nodup_singleton _, ?_⟩
  rw [List.map_singleton, List.disjoint_singleton]
  intro member
  rcases List.mem_map.mp member with ⟨other, member, same⟩
  exact vacant other member same

/-- Later tables begin with the short URLs of earlier ones, and no slug has become ambiguous. -/
structure Grows (before after : Tables) : Prop where
  kept : before.shortUrls <+: after.shortUrls
  unambiguous : before.AreUnambiguous → after.AreUnambiguous

namespace Grows

theorem of_same {before after : Tables} (same : after.shortUrls = before.shortUrls) :
    before.Grows after where
  kept := same ▸ List.prefix_refl _
  unambiguous := by
    rintro ⟨wellFormed, distinct⟩
    exact ⟨same ▸ wellFormed, same ▸ distinct⟩

theorem refl (tables : Tables) : tables.Grows tables := of_same rfl

theorem trans {before middle after : Tables} (leading : before.Grows middle)
    (following : middle.Grows after) : before.Grows after where
  kept := leading.kept.trans following.kept
  unambiguous before := following.unambiguous (leading.unambiguous before)

theorem mem {before after : Tables} (grows : before.Grows after)
    (member : row ∈ before.shortUrls) : row ∈ after.shortUrls :=
  grows.kept.subset member

end Grows

end Tables

namespace Statement

/-- What the service sends: the slugs that it stores are well formed. -/
def IsOfService : Statement → Prop
  | .insertShortUrl row => Slug.isWellFormed row.slug = true
  | _ => True

variable {tables after : Tables} {now : Instant}

private theorem grows_insertShortUrl {row : NewShortUrl} {stored : ShortUrl}
    (wellFormed : Slug.isWellFormed row.slug = true)
    (ran : (Statement.insertShortUrl row).effect tables now = .ok (stored, after)) :
    tables.Grows after := by
  rw [effect] at ran
  cases conflict : tables.shortUrlConflict? row with
  | some constraint => simp [conflict] at ran
  | none =>
      rw [conflict] at ran
      cases ran
      refine ⟨List.prefix_append _ _, fun before => ⟨fun other member => ?_, ?_⟩⟩
      · rcases List.mem_append.mp member with member | member
        · exact before.wellFormed other member
        · rw [List.mem_singleton.mp member]
          exact wellFormed
      · exact Tables.distinct_insertShortUrl conflict before.distinct

/-- No statement of the service changes a short URL or takes one away. -/
theorem grows (statement : Statement) (ofService : statement.IsOfService)
    {answer : statement.Answer} (ran : statement.run tables now = .ok (answer, after)) :
    tables.Grows after := by
  unfold run at ran
  split at ran
  · cases ran
  · cases statement with
    | insertShortUrl row => exact grows_insertShortUrl ofService ran
    | insertUser row =>
        rw [effect] at ran
        cases conflict : tables.userConflict? row with
        | some constraint => simp [conflict] at ran
        | none =>
            rw [conflict] at ran
            cases ran
            exact .of_same rfl
    | _ =>
        cases ran
        exact .of_same rfl

end Statement

namespace Work

variable {α : Type} {now : Instant} {tables after : Tables}

/-- Every statement of the unit of work is one of the service. -/
def IsOfService : Work α → Prop
  | .finished _ => True
  | .failed _ => True
  | .query statement next => statement.IsOfService ∧ ∀ answer, (next answer).IsOfService

theorem grows {work : Work α} (ofService : work.IsOfService) {value : α}
    (ran : work.run now tables = .ok (value, after)) : tables.Grows after := by
  induction work generalizing tables with
  | finished other =>
      cases ran
      exact .refl _
  | failed error => cases ran
  | query statement next induction =>
      rw [run] at ran
      cases effect : statement.run tables now with
      | error error => simp [effect] at ran
      | ok outcome =>
          rw [effect] at ran
          exact (statement.grows ofService.1 effect).trans
            (induction outcome.1 (ofService.2 _) ran)

theorem isOfService_findBySlug (slug : String) : (findBySlug slug).IsOfService :=
  ⟨trivial, fun _ => trivial⟩

theorem isOfService_bind {β : Type} {work : Work α} {next : α → Work β}
    (first : work.IsOfService) (following : ∀ value, (next value).IsOfService) :
    (work >>= next).IsOfService := by
  change (work.andThen next).IsOfService
  induction work with
  | finished value => exact following value
  | failed error => trivial
  | query statement rest induction =>
      exact ⟨first.1, fun answer => induction answer (first.2 answer)⟩

private theorem isOfService_createIdempotent {claim : Claim} {candidate : Uuid} {insert : Work α}
    {fetch : Uuid → Work (Option α)} (inserts : insert.IsOfService)
    (fetches : ∀ id, (fetch id).IsOfService) :
    (createIdempotent claim candidate insert fetch).IsOfService := by
  refine isOfService_bind ⟨trivial, fun _ => trivial⟩ fun entry => ?_
  split
  · exact isOfService_bind inserts fun _ => trivial
  · refine isOfService_bind (fetches _) fun found => ?_
    cases found <;> trivial
  · trivial

theorem isOfService_createShortUrl (claim : Claim) {row : NewShortUrl}
    (wellFormed : Slug.isWellFormed row.slug = true) : (createShortUrl claim row).IsOfService :=
  isOfService_createIdempotent ⟨wellFormed, fun _ => trivial⟩ fun _ => ⟨trivial, fun _ => trivial⟩

theorem isOfService_createUser (claim : Claim) (row : NewUser) :
    (createUser claim row).IsOfService :=
  isOfService_createIdempotent ⟨trivial, fun _ => trivial⟩ fun _ => ⟨trivial, fun _ => trivial⟩

end Work

/-! ## Other clients -/

/-- What other clients may do to the tables: statements of the service, one after the other. -/
inductive Tables.Moves (tables : Tables) : Tables → Prop where
  | none : Moves tables tables
  | more {middle after : Tables} (moves : Moves tables middle) (statement : Statement)
      (ofService : statement.IsOfService) (now : Instant) (answer : statement.Answer)
      (ran : statement.run middle now = .ok (answer, after)) : Moves tables after

theorem Tables.Moves.grows {tables after : Tables} (moves : tables.Moves after) :
    tables.Grows after := by
  induction moves with
  | none => exact .refl tables
  | more moves statement ofService now answer ran induction =>
      exact induction.trans (statement.grows ofService ran)

namespace Database

/-- Other clients use the store as the service does. -/
def IsOrderly (database : Database) : Prop :=
  ∀ interlude ∈ database.interludes, ∀ tables : Tables, tables.Moves (interlude.change tables)

theorem IsSolitary.isOrderly {database : Database} (solitary : database.IsSolitary) :
    database.IsOrderly := by
  intro interlude member tables
  rw [solitary interlude member tables]
  exact .none

/-- The tables have grown from the given ones, and other clients let them grow. -/
structure GrownFrom (origin : Tables) (database : Database) : Prop where
  orderly : database.IsOrderly
  grown : origin.Grows database.tables

namespace GrownFrom

variable {origin : Tables} {before after : Database}

theorem self {database : Database} (orderly : database.IsOrderly) :
    database.GrownFrom database.tables :=
  ⟨orderly, .refl _⟩

theorem trans (grownFrom : before.GrownFrom origin) (following : after.GrownFrom before.tables) :
    after.GrownFrom origin :=
  ⟨following.orderly, grownFrom.grown.trans following.grown⟩

theorem untouched (grownFrom : before.GrownFrom origin) (untouched : Untouched before after) :
    after.GrownFrom origin where
  orderly := by
    rw [IsOrderly, untouched.interludes]
    exact grownFrom.orderly
  grown := untouched.tables ▸ grownFrom.grown

theorem resumed (grownFrom : before.GrownFrom origin) : before.resumed.GrownFrom origin := by
  unfold Database.resumed
  split
  · exact grownFrom
  next interlude rest listed =>
    have moves := grownFrom.orderly interlude (listed ▸ List.mem_cons_self) before.tables
    refine ⟨fun other member => ?_, grownFrom.grown.trans moves.grows⟩
    exact grownFrom.orderly other (listed ▸ List.mem_cons_of_mem _ member)

theorem effected {tables : Tables} (grownFrom : before.GrownFrom origin)
    (grows : before.tables.Grows tables) : (before.effected tables).GrownFrom origin :=
  ⟨grownFrom.orderly, grownFrom.grown.trans grows⟩

end GrownFrom

theorem grownFrom_queryAlone {statement : Statement} (ofService : statement.IsOfService)
    {database : Database} (orderly : database.IsOrderly) :
    (database.queryAlone statement).2.GrownFrom database.tables := by
  rcases database.queryAlone_ends statement with untouched | ⟨answer, tables, ran, untouched⟩
  · exact (GrownFrom.self orderly).untouched untouched
  · have moved : GrownFrom database.tables { database with tables } :=
      ⟨orderly, statement.grows ofService ran⟩
    exact moved.untouched untouched

variable {α : Type} {work : Work α}

/-- However retried work ends, the tables have only grown; a value that is returned is that of a run
which has left the tables as they are. -/
theorem leads_transact_growing (policy : Retry.Policy) (ofService : work.IsOfService)
    {database : Database} (orderly : database.IsOrderly) :
    (transact policy work).Leads database fun result after => after.GrownFrom database.tables ∧
      ∀ value, result = .ok value → ∃ now tables, work.run now tables = .ok (value, after.tables) := by
  refine Retry.leads_attemptsFrom (GrownFrom database.tables) ?_ ?_ _ _ (.self orderly)
  · intro store grownFrom
    refine (leads_attempt work store).imp fun result after concludes => ?_
    cases concludes with
    | unstarted untouched failed =>
        cases result with
        | ok value => exact absurd rfl (failed value)
        | error stop => exact grownFrom.untouched untouched
    | undone untouched failed =>
        cases result with
        | ok value => exact absurd rfl (failed value)
        | error stop => exact grownFrom.resumed.untouched untouched
    | effective value tables ran untouched returned =>
        have grown := (grownFrom.resumed.effected (work.grows ofService ran)).untouched untouched
        cases result with
        | error stop => exact grown
        | ok other =>
            refine ⟨grown, fun last same => ?_⟩
            rw [returned last same, untouched.tables]
            exact ⟨_, _, ran⟩
  · exact fun stop store grownFrom => ⟨grownFrom, nofun⟩

end Database

end LinkShortener
