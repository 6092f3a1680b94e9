import LinkShortener.Proofs.Service.Racer

/-! # Races for slugs

Any number of clients look for a slug and then store a short URL under it, and their transactions follow
each other in any order. A slug that was free when it was looked up may be taken when it is used. Then
one client gets it, and each of the others is told so once and has not used up its key.
-/

namespace LinkShortener

open Service

/-- A transaction of one of the clients. -/
structure Turn (ι : Type) where
  name : ι
  commit : Commit

section

variable {ι : Type} [DecidableEq ι] {racer : ι → Racer}

/-- The transactions of clients in the order in which they follow each other. All ids are new, all keys
are free at the start, and no two clients share either. A client may still be busy at the end: its call
has got as far as its transactions tell. -/
structure Race (racer : ι → Racer) where
  turns : List (Turn ι)
  start : Instant
  finish : Instant
  origin : Tables
  tables : Tables
  chain : Commit.Chain start origin finish tables (turns.map Turn.commit)
  faithful : ∀ name, (turns.filter fun turn => turn.name = name).map Turn.commit <+:
    (racer name).transactions
  distinct : (origin.shortUrls.map (·.slug)).Nodup
  unclaimed : ∀ name, origin.ledger.live? (racer name).key.token start = none
  fresh : ∀ name, ∀ row ∈ origin.shortUrls, row.id ≠ (racer name).candidate
  keys : Function.Injective fun name => (racer name).key
  ids : Function.Injective fun name => (racer name).candidate

namespace Race

/-- All transactions of the call are among those of the race. -/
def Finishes (race : Race racer) (name : ι) : Prop :=
  (race.turns.filter fun turn => turn.name = name).map Turn.commit = (racer name).transactions

/-- The tables hold nothing of the client, and its key is as it was at the start. -/
structure IsStrange (race : Race racer) (name : ι) (tables : Tables) : Prop where
  ledger : tables.ledger.find? (racer name).key.token =
    race.origin.ledger.find? (racer name).key.token
  fresh : ∀ row ∈ tables.shortUrls, row.id ≠ (racer name).candidate

variable (race : Race racer) {turn : Turn ι} {name : ι} {slug : String}

theorem does (member : turn ∈ race.turns) : (racer turn.name).Does turn.commit := by
  refine Racer.does_of_mem ((race.faithful turn.name).subset (List.mem_map_of_mem ?_))
  exact List.mem_filter.mpr ⟨member, decide_eq_true rfl⟩

/-- A transaction takes no short URL away, and does not give a slug to two. -/
theorem extends_turn (member : turn ∈ race.turns) :
    turn.commit.before.Extends turn.commit.after := by
  cases race.does member with
  | idle unchanged =>
      rw [Commit.IsIdle] at unchanged
      rw [unchanged]
      exact .refl _
  | creation row made id makes => exact Tables.extends_of_create makes

/-- To everyone but its client, a transaction is strange. -/
theorem isStrange_turn (member : turn ∈ race.turns)
    (other : turn.name = name → turn.commit.IsIdle)
    (strange : race.IsStrange name turn.commit.before) :
    race.IsStrange name turn.commit.after := by
  cases race.does member with
  | idle unchanged => exact Eq.mpr (congrArg (race.IsStrange name) unchanged) strange
  | creation row made id makes =>
      by_cases own : turn.name = name
      · exact Eq.mpr (congrArg (race.IsStrange name) (other own)) strange
      · have key : (racer turn.name).key ≠ (racer name).key := fun same => own (race.keys same)
        have candidate : (racer turn.name).candidate ≠ (racer name).candidate :=
          fun same => own (race.ids same)
        refine ⟨?_, fun stored among => ?_⟩
        · have token : (racer turn.name).key.token ≠ (racer name).key.token := fun same =>
            key (congrArg IdempotencyKey.mk same)
          exact (Tables.find?_of_create_of_ne makes token).trans strange.ledger
        · rcases Tables.shortUrls_of_create makes with same | ⟨-, added⟩
          · exact strange.fresh stored (same ▸ among)
          · rw [added, Tables.insertShortUrl] at among
            rcases List.mem_append.mp among with among | among
            · exact strange.fresh stored among
            · rw [List.mem_singleton.mp among]
              exact fun same => candidate (id.symm.trans same)

theorem extends_run {clock finish : Instant} {tables after : Tables} {turns : List (Turn ι)}
    (chain : Commit.Chain clock tables finish after (turns.map Turn.commit))
    (among : turns ⊆ race.turns) : tables.Extends after := by
  refine chain.preserves (.refl tables) fun commit member grown => ?_
  rcases List.mem_map.mp member with ⟨turn, present, rfl⟩
  exact grown.trans (race.extends_turn (among present))

/-- A client that has changed nothing so far finds its key free and its id new. -/
theorem isStrange_run {clock finish : Instant} {tables after : Tables} {turns : List (Turn ι)}
    (chain : Commit.Chain clock tables finish after (turns.map Turn.commit))
    (among : turns ⊆ race.turns)
    (idle : ∀ turn ∈ turns, turn.name = name → turn.commit.IsIdle)
    (strange : race.IsStrange name tables) : race.IsStrange name after := by
  refine chain.preserves strange fun commit member before => ?_
  rcases List.mem_map.mp member with ⟨turn, present, rfl⟩
  exact race.isStrange_turn (among present) (idle turn present) before

theorem IsStrange.free {race : Race racer} {tables : Tables} (strange : race.IsStrange name tables)
    {now : Instant} (later : race.start ≤ now) :
    tables.ledger.live? (racer name).key.token now = none := by
  have free := Ledger.live?_eq_none_iff.mp (race.unclaimed name)
  refine Ledger.live?_eq_none_iff.mpr fun entry found => ?_
  rw [strange.ledger] at found
  exact le_trans (free entry found) later

/-- The last transaction of a call that has chosen a slug, with what lies before and after it. -/
structure Decides (race : Race racer) (name : ι) (slug : String) (earlier : List (Turn ι))
    (turn : Turn ι) (later : List (Turn ι)) : Prop where
  parts : race.turns = earlier ++ turn :: later
  own : turn.name = name
  idle : ∀ turn ∈ earlier, turn.name = name → turn.commit.IsIdle
  last : ∀ turn ∈ later, turn.name ≠ name
  strange : race.IsStrange name turn.commit.before
  outcome : (racer name).Outcome slug turn.commit

theorem decided (finishes : race.Finishes name) (chooses : (racer name).Chooses slug)
    (inTime : ¬ (racer name).call.2.situation.IsOver) :
    ∃ earlier turn later, race.Decides name slug earlier turn later := by
  have ends := (racer name).ends_of_chooses chooses inTime
  rw [Finishes, (racer name).transactions_of_ends ends] at finishes
  rcases List.map_eq_append_iff.mp finishes with ⟨first, rest, chosen, lookups, others⟩
  rcases List.map_eq_singleton_iff.mp others with ⟨turn, rfl, commit⟩
  rcases List.filter_eq_append_iff.mp chosen with ⟨before, after, parts, rfl, final⟩
  rcases List.filter_eq_cons_iff.mp final with ⟨between, later, rfl, apart, own, none⟩
  rw [← List.append_assoc] at parts
  have idle : ∀ turn ∈ before ++ between, turn.name = name → turn.commit.IsIdle := by
    intro turn member same
    rcases List.mem_append.mp member with member | member
    · apply (racer name).isIdle_of_search
      rw [← lookups]
      exact List.mem_map_of_mem (List.mem_filter.mpr ⟨member, decide_eq_true same⟩)
    · exact absurd (decide_eq_true same) (apart turn member)
  have chain := race.chain
  rw [parts, List.map_append, List.map_cons] at chain
  have strange := race.isStrange_run chain.split.1 (by simp [parts]) idle ⟨rfl, race.fresh name⟩
  refine ⟨_, turn, later, parts, of_decide_eq_true own, idle, fun other member => ?_, strange, ?_⟩
  · simpa using List.filter_eq_nil_iff.mp none other member
  · have free := strange.free chain.split.1.clock_le
    have fresh := strange.fresh
    rw [commit] at free fresh ⊢
    exact Racer.outcome_of_ends ends free fresh

namespace Decides

variable {race} {earlier later : List (Turn ι)}
  (decides : race.Decides name slug earlier turn later)

include decides

theorem mem : turn ∈ race.turns := by simp [decides.parts]

/-- What the last transaction of a client has stored is there at the end. -/
theorem kept : turn.commit.after.shortUrls ⊆ race.tables.shortUrls := by
  have chain := race.chain
  rw [decides.parts, List.map_append, List.map_cons] at chain
  exact (race.extends_run chain.split.2 (by simp [decides.parts])).kept

/-- A client that has changed nothing at all has left its key free. -/
theorem takesFirst (idle : turn.commit.IsIdle) {now : Instant} (later : race.finish ≤ now) :
    race.tables.TakesFirst (racer name).key now := by
  have always : ∀ turn ∈ race.turns, turn.name = name → turn.commit.IsIdle := by
    intro other member own
    rw [decides.parts] at member
    rcases List.mem_append.mp member with member | member
    · exact decides.idle other member own
    · rcases List.mem_cons.mp member with rfl | member
      · exact idle
      · exact absurd own (decides.last other member)
  have strange := race.isStrange_run race.chain (List.Subset.refl _) always ⟨rfl, race.fresh name⟩
  exact Tables.takesFirst_of_free (strange.free (le_trans race.chain.clock_le later))

end Decides

/-- A call has been told that its slug is taken, once and rightly: another short URL had the slug when
the row was to be stored. The call has not tried again, and its key is free. -/
structure Refuses (race : Race racer) (name : ι) (slug : String) : Prop where
  returned : (racer name).call.1 = .error (.error slugTaken)
  once : (racer name).call.2.situation.store.trace =
    (racer name).search.2.situation.store.trace ++
      ["begin", "reserve", "insert_short_url!23505", "rollback"]
  drawn : (racer name).call.2.slugs = (racer name).search.2.slugs
  held : ∃ turn ∈ race.turns, turn.name = name ∧ ∃ other ∈ turn.commit.before.shortUrls,
    other.slug = slug ∧ other.id ≠ (racer name).candidate
  free : ∀ now, race.finish ≤ now → race.tables.TakesFirst (racer name).key now

/-- How a call ends that has chosen a slug. -/
inductive Settles (race : Race racer) (name : ι) (slug : String) : Prop where
  | created (row : ShortUrl) (returned : (racer name).call.1 = .ok (.created row))
      (own : row.slug = slug) (stored : row ∈ race.tables.shortUrls)
  | refused (refuses : race.Refuses name slug)
  /-- The store cannot hold the texts of the row. -/
  | unstorable (refused : (Statement.insertShortUrl ((racer name).row slug)).unstorable?.isSome)
      (returned : (racer name).call.1 = .error (.error .internal))

variable {race} in
theorem Settles.refuses (settles : race.Settles name slug) (failed : (racer name).call.1.isOk = false)
    (storable : (Statement.insertShortUrl ((racer name).row slug)).unstorable?.isSome = false) :
    race.Refuses name slug := by
  cases settles with
  | created row returned own stored =>
      rw [returned] at failed
      cases failed
  | refused refuses => exact refuses
  | unstorable refused returned =>
      rw [storable] at refused
      cases refused

theorem settles (finishes : race.Finishes name) (chooses : (racer name).Chooses slug)
    (inTime : ¬ (racer name).call.2.situation.IsOver) : race.Settles name slug := by
  rcases race.decided finishes chooses inTime with ⟨earlier, turn, later, decides⟩
  cases decides.outcome with
  | created row returned own stored => exact .created row returned own (decides.kept stored)
  | taken returned idle once held =>
      have ends := (racer name).ends_of_chooses chooses inTime
      rcases held with ⟨other, member, same⟩
      exact .refused ⟨returned, once, ends.slugs,
        ⟨turn, decides.mem, decides.own, other, member, same, decides.strange.fresh other member⟩,
        fun now later => decides.takesFirst idle later⟩
  | unstorable refused returned => exact .unstorable refused returned

/-- A row that a call has created is there at the end. -/
theorem stored_of_created (finishes : race.Finishes name) (chooses : (racer name).Chooses slug)
    {row : ShortUrl} (returned : (racer name).call.1 = .ok (.created row)) :
    row.slug = slug ∧ row.id = (racer name).candidate ∧ row ∈ race.tables.shortUrls := by
  rcases Racer.stored_of_created chooses returned with ⟨own, id, commit, member, present⟩
  rw [← finishes] at member
  rcases List.mem_map.mp member with ⟨turn, among, rfl⟩
  rcases List.append_of_mem (List.mem_filter.mp among).1 with ⟨earlier, later, parts⟩
  have chain := race.chain
  rw [parts, List.map_append, List.map_cons] at chain
  exact ⟨own, id, (race.extends_run chain.split.2 (by simp [parts])).kept present⟩

theorem distinct_turn (member : turn ∈ race.turns) :
    (turn.commit.after.shortUrls.map (·.slug)).Nodup := by
  rcases List.append_of_mem member with ⟨earlier, later, parts⟩
  have chain := race.chain
  rw [parts, List.map_append, List.map_cons] at chain
  have grown := race.extends_run chain.split.1 (by simp [parts])
  exact (grown.trans (race.extends_turn member)).distinct race.distinct

/-- However the transactions of clients follow each other, no two short URLs share a slug. Of the calls
that choose one slug at most one creates a short URL; all others in time are refused after one
transaction, with their keys still free, unless the store cannot hold what they ask for. And no call is
told that a slug is taken that is free. -/
theorem slug_goes_to_one :
    (∀ turn ∈ race.turns, (turn.commit.after.shortUrls.map (·.slug)).Nodup) ∧
    (∀ slug first second row other, race.Finishes first → race.Finishes second →
      (racer first).Chooses slug → (racer second).Chooses slug →
      (racer first).call.1 = .ok (.created row) → (racer second).call.1 = .ok (.created other) →
      first = second) ∧
    (∀ slug name, race.Finishes name → (racer name).Chooses slug →
      ¬ (racer name).call.2.situation.IsOver → race.Settles name slug) ∧
    ∀ name, race.Finishes name → ¬ (racer name).call.2.situation.IsOver →
      (racer name).call.1 = .error (.error slugTaken) →
      ∃ slug, (racer name).Chooses slug ∧ race.Refuses name slug := by
  refine ⟨fun turn => race.distinct_turn, ?_, fun slug name => race.settles, ?_⟩
  · intro slug first second row other finishes otherFinishes chooses otherChooses created
      otherCreated
    rcases race.stored_of_created finishes chooses created with ⟨own, id, member⟩
    rcases race.stored_of_created otherFinishes otherChooses otherCreated with
      ⟨otherOwn, otherId, otherMember⟩
    have distinct := (race.extends_run race.chain (List.Subset.refl _)).distinct race.distinct
    have same := List.inj_on_of_nodup_map distinct member otherMember (own.trans otherOwn.symm)
    exact race.ids (id.symm.trans (same ▸ otherId))
  · intro name finishes inTime returned
    rcases Racer.chooses_of_taken inTime returned with ⟨slug, chooses⟩
    refine ⟨slug, chooses, ?_⟩
    cases race.settles finishes chooses inTime with
    | created row created own stored =>
        rw [returned] at created
        cases created
    | refused refuses => exact refuses
    | unstorable refused internal =>
        rw [returned] at internal
        cases internal

end Race

end

/-! ## A race of two -/

theorem Scene.commits_calm : Scene.calm.situation.store.commits = [] := rfl

theorem Scene.isUndisturbed_calm : Scene.calm.situation.store.IsUndisturbed := ⟨rfl, nofun⟩

/-- A client who finds the tables as they are at first. -/
def Racer.early : Racer where
  key := ⟨.ofDigit 2⟩
  destination := "https://example.com"
  scene := .calm
  unused := Scene.commits_calm
  undisturbed := Scene.isUndisturbed_calm

/-- A client who looks for a slug before the early one stores its row, and stores its own after it. -/
def Racer.late : Racer where
  key := ⟨.ofDigit 3⟩
  destination := "https://example.org"
  scene := { Scene.calm with
    ids := ⟨fun _ => .ofDigit 5, 0⟩
    situation := { Scene.calm.situation with
      store := { Scene.calm.situation.store with
        interludes := [⟨0, id⟩, ⟨0, fun _ => Racer.early.call.2.situation.store.tables⟩] } } }
  unused := rfl
  undisturbed := ⟨rfl, nofun⟩

def Racer.earlyOrLate : Bool → Racer
  | false => .early
  | true => .late

/-- The transactions of two clients: both look for a slug first, and then both go on. -/
def crossed (transactions : Bool → List Commit) : List (Turn Bool) :=
  ((transactions false).take 1).map (⟨false, ·⟩) ++ ((transactions true).take 1).map (⟨true, ·⟩) ++
    (((transactions false).drop 1).map (⟨false, ·⟩) ++ ((transactions true).drop 1).map (⟨true, ·⟩))

theorem own_crossed (transactions : Bool → List Commit) (name : Bool) :
    ((crossed transactions).filter fun turn => turn.name = name).map Turn.commit =
      transactions name := by
  cases name <;>
    simp [crossed, List.filter_map, Function.comp_def, -List.map_take, -List.map_drop, -List.drop_one]

private theorem computed_crossing :
    (Text.trim (Racer.earlyOrLate true).destination).isEmpty = false ∧
    Commit.Chain ⟨0, 0⟩ .empty ⟨0, 0⟩ Racer.early.call.2.situation.store.tables
      ((crossed fun name => (Racer.earlyOrLate name).transactions).map Turn.commit) ∧
    (Racer.earlyOrLate true).search.1.toOption = some "abcd" ∧
    (Racer.earlyOrLate true).call.1.isOk = false ∧
    (Statement.insertShortUrl ((Racer.earlyOrLate true).row "abcd")).unstorable?.isSome = false ∧
    (Racer.earlyOrLate true).call.2.situation.context.check
      (Racer.earlyOrLate true).call.2.situation.now = none := by
  decide +kernel

/-- Both look for a slug and find the same one, and then both store a row under it. -/
def Race.crossing : Race Racer.earlyOrLate where
  turns := crossed fun name => (Racer.earlyOrLate name).transactions
  start := ⟨0, 0⟩
  finish := ⟨0, 0⟩
  origin := .empty
  tables := Racer.early.call.2.situation.store.tables
  chain := by
    rcases computed_crossing with ⟨-, chain, -⟩
    exact chain
  faithful name := ⟨[], (List.append_nil _).trans (own_crossed _ name)⟩
  distinct := List.nodup_nil
  unclaimed _ := rfl
  fresh _ := nofun
  keys := Bool.injective_iff.mpr (by decide +kernel)
  ids := Bool.injective_iff.mpr (by decide +kernel)

theorem Race.finishes_crossing (name : Bool) : Race.crossing.Finishes name :=
  own_crossed (fun name => (Racer.earlyOrLate name).transactions) name

theorem Race.slug_goes_to_one_crossing : Race.crossing.Finishes true ∧
    (Racer.earlyOrLate true).Chooses "abcd" ∧ Race.crossing.Refuses true "abcd" := by
  rcases computed_crossing with ⟨acceptable, -, found, failed, storable, inTime⟩
  have finishes := Race.finishes_crossing true
  have chooses : (Racer.earlyOrLate true).Chooses "abcd" :=
    ⟨acceptable, found⟩
  have punctual : ¬ (Racer.earlyOrLate true).call.2.situation.IsOver := fun late =>
    Retry.Situation.isOver_iff_check.mp late inTime
  have settles := Race.crossing.slug_goes_to_one.2.2.1 "abcd" true finishes chooses punctual
  exact ⟨finishes, chooses, settles.refuses failed storable⟩

/-! ## A row that the store cannot hold -/

/-- A client whose destination holds a zero character. -/
def Racer.unholdable : Racer where
  key := ⟨.ofDigit 2⟩
  destination := "https://example.com/\x00"
  scene := .calm
  unused := Scene.commits_calm
  undisturbed := Scene.isUndisturbed_calm

/-- The transactions of a single client. -/
def solely (transactions : List Commit) : List (Turn Unit) := transactions.map (⟨(), ·⟩)

theorem commits_solely (transactions : List Commit) :
    (solely transactions).map Turn.commit = transactions := by
  simp [solely, Function.comp_def]

theorem own_solely (transactions : List Commit) (name : Unit) :
    ((solely transactions).filter fun turn => turn.name = name).map Turn.commit = transactions := by
  simp [solely, List.filter_map, Function.comp_def]

private theorem computed_unholdable :
    Commit.Chain ⟨0, 0⟩ .empty ⟨0, 0⟩ .empty Racer.unholdable.transactions ∧
    (Text.trim Racer.unholdable.destination).isEmpty = false ∧
    Racer.unholdable.search.1.toOption = some "abcd" ∧
    Racer.unholdable.call.2.situation.context.check Racer.unholdable.call.2.situation.now = none ∧
    (match Racer.unholdable.call.1 with
      | .error (.error error) => some error.kind
      | _ => none) = some .internal := by
  decide +kernel

/-- It has the slug to itself. -/
def Race.solitary : Race fun _ : Unit => Racer.unholdable where
  turns := solely Racer.unholdable.transactions
  start := ⟨0, 0⟩
  finish := ⟨0, 0⟩
  origin := .empty
  tables := .empty
  chain := by
    rw [commits_solely]
    rcases computed_unholdable with ⟨chain, -⟩
    exact chain
  faithful name := ⟨[], (List.append_nil _).trans (own_solely _ name)⟩
  distinct := List.nodup_nil
  unclaimed _ := rfl
  fresh _ := nofun
  keys _ _ _ := rfl
  ids _ _ _ := rfl

theorem Race.finishes_solitary : Race.solitary.Finishes () :=
  own_solely Racer.unholdable.transactions ()

/-- Such a call neither creates a short URL nor is told that its slug is taken. -/
theorem Race.slug_goes_to_one_not_always :
    ¬ ∀ (racer : Unit → Racer) (race : Race racer) (slug : String), race.Finishes () →
      (racer ()).Chooses slug → ¬ (racer ()).call.2.situation.IsOver →
      (∃ row, (racer ()).call.1 = .ok (.created row)) ∨
        (racer ()).call.1 = .error (.error slugTaken) := by
  intro settles
  rcases computed_unholdable with ⟨-, acceptable, found, inTime, internal⟩
  rcases settles _ Race.solitary "abcd" Race.finishes_solitary ⟨acceptable, found⟩
    (fun late => Retry.Situation.isOver_iff_check.mp late inTime) with ⟨row, returned⟩ | returned
  · rw [returned] at internal
    cases internal
  · rw [returned] at internal
    cases internal

end LinkShortener
