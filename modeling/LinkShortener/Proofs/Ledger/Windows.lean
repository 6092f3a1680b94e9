import LinkShortener.Proofs.Ledger.Reservation
import LinkShortener.Store.Statement
import Mathlib.Data.List.Induction

/-! # Windows of keys

The reservations of one key divide the time into windows: the first one after the end of a window opens
the next. Who opens a window owns the key to its end, and all others in it find the entry of the owner
as it was written.
-/

namespace LinkShortener

/-- A claim of a key for a candidate at a moment. -/
structure Reservation where
  claim : Claim
  candidate : Uuid
  now : Instant
  deriving DecidableEq

namespace Reservation

def token (call : Reservation) : Uuid := call.claim.key.token

abbrev statement (call : Reservation) : Statement := .reserve call.claim call.candidate

/-- The entry of a reservation that opens a window. -/
def entry (call : Reservation) : LedgerEntry := .opened call.claim call.candidate call.now

/-- The store can hold the fingerprint: it has no zero character. -/
def IsStorable (call : Reservation) : Prop := Char.ofNat 0 ∉ call.claim.requestHash.toList

instance (call : Reservation) : Decidable call.IsStorable :=
  inferInstanceAs (Decidable (_ ∉ _))

/-- A reservation that counts for a key. -/
def Counts (token : Uuid) (call : Reservation) : Prop := call.token = token ∧ call.IsStorable

instance (token : Uuid) (call : Reservation) : Decidable (call.Counts token) :=
  inferInstanceAs (Decidable (_ ∧ _))

/-! ## Greedy windows -/

/-- No window is open, or the one that was is over. -/
def IsOver (held : Option LedgerEntry) (now : Instant) : Prop :=
  ∀ entry, held = some entry → entry.expiresAt ≤ now

instance (held : Option LedgerEntry) (now : Instant) : Decidable (IsOver held now) :=
  match held with
  | none => isTrue nofun
  | some entry => decidable_of_iff (entry.expiresAt ≤ now)
      ⟨fun ended _ same => Option.some.inj same ▸ ended, fun ended => ended entry rfl⟩

/-- Of the reservations of one key, those that open a window: each is the first one at or after the
end of the window before it. -/
def openings (held : Option LedgerEntry) : List Reservation → List Reservation
  | [] => []
  | call :: later =>
    if IsOver held call.now then call :: openings (some call.entry) later
    else openings held later

/-- The entry of the last window that was opened, or else the one from the start. -/
def owner (held : Option LedgerEntry) (calls : List Reservation) : Option LedgerEntry :=
  ((openings held calls).getLast?.map entry).or held

private theorem owner_cons (held : Option LedgerEntry) (call : Reservation)
    (later : List Reservation) : owner held (call :: later) =
      if IsOver held call.now then owner (some call.entry) later else owner held later := by
  unfold owner
  rw [openings]
  split
  · rw [List.getLast?_cons]
    cases (openings (some call.entry) later).getLast? <;> rfl
  · rfl

theorem openings_sublist (held : Option LedgerEntry) (calls : List Reservation) :
    (openings held calls).Sublist calls := by
  induction calls generalizing held with
  | nil => exact .slnil
  | cons call later induction =>
      rw [openings]
      split
      · exact (induction _).cons_cons call
      · exact (induction _).cons call

theorem openings_append (held : Option LedgerEntry) (calls : List Reservation)
    (call : Reservation) : openings held (calls ++ [call]) = openings held calls ++
      if IsOver (owner held calls) call.now then [call] else [] := by
  induction calls generalizing held with
  | nil => rfl
  | cons first later induction =>
      rw [owner_cons, List.cons_append, openings, openings]
      split
      · rw [induction, List.cons_append]
      · exact induction held

/-! ## Windows in a history of all keys -/

/-- The reservations that have opened a window of a key. -/
def windows (ledger : Ledger) (token : Uuid) (calls : List Reservation) : List Reservation :=
  openings (ledger.find? token) (calls.filter fun call => call.Counts token)

/-- The entry of the last reservation that has opened a window of a key, or else the one from the
start. -/
def ownerAmong (ledger : Ledger) (token : Uuid) (calls : List Reservation) : Option LedgerEntry :=
  ((windows ledger token calls).getLast?.map entry).or (ledger.find? token)

/-- After others, the reservation is the next one that opens a window of its key. -/
def Opens (ledger : Ledger) (earlier : List Reservation) (call : Reservation) : Prop :=
  windows ledger call.token (earlier ++ [call]) = windows ledger call.token earlier ++ [call]

variable {ledger : Ledger} {earlier : List Reservation} {call : Reservation}

theorem windows_append_of_counts {token : Uuid} (counts : call.Counts token) :
    windows ledger token (earlier ++ [call]) = windows ledger token earlier ++
      if IsOver (ownerAmong ledger token earlier) call.now then [call] else [] := by
  have last : [call].filter (fun call => call.Counts token) = [call] := by simp [counts]
  rw [windows, List.filter_append, last, openings_append]
  rfl

theorem windows_append_of_not_counts {token : Uuid} (other : ¬ call.Counts token) :
    windows ledger token (earlier ++ [call]) = windows ledger token earlier := by
  have none : [call].filter (fun call => call.Counts token) = [] := by simp [other]
  rw [windows, List.filter_append, none, List.append_nil, windows]

theorem ownerAmong_append_of_counts {token : Uuid} (counts : call.Counts token) :
    ownerAmong ledger token (earlier ++ [call]) =
      if IsOver (ownerAmong ledger token earlier) call.now then some call.entry
      else ownerAmong ledger token earlier := by
  rw [ownerAmong, windows_append_of_counts counts]
  split
  · rw [List.getLast?_concat, Option.map_some, Option.some_or]
  · rw [List.append_nil, ownerAmong]

theorem ownerAmong_append_of_not_counts {token : Uuid} (other : ¬ call.Counts token) :
    ownerAmong ledger token (earlier ++ [call]) = ownerAmong ledger token earlier := by
  rw [ownerAmong, windows_append_of_not_counts other, ownerAmong]

theorem opens_iff (storable : call.IsStorable) :
    call.Opens ledger earlier ↔ IsOver (ownerAmong ledger call.token earlier) call.now := by
  rw [Opens, windows_append_of_counts ⟨rfl, storable⟩, List.append_cancel_left_eq]
  split
  next ended => exact iff_of_true rfl ended
  next inside => exact iff_of_false nofun inside

/-- An entry that a reservation has written is not from later than the last one. -/
theorem createdAt_of_ownerAmong {token : Uuid} {entry : LedgerEntry} {now : Instant}
    (ordered : ∀ call ∈ earlier, call.now ≤ now)
    (owned : ownerAmong ledger token earlier = some entry) :
    entry.createdAt ≤ now ∨ ledger.find? token = some entry := by
  rw [ownerAmong, Option.or_eq_some_iff, Option.map_eq_some_iff] at owned
  rcases owned with ⟨opener, last, rfl⟩ | ⟨-, initial⟩
  · have counted := (openings_sublist _ _).mem (List.mem_of_getLast? last)
    exact .inl (ordered opener (List.mem_filter.mp counted).1)
  · exact .inr initial

end Reservation

open Reservation

namespace Tables

/-! ## Reservations one after the other -/

/-- The tables after a reservation. -/
def reserving (tables : Tables) (call : Reservation) : Tables :=
  match call.statement.run tables call.now with
  | .ok (_, after) => after
  | .error _ => tables

def reservingAll (tables : Tables) (calls : List Reservation) : Tables := calls.foldl reserving tables

theorem reservingAll_append (tables : Tables) (calls : List Reservation) (call : Reservation) :
    tables.reservingAll (calls ++ [call]) = (tables.reservingAll calls).reserving call := by
  rw [reservingAll, List.foldl_append]
  rfl

variable {tables : Tables} {call : Reservation}

theorem run_reserve (storable : call.IsStorable) : call.statement.run tables call.now =
    let (entry, ledger) := tables.ledger.reserve call.claim call.candidate call.now
    .ok (entry, { tables with ledger }) := by
  have clean : call.statement.unstorable? = none := by
    simpa [Statement.unstorable?, Statement.texts, IsStorable] using storable
  rw [Statement.run, clean]
  rfl

/-- The store refuses a fingerprint that it cannot hold. -/
theorem run_reserve_of_unstorable (tables : Tables) (unstorable : ¬ call.IsStorable) :
    ∃ report, call.statement.run tables call.now = .error (.reported report) ∧
      report.sqlstate = some "22021" := by
  have zero : call.statement.texts.any (fun text => text.toList.contains (Char.ofNat 0)) = true := by
    simpa [Statement.texts, IsStorable] using unstorable
  unfold Statement.run Statement.unstorable?
  rw [if_pos zero]
  exact ⟨_, rfl, rfl⟩

theorem run_reserve_of_live {entry : LedgerEntry} (storable : call.IsStorable)
    (live : tables.ledger.live? call.token call.now = some entry) :
    call.statement.run tables call.now = .ok (entry, tables) := by
  rw [run_reserve storable, Ledger.reserve_of_live live]

theorem run_reserve_of_free (storable : call.IsStorable)
    (free : tables.ledger.live? call.token call.now = none) :
    call.statement.run tables call.now =
      .ok (call.entry, { tables with ledger := tables.ledger.put call.entry }) := by
  rw [run_reserve storable, Ledger.reserve_of_free free]
  rfl

/-- What one reservation does to the entry of any key. -/
theorem find?_reserving (tables : Tables) (call : Reservation) (token : Uuid) :
    (tables.reserving call).ledger.find? token =
      if call.Counts token ∧ IsOver (tables.ledger.find? token) call.now then some call.entry
      else tables.ledger.find? token := by
  by_cases storable : call.IsStorable
  · cases live : tables.ledger.live? call.token call.now with
    | some entry =>
        rcases Ledger.live?_eq_some_iff.mp live with ⟨found, inside⟩
        rw [reserving, run_reserve_of_live storable live, if_neg]
        rintro ⟨⟨rfl, -⟩, ended⟩
        exact absurd (ended entry found) (not_le.mpr inside)
    | none =>
        rw [reserving, run_reserve_of_free storable live]
        by_cases same : call.token = token
        · subst same
          rw [if_pos ⟨⟨rfl, storable⟩, Ledger.live?_eq_none_iff.mp live⟩]
          exact Ledger.find?_put_self _ call.entry
        · rw [if_neg fun opened => same opened.1.1]
          exact Ledger.find?_put_of_ne _ call.entry same
  · rcases run_reserve_of_unstorable tables storable with ⟨report, refused, -⟩
    rw [reserving, refused, if_neg fun opened => storable opened.1.2]

theorem nodup_reserving (distinct : (tables.ledger.map (·.token)).Nodup) (call : Reservation) :
    ((tables.reserving call).ledger.map (·.token)).Nodup := by
  unfold reserving
  by_cases storable : call.IsStorable
  · cases live : tables.ledger.live? call.token call.now with
    | some entry => rwa [run_reserve_of_live storable live]
    | none =>
        rw [run_reserve_of_free storable live]
        exact Ledger.nodup_put distinct call.entry
  · rcases run_reserve_of_unstorable tables storable with ⟨report, refused, -⟩
    rwa [refused]

theorem nodup_reservingAll (distinct : (tables.ledger.map (·.token)).Nodup)
    (calls : List Reservation) : ((tables.reservingAll calls).ledger.map (·.token)).Nodup := by
  induction calls using List.reverseRecOn with
  | nil => exact distinct
  | append_singleton calls call induction =>
      rw [reservingAll_append]
      exact nodup_reserving induction call

/-- After any reservations, every key has the entry of the owner of its window. -/
theorem find?_reservingAll (tables : Tables) (calls : List Reservation) (token : Uuid) :
    (tables.reservingAll calls).ledger.find? token = ownerAmong tables.ledger token calls := by
  induction calls using List.reverseRecOn with
  | nil => rfl
  | append_singleton calls call induction =>
      rw [reservingAll_append, find?_reserving, induction]
      by_cases counts : call.Counts token
      · rw [ownerAmong_append_of_counts counts]
        simp only [counts, true_and]
      · rw [ownerAmong_append_of_not_counts counts, if_neg fun opened => counts opened.1]

/-- How a reservation ends that follows others: with the given entry, and the given tables after it. -/
structure Reserves (tables : Tables) (earlier : List Reservation) (call : Reservation)
    (entry : LedgerEntry) (after : Tables) : Prop where
  ran : call.statement.run (tables.reservingAll earlier) call.now = .ok (entry, after)
  /-- It opens a window exactly when its key has no row or an expired one. -/
  opens : call.Opens tables.ledger earlier ↔
    (tables.reservingAll earlier).ledger.find? call.token = none ∨
      ∃ row, (tables.reservingAll earlier).ledger.find? call.token = some row ∧
        row.expiresAt ≤ call.now
  /-- Then the entry is its own in all columns. -/
  own : call.Opens tables.ledger earlier → entry =
    { token := call.token
      referenceId := call.candidate
      requestHash := call.claim.requestHash
      createdAt := call.now
      expiresAt := call.now.later (24 * 3600) }
  /-- Otherwise it is the entry of the last reservation that has opened a window, or the one from
  the start, and nothing changes. -/
  kept : ¬ call.Opens tables.ledger earlier →
    ownerAmong tables.ledger call.token earlier = some entry ∧ after = tables.reservingAll earlier
  /-- The entry is the one row of its key. -/
  stored : after.ledger.filter (fun row => row.token = call.token) = [entry]
  /-- Nothing else changes. -/
  others : after.ledger.filter (fun row => row.token ≠ call.token) =
    (tables.reservingAll earlier).ledger.filter fun row => row.token ≠ call.token
  apart : after = { tables.reservingAll earlier with ledger := after.ledger }
  /-- The reservation is made in the window of the entry. -/
  within : call.now < entry.expiresAt ∧
    (entry.createdAt ≤ call.now ∨ tables.ledger.find? call.token = some entry)

theorem isOver_iff {held : Option LedgerEntry} {now : Instant} :
    IsOver held now ↔ held = none ∨ ∃ row, held = some row ∧ row.expiresAt ≤ now := by
  cases held with
  | none => exact iff_of_true nofun (.inl rfl)
  | some row => simp [IsOver]

variable {earlier : List Reservation}

private theorem reserves_of_free (distinct : (tables.ledger.map (·.token)).Nodup)
    (storable : call.IsStorable)
    (free : (tables.reservingAll earlier).ledger.live? call.token call.now = none) :
    ∃ entry after, tables.Reserves earlier call entry after := by
  have ended : IsOver ((tables.reservingAll earlier).ledger.find? call.token) call.now :=
    Ledger.live?_eq_none_iff.mp free
  have opens : call.Opens tables.ledger earlier :=
    (opens_iff storable).mpr (find?_reservingAll tables earlier call.token ▸ ended)
  have written : ((tables.reservingAll earlier).ledger.put call.entry).find? call.token =
      some call.entry := Ledger.find?_put_self _ call.entry
  have still := Ledger.nodup_put (nodup_reservingAll distinct earlier) call.entry
  exact ⟨call.entry, _, {
    ran := run_reserve_of_free storable free
    opens := iff_of_true opens (isOver_iff.mp ended)
    own := fun _ => rfl
    kept := fun inside => absurd opens inside
    stored := Ledger.filter_token_of_find? still written
    others := Ledger.filter_put_of_ne _ call.entry
    apart := rfl
    within := ⟨call.now.lt_later (by decide), .inl (le_refl call.now)⟩ }⟩

private theorem reserves_of_live (distinct : (tables.ledger.map (·.token)).Nodup)
    (ordered : ∀ other ∈ earlier, other.now ≤ call.now) (storable : call.IsStorable)
    {entry : LedgerEntry}
    (live : (tables.reservingAll earlier).ledger.live? call.token call.now = some entry) :
    ∃ entry after, tables.Reserves earlier call entry after := by
  rcases Ledger.live?_eq_some_iff.mp live with ⟨found, inside⟩
  have owned := (find?_reservingAll tables earlier call.token).symm.trans found
  have within : ¬ IsOver (some entry) call.now := fun ended =>
    absurd (ended entry rfl) (not_le.mpr inside)
  have kept : ¬ call.Opens tables.ledger earlier := by rwa [opens_iff storable, owned]
  exact ⟨entry, _, {
    ran := run_reserve_of_live storable live
    opens := iff_of_false kept (found ▸ isOver_iff.not.mp within)
    own := fun opens => absurd opens kept
    kept := fun _ => ⟨owned, rfl⟩
    stored := Ledger.filter_token_of_find? (nodup_reservingAll distinct earlier) found
    others := rfl
    apart := rfl
    within := ⟨inside, createdAt_of_ownerAmong ordered owned⟩ }⟩

end Tables

end LinkShortener
