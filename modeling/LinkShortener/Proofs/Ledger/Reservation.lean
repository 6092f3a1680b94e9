import LinkShortener.Ledger.Basic
import LinkShortener.Proofs.Time.Order
import Mathlib.Data.List.Nodup
import Mathlib.Data.List.Perm.Basic

/-! # Reservations

A reservation either finds the live entry of its key, which it returns and leaves as it is, or puts
its own entry in the place of the key. Nothing else of the ledger changes.
-/

namespace LinkShortener

namespace LedgerEntry

/-- No column of a live entry changes. -/
theorem reclaimed_of_live {entry : LedgerEntry} {now : Instant} (claimed : LedgerEntry)
    (live : entry.isExpiredAt now = false) : entry.reclaimed claimed now = entry := by
  have ahead : entry.expiresAt.notAfter now = false := live
  simp only [reclaimed, ahead, Bool.false_eq_true, if_false]

/-- All columns of an expired entry change together. -/
theorem reclaimed_of_expired {entry claimed : LedgerEntry} {now : Instant}
    (same : entry.token = claimed.token) (expired : entry.isExpiredAt now = true) :
    entry.reclaimed claimed now = claimed := by
  have ended : entry.expiresAt.notAfter now = true := expired
  simp only [reclaimed, ended, if_true, same]

end LedgerEntry

namespace Ledger

/-! ## Entries by key -/

theorem mem_of_find? {ledger : Ledger} {token : Uuid} {entry : LedgerEntry}
    (found : ledger.find? token = some entry) : entry ∈ ledger :=
  List.mem_of_find?_eq_some found

theorem find?_eq_none_iff {ledger : Ledger} {token : Uuid} :
    ledger.find? token = none ↔ ∀ entry ∈ ledger, entry.token ≠ token := by
  simp [Ledger.find?]

theorem find?_of_mem {ledger : Ledger} (distinct : (ledger.map (·.token)).Nodup)
    {entry : LedgerEntry} (member : entry ∈ ledger) : ledger.find? entry.token = some entry := by
  induction ledger with
  | nil => cases member
  | cons head tail induction =>
      rw [List.map_cons, List.nodup_cons] at distinct
      rcases List.mem_cons.mp member with equal | member
      · subst equal
        exact List.find?_cons_of_pos (by simp)
      · have different : head.token ≠ entry.token := fun equal =>
          distinct.1 (equal ▸ List.mem_map_of_mem member)
        rw [Ledger.find?, List.find?_cons_of_neg (by simpa using different)]
        exact induction distinct.2 member

/-- Where no key has two entries, that of a key is the only one of its key. -/
theorem filter_token_of_find? {ledger : Ledger} (distinct : (ledger.map (·.token)).Nodup)
    {token : Uuid} {entry : LedgerEntry} (found : ledger.find? token = some entry) :
    ledger.filter (fun other => other.token = token) = [entry] := by
  induction ledger with
  | nil => cases found
  | cons head tail induction =>
      rw [List.map_cons, List.nodup_cons] at distinct
      by_cases same : head.token = token
      · have others : tail.filter (fun other => other.token = token) = [] :=
          List.filter_eq_nil_iff.mpr fun other member equal => distinct.1
            (same.trans (of_decide_eq_true equal).symm ▸ List.mem_map_of_mem member)
        rw [Ledger.find?, List.find?_cons_of_pos (by simpa using same), Option.some.injEq] at found
        rw [List.filter_cons_of_pos (by simpa using same), others, found]
      · rw [Ledger.find?, List.find?_cons_of_neg (by simpa using same)] at found
        rw [List.filter_cons_of_neg (by simpa using same), induction distinct.2 found]

/-- The live entry of a key. -/
def live? (ledger : Ledger) (token : Uuid) (now : Instant) : Option LedgerEntry :=
  (ledger.find? token).filter fun entry => !entry.isExpiredAt now

theorem live?_eq_some_iff {ledger : Ledger} {token : Uuid} {now : Instant} {entry : LedgerEntry} :
    ledger.live? token now = some entry ↔
      ledger.find? token = some entry ∧ now < entry.expiresAt := by
  simp [live?, Option.filter_eq_some_iff, LedgerEntry.isExpiredAt_eq_false_iff]

theorem live?_eq_none_iff {ledger : Ledger} {token : Uuid} {now : Instant} :
    ledger.live? token now = none ↔
      ∀ entry, ledger.find? token = some entry → entry.expiresAt ≤ now := by
  simp [live?, Option.filter_eq_none_iff, LedgerEntry.isExpiredAt_iff]

/-- An entry that is live later is live now. -/
theorem live?_later {ledger : Ledger} {token : Uuid} {now later : Instant} (ordered : now ≤ later) :
    ledger.live? token later =
      (ledger.live? token now).filter fun entry => !entry.isExpiredAt later := by
  have earlier : ∀ entry : LedgerEntry, entry.isExpiredAt now = true →
      entry.isExpiredAt later = true := fun entry expired =>
    LedgerEntry.isExpiredAt_iff.mpr (le_trans (LedgerEntry.isExpiredAt_iff.mp expired) ordered)
  rw [live?, live?]
  cases ledger.find? token with
  | none => rfl
  | some entry =>
      cases expired : entry.isExpiredAt now with
      | false => simp [Option.filter, expired]
      | true => simp [Option.filter, expired, earlier entry expired]

/-! ## Putting an entry in the place of its key -/

/-- The ledger in which the key of an entry has that entry. -/
def put (ledger : Ledger) (entry : LedgerEntry) : Ledger :=
  if (ledger.find? entry.token).isSome then ledger.replace entry else ledger ++ [entry]

private theorem replace_cons_of_eq (head : LedgerEntry) (tail : Ledger) {entry : LedgerEntry}
    (same : head.token = entry.token) : replace (head :: tail) entry = entry :: tail :=
  if_pos same

private theorem replace_cons_of_ne (head : LedgerEntry) (tail : Ledger) {entry : LedgerEntry}
    (other : head.token ≠ entry.token) : replace (head :: tail) entry = head :: tail.replace entry :=
  if_neg other

private theorem find?_replace_self (ledger : Ledger) (entry : LedgerEntry)
    (present : (ledger.find? entry.token).isSome) :
    (ledger.replace entry).find? entry.token = some entry := by
  induction ledger with
  | nil => cases present
  | cons head tail induction =>
      by_cases same : head.token = entry.token
      · rw [replace_cons_of_eq head tail same]
        exact List.find?_cons_of_pos (by simp)
      · rw [replace_cons_of_ne head tail same, Ledger.find?,
          List.find?_cons_of_neg (by simpa using same)]
        apply induction
        rwa [Ledger.find?, List.find?_cons_of_neg (by simpa using same)] at present

private theorem find?_replace_of_ne (ledger : Ledger) (entry : LedgerEntry) {token : Uuid}
    (different : entry.token ≠ token) :
    (ledger.replace entry).find? token = ledger.find? token := by
  induction ledger with
  | nil => rfl
  | cons head tail induction =>
      by_cases same : head.token = entry.token
      · have skipped : head.token ≠ token := same ▸ different
        rw [replace_cons_of_eq head tail same, Ledger.find?, Ledger.find?,
          List.find?_cons_of_neg (by simpa using different),
          List.find?_cons_of_neg (by simpa using skipped)]
      · rw [replace_cons_of_ne head tail same, Ledger.find?, Ledger.find?]
        by_cases found : head.token = token
        · rw [List.find?_cons_of_pos (by simpa using found),
            List.find?_cons_of_pos (by simpa using found)]
        · rw [List.find?_cons_of_neg (by simpa using found),
            List.find?_cons_of_neg (by simpa using found)]
          exact induction

/-- Where an entry stands in its place already, nothing changes. -/
theorem replace_of_find? {ledger : Ledger} {entry : LedgerEntry}
    (found : ledger.find? entry.token = some entry) : ledger.replace entry = ledger := by
  induction ledger with
  | nil => rfl
  | cons head tail induction =>
      by_cases same : head.token = entry.token
      · rw [Ledger.find?, List.find?_cons_of_pos (by simpa using same)] at found
        rw [replace_cons_of_eq head tail same, Option.some.inj found]
      · rw [Ledger.find?, List.find?_cons_of_neg (by simpa using same)] at found
        rw [replace_cons_of_ne head tail same, induction found]

theorem find?_put_self (ledger : Ledger) (entry : LedgerEntry) :
    (ledger.put entry).find? entry.token = some entry := by
  unfold put
  split
  next present => exact find?_replace_self ledger entry present
  next absent =>
    have none : ledger.find? entry.token = none := by simpa using absent
    rw [Ledger.find?, List.find?_append]
    rw [Ledger.find?] at none
    simp [none]

theorem find?_put_of_ne (ledger : Ledger) (entry : LedgerEntry) {token : Uuid}
    (different : entry.token ≠ token) : (ledger.put entry).find? token = ledger.find? token := by
  unfold put
  split
  · exact find?_replace_of_ne ledger entry different
  · rw [Ledger.find?, List.find?_append]
    simp [Ledger.find?, different]

private theorem filter_replace_of_ne (ledger : Ledger) (entry : LedgerEntry) :
    (ledger.replace entry).filter (fun other => other.token ≠ entry.token) =
      ledger.filter fun other => other.token ≠ entry.token := by
  induction ledger with
  | nil => rfl
  | cons head tail induction =>
      by_cases same : head.token = entry.token
      · rw [replace_cons_of_eq head tail same, List.filter_cons_of_neg (by simp),
          List.filter_cons_of_neg (by simpa using same)]
      · rw [replace_cons_of_ne head tail same, List.filter_cons_of_pos (by simpa using same),
          List.filter_cons_of_pos (by simpa using same), induction]

/-- The entries of all other keys stay as they are. -/
theorem filter_put_of_ne (ledger : Ledger) (entry : LedgerEntry) :
    (ledger.put entry).filter (fun other => other.token ≠ entry.token) =
      ledger.filter fun other => other.token ≠ entry.token := by
  unfold put
  split
  · exact filter_replace_of_ne ledger entry
  · rw [List.filter_append, List.filter_cons_of_neg (by simp), List.filter_nil, List.append_nil]

private theorem replace_middle {earlier later : Ledger} {old entry : LedgerEntry}
    (same : old.token = entry.token) (absent : ∀ other ∈ earlier, other.token ≠ entry.token) :
    replace (earlier ++ old :: later) entry = earlier ++ entry :: later := by
  induction earlier with
  | nil => exact replace_cons_of_eq old later same
  | cons head tail induction =>
      rw [List.cons_append, replace_cons_of_ne head _ (absent head List.mem_cons_self),
        induction fun other member => absent other (List.mem_cons_of_mem head member)]
      rfl

private theorem others_of_absent {ledger : Ledger} {entry : LedgerEntry}
    (absent : ∀ other ∈ ledger, other.token ≠ entry.token) :
    ledger.filter (fun other => other.token ≠ entry.token) = ledger :=
  List.filter_eq_self.mpr fun other member => by simpa using absent other member

/-- Where no key has two entries, the entry comes in addition to those of all other keys. -/
theorem put_perm {ledger : Ledger} (distinct : (ledger.map (·.token)).Nodup)
    (entry : LedgerEntry) :
    (ledger.put entry).Perm (entry :: ledger.filter fun other => other.token ≠ entry.token) := by
  unfold put
  split
  next present =>
    induction ledger with
    | nil => cases present
    | cons head tail induction =>
        rw [List.map_cons, List.nodup_cons] at distinct
        by_cases same : head.token = entry.token
        · have different : ∀ other ∈ tail, other.token ≠ entry.token := fun other member equal =>
            distinct.1 (same.trans equal.symm ▸ List.mem_map_of_mem member)
          rw [replace_cons_of_eq head tail same, List.filter_cons_of_neg (by simpa using same),
            others_of_absent different]
        · rw [Ledger.find?, List.find?_cons_of_neg (by simpa using same)] at present
          rw [replace_cons_of_ne head tail same, List.filter_cons_of_pos (by simpa using same)]
          exact ((induction distinct.2 present).cons head).trans (.swap entry head _)
  next absent =>
    have different : ∀ other ∈ ledger, other.token ≠ entry.token :=
      find?_eq_none_iff.mp (by simpa using absent)
    rw [others_of_absent different]
    exact List.perm_append_singleton entry ledger

theorem nodup_put {ledger : Ledger} (distinct : (ledger.map (·.token)).Nodup)
    (entry : LedgerEntry) : ((ledger.put entry).map (·.token)).Nodup := by
  have others : (ledger.filter fun other => other.token ≠ entry.token).Sublist ledger :=
    List.filter_sublist
  rw [((put_perm distinct entry).map _).nodup_iff, List.map_cons, List.nodup_cons]
  refine ⟨fun member => ?_, distinct.sublist (others.map _)⟩
  rcases List.mem_map.mp member with ⟨other, present, same⟩
  exact absurd same (by simpa using (List.mem_filter.mp present).2)

/-- What the entry of a new claim does to a ledger: it is added, or it stands where the expired entry
of its key stood. -/
inductive Takes (entry : LedgerEntry) : Ledger → Ledger → Prop where
  | added (ledger : Ledger) (absent : ∀ other ∈ ledger, other.token ≠ entry.token) :
      Takes entry ledger (ledger ++ [entry])
  | replaced (earlier later : Ledger) (old : LedgerEntry) (same : old.token = entry.token)
      (expired : old.expiresAt ≤ entry.createdAt)
      (sole : ∀ other ∈ earlier ++ later, other.token ≠ entry.token) :
      Takes entry (earlier ++ old :: later) (earlier ++ entry :: later)

theorem takes_put {ledger : Ledger} (distinct : (ledger.map (·.token)).Nodup) {entry : LedgerEntry}
    (free : ledger.live? entry.token entry.createdAt = none) :
    Takes entry ledger (ledger.put entry) := by
  unfold put
  cases found : ledger.find? entry.token with
  | none =>
      rw [if_neg (by simp)]
      exact .added ledger (find?_eq_none_iff.mp found)
  | some old =>
      have expired := live?_eq_none_iff.mp free old found
      rcases List.find?_eq_some_iff_append.mp found with ⟨same, earlier, later, rfl, -⟩
      have same : old.token = entry.token := by simpa using same
      have sole : ∀ other ∈ earlier ++ later, other.token ≠ entry.token := by
        rw [← same]
        have middle : (earlier ++ old :: later).Perm (old :: (earlier ++ later)) :=
          List.perm_middle
        have apart := (middle.map (·.token)).nodup_iff.mp distinct
        rw [List.map_cons, List.nodup_cons] at apart
        exact fun other member equal => apart.1 (equal ▸ List.mem_map_of_mem member)
      have replaced : replace (earlier ++ old :: later) entry = earlier ++ entry :: later :=
        replace_middle same fun other member => sole other (List.mem_append_left later member)
      rw [Option.isSome_some, if_pos rfl, replaced]
      exact .replaced earlier later old same expired sole

theorem Takes.find?_of_live {entry other : LedgerEntry} {before after : Ledger}
    (takes : Takes entry before after) {token : Uuid} {now : Instant}
    (ordered : entry.createdAt ≤ now) (found : before.find? token = some other)
    (live : now < other.expiresAt) : after.find? token = some other := by
  cases takes with
  | added ledger absent =>
      rw [Ledger.find?] at found ⊢
      rw [List.find?_append, found, Option.some_or]
  | replaced earlier later old same expired sole =>
      rw [Ledger.find?, List.find?_append] at found ⊢
      cases first : List.find? (fun entry => entry.token = token) earlier with
      | some entry =>
          rw [first] at found
          exact found
      | none =>
          rw [first, Option.none_or] at found
          rw [Option.none_or]
          by_cases held : old.token = token
          · rw [List.find?_cons_of_pos (by simpa using held), Option.some.injEq] at found
            subst found
            exact absurd (lt_of_lt_of_le live expired) (not_lt.mpr ordered)
          · rw [List.find?_cons_of_neg (by simpa using held)] at found
            rw [List.find?_cons_of_neg (by simpa [← same] using held)]
            exact found

/-! ## Reserving -/

theorem reserve_of_live {ledger : Ledger} {claim : Claim} {now : Instant} {entry : LedgerEntry}
    (live : ledger.live? claim.key.token now = some entry) (candidate : Uuid) :
    ledger.reserve claim candidate now = (entry, ledger) := by
  rw [live?_eq_some_iff] at live
  have token : entry.token = claim.key.token := by simpa using List.find?_some live.1
  have kept := LedgerEntry.reclaimed_of_live (.opened claim candidate now)
    (LedgerEntry.isExpiredAt_eq_false_iff.mpr live.2)
  simp only [reserve, live.1, kept, replace_of_find? (token ▸ live.1)]

theorem reserve_of_free {ledger : Ledger} {claim : Claim} {now : Instant}
    (free : ledger.live? claim.key.token now = none) (candidate : Uuid) :
    ledger.reserve claim candidate now =
      (.opened claim candidate now, ledger.put (.opened claim candidate now)) := by
  rw [live?_eq_none_iff] at free
  have token : (LedgerEntry.opened claim candidate now).token = claim.key.token := rfl
  rw [put, token, reserve]
  cases found : ledger.find? claim.key.token with
  | none => rfl
  | some present =>
      have expired := LedgerEntry.isExpiredAt_iff.mpr (free present found)
      have same : present.token = claim.key.token := by simpa using List.find?_some found
      have taken : present.reclaimed (.opened claim candidate now) now =
          .opened claim candidate now := LedgerEntry.reclaimed_of_expired same expired
      simp only [taken, Option.isSome_some, if_true]

/-! ## Purging -/

theorem purge_eq_filter (ledger : Ledger) (now : Instant) :
    ledger.purge now = ledger.filter fun entry => now < entry.expiresAt := by
  apply List.filter_congr
  intro entry _
  rw [Bool.eq_iff_iff, decide_eq_true_eq, Bool.not_eq_true', Instant.notAfter_eq_false_iff]

theorem expiredCount_eq_countP (ledger : Ledger) (now : Instant) :
    ledger.expiredCount now = ledger.countP fun entry => entry.expiresAt ≤ now := by
  apply List.countP_congr
  intro entry _
  rw [decide_eq_true_eq, Instant.notAfter_iff_le]

theorem find?_purge_of_live {ledger : Ledger} {token : Uuid} {entry : LedgerEntry} {now : Instant}
    (found : ledger.find? token = some entry) (live : now < entry.expiresAt) :
    (ledger.purge now).find? token = some entry := by
  have stays : entry.expiresAt.notAfter now = false := Instant.notAfter_eq_false_iff.mpr live
  rw [Ledger.find?] at found ⊢
  rcases List.find?_eq_some_iff_append.mp found with ⟨same, before, after, parts, different⟩
  rw [purge, parts, List.filter_append, List.filter_cons_of_pos (by simpa using stays)]
  refine List.find?_eq_some_iff_append.mpr ⟨same, _, _, rfl, ?_⟩
  intro other member
  exact different other (List.mem_filter.mp member).1

theorem nodup_purge {ledger : Ledger} (distinct : (ledger.map (·.token)).Nodup) (now : Instant) :
    ((ledger.purge now).map (·.token)).Nodup :=
  distinct.sublist (List.filter_sublist.map _)

/-- Purging changes nothing for those who ask for live entries, now or later. -/
theorem live?_purge {ledger : Ledger} (distinct : (ledger.map (·.token)).Nodup) (token : Uuid)
    (now : Instant) : (ledger.purge now).live? token now = ledger.live? token now := by
  cases live : ledger.live? token now with
  | some entry =>
      rw [live?_eq_some_iff] at live ⊢
      exact ⟨find?_purge_of_live live.1 live.2, live.2⟩
  | none =>
      rw [live?_eq_none_iff] at live ⊢
      intro entry found
      have member := (List.mem_filter.mp (mem_of_find? found)).1
      have held : entry.token = token := by simpa using List.find?_some found
      exact live entry (held ▸ find?_of_mem distinct member)

/-- Ledgers that agree on the live entry of every key have the same live entries. -/
theorem live_perm {first second : Ledger} {now : Instant}
    (distinct : (first.map (·.token)).Nodup) (otherDistinct : (second.map (·.token)).Nodup)
    (same : ∀ token, second.live? token now = first.live? token now) :
    (second.filter fun entry => now < entry.expiresAt).Perm
      (first.filter fun entry => now < entry.expiresAt) := by
  have holds : ∀ {ledger : Ledger}, (ledger.map (·.token)).Nodup → ∀ {entry : LedgerEntry},
      entry ∈ ledger.filter (fun entry => now < entry.expiresAt) ↔
        ledger.live? entry.token now = some entry := by
    intro ledger distinct entry
    rw [List.mem_filter, decide_eq_true_eq, live?_eq_some_iff]
    exact and_congr_left fun _ => ⟨find?_of_mem distinct, mem_of_find?⟩
  apply (List.perm_ext_iff_of_nodup (otherDistinct.of_map.filter _) (distinct.of_map.filter _)).mpr
  intro entry
  rw [holds otherDistinct, holds distinct, same]

end Ledger

end LinkShortener
