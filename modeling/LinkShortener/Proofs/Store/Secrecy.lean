import LinkShortener.Password
import LinkShortener.Proofs.Store.Rows
import LinkShortener.Proofs.Store.Twins

/-! # Stored hashes

The hash of a password is stored with a new user and decides nothing. Registrations that differ in it go
the same way, and leave tables that differ in it.
-/

namespace LinkShortener

open Retry

/-! ## Hashes -/

namespace Password

/-- A hash that the store can hold: a text without a zero character. -/
def IsStorable (hash : String) : Prop := hash.toList.contains (Char.ofNat 0) = false

instance (hash : String) : Decidable (IsStorable hash) :=
  inferInstanceAs (Decidable (hash.toList.contains (Char.ofNat 0) = false))

private theorem digit_ne_zero (value : Nat) : digit value ≠ Char.ofNat 0 := by
  have noZero : Char.ofNat 0 ∉ digits := by decide
  rw [digit, List.getD_eq_getElem?_getD]
  cases found : digits[value]? with
  | none => decide
  | some c => exact ne_of_mem_of_not_mem (List.mem_of_getElem? found) noZero

private theorem encode64_holds_no_zero (bytes : List UInt8) : Char.ofNat 0 ∉ encode64 bytes := by
  have other : ∀ value, Char.ofNat 0 ≠ digit value := fun value => (digit_ne_zero value).symm
  induction bytes using encode64.induct with
  | case1 => exact List.not_mem_nil
  | case2 a => simp [encode64, other]
  | case3 a b => simp [encode64, other]
  | case4 a b c rest induction => simp [encode64, other, induction]

/-- What the usual algorithm makes of a password can always be stored. -/
theorem isStorable_argon2id (derive : List UInt8 → List UInt8 → List UInt8) (salt : List UInt8)
    (password : String) : IsStorable (argon2id derive salt password).toText := by
  have dollar : Char.ofNat 0 ∉ "$".toList := by decide
  have algorithm : Char.ofNat 0 ∉ "argon2id".toList := by decide
  have version : Char.ofNat 0 ∉ "v=19".toList := by decide
  have parameters : Char.ofNat 0 ∉ "m=19456,t=2,p=1".toList := by decide
  rw [IsStorable, ← Bool.not_eq_true, List.contains_iff_mem]
  simp only [Stored.toText, argon2id, String.toList_append, String.toList_ofList, List.mem_append,
    dollar, algorithm, version, parameters, encode64_holds_no_zero, or_self, not_false_eq_true]

end Password

def NewUser.withHash (row : NewUser) (hash : String) : NewUser := { row with passwordHash := hash }

def User.withHash (user : User) (hash : String) : User := { user with passwordHash := hash }

/-! ## Tables -/

namespace Tables

/-- Tables with the same users and maybe one more, who is the same but for the hash. Nothing else is
different. -/
inductive Twins (users : List User) (row : NewUser) (hash : String) : Tables → Tables → Prop where
  | without (shortUrls : List ShortUrl) (ledger : Ledger) :
      Twins users row hash ⟨shortUrls, users, ledger⟩ ⟨shortUrls, users, ledger⟩
  | within (shortUrls : List ShortUrl) (ledger : Ledger) (now : Instant) :
      Twins users row hash ⟨shortUrls, users ++ [userRow row now], ledger⟩
        ⟨shortUrls, users ++ [userRow (row.withHash hash) now], ledger⟩

variable {users : List User} {row : NewUser} {hash : String} {first second : Tables}

namespace Twins

theorem ledger_eq (twins : Twins users row hash first second) : second.ledger = first.ledger := by
  cases twins <;> rfl

theorem put (twins : Twins users row hash first second) (ledger : Ledger) :
    Twins users row hash { first with ledger } { second with ledger } := by
  cases twins with
  | without shortUrls _ => exact .without shortUrls ledger
  | within shortUrls _ now => exact .within shortUrls ledger now

end Twins

end Tables

namespace Statement

open Tables

variable {users : List User} {row : NewUser} {hash : String} {first second : Tables}

theorem outcomes_reserve (claim : Claim) (candidate : Uuid) (now : Instant)
    (twins : Twins users row hash first second) :
    Outcomes (Twins users row hash) Eq ((reserve claim candidate).run first now)
      ((reserve claim candidate).run second now) := by
  unfold run
  cases (reserve claim candidate).unstorable? with
  | some error => exact .error error
  | none =>
      dsimp only [effect]
      rw [twins.ledger_eq]
      exact .ok rfl (twins.put _)

theorem unstorable?_withHash (storable : Password.IsStorable row.passwordHash)
    (otherStorable : Password.IsStorable hash) :
    (insertUser (row.withHash hash)).unstorable? = (insertUser row).unstorable? := by
  have texts : ∀ {text}, Password.IsStorable text →
      [row.username, row.email, text].any (fun text => text.toList.contains (Char.ofNat 0)) =
        [row.username, row.email].any fun text => text.toList.contains (Char.ofNat 0) := by
    intro text storable
    unfold Password.IsStorable at storable
    simp only [List.any_cons, List.any_nil, storable, Bool.or_false]
  unfold unstorable? Statement.texts NewUser.withHash
  dsimp only
  rw [texts storable, texts otherStorable]

/-- A new user is taken or refused whatever the hash is. -/
theorem outcomes_insertUser (storable : Password.IsStorable row.passwordHash)
    (otherStorable : Password.IsStorable hash) (now : Instant)
    (twins : Twins users row hash first second) :
    Outcomes (Twins users row hash) (fun user other => other = user.withHash hash)
      ((insertUser row).run first now) ((insertUser (row.withHash hash)).run second now) := by
  unfold run
  rw [unstorable?_withHash storable otherStorable]
  cases (insertUser row).unstorable? with
  | some error => exact .error error
  | none =>
      dsimp only [effect]
      cases twins with
      | without shortUrls ledger =>
          rw [show userConflict? ⟨shortUrls, users, ledger⟩ (row.withHash hash) =
            userConflict? ⟨shortUrls, users, ledger⟩ row from rfl]
          cases userConflict? ⟨shortUrls, users, ledger⟩ row with
          | some constraint => exact .error _
          | none => exact .ok rfl (.within shortUrls ledger now)
      | within shortUrls ledger stored =>
          have taken : userConflict? ⟨shortUrls, users ++ [userRow row stored], ledger⟩ row =
              some "users_pkey" := by
            simp [userConflict?, userRow]
          have otherTaken : userConflict? ⟨shortUrls, users ++ [userRow (row.withHash hash) stored],
              ledger⟩ (row.withHash hash) = some "users_pkey" := by
            simp [userConflict?, userRow]
          rw [taken, otherTaken]
          exact .error _

theorem outcomes_fetchUserById (id : Uuid) (now : Instant)
    (twins : Twins users row hash first second) :
    Outcomes (Twins users row hash)
      (fun found other => ∃ hash, other = found.map fun user => user.withHash hash)
      ((fetchUserById id).run first now) ((fetchUserById id).run second now) := by
  have unstorable : (fetchUserById id).unstorable? = none := rfl
  unfold run
  rw [unstorable]
  refine .ok ?_ twins
  have same : ∀ found : Option User, ∃ hash, found = found.map fun user => user.withHash hash := by
    intro found
    cases found with
    | none => exact ⟨"", rfl⟩
    | some user => exact ⟨user.passwordHash, rfl⟩
  cases twins with
  | without shortUrls ledger => exact same _
  | within shortUrls ledger stored =>
      unfold userById?
      rw [List.find?_append, List.find?_append]
      cases users.find? (·.id = id) with
      | some user => exact same _
      | none =>
          by_cases own : row.id = id
          · refine ⟨hash, ?_⟩
            simp [userRow, NewUser.withHash, own, User.withHash]
          · refine ⟨hash, ?_⟩
            simp [userRow, NewUser.withHash, own]

end Statement

/-! ## Units of work -/

open Database

/-- Creations of the same kind with users who are the same but for the hash. -/
def Creation.DiffersInHash (creation other : Creation User) : Prop :=
  ∃ hash, other = creation.map fun user => user.withHash hash

namespace Creation.DiffersInHash

variable {creation other : Creation User}

theorem id (differs : creation.DiffersInHash other) : other.row.id = creation.row.id := by
  rcases differs with ⟨hash, rfl⟩
  cases creation <;> rfl

theorem isReplay (differs : creation.DiffersInHash other) : other.isReplay = creation.isReplay := by
  rcases differs with ⟨hash, rfl⟩
  cases creation <;> rfl

/-- The hash is no part of what a client is shown. -/
theorem body (differs : creation.DiffersInHash other) : other.row.body = creation.row.body := by
  rcases differs with ⟨hash, rfl⟩
  cases creation <;> rfl

end Creation.DiffersInHash

/-- Two registrations that differ in the hash go the same way and return the same user but for it. -/
theorem Work.likens_createUser {users : List User} {row : NewUser} {hash : String}
    {first second : Database} (claim : Claim) (storable : Password.IsStorable row.passwordHash)
    (otherStorable : Password.IsStorable hash)
    (twins : first.WorkTwins (Tables.Twins users row hash) second) :
    Run.Likens .none Creation.DiffersInHash (createUser claim row).send
      (createUser claim (row.withHash hash)).send (WorkTwins (Tables.Twins users row hash)) first
      second := by
  have reserved := twins.likens_query "reserve" (twins.query (.reserve claim row.id)
    (.reserve claim row.id) rfl fun now _ _ => Statement.outcomes_reserve claim row.id now)
  refine reserved.bind fun entry other after otherAfter same still => ?_
  subst same
  dsimp only [pure, bind, Work.andThen]
  rw [show (row.withHash hash).id = row.id from rfl]
  -- The entry decides what is done, and it is the same in both stores.
  cases LedgerEntry.resolve entry row.id claim.requestHash with
  | mismatch => exact Run.likens_throw _ still
  | fresh =>
      have inserted := still.likens_query "insert_user" (still.query (.insertUser row)
        (.insertUser (row.withHash hash)) rfl fun now _ _ =>
          Statement.outcomes_insertUser storable otherStorable now)
      refine inserted.bind fun user other after otherAfter same still => ?_
      subst same
      exact Run.likens_pure ⟨hash, rfl⟩ still
  | replay id =>
      have fetched := still.likens_query "fetch_user_by_id" (still.query (.fetchUserById id)
        (.fetchUserById id) rfl fun now _ _ => Statement.outcomes_fetchUserById id now)
      refine fetched.bind fun found other after otherAfter same still => ?_
      rcases same with ⟨stored, rfl⟩
      cases found with
      | none => exact Run.likens_throw _ still
      | some user => exact Run.likens_pure ⟨stored, rfl⟩ still

end LinkShortener
