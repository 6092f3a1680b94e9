import LinkShortener.Proofs.Service.Reachability
import LinkShortener.Proofs.Service.Settlement

/-! # Conflicts between users

A registration under a free key is stored unless a user has its username or its email address already.
Then the answer names a field that is taken, nothing is stored, and the key stays free.
-/

namespace LinkShortener

/-- The fields that no two users share. -/
inductive UserField where
  | username
  | email
  deriving DecidableEq

namespace UserField

def name : UserField → String
  | .username => "username"
  | .email => "email"

def constraint : UserField → String
  | .username => "users_username_key"
  | .email => "users_email_key"

def ofUser (user : User) : UserField → String
  | .username => user.username
  | .email => user.email

def entered (registration : Registration) : UserField → String
  | .username => registration.username
  | .email => registration.email

/-- The answer to a registration with a value of the field that a user has already. -/
def taken (field : UserField) : ServiceError :=
  .conflict "A user with that username or email already exists"
    (.object [("field", .string field.name)])

/-- The constraint of a field is recognized and leads back to it. -/
theorem answered_duplicate (field : UserField) :
    (Row.Kind.user.answered (Statement.duplicate field.constraint).classify).1 = field.taken := by
  cases field <;> rfl

end UserField

namespace Tables

/-- A stored user has the value that was entered in the field. -/
def Holds (tables : Tables) (registration : Registration) (field : UserField) : Prop :=
  ∃ user ∈ tables.users, field.ofUser user = field.entered registration

instance (tables : Tables) (registration : Registration) (field : UserField) :
    Decidable (tables.Holds registration field) :=
  inferInstanceAs (Decidable (∃ user ∈ tables.users, _))

/-- The field that the store reports as taken. -/
def takenField? (tables : Tables) (registration : Registration) : Option UserField :=
  if tables.Holds registration .username then some .username
  else if tables.Holds registration .email then some .email
  else none

variable {tables : Tables} {registration : Registration}

theorem holds_of_takenField? {field : UserField}
    (taken : tables.takenField? registration = some field) : tables.Holds registration field := by
  unfold takenField? at taken
  split at taken
  next holds =>
    cases taken
    exact holds
  next =>
    split at taken
    next holds =>
      cases taken
      exact holds
    next => cases taken

theorem takenField?_eq_none_iff :
    tables.takenField? registration = none ↔ ∀ field, ¬ tables.Holds registration field := by
  constructor
  · intro free field holds
    cases field with
    | username => simp [takenField?, holds] at free
    | email =>
        by_cases held : tables.Holds registration .username <;>
          simp [takenField?, held, holds] at free
  · intro free
    rw [takenField?, if_neg (free .username), if_neg (free .email)]

/-- A user with a new id can only break a constraint of a field. -/
theorem userConflict?_of_new {id : Uuid} (new : ∀ user ∈ tables.users, user.id ≠ id)
    (hash : String) :
    tables.userConflict? ⟨id, registration.username, registration.email, hash⟩ =
      (tables.takenField? registration).map UserField.constraint := by
  have unused : ¬ tables.users.any (·.id = id) = true := by simpa using new
  have usernames : tables.users.any (·.username = registration.username) = true ↔
      tables.Holds registration .username := by simp [Holds, UserField.ofUser, UserField.entered]
  have emails : tables.users.any (·.email = registration.email) = true ↔
      tables.Holds registration .email := by simp [Holds, UserField.ofUser, UserField.entered]
  rw [userConflict?, if_neg unused]
  simp only [usernames, emails, takenField?]
  split
  · rfl
  · split <;> rfl

end Tables

/-- The store can hold what it is to store of the registration: no text has a zero character. -/
def Registration.IsStorable (registration : Registration) (hash : String) : Prop :=
  Char.ofNat 0 ∉ registration.email.toList ∧ Char.ofNat 0 ∉ hash.toList

instance (registration : Registration) (hash : String) :
    Decidable (registration.IsStorable hash) :=
  inferInstanceAs (Decidable (_ ∧ _))

namespace NewRow

/-- The row that is to be stored for a registration. -/
def ofRegistration (registration : Registration) (hash : String) (id : Uuid) : NewRow :=
  .user ⟨id, registration.username, registration.email, hash⟩

/-- The error about a text with a zero character. -/
def zeroCharacter : DatabaseError :=
  .reported ⟨some "22021", "invalid byte sequence for encoding \"UTF8\": 0x00", none, false⟩

variable {registration : Registration} {hash : String} {id : Uuid}

/-- The rules for usernames exclude zero characters, but those for email addresses do not. -/
theorem unstorable?_ofRegistration (valid : registration.validate = .ok ()) :
    (ofRegistration registration hash id).insertion.unstorable? =
      if registration.IsStorable hash then none else some zeroCharacter := by
  have username : Char.ofNat 0 ∉ registration.username.toList := fun member =>
    absurd ((Registration.proper_of_validate valid).2.1 _ member) (by decide)
  have texts : (ofRegistration registration hash id).insertion.texts.any
      (fun text => text.toList.contains (Char.ofNat 0)) = true ↔ ¬ registration.IsStorable hash := by
    rw [Registration.IsStorable, not_and_or, not_not, not_not]
    simp [ofRegistration, insertion, Statement.texts, username]
  unfold Statement.unstorable?
  by_cases storable : registration.IsStorable hash
  · rw [if_pos storable, if_neg (texts.not.mpr (not_not.mpr storable))]
    rfl
  · rw [if_neg storable, if_pos (texts.mpr storable)]
    rfl

/-- Why the store refuses the row of a registration, if its id is new. -/
theorem refusal?_ofRegistration {tables : Tables} (valid : registration.validate = .ok ())
    (new : ∀ user ∈ tables.users, user.id ≠ id) :
    tables.refusal? (ofRegistration registration hash id) =
      if registration.IsStorable hash then
        (tables.takenField? registration).map fun field => Statement.duplicate field.constraint
      else some zeroCharacter := by
  rw [Tables.refusal?, unstorable?_ofRegistration valid]
  split
  · have conflict : tables.conflict? (ofRegistration registration hash id) =
        (tables.takenField? registration).map UserField.constraint := Tables.userConflict?_of_new new hash
    rw [Option.none_or, conflict, Option.map_map]
    rfl
  · rfl

end NewRow

namespace Scene

abbrev tables (scene : Scene) : Tables := scene.situation.store.tables

abbrev clock (scene : Scene) : Instant := scene.situation.store.clock

/-- What a run can come to after a scene. -/
inductive Later (first : Scene) : Scene → Prop where
  | now : Later first first
  | continues {before after : Scene} (later : Later first before)
      (continues : before.Continues after) : Later first after
  | operates {before : Scene} (later : Later first before) (fresh : before.IsFresh)
      (operation : Operation) : Later first (operation.after before)

theorem Later.proceeds {first last : Scene} (later : first.Later last) : first.Proceeds last := by
  induction later with
  | now => exact .of_same id (fun _ => rfl) (fun _ => le_refl _) rfl rfl
  | continues later continues induction => exact induction.trans continues.proceeds
  | operates later fresh operation induction => exact induction.trans (operation.proceeds fresh)

/-- Only what is stored can get in the way of a registration: it keeps the rules, its password can be
hashed, no fault strikes, and the id that will be drawn is new. -/
structure Suits (scene : Scene) (registration : Registration) (hash : String) : Prop where
  calm : scene.IsCalm
  fresh : scene.IsFresh
  valid : registration.validate = .ok ()
  hashed : scene.hasher registration.password = .ok hash

theorem reachable_calm : Scene.calm.Reachable := by
  have generated : Slug.generate [0, 1744830464, 1811939328, 1879048192, 1946157056] =
    some ("abcd", []) := by decide
  exact .start .calm rfl nofun fun _ => ⟨_, _, generated⟩

end Scene

namespace Service

variable {key : IdempotencyKey} {registration : Registration} {hash : String} {before after : Scene}
  {result : Except Failure (Creation User)}

/-- The row of a registration once it is stored. -/
def registered (registration : Registration) (hash : String) (before after : Scene) : User :=
  ⟨before.ids.draw.1, registration.username, registration.email, hash, after.clock, after.clock⟩

/-- The ways in which a registration under a free key ends. -/
inductive Ends (registration : Registration) (hash : String) (before after : Scene) :
    Except Failure (Creation User) → Prop where
  | stored (storable : registration.IsStorable hash)
      (free : before.tables.takenField? registration = none)
      (member : .user (registered registration hash before after) ∈ after.tables.rows) :
      Ends registration hash before after
        (.ok (.created (registered registration hash before after)))
  | taken (field : UserField) (storable : registration.IsStorable hash)
      (taken : before.tables.takenField? registration = some field)
      (same : after.tables = before.tables) :
      Ends registration hash before after (.error (.error field.taken))
  | unstorable (unstorable : ¬ registration.IsStorable hash) (same : after.tables = before.tables) :
      Ends registration hash before after (.error (.error .internal))

private theorem ends_of_settles (valid : registration.validate = .ok ())
    (new : ∀ user ∈ before.tables.users, user.id ≠ before.ids.draw.1)
    (free : before.tables.ledger.live? key.token after.clock = none)
    (settles : let row := NewRow.ofRegistration registration hash before.ids.draw.1
      Settles .user (before.tables.create after.clock (row.claim key) row) before.tables
        (result.map (Creation.map .user)) after.tables) :
    Ends registration hash before after result := by
  dsimp only at settles
  rw [Tables.create_of_free (Tables.storable_claim _ key) free,
    NewRow.refusal?_ofRegistration valid new] at settles
  by_cases storable : registration.IsStorable hash
  · rw [if_pos storable] at settles
    cases taken : before.tables.takenField? registration with
    | some field =>
        rw [taken] at settles
        rcases settles with ⟨refused, same⟩
        rw [field.answered_duplicate] at refused
        cases result with
        | error failure =>
            cases refused
            exact .taken field storable taken same
        | ok creation => cases refused
    | none =>
        rw [taken] at settles
        rcases settles with ⟨created, tables⟩
        have member : .user (registered registration hash before after) ∈ after.tables.rows := by
          rw [tables]
          exact Tables.mem_rows_insert_iff.mpr (.inl rfl)
        rcases result with failure | user | user
        · cases created
        · cases created
          exact .stored storable taken member
        · cases created
  · rw [if_neg storable] at settles
    rcases settles with ⟨refused, same⟩
    cases result with
    | error failure =>
        cases refused
        exact .unstorable storable same
    | ok creation => cases refused

private theorem completes_createUser_ends {scene : Scene} (lawful : scene.IsLawful)
    (suits : scene.Suits registration hash)
    (free : scene.tables.ledger.live? key.token scene.clock = none) :
    (createUser key registration).Completes scene fun result after =>
      scene.Proceeds after ∧ Ends registration hash scene after result := by
  have proceeds : Ensures (createUser key registration) scene fun _ after => scene.Proceeds after :=
    (ensures_createUser registration).imp fun _ _ ⟨_, _, calls⟩ => calls.proceeds suits.fresh
  have settles := @completes_createUser_of_hashed key _ suits.calm _ suits.valid _ suits.hashed
  refine (proceeds.and settles).imp fun result after ⟨proceeds, ended⟩ => ?_
  refine ended.imp_right fun settles => ⟨proceeds, ends_of_settles suits.valid ?_ ?_ settles⟩
  · intro user member same
    rcases lawful.used (.user user) (List.mem_append_right _ (List.mem_map_of_mem member)) with
      ⟨place, earlier, id⟩
    exact suits.fresh place earlier (id.symm.trans same)
  · rw [Ledger.live?_later (proceeds.clock lawful), free, Option.filter_none]

/-- What a registration under a free key comes to if the store can hold it. -/
structure Registers (registration : Registration) (hash : String) (before : Scene)
    (result : Except Failure (Creation User)) (after : Scene) : Prop where
  created_iff : (∃ user, result = .ok (.created user)) ↔
    ∀ field, ¬ before.tables.Holds registration field
  /-- The user is there from then on. -/
  created : ∀ user, result = .ok (.created user) →
    user = registered registration hash before after ∧
      ∀ later, after.Later later → user ∈ later.tables.users
  /-- Otherwise a field that is taken is named, and nothing is stored. -/
  refused : (∃ field, before.tables.Holds registration field) →
    ∃ field, before.tables.Holds registration field ∧ result = .error (.error field.taken) ∧
      after.tables = before.tables

theorem Ends.registers (ends : Ends registration hash before after result)
    (lawful : after.IsLawful) (storable : registration.IsStorable hash) :
    Registers registration hash before result after := by
  cases ends with
  | stored _ free member =>
      have unheld := Tables.takenField?_eq_none_iff.mp free
      refine ⟨iff_of_true ⟨_, rfl⟩ unheld, fun user same => ?_, fun ⟨field, holds⟩ =>
        absurd holds (unheld field)⟩
      cases same
      refine ⟨rfl, fun later following => ?_⟩
      have kept := (following.proceeds.kept lawful).rows _ member
      have stored := Tables.mem_rowsOf_iff.mpr ⟨kept, rfl⟩
      rcases List.mem_map.mp stored with ⟨user, present, same⟩
      exact Row.user.inj same ▸ present
  | taken field _ taken same =>
      have holds := Tables.holds_of_takenField? taken
      exact ⟨iff_of_false nofun fun free => free field holds, nofun,
        fun _ => ⟨field, holds, rfl, same⟩⟩
  | unstorable unstorable => exact absurd storable unstorable

/-- Whatever users are stored, a registration under a free key is turned down just when one of them has
its username or its email address, and then with a field that is really taken. The key stays free for
a corrected registration. A text with a zero character, which the store cannot hold, is an internal
failure. -/
theorem createUser_registers {scene : Scene} (reachable : scene.Reachable)
    (suits : scene.Suits registration hash)
    (free : scene.tables.ledger.live? key.token scene.clock = none) :
    (createUser key registration).Completes scene fun result after =>
      (registration.IsStorable hash → Registers registration hash scene result after) ∧
      (¬ registration.IsStorable hash →
        result = .error (.error .internal) ∧ after.tables = scene.tables) ∧
      ((∀ creation, result ≠ .ok creation) → ∀ next corrected newHash, after.Continues next →
        next.Suits corrected newHash → corrected.IsStorable newHash →
        (createUser key corrected).Completes next (Registers corrected newHash next)) := by
  have lawful := reachable.lawful
  refine (completes_createUser_ends lawful suits free).imp fun result after ⟨proceeds, ends⟩ => ?_
  have lawfulAfter := proceeds.lawful lawful
  refine ⟨ends.registers lawfulAfter, fun unstorable => ?_, ?_⟩
  · cases ends with
    | stored storable => exact absurd storable unstorable
    | taken _ storable => exact absurd storable unstorable
    | unstorable _ same => exact ⟨rfl, same⟩
  · intro failed next corrected newHash continues suitsNext storable
    have same : after.tables = scene.tables := by
      cases ends with
      | stored => exact absurd rfl (failed _)
      | taken _ _ _ same => exact same
      | unstorable _ same => exact same
    have lawfulNext := continues.proceeds.lawful lawfulAfter
    have ordered : scene.clock ≤ next.clock := (proceeds.clock lawful).trans continues.clock
    have stillFree : next.tables.ledger.live? key.token next.clock = none := by
      rw [show next.tables = scene.tables from continues.tables.trans same,
        Ledger.live?_later ordered, free, Option.filter_none]
    exact (completes_createUser_ends lawfulNext suitsNext stillFree).imp
      fun result last ⟨proceeds, ends⟩ => ends.registers (proceeds.lawful lawfulNext) storable

/-- The second registration has a name of its own, but the email address of the first. -/
theorem createUser_registers_email_taken :
    let scene := (Operation.create ⟨.ofDigit 2⟩
      (.user ⟨"anna", "anna@sho.rt", "correct horse", "correct horse"⟩)).after .calm
    let call := (createUser ⟨.ofDigit 3⟩
      ⟨"bert", "anna@sho.rt", "correct horse", "correct horse"⟩).run.run scene
    call.1 = .error (.error UserField.email.taken) ∧ call.2.tables = scene.tables := by
  intro scene call
  let registration : Registration := ⟨"bert", "anna@sho.rt", "correct horse", "correct horse"⟩
  have reachable : scene.Reachable :=
    Scene.reachable_calm.step ⟨rfl, le_refl _, nofun, rfl, rfl⟩ nofun _
  have computed : scene.situation.store.isClosed = false ∧
      scene.situation.store.faults.isEmpty ∧ scene.situation.store.interludes.isEmpty ∧
      scene.ids.drawn = 1 ∧ scene.ids.values 0 ≠ scene.ids.values 1 ∧
      scene.tables.ledger.live? (.ofDigit 3) scene.clock = none ∧
      ¬ scene.tables.Holds registration .username ∧ scene.tables.Holds registration .email ∧
      registration.problems.isEmpty ∧
      scene.hasher registration.password = .ok "plain:correct horse" ∧
      call.2.situation.context.check call.2.situation.now = none := by decide +kernel
  rcases computed with
    ⟨isOpen, faultless, alone, drawn, distinct, free, unnamed, held, proper, hashed, inTime⟩
  have suits : scene.Suits registration "plain:correct horse" := by
    refine ⟨⟨isOpen, ?_, ?_⟩, ?_, if_pos proper, hashed⟩
    · rw [List.isEmpty_iff.mp faultless]
      nofun
    · exact Database.isSolitary_of_nil (List.isEmpty_iff.mp alone)
    · intro place earlier
      rw [drawn, Nat.lt_one_iff] at earlier
      subst earlier
      rw [Supply.draw, drawn]
      exact distinct
  rcases createUser_registers reachable suits free with late | registers
  · exact absurd inTime (Retry.Situation.isOver_iff_check.mp late)
  · have storable : registration.IsStorable "plain:correct horse" := by decide
    rcases (registers.1 storable).refused ⟨.email, held⟩ with ⟨field, holds, refused, same⟩
    cases field with
    | username => exact absurd holds unnamed
    | email => exact ⟨refused, same⟩

/-- An email address that keeps the rules can have a zero character, and then nothing is created
although no user is there. -/
theorem createUser_registers_not_always :
    let registration : Registration :=
      ⟨"anna", "a@\x00[127.0.0.1]", "correct horse", "correct horse"⟩
    Scene.calm.Reachable ∧ Scene.calm.Suits registration "plain:correct horse" ∧
      Scene.calm.tables = .empty ∧
      ∀ creation, ((createUser ⟨.ofDigit 2⟩ registration).run.run .calm).1 ≠ .ok creation := by
  intro registration
  have proper : registration.problems.isEmpty = true := by decide +kernel
  have failed : ((createUser ⟨.ofDigit 2⟩ registration).run.run .calm).1.toOption.isNone = true := by
    decide +kernel
  have suits : Scene.calm.Suits registration "plain:correct horse" :=
    ⟨⟨rfl, nofun, nofun⟩, nofun, if_pos proper, rfl⟩
  refine ⟨Scene.reachable_calm, suits, rfl, fun creation created => ?_⟩
  rw [created] at failed
  cases failed

end Service

end LinkShortener
