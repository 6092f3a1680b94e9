import LinkShortener.Registration
import Mathlib.Data.List.Nodup

/-! # Rules for registrations

Five rules on four fields decide about a registration. It is accepted if it keeps all of them. Otherwise
the answer names the fields whose rules it breaks, each with the messages of just those rules.
-/

namespace LinkShortener.Registration

/-! ## The rules -/

/-- The rules, in the order in which their messages are given. -/
inductive Rule where
  | usernameLength
  | usernameCharacters
  | email
  | passwordLength
  | confirmation
  deriving DecidableEq

namespace Rule

def all : List Rule :=
  [.usernameLength, .usernameCharacters, .email, .passwordLength, .confirmation]

/-- The field that is named where the rule is broken. -/
def field : Rule → String
  | .usernameLength => "username"
  | .usernameCharacters => "username"
  | .email => "email"
  | .passwordLength => "password"
  | .confirmation => "confirm_password"

def message : Rule → String
  | .usernameLength => "must be at least 3 characters"
  | .usernameCharacters => "may only contain lowercase letters and digits"
  | .email => "must be a valid email address"
  | .passwordLength => "must be at least 8 characters"
  | .confirmation => "must match password"

/-- A registration keeps the rule. Lengths are counted in characters, not in bytes. -/
def Kept (registration : Registration) : Rule → Prop
  | .usernameLength => 3 ≤ registration.username.length
  | .usernameCharacters =>
    ∀ c ∈ registration.username.toList, 'a' ≤ c ∧ c ≤ 'z' ∨ '0' ≤ c ∧ c ≤ '9'
  | .email => Email.isValid registration.email = true
  | .passwordLength => 8 ≤ registration.password.length
  | .confirmation => registration.confirmation = registration.password

instance (registration : Registration) : DecidablePred (Kept registration)
  | .usernameLength => inferInstanceAs (Decidable (_ ≤ _))
  | .usernameCharacters => List.decidableBAll _ registration.username.toList
  | .email => inferInstanceAs (Decidable (_ = _))
  | .passwordLength => inferInstanceAs (Decidable (_ ≤ _))
  | .confirmation => inferInstanceAs (Decidable (_ = _))

theorem mem_all (rule : Rule) : rule ∈ all := by
  cases rule <;> decide

end Rule

variable (registration : Registration)

/-- The rules of a field that the registration breaks, in their order. -/
def broken (field : String) : List Rule :=
  Rule.all.filter fun rule => rule.field = field ∧ ¬ rule.Kept registration

variable {registration}

theorem mem_broken_iff {field : String} {rule : Rule} :
    rule ∈ registration.broken field ↔ rule.field = field ∧ ¬ rule.Kept registration := by
  simp [broken, rule.mem_all]

/-! ## What the checks of the fields find -/

theorem isUsernameChar_iff {c : Char} :
    isUsernameChar c = true ↔ 'a' ≤ c ∧ c ≤ 'z' ∨ '0' ≤ c ∧ c ≤ '9' := by
  delta isUsernameChar Char.isLower Char.isDigit
  simp [Char.le_def]

theorem kept_usernameCharacters_iff : Rule.usernameCharacters.Kept registration ↔
    registration.username.toList.all isUsernameChar = true := by
  simp [Rule.Kept, isUsernameChar_iff]

theorem usernameProblems_eq :
    registration.usernameProblems = (registration.broken "username").map Rule.message := by
  have length : registration.username.toList.length < 3 ↔
      ¬ Rule.usernameLength.Kept registration := by simp [Rule.Kept, String.length_toList]
  have characters : registration.username.toList.all isUsernameChar = true ↔
      Rule.usernameCharacters.Kept registration := kept_usernameCharacters_iff.symm
  by_cases long : Rule.usernameLength.Kept registration <;>
    by_cases proper : Rule.usernameCharacters.Kept registration <;>
    simp [usernameProblems, broken, Rule.all, Rule.field, Rule.message, length, characters, long,
      proper]

theorem emailProblems_eq :
    registration.emailProblems = (registration.broken "email").map Rule.message := by
  have valid : Email.isValid registration.email = true ↔ Rule.email.Kept registration := Iff.rfl
  by_cases proper : Rule.email.Kept registration <;>
    simp [emailProblems, broken, Rule.all, Rule.field, Rule.message, valid, proper]

theorem passwordProblems_eq :
    registration.passwordProblems = (registration.broken "password").map Rule.message := by
  have length : registration.password.toList.length < 8 ↔
      ¬ Rule.passwordLength.Kept registration := by simp [Rule.Kept, String.length_toList]
  by_cases long : Rule.passwordLength.Kept registration <;>
    simp [passwordProblems, broken, Rule.all, Rule.field, Rule.message, length, long]

theorem confirmationProblems_eq :
    registration.confirmationProblems =
      (registration.broken "confirm_password").map Rule.message := by
  have repeated : registration.confirmation = registration.password ↔
      Rule.confirmation.Kept registration := Iff.rfl
  by_cases same : Rule.confirmation.Kept registration <;>
    simp [confirmationProblems, broken, Rule.all, Rule.field, Rule.message, repeated, same]

/-- The fields in the order in which they are checked. -/
def fieldNames : List String := ["username", "email", "password", "confirm_password"]

theorem problems_eq :
    registration.problems =
      (fieldNames.filter fun field => !(registration.broken field).isEmpty).map fun field =>
        (field, (registration.broken field).map Rule.message) := by
  have reported : registration.problems =
      (fieldNames.map fun field => (field, (registration.broken field).map Rule.message)).filter
        fun problem => !problem.2.isEmpty := by
    rw [problems, usernameProblems_eq, emailProblems_eq, passwordProblems_eq,
      confirmationProblems_eq]
    rfl
  rw [reported, List.filter_map]
  congr 2
  funext field
  simp

theorem Rule.field_mem (rule : Rule) : rule.field ∈ fieldNames := by
  cases rule <;> decide

theorem broken_eq_nil_iff {field : String} :
    registration.broken field = [] ↔ ∀ rule : Rule, rule.field = field → rule.Kept registration := by
  simp only [List.eq_nil_iff_forall_not_mem, mem_broken_iff, not_and, not_not]

theorem problems_eq_nil_iff :
    registration.problems = [] ↔ ∀ rule : Rule, rule.Kept registration := by
  rw [problems_eq, List.map_eq_nil_iff, List.filter_eq_nil_iff]
  constructor
  · intro sound rule
    have none : registration.broken rule.field = [] := by simpa using sound _ rule.field_mem
    exact broken_eq_nil_iff.mp none rule rfl
  · intro kept field _
    have none : registration.broken field = [] := broken_eq_nil_iff.mpr fun rule _ => kept rule
    simp [none]

theorem validate_eq_ok_iff :
    registration.validate = .ok () ↔ ∀ rule : Rule, rule.Kept registration := by
  rw [← problems_eq_nil_iff, ← List.isEmpty_iff, validate]
  split
  next sound => exact iff_of_true rfl sound
  next faulty => exact iff_of_false nofun faulty

/-- Each field of a broken rule is named once, with the messages of its broken rules in their order, and
no other field is. -/
structure Reports (registration : Registration) (details : List (String × Json)) : Prop where
  once : (details.map Prod.fst).Nodup
  named : ∀ field, field ∈ details.map Prod.fst ↔
    ∃ rule : Rule, rule.field = field ∧ ¬ rule.Kept registration
  messages : ∀ field found, (field, found) ∈ details →
    found = .array ((registration.broken field).map fun rule => .string rule.message)

theorem reports_problems (registration : Registration) :
    registration.Reports
      (registration.problems.map fun (field, messages) => (field, .array (messages.map .string))) := by
  have names : (registration.problems.map fun (field, messages) =>
      (field, Json.array (messages.map .string))).map Prod.fst =
        fieldNames.filter fun field => !(registration.broken field).isEmpty := by
    simp [problems_eq, Function.comp_def]
  constructor
  · rw [names]
    have distinct : fieldNames.Nodup := by decide
    exact distinct.filter _
  · intro field
    rw [names, List.mem_filter, Bool.not_eq_true', List.isEmpty_eq_false_iff_exists_mem]
    simp only [mem_broken_iff]
    constructor
    · exact And.right
    · rintro ⟨rule, rfl, broken⟩
      exact ⟨rule.field_mem, rule, rfl, broken⟩
  · intro field found member
    rw [problems_eq] at member
    simp only [List.map_map, List.mem_map, Function.comp_apply, Prod.mk.injEq] at member
    rcases member with ⟨name, -, rfl, rfl⟩
    simp [Function.comp_def]

/-! ## Every combination of broken rules -/

/-- A registration that keeps just the given rules. -/
def keeping (kept : Rule → Bool) : Registration :=
  let password := if kept .passwordLength then "12345678" else "1234567"
  { username := match kept .usernameLength, kept .usernameCharacters with
      | true, true => "abc"
      | true, false => "ABC"
      | false, true => "a"
      | false, false => "A"
    email := if kept .email then "a@b.c" else "a"
    password
    confirmation := if kept .confirmation then password else "" }

theorem kept_keeping_iff (kept : Rule → Bool) (rule : Rule) :
    rule.Kept (keeping kept) ↔ kept rule = true := by
  have valid : Email.isValid "a@b.c" = true := by decide +kernel
  have invalid : Email.isValid "a" = false := by decide +kernel
  cases rule with
  | usernameLength =>
      cases long : kept .usernameLength <;> cases proper : kept .usernameCharacters <;>
        simp only [Rule.Kept, keeping, long, proper] <;> decide
  | usernameCharacters =>
      rw [kept_usernameCharacters_iff]
      cases long : kept .usernameLength <;> cases proper : kept .usernameCharacters <;>
        simp only [keeping, long, proper] <;> decide
  | email => cases proper : kept .email <;> simp [Rule.Kept, keeping, proper, valid, invalid]
  | passwordLength =>
      cases long : kept .passwordLength <;> simp only [Rule.Kept, keeping, long] <;> decide
  | confirmation =>
      cases same : kept .confirmation <;> cases long : kept .passwordLength <;>
        simp [Rule.Kept, keeping, same, long]

/-- A registration is accepted just if it keeps all rules. Otherwise the answer reports the broken rules,
whichever they are: any of them can be broken while the others are kept. -/
theorem validate_reports_broken :
    (∀ registration : Registration,
      registration.validate = .ok () ↔ ∀ rule : Rule, rule.Kept registration) ∧
    (∀ registration : Registration, (∃ rule : Rule, ¬ rule.Kept registration) →
      ∃ error details, registration.validate = .error error ∧ error.code = "validation_error" ∧
        error.message = "Validation failed" ∧ error.details = .object details ∧
        registration.Reports details) ∧
    ∀ kept : Rule → Bool, ∃ registration : Registration,
      ∀ rule : Rule, rule.Kept registration ↔ kept rule = true := by
  refine ⟨fun registration => validate_eq_ok_iff, fun registration ⟨rule, broken⟩ => ?_,
    fun kept => ⟨keeping kept, kept_keeping_iff kept⟩⟩
  have faulty : ¬ registration.problems.isEmpty = true := by
    rw [List.isEmpty_iff, problems_eq_nil_iff]
    exact fun sound => broken (sound rule)
  rw [validate, if_neg faulty]
  exact ⟨_, _, rfl, rfl, rfl, rfl, reports_problems registration⟩

/-- One character of two bytes is too short for a username, and seven of nine for a password. -/
theorem validate_reports_broken_short : ∃ error details,
    validate ⟨"Ä", "anna@sho.rt", "pässwör", "pässwör"⟩ = .error error ∧
      error.details = .object details ∧
      "password" ∈ details.map Prod.fst ∧ "confirm_password" ∉ details.map Prod.fst ∧
      ∀ found, ("username", found) ∈ details → found =
        .array [.string "must be at least 3 characters",
          .string "may only contain lowercase letters and digits"] := by
  let short : Registration := ⟨"Ä", "anna@sho.rt", "pässwör", "pässwör"⟩
  have tooShort : ¬ Rule.passwordLength.Kept short := by decide
  have repeated : short.broken "confirm_password" = [] := by decide
  have both : short.broken "username" = [.usernameLength, .usernameCharacters] := by decide
  rcases validate_reports_broken.2.1 short ⟨_, tooShort⟩ with
    ⟨error, details, refused, -, -, same, reports⟩
  refine ⟨error, details, refused, same, ?_, ?_, fun found member => ?_⟩
  · exact (reports.named _).mpr ⟨.passwordLength, rfl, tooShort⟩
  · intro named
    rcases (reports.named _).mp named with ⟨rule, broken⟩
    have member : rule ∈ short.broken "confirm_password" := mem_broken_iff.mpr broken
    rw [repeated] at member
    cases member
  · rw [reports.messages _ found member, both]
    rfl

end LinkShortener.Registration
