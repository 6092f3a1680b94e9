import LinkShortener.Email
import LinkShortener.Service.Error

/-!
# Registrations

What a person enters to get an account, and the rules for it. Every rule is checked, and the answer
names all fields that break one.
-/

namespace LinkShortener

/-- What a person enters to get an account. -/
structure Registration where
  username : String
  email : String
  password : String
  confirmation : String
  deriving DecidableEq

namespace Registration

def isUsernameChar (c : Char) : Bool := c.isLower || c.isDigit

def usernameProblems (registration : Registration) : List String :=
  let characters := registration.username.toList
  (if characters.length < 3 then ["must be at least 3 characters"] else []) ++
    (if characters.all isUsernameChar then []
      else ["may only contain lowercase letters and digits"])

def emailProblems (registration : Registration) : List String :=
  if Email.isValid registration.email then [] else ["must be a valid email address"]

def passwordProblems (registration : Registration) : List String :=
  if registration.password.toList.length < 8 then ["must be at least 8 characters"] else []

/-- What is wrong with the repeated password. -/
def confirmationProblems (registration : Registration) : List String :=
  if registration.confirmation = registration.password then [] else ["must match password"]

/-- The fields that break a rule with their messages. -/
def problems (registration : Registration) : List (String × List String) :=
  [("username", registration.usernameProblems), ("email", registration.emailProblems),
    ("password", registration.passwordProblems),
    ("confirm_password", registration.confirmationProblems)].filter
      fun (_, messages) => !messages.isEmpty

/-- Whether every rule is kept, or the answer that says which are not. -/
def validate (registration : Registration) : Except ServiceError Unit :=
  if registration.problems.isEmpty then .ok ()
  else
    let details := registration.problems.map fun (field, messages) =>
      (field, Json.array (messages.map Json.string))
    .error (.badRequest "Validation failed" (.object details))

end Registration

end LinkShortener
