import LinkShortener.Text.Numeral
import LinkShortener.Text.Quoted

/-!
# Environment variables

Variables have byte values. One that is not text counts as not set, except that a required variable
is reported as what it is. Values are never trimmed.
-/

namespace LinkShortener

/-- The variables with their values. -/
structure Environment where
  bindings : List (String × List UInt8)

namespace Environment

/-- Why a variable cannot be set, if it cannot. Neither its name nor its value holds a zero byte,
and its name is not empty and holds no equals sign. -/
def settingProblem? (name : String) (value : List UInt8) : Option String :=
  let said (problem : String) : Option String :=
    let name := Text.Quoted.ofBytes (Text.encodeUtf8 name)
    let value := Text.Quoted.ofBytes value
    some ("failed to set environment variable \x60" ++ name ++ "\x60 to \x60" ++ value ++
      "\x60: " ++ problem)
  let isWritten (c : Char) : Bool := name.toList.contains c
  if isWritten '\x00' || value.contains 0 then
    said "file name contained an unexpected NUL byte"
  else if name.isEmpty || isWritten '=' then said "Invalid argument (os error 22)"
  else none

/-- An environment of variables that can all be set. -/
def ofBindings (bindings : List (String × List UInt8)) : Except String Environment :=
  match bindings.findSome? fun (name, value) => settingProblem? name value with
  | some problem => .error problem
  | none => .ok ⟨bindings⟩

/-- Why a variable has no text. -/
inductive Absence where
  | notSet
  | notText (value : List UInt8)

/-- The text of a variable, or why it has none. -/
def read (environment : Environment) (name : String) : Except Absence String :=
  match environment.bindings.lookup name with
  | none => .error .notSet
  | some value =>
    match Text.decodeUtf8? value with
    | some text => .ok (String.ofList text)
    | none => .error (.notText value)

/-- The text of a variable that is set to a text. -/
def text? (environment : Environment) (name : String) : Option String :=
  (environment.read name).toOption

/-- The text of a variable, or the default. -/
def text (environment : Environment) (name default : String) : String :=
  (environment.text? name).getD default

/-- Whether a text switches something on: `1`, or `true` in any case. -/
def isOn (text : String) : Bool := text.toLower == "true" || text == "1"

/-- A switch; every text but those for on switches off. -/
def switch (environment : Environment) (name : String) (default : Bool) : Bool :=
  ((environment.text? name).map isOn).getD default

/-- A number; a text that is none gives the default. -/
def number (environment : Environment) (name : String) (largest default : Nat) : Nat :=
  ((environment.text? name).bind fun text =>
    (Text.readNumeral largest text.toList).toOption).getD default

end Environment

end LinkShortener
