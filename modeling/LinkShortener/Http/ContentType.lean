/-!
# Content types

A content type is a type and a subtype of token characters, with a suffix after the last plus sign
of the subtype, and then parameters that are names with plain or quoted values.
-/

namespace LinkShortener.Http

/-- A content type without its parameters, in lower case. -/
structure ContentType where
  family : String
  subtype : String
  suffix : Option String

namespace ContentType

def isToken (c : Char) : Bool :=
  c.isAlphanum ||
    ['!', '#', '$', '%', '&', '\'', '*', '+', '-', '.', '^', '_', '\x60', '|', '~'].contains c

def isQuotable (c : Char) : Bool := 0x1F < c.toNat && c.toNat != 0x7F

/-- What follows a quoted value: blanks, and then the end or the next parameter. -/
def afterQuoted (text : List Char) : Option (List Char) :=
  match text.dropWhile (· == ' ') with
  | [] => some []
  | ';' :: rest => some rest
  | _ => none

/-- What follows the value of a parameter. A quoted value has at least one character, and that one
may be a quote. -/
def afterValue (text : List Char) : Option (List Char) :=
  match text with
  | '"' :: [] => none
  | '"' :: first :: rest =>
    if isQuotable first then
      match rest.dropWhile (fun c => isQuotable c && c != '"') with
      | '"' :: rest => afterQuoted rest
      | _ => none
    else none
  | text =>
    match text.dropWhile isToken with
    | [] => some []
    | ';' :: rest => if text.head?.any isToken then some rest else none
    | _ => none

def afterParameter (text : List Char) : Option (List Char) :=
  match text.dropWhile isToken with
  | '=' :: rest => if text.head?.any isToken then afterValue rest else none
  | _ => none

/-- Whether the text is a list of parameters. Every parameter takes at least one character, so the
length of the text bounds their number. -/
def areParameters : Nat → List Char → Bool
  | _, [] => true
  | 0, _ => false
  | bound + 1, ' ' :: rest => areParameters bound rest
  | bound + 1, text =>
    match afterParameter text with
    | some rest => areParameters bound rest
    | none => false

/-- Splits a subtype at its last plus sign, which may not be its first character. -/
def splitSuffix (subtype : List Char) : List Char × Option (List Char) :=
  let suffix := (subtype.reverse.takeWhile (· != '+')).reverse
  let before := subtype.length - suffix.length
  if before ≤ 1 then (subtype, none) else (subtype.take (before - 1), some suffix)

def ofText? (text : List Char) : Option ContentType :=
  let family := text.takeWhile isToken
  match text.dropWhile isToken with
  | '/' :: rest =>
    let subtype := rest.takeWhile isToken
    let proper := match rest.dropWhile isToken with
      | [] => true
      | mark :: parameters =>
        !subtype.isEmpty && mark == ';' && areParameters parameters.length parameters
    if family.isEmpty || !proper then none
    else
      let (subtype, suffix) := splitSuffix subtype
      some { family := (String.ofList family).toLower
             subtype := (String.ofList subtype).toLower
             suffix := suffix.map fun suffix => (String.ofList suffix).toLower }
  | _ => none

def isJson (contentType : ContentType) : Bool :=
  contentType.family == "application" &&
    (contentType.subtype == "json" || contentType.suffix == some "json")

end ContentType

end LinkShortener.Http
