import LinkShortener.Text.Utf8
import LinkShortener.Text.Quoted
import LinkShortener.Json.Number

/-!
# Reading a record of text fields

A request body is one JSON object whose known members are texts, or an array of those texts in the
order of the fields. Unknown members are skipped. The first problem in reading order decides: a
value of the wrong type, or a member that comes twice, is reported as soon as it is met, whatever
follows.
-/

namespace LinkShortener.Json

/-- The record that a body should hold. -/
structure Shape where
  name : String
  fields : List String
  /-- Whether null stands for a text that is not there. -/
  acceptsNull : Bool

/-- Where in the body a value stands. -/
inductive Place where
  | whole
  | member (name : String)
  | item (index : Nat)
  deriving DecidableEq

/-- Why a body is refused. -/
inductive BodyProblem where
  | malformed
  | mistyped (place : Place) (found : String) (expected : String)
  | repeated (field : String)

/-- Drops the blanks before a token. -/
def skipSpace (bytes : List UInt8) : List UInt8 :=
  bytes.dropWhile isSpaceByte

def hexUnit? (digits : List UInt8) : Option Nat :=
  (digits.mapM fun byte => Text.hexValue? (Char.ofNat byte.toNat)).map Text.natOfHex

def unitBytes (code : Nat) : List UInt8 :=
  Text.encodeUtf8 (String.ofList [Char.ofNat code])

def shortEscape? (letter : UInt8) : Option UInt8 :=
  if letter == 0x22 then some 0x22
  else if letter == 0x5C then some 0x5C
  else if letter == 0x2F then some 0x2F
  else if letter == 0x62 then some 0x08
  else if letter == 0x66 then some 0x0C
  else if letter == 0x6E then some 0x0A
  else if letter == 0x72 then some 0x0D
  else if letter == 0x74 then some 0x09
  else none

/-- The value of the four hexadecimal digits in front. -/
def leadingUnit? (bytes : List UInt8) : Option Nat :=
  if 4 ≤ bytes.length then hexUnit? (bytes.take 4) else none

/-- The bytes that an escape stands for, and how many bytes it is written with after its backslash.
Half of a surrogate pair is no character, so both halves must stand together. -/
def readEscape (bytes : List UInt8) : Option (List UInt8 × Nat) := do
  let letter ← bytes.head?
  if letter ≠ 0x75 then
    return ([← shortEscape? letter], 1)
  let unit ← leadingUnit? (bytes.drop 1)
  if unit < 0xD800 ∨ 0xDFFF < unit then
    return (unitBytes unit, 5)
  if 0xDC00 ≤ unit ∨ (bytes.drop 5).take 2 ≠ [0x5C, 0x75] then
    none
  let low ← leadingUnit? (bytes.drop 7)
  if low < 0xDC00 ∨ 0xDFFF < low then
    none
  return (unitBytes (0x10000 + (unit - 0xD800) * 0x400 + (low - 0xDC00)), 11)

/-- Reads a string after its opening quote into bytes, last byte first. -/
def readStringBytes (seen : List UInt8) : List UInt8 → Option (List UInt8 × List UInt8)
  | [] => none
  | byte :: rest =>
    if byte == 0x22 then some (seen, rest)
    else if byte == 0x5C then
      match readEscape rest with
      | some (written, used) => readStringBytes (written.reverse ++ seen) (rest.drop used)
      | none => none
    else if byte < 0x20 then none
    else readStringBytes (byte :: seen) rest
termination_by bytes => bytes.length
decreasing_by all_goals grind

/-- Reads a string after its opening quote. Its bytes have to be well-formed text. -/
def readString (bytes : List UInt8) : Option (String × List UInt8) := do
  let (seen, rest) ← readStringBytes [] bytes
  let characters ← Text.decodeUtf8? seen.reverse
  return (String.ofList characters, rest)

def expectBytes (expected bytes : List UInt8) : Option (List UInt8) :=
  if expected.isPrefixOf bytes then some (bytes.drop expected.length) else none

/-- What kind of value begins here, in the words of a diagnostic; nothing if none does. Containers
are not looked into. -/
def describeValue? (bytes : List UInt8) : Option String :=
  match bytes with
  | 0x6E :: rest => (expectBytes [0x75, 0x6C, 0x6C] rest).map fun _ => "null"
  | 0x74 :: rest => (expectBytes [0x72, 0x75, 0x65] rest).map fun _ => "boolean `true`"
  | 0x66 :: rest => (expectBytes [0x61, 0x6C, 0x73, 0x65] rest).map fun _ => "boolean `false`"
  | 0x22 :: rest => (readString rest).map fun (text, _) => "string " ++ Text.Quoted.ofText text
  | 0x5B :: _ => some "sequence"
  | 0x7B :: _ => some "map"
  | byte :: _ =>
    if byte == 0x2D || isDigitByte byte then
      (readNumber bytes).map fun (value, _) => value.describe
    else none
  | [] => none

/-- The value at hand is not of the expected type, or is no value at all. -/
def mistyped (place : Place) (expected : String) (bytes : List UInt8) : BodyProblem :=
  match describeValue? bytes with
  | some found => .mistyped place found expected
  | none => .malformed

def readField (shape : Shape) (place : Place) (bytes : List UInt8) :
    Except BodyProblem (Option String × List UInt8) :=
  match skipSpace bytes with
  | 0x22 :: rest =>
    match readString rest with
    | some (text, rest) => .ok (some text, rest)
    | none => .error .malformed
  | bytes =>
    match shape.acceptsNull, bytes with
    | true, 0x6E :: rest =>
      match expectBytes [0x75, 0x6C, 0x6C] rest with
      | some rest => .ok (none, rest)
      | none => .error .malformed
    | _, _ => .error (mistyped place "a string" bytes)

/-- The fields met so far; a field with no text was null. -/
abbrev Fields := List (String × Option String)

/-- Reads the members of an object from the quote of a key on. -/
def readMembers (shape : Shape) (fuel : Nat) (seen : Fields) (bytes : List UInt8) :
    Except BodyProblem (Fields × List UInt8) :=
  match fuel with
  | 0 => .error .malformed
  | fuel + 1 =>
    match readString bytes with
    | none => .error .malformed
    | some (key, rest) =>
      let known := shape.fields.contains key
      if known && (seen.lookup key).isSome then .error (.repeated key)
      else match skipSpace rest with
        | 0x3A :: rest =>
          let value :=
            if known then
              (readField shape (.member key) rest).map fun (text, rest) =>
                (seen ++ [(key, text)], rest)
            else match skipValue rest with
              | some rest => .ok (seen, rest)
              | none => .error .malformed
          match value with
          | .error problem => .error problem
          | .ok (seen, rest) =>
            match skipSpace rest with
            | 0x7D :: rest => .ok (seen, rest)
            | 0x2C :: rest =>
              match skipSpace rest with
              | 0x22 :: rest => readMembers shape fuel seen rest
              | _ => .error .malformed
            | _ => .error .malformed
        | _ => .error .malformed

/-- What comes next in an array. -/
inductive ArrayStep where
  | item (bytes : List UInt8)
  | finished (rest : List UInt8)

/-- Finds the next item of an array or its end. A comma stands before every item but the first. -/
def nextItem (isFirst : Bool) (bytes : List UInt8) : Except BodyProblem ArrayStep :=
  match isFirst, skipSpace bytes with
  | _, 0x5D :: rest => .ok (.finished rest)
  | true, rest => .ok (.item rest)
  | false, 0x2C :: rest =>
    match skipSpace rest with
    | 0x5D :: _ => .error .malformed
    | rest => .ok (.item rest)
  | false, _ => .error .malformed

def readItems (shape : Shape) (seen : Fields) (index : Nat) :
    List String → List UInt8 → Except BodyProblem (Fields × List UInt8)
  | [], bytes =>
    match skipSpace bytes with
    | 0x5D :: rest => .ok (seen, rest)
    | _ => .error .malformed
  | field :: others, bytes =>
    match nextItem (index == 0) bytes with
    | .error problem => .error problem
    | .ok (.finished rest) => .ok (seen, rest)
    | .ok (.item item) =>
      match readField shape (.item index) item with
      | .error problem => .error problem
      | .ok (text, rest) => readItems shape (seen ++ [(field, text)]) (index + 1) others rest

def readBody (shape : Shape) (bytes : List UInt8) : Except BodyProblem Fields :=
  let result := match skipSpace bytes with
    | 0x5B :: rest => readItems shape [] 0 shape.fields rest
    | 0x7B :: rest =>
      match skipSpace rest with
      | 0x7D :: rest => .ok ([], rest)
      | 0x22 :: rest => readMembers shape (bytes.length + 1) [] rest
      | _ => .error .malformed
    | rest => .error (mistyped .whole ("struct " ++ shape.name) rest)
  match result with
  | .error problem => .error problem
  | .ok (fields, rest) => if (skipSpace rest).isEmpty then .ok fields else .error .malformed

/-- The text of a field; nothing if it is absent or null. -/
def Fields.text? (fields : Fields) (name : String) : Option String :=
  (fields.lookup name).join

/-- Where the problem is, before its description. -/
def Place.label : Place → String
  | .whole => ""
  | .member name => name ++ ": "
  | .item index => "[" ++ toString index ++ "]: "

def BodyProblem.reason : BodyProblem → String
  | .malformed => "Failed to parse the request body as JSON"
  | .mistyped place found expected =>
    "Failed to deserialize the JSON body into the target type: " ++ place.label ++
      "invalid type: " ++ found ++ ", expected " ++ expected
  | .repeated field =>
    "Failed to deserialize the JSON body into the target type: duplicate field `" ++ field ++ "`"

end LinkShortener.Json
