import LinkShortener.Text.Hex

/-!
# JSON values

Values of answers and log fields, and their compact text: no blank between tokens, members in the
order given, and only the characters escaped that JSON does not allow in a string.
-/

namespace LinkShortener

/-- A JSON value. A number is kept as the digits it is written with. -/
inductive Json where
  | null
  | bool (value : Bool)
  | number (literal : String)
  | string (value : String)
  | array (items : List Json)
  | object (members : List (String × Json))

namespace Json

def ofNat (count : Nat) : Json := .number (toString count)

/-- The text, or null where there is none. -/
def ofOption : Option String → Json
  | some value => .string value
  | none => .null

/-- The characters that stand for one character of a string. -/
def escape (c : Char) : List Char :=
  if c == '"' then ['\\', '"']
  else if c == '\\' then ['\\', '\\']
  else if c.toNat == 8 then ['\\', 'b']
  else if c.toNat == 9 then ['\\', 't']
  else if c.toNat == 10 then ['\\', 'n']
  else if c.toNat == 12 then ['\\', 'f']
  else if c.toNat == 13 then ['\\', 'r']
  else if c.toNat < 0x20 then
    '\\' :: 'u' :: '0' :: '0' :: Text.hexOfByte (UInt8.ofNat c.toNat)
  else [c]

/-- A string between quotes. -/
def quote (value : List Char) : List Char :=
  '"' :: value.flatMap escape ++ ['"']

mutual

/-- The compact text of a value. -/
def render : Json → List Char
  | .null => "null".toList
  | .bool true => "true".toList
  | .bool false => "false".toList
  | .number literal => literal.toList
  | .string value => quote value.toList
  | .array items => '[' :: renderItems items ++ [']']
  | .object members => '\x7b' :: renderMembers members ++ ['\x7d']

/-- The items of an array with commas between them. -/
def renderItems : List Json → List Char
  | [] => []
  | [item] => render item
  | item :: next :: rest => render item ++ ',' :: renderItems (next :: rest)

/-- The members of an object with commas between them. -/
def renderMembers : List (String × Json) → List Char
  | [] => []
  | [(name, value)] => quote name.toList ++ ':' :: render value
  | (name, value) :: next :: rest =>
    quote name.toList ++ ':' :: render value ++ ',' :: renderMembers (next :: rest)

end

def toText (value : Json) : String :=
  String.ofList value.render

end Json

end LinkShortener
