import LinkShortener.Text.Utf8

/-!
# Header fields

The header fields of a request or an answer in the order in which they were sent. Names are compared
without regard to case, and of several fields of one name the first counts.
-/

namespace LinkShortener.Http

structure HeaderField where
  name : String
  value : List UInt8

abbrev Headers := List HeaderField

namespace Headers

def first? (headers : Headers) (name : String) : Option (List UInt8) :=
  (headers.find? fun field => field.name.toLower == name).map HeaderField.value

def all (headers : Headers) (name : String) : List (List UInt8) :=
  (headers.filter fun field => field.name.toLower == name).map HeaderField.value

end Headers

/-- A byte of a header value that can be seen, a blank or a tab. -/
def isVisibleByte (byte : UInt8) : Bool :=
  (0x20 ≤ byte && byte ≤ 0x7E) || byte == 0x09

def visibleText? (value : List UInt8) : Option (List Char) :=
  if value.all isVisibleByte then some (value.map fun byte => Char.ofNat byte.toNat) else none

def shownText (value : List UInt8) : String := Text.decodeUtf8Lossy value

def field (name value : String) : HeaderField := ⟨name, Text.encodeUtf8 value⟩

/-- Whether a byte may stand in a header value: no control character except the tab. -/
def isValueByte (byte : UInt8) : Bool :=
  (0x20 ≤ byte && byte != 0x7F) || byte == 0x09

end LinkShortener.Http
