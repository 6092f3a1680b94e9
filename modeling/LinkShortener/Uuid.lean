import LinkShortener.Text.Hex

/-!
# UUIDs

A UUID is thirty-two hexadecimal digits. It is read in four spellings and always written in one.
-/

namespace LinkShortener

/-- A universally unique identifier. -/
structure Uuid where
  digits : Vector (Fin 16) 32
  deriving DecidableEq

namespace Uuid

/-- The widths of the groups between hyphens. -/
def groups : List Nat := [8, 4, 4, 4, 12]

/-- Puts hyphens between groups of the given widths. -/
def hyphenate : List Nat → List Char → List Char
  | [], text => text
  | [_], text => text
  | width :: others, text => text.take width ++ '-' :: hyphenate others (text.drop width)

/-- Takes the hyphens out again, which must stand between groups of just these widths. -/
def unhyphenate? : List Nat → List Char → Option (List Char)
  | [], text => if text.isEmpty then some [] else none
  | [width], text => if text.length == width then some text else none
  | width :: others, text =>
    if text[width]? == some '-' then
      (unhyphenate? others (text.drop (width + 1))).map (text.take width ++ ·)
    else none

/-- Lower-case hexadecimal digits in five groups. -/
def toText (id : Uuid) : String :=
  String.ofList (hyphenate groups (id.digits.toList.map Text.hexDigit))

def ofDigits? (digits : List (Fin 16)) : Option Uuid :=
  if proper : digits.length = 32 then some ⟨⟨digits.toArray, by simpa using proper⟩⟩ else none

/-- Thirty-two digits without hyphens. -/
def ofPlain? (text : List Char) : Option Uuid :=
  (text.mapM Text.hexValue?).bind ofDigits?

/-- Digits in five groups with hyphens between them. -/
def ofHyphenated? (text : List Char) : Option Uuid :=
  (unhyphenate? groups text).bind ofPlain?

def resourceMark : List Char := ['u', 'r', 'n', ':', 'u', 'u', 'i', 'd', ':']

/-- Reads a UUID: plain, hyphenated, hyphenated in braces, or hyphenated as a resource name. The
length tells the spellings apart. -/
def ofChars? (text : List Char) : Option Uuid :=
  if text.length == 32 then ofPlain? text
  else if text.length == 36 then ofHyphenated? text
  else if text.length == 38 then
    if text.head? == some '\x7b' && text.getLast? == some '\x7d' then
      ofHyphenated? ((text.drop 1).take 36)
    else none
  else if text.length == 45 then
    if (text.take 9).map Char.toLower == resourceMark then ofHyphenated? (text.drop 9) else none
  else none

def ofText? (text : String) : Option Uuid := ofChars? text.toList

/-- The number that the digits stand for; it orders UUIDs as their texts are ordered. -/
def toNat (id : Uuid) : Nat := Text.natOfHex id.digits.toList

/-- The UUID whose digits stand for the number, of which 128 bits are kept. -/
def ofNat (number : Nat) : Uuid :=
  ⟨Vector.ofFn fun place => Text.lastDigit (number >>> (4 * (31 - place.val)))⟩

end Uuid

end LinkShortener
