import LinkShortener.Text.Hex
import LinkShortener.Text.Utf8
import LinkShortener.Text.Printable

/-!
# Quoted text for logs and diagnostics

Text between double quotes in which every character that could not be seen is written as an escape,
so that a reader can tell exactly which characters the value holds.
-/

namespace LinkShortener.Text.Quoted

/-- The escape of a code point by its number, such as `\u{301}`. -/
def numberEscape (c : Char) : List Char :=
  "\\u\x7b".toList ++ (hexOfNat c.toNat).toList ++ ['\x7d']

/-- One character of a quoted text. Only `escapesApostrophe` decides about the apostrophe. -/
def escape (escapesApostrophe : Bool) (c : Char) : List Char :=
  if c == '\x00' then ['\\', '0']
  else if c == '\t' then ['\\', 't']
  else if c == '\r' then ['\\', 'r']
  else if c == '\n' then ['\\', 'n']
  else if c == '"' then ['\\', '"']
  else if c == '\\' then ['\\', '\\']
  else if c == '\'' && escapesApostrophe then ['\\', '\'']
  else if isShowable c then [c]
  else numberEscape c

def ofText (text : String) : String :=
  String.ofList ('"' :: text.toList.flatMap (escape false) ++ ['"'])

/-- An optional text: `None`, or the quoted text as in `Some("x")`. -/
def ofOption : Option String → String
  | none => "None"
  | some text => "Some(" ++ ofText text ++ ")"

/-- Bytes between quotes: what can be read is escaped as text, each other byte as `\xFF`. -/
def ofBytes (bytes : List UInt8) : String :=
  let piece : Piece → List Char
    | .char c => escape true c
    | .broken parts => parts.flatMap fun byte =>
        '\\' :: 'x' :: (hexOfByte byte).map Char.toUpper
  String.ofList ('"' :: (pieces bytes).flatMap piece ++ ['"'])

end LinkShortener.Text.Quoted
