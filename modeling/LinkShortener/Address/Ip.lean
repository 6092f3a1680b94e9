import LinkShortener.Text.Hex

/-!
# Internet addresses

Addresses of versions 4 and 6 and their written forms.
-/

namespace LinkShortener

/-- An internet address: four bytes, or eight words of sixteen bits. -/
inductive IpAddress where
  | v4 (bytes : List Nat)
  | v6 (words : List Nat)
  deriving DecidableEq

namespace IpAddress

/-- One to three digits that stand for a byte; more than one digit may not begin with zero. -/
def readByte? (text : List Char) : Option Nat :=
  if text.isEmpty || 3 < text.length || !text.all Char.isDigit ||
      (1 < text.length && text.head? == some '0') then none
  else
    let value := text.foldl (fun value c => value * 10 + (c.toNat - 48)) 0
    if value ≤ 255 then some value else none

/-- Four bytes with points between them. -/
def readFour? (text : List Char) : Option (List Nat) :=
  let parts := text.splitOn '.'
  if parts.length = 4 then parts.mapM readByte? else none

/-- One to four hexadecimal digits. -/
def readWord? (text : List Char) : Option Nat :=
  if text.isEmpty || 4 < text.length then none
  else (text.mapM Text.hexValue?).map Text.natOfHex

/-- Words with colons between them; the last two may be written as four bytes. -/
def readWords? : List (List Char) → Option (List Nat)
  | [] => some []
  | [last] =>
    if last.contains '.' then
      match readFour? last with
      | some [a, b, c, d] => some [a * 256 + b, c * 256 + d]
      | _ => none
    else (readWord? last).map fun word => [word]
  | part :: rest => do
    let word ← readWord? part
    let words ← readWords? rest
    return word :: words

/-- The words of a part of an address; an empty text has none. -/
def readSide? (text : List Char) : Option (List Nat) :=
  if text.isEmpty then some [] else readWords? (text.splitOn ':')

/-- The text before and after the first pair of colons. -/
def splitAtGap? : List Char → Option (List Char × List Char)
  | ':' :: ':' :: rest => some ([], rest)
  | c :: rest => (splitAtGap? rest).map fun (before, after) => (c :: before, after)
  | [] => none

/-- Eight words, of which a run of zeros may be left out once between two colons. -/
def readEight? (text : List Char) : Option (List Nat) :=
  match splitAtGap? text with
  | none =>
    match readSide? text with
    | some words => if words.length = 8 then some words else none
    | none => none
  | some (before, after) => do
    if before.contains '.' then none
    let first ← readSide? before
    let last ← readSide? after
    let count := first.length + last.length
    if count ≤ 7 then some (first ++ List.replicate (8 - count) 0 ++ last) else none

def ofText? (text : List Char) : Option IpAddress :=
  match readFour? text with
  | some bytes => some (.v4 bytes)
  | none => (readEight? text).map .v6

end IpAddress

end LinkShortener
