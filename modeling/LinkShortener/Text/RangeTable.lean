/-!
# Sets of code points

A set of code points is written as hexadecimal ranges separated by blanks, such as `ad 378-379`; a
line may end between two ranges.
A map from code points adds the value of each range after a colon, such as `300-314:e6`.
-/

namespace LinkShortener.Text

/-- Reads a hexadecimal number; other characters count as nothing. -/
def readHex (digits : List Char) : Nat :=
  digits.foldl
    (fun total c =>
      let code := c.toNat
      if 48 ≤ code && code ≤ 57 then total * 16 + (code - 48)
      else if 97 ≤ code && code ≤ 102 then total * 16 + (code - 87)
      else total) 0

def splitAtChar (separator : Char) (text : List Char) : List (List Char) :=
  text.splitOn separator

/-- Code points from the first to the last of a range, with the value they share. -/
structure Range where
  first : Nat
  last : Nat
  value : List Char

/-- Reads one range with its optional value. -/
def Range.ofText (text : List Char) : Range :=
  let bounds := text.takeWhile (· != ':')
  let first := bounds.takeWhile (· != '-')
  let last := (bounds.dropWhile (· != '-')).drop 1
  { first := readHex first
    last := if last.isEmpty then readHex first else readHex last
    value := (text.dropWhile (· != ':')).drop 1 }

/-- Ranges of code points, each with a value. -/
structure RangeTable where
  ranges : List Range

namespace RangeTable

/-- Reads the written form of a set or map. -/
def ofText (text : String) : RangeTable :=
  let parts := text.toList.splitOnP fun c => c == ' ' || c == '\n'
  ⟨(parts.filter fun part => !part.isEmpty).map Range.ofText⟩

def find? (table : RangeTable) (code : Nat) : Option Range :=
  table.ranges.find? fun range => range.first ≤ code && code ≤ range.last

def contains (table : RangeTable) (code : Nat) : Bool :=
  table.ranges.any fun range => range.first ≤ code && code ≤ range.last

end RangeTable

end LinkShortener.Text
