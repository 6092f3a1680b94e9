import LinkShortener.DomainName.MappingTable
import LinkShortener.DomainName.PropertyTable
import LinkShortener.DomainName.Punycode
import LinkShortener.Text.NormalForm

/-!
# ASCII form of domain names

A domain name in any script is mapped to its common form, its labels are checked, and every label
that is not ASCII is written in Punycode, as the standard UTS 46 lays down.
-/

namespace LinkShortener.DomainName

open Text (RangeTable readHex)

def shifted : RangeTable := .ofText shiftedRanges

def alternating : RangeTable := .ofText alternatingRanges

def spelled : RangeTable := .ofText spelledRanges

def ignored : RangeTable := .ofText ignoredRanges

def disallowed : RangeTable := .ofText disallowedRanges

def marks : RangeTable := .ofText markRanges

def joining : RangeTable := .ofText joiningRanges

def directions : RangeTable := .ofText directionRanges

/-- What stands for a code point in a domain name; nothing if it may not occur. -/
def mapCode? (code : Nat) : Option (List Nat) :=
  if disallowed.contains code then none
  else if ignored.contains code then some []
  else match shifted.find? code with
    | some range => some [readHex range.value + (code - range.first)]
    | none =>
      match alternating.find? code with
      | some range => some [if (code - range.first) % 2 = 0 then code + 1 else code]
      | none =>
        match spelled.find? code with
        | some range => some (Text.NormalForm.readCodes range.value)
        | none => some [code]

/-- The mapped form of a run of code points, composed. -/
def mapCodes? (codes : List Nat) : Option (List Nat) :=
  (codes.mapM mapCode?).map fun mapped => Text.NormalForm.normalize mapped.flatten

def direction (code : Nat) : String :=
  ((directions.find? code).map fun range => String.ofList range.value).getD "L"

def joiningType (code : Nat) : List Char :=
  ((joining.find? code).map Text.Range.value).getD []

/-- Whether the nearest character that is not passed over joins in one of the given ways. -/
def joins (ways : List (List Char)) (neighbours : List Nat) : Bool :=
  match neighbours.dropWhile fun code => joiningType code == ['T'] with
  | [] => false
  | code :: _ => ways.contains (joiningType code)

/-- Whether each joiner stands where it has an effect; `before` holds the characters before the
rest, the nearest first. -/
def joinersFit (before : List Nat) : List Nat → Bool
  | [] => true
  | code :: rest =>
    let afterVirama := before.head?.any fun previous => Text.NormalForm.combiningClass previous == 9
    let fits :=
      if code = 0x200D then afterVirama
      else if code = 0x200C then
        afterVirama || (joins [['L'], ['D']] before && joins [['R'], ['D']] rest)
      else true
    fits && joinersFit (code :: before) rest

/-- Whether a label that is part of a name with right-to-left characters keeps to one direction. -/
def keepsDirection (label : List Nat) : Bool :=
  let classes := label.map direction
  let last := (classes.reverse.dropWhile (· == "NSM")).head?.getD ""
  let neutral := ["EN", "ES", "CS", "ET", "ON", "BN", "NSM"]
  match classes with
  | [] => true
  | first :: _ =>
    if first == "R" || first == "AL" then
      classes.all (("R" :: "AL" :: "AN" :: neutral).contains ·) &&
        ["R", "AL", "EN", "AN"].contains last && !(classes.contains "EN" && classes.contains "AN")
    else if first == "L" then
      classes.all (("L" :: neutral).contains ·) && ["L", "EN"].contains last
    else false

def punycodeMark : List Nat := [0x78, 0x6E, 0x2D, 0x2D]

def isAscii (codes : List Nat) : Bool := codes.all (· < 128)

/-- The characters that a mapped label stands for. A label in Punycode has to stand for characters
that mapping does not change, and not all of them ASCII. -/
def readLabel? (label : List Nat) : Option (List Nat) :=
  if punycodeMark.isPrefixOf label then do
    let codes ← Punycode.decode? ((label.drop 4).map Char.ofNat)
    let mapped ← mapCodes? codes
    if mapped = codes ∧ !isAscii codes then some codes else none
  else some label

/-- Whether a label may be used. -/
def labelFits (label : List Nat) : Bool :=
  !(label.head?.any marks.contains) && joinersFit [] label

def writeLabel (label : List Nat) : List Char :=
  if isAscii label then label.map Char.ofNat
  else (punycodeMark.map Char.ofNat) ++ Punycode.encode label

/-- The ASCII form of a domain name; nothing if it has none. -/
def toAscii? (name : List Char) : Option (List Char) := do
  let mapped ← mapCodes? (name.map Char.toNat)
  let labels ← (mapped.splitOn 0x2E).mapM readLabel?
  let isMixed := labels.flatten.any fun code => ["R", "AL", "AN"].contains (direction code)
  if labels.all labelFits && (!isMixed || labels.all keepsDirection) then
    some (['.'].intercalate (labels.map writeLabel))
  else none

end LinkShortener.DomainName
