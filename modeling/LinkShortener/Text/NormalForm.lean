import LinkShortener.Text.CompositionTable
import LinkShortener.Text.RangeTable

/-!
# Composed normal form

Different sequences of code points can show the same text. The composed normal form takes every
character apart, puts combining marks into one order, and joins again what has a composed character.
-/

namespace LinkShortener.Text.NormalForm

/-- Code points in hexadecimal with commas between them. -/
def readCodes (text : List Char) : List Nat := (splitAtChar ',' text).map readHex

/-- A composed character with its pair. -/
structure Composed where
  code : Nat
  first : Nat
  second : Nat

def composedOfTable (table : RangeTable) : List Composed :=
  table.ranges.filterMap fun range =>
    match readCodes range.value with
    | [first, second] => some ⟨range.first, first, second⟩
    | _ => none

def composed : List Composed := composedOfTable (.ofText composedRanges)

def combining : RangeTable := .ofText combiningRanges

def combiningClass (code : Nat) : Nat :=
  ((combining.find? code).map fun range => readHex range.value).getD 0

/-- A Korean syllable is numbered by a lead, a vowel and an optional trail. -/
def decomposeSyllable (code : Nat) : List Nat :=
  let index := code - 0xAC00
  let trail := index % 28
  [0x1100 + index / 588, 0x1161 + index % 588 / 28] ++ (if trail == 0 then [] else [0x11A7 + trail])

/-- Takes a code point apart. No pair is nested as deeply as eight levels. -/
def decompose : Nat → Nat → List Nat
  | 0, code => [code]
  | depth + 1, code =>
    if 0xAC00 ≤ code && code ≤ 0xD7A3 then decomposeSyllable code
    else match composed.find? fun entry => entry.code == code with
      | some entry => decompose depth entry.first ++ decompose depth entry.second
      | none => [code]

/-- Puts a mark behind all marks of its class or a lower one. -/
def insertMark (code mark : Nat) : List (Nat × Nat) → List (Nat × Nat)
  | [] => [(code, mark)]
  | (other, order) :: rest =>
    if order ≤ mark then (other, order) :: insertMark code mark rest
    else (code, mark) :: (other, order) :: rest

/-- Sorts each run of marks by class and keeps the order within a class. The marks met since the
last character of class zero are kept aside. -/
def sortMarks (marks : List (Nat × Nat)) : List Nat → List Nat
  | [] => marks.map Prod.fst
  | code :: rest =>
    let order := combiningClass code
    if order == 0 then marks.map Prod.fst ++ code :: sortMarks [] rest
    else sortMarks (insertMark code order marks) rest

/-- The composed character of a pair. -/
def compose? (first second : Nat) : Option Nat :=
  if 0x1100 ≤ first && first ≤ 0x1112 && 0x1161 ≤ second && second ≤ 0x1175 then
    some (0xAC00 + ((first - 0x1100) * 21 + (second - 0x1161)) * 28)
  else if 0xAC00 ≤ first && first ≤ 0xD7A3 && (first - 0xAC00) % 28 == 0 && 0x11A8 ≤ second &&
      second ≤ 0x11C2 then
    some (first + (second - 0x11A7))
  else (composed.find? fun entry => entry.first == first && entry.second == second).map
    Composed.code

/-- Joins a character with the marks after it. A mark is out of reach behind another one of its
class or a higher one, and so is everything behind the next character of class zero. -/
def composeFrom (start : Nat) (kept : List Nat) (lastClass : Nat) : List Nat → List Nat
  | [] => start :: kept.reverse
  | code :: rest =>
    let order := combiningClass code
    let blocked := !kept.isEmpty && order ≤ lastClass
    match if blocked then none else compose? start code with
    | some joined => composeFrom joined kept lastClass rest
    | none =>
      if order == 0 then start :: kept.reverse ++ composeFrom code [] 0 rest
      else composeFrom start (code :: kept) order rest

/-- Marks at the beginning stay as they are. -/
def composeAll : List Nat → List Nat
  | [] => []
  | code :: rest =>
    if combiningClass code == 0 then composeFrom code [] 0 rest else code :: composeAll rest

def normalize (codes : List Nat) : List Nat :=
  composeAll (sortMarks [] (codes.flatMap (decompose 8)))

end LinkShortener.Text.NormalForm
