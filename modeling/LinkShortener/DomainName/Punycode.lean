/-!
# Punycode

Writes a run of code points with ASCII letters, digits and hyphens, as the standard RFC 3492 lays
down. The ASCII characters come first. The others follow in the order of their code points, each as
the number of positions passed since the one before.
-/

namespace LinkShortener.DomainName.Punycode

/-- The digits of numbers: the letters, and then the ten digits. -/
def digits : List Char := "abcdefghijklmnopqrstuvwxyz0123456789".toList

def digitOf (value : Nat) : Char := digits.getD value 'a'

/-- The value of a digit; letters of either case have the same. -/
def valueOf? (digit : Char) : Option Nat :=
  (digits.findIdx? (· == digit.toLower))

/-- The bound below which a digit ends a number, by its place counted in steps of 36. -/
def threshold (bias place : Nat) : Nat :=
  if place ≤ bias then 1 else if bias + 26 ≤ place then 26 else place - bias

theorem threshold_le (bias place : Nat) : threshold bias place ≤ 26 := by
  unfold threshold
  split
  · omega
  · split <;> omega

/-- How often a number can be divided by 35 until it is at most 455, and what is left then. -/
def shrink (delta : Nat) : Nat × Nat :=
  if 455 < delta then
    let (times, rest) := shrink (delta / 35)
    (times + 1, rest)
  else (0, delta)
termination_by delta
decreasing_by omega

/-- The bias after a number, from its size and the count of characters written so far. -/
def adapt (delta count : Nat) (isFirst : Bool) : Nat :=
  let scaled := if isFirst then delta / 700 else delta / 2
  let (times, rest) := shrink (scaled + scaled / count)
  times * 36 + 36 * rest / (rest + 38)

/-- The digits of a number of which places below the given one have been written. -/
def writeNumber (bias place number : Nat) : List Char :=
  let bound := threshold bias place
  if number < bound ∨ bound = 0 then [digitOf number]
  else
    digitOf (bound + (number - bound) % (36 - bound)) ::
      writeNumber bias (place + 36) ((number - bound) / (36 - bound))
termination_by number
decreasing_by
  have small := threshold_le bias place
  have divided := Nat.div_le_self (number - threshold bias place) (36 - threshold bias place)
  simp only [bound] at *
  omega

/-- How far the writing has come. -/
structure Progress where
  delta : Nat
  bias : Nat
  written : Nat
  isFirst : Bool
  output : List Char

/-- Passes one position of the text while all characters with the given code are written. -/
def Progress.pass (code : Nat) (progress : Progress) (other : Nat) : Progress :=
  if other < code then { progress with delta := progress.delta + 1 }
  else if other = code then
    { delta := 0
      bias := adapt progress.delta (progress.written + 1) progress.isFirst
      written := progress.written + 1
      isFirst := false
      output := progress.output ++ writeNumber progress.bias 36 progress.delta }
  else progress

/-- Writes the characters of each of the codes in turn; `next` is the smallest that could come. -/
def writeCodes (text : List Nat) (next : Nat) (progress : Progress) : List Nat → Progress
  | [] => progress
  | code :: codes =>
    let started :=
      { progress with delta := progress.delta + (code - next) * (progress.written + 1) }
    let passed := text.foldl (Progress.pass code) started
    writeCodes text (code + 1) { passed with delta := passed.delta + 1 } codes

/-- The written form of a run of code points. -/
def encode (text : List Nat) : List Char :=
  let basic := text.filter (· < 128)
  let codes := ((text.filter (128 ≤ ·)).mergeSort).eraseReps
  let start := basic.map Char.ofNat ++ (if basic.isEmpty then [] else ['-'])
  (writeCodes text 128 ⟨0, 72, basic.length, true, start⟩ codes).output

/-- Reads a number; nothing if the digits end before it does. -/
def readNumber (bias place weight number : Nat) : List Char → Option (Nat × List Char)
  | [] => none
  | digit :: rest => do
    let value ← valueOf? digit
    let bound := threshold bias place
    let number := number + value * weight
    if value < bound then some (number, rest)
    else readNumber bias (place + 36) (weight * (36 - bound)) number rest

/-- Whether a code point is a character. -/
def isScalar (code : Nat) : Bool := code < 0xD800 || (0xDFFF < code && code < 0x110000)

/-- Reads the numbers and puts the characters in their places. Every number has a digit, so the
count of digits bounds the steps. -/
def readCodes (bound code position bias : Nat) (isFirst : Bool) (text : List Nat) :
    List Char → Option (List Nat)
  | [] => some text
  | digits =>
    match bound with
    | 0 => none
    | bound + 1 => do
      let (delta, rest) ← readNumber bias 36 1 0 digits
      let size := text.length + 1
      let moved := position + delta
      let code := code + moved / size
      let place := moved % size
      if isScalar code then
        readCodes bound code (place + 1) (adapt delta size isFirst) false
          (text.take place ++ code :: text.drop place) rest
      else none

/-- Reads a written form. The last hyphen ends the ASCII characters. -/
def decode? (written : List Char) : Option (List Nat) :=
  let numbers := (written.reverse.takeWhile (· != '-')).reverse
  let before := written.length - numbers.length
  let basic := (written.take (before - 1)).map Char.toNat
  let numbers := if before = 1 then written else numbers
  if basic.all (· < 128) then readCodes numbers.length 128 0 72 true basic numbers else none

end LinkShortener.DomainName.Punycode
