import LinkShortener.Text.Blank

/-!
# Instants

Points in time as seconds from the start of 1970 and nanoseconds within the second. During a leap
second the nanoseconds go on past the end of second 59. Dates follow the Gregorian calendar before
its introduction as well.
-/

namespace LinkShortener

/-- A point in time. -/
structure Instant where
  seconds : Int
  nanos : Nat
  deriving DecidableEq

structure CalendarDay where
  year : Int
  month : Nat
  day : Nat

namespace CalendarDay

/-- Days from the start of 1970. A year is taken to begin in March, so a leap day is its last. -/
def toDays (date : CalendarDay) : Int :=
  let year := if date.month ≤ 2 then date.year - 1 else date.year
  let era := Int.fdiv year 400
  let yearOfEra := Int.fmod year 400
  let monthFromMarch : Int := (date.month + 9) % 12
  let dayOfYear := (153 * monthFromMarch + 2) / 5 + date.day - 1
  let dayOfEra := yearOfEra * 365 + yearOfEra / 4 - yearOfEra / 100 + dayOfYear
  era * 146097 + dayOfEra - 719468

/-- The day that lies the given number of days after the start of 1970. -/
def ofDays (days : Int) : CalendarDay :=
  let shifted := days + 719468
  let era := Int.fdiv shifted 146097
  let dayOfEra := (Int.fmod shifted 146097).toNat
  let yearOfEra := (dayOfEra - dayOfEra / 1460 + dayOfEra / 36524 - dayOfEra / 146096) / 365
  let dayOfYear := dayOfEra - (365 * yearOfEra + yearOfEra / 4 - yearOfEra / 100)
  let monthFromMarch := (5 * dayOfYear + 2) / 153
  let day := dayOfYear - (153 * monthFromMarch + 2) / 5 + 1
  let month := if monthFromMarch < 10 then monthFromMarch + 3 else monthFromMarch - 9
  let year := era * 400 + yearOfEra
  { year := if month ≤ 2 then year + 1 else year, month, day }

def isLeapYear (year : Int) : Bool :=
  year % 4 == 0 && (year % 100 != 0 || year % 400 == 0)

def daysInMonth (year : Int) (month : Nat) : Nat :=
  if month == 2 then (if isLeapYear year then 29 else 28)
  else if month == 4 || month == 6 || month == 9 || month == 11 then 30
  else 31

def isValid (date : CalendarDay) : Bool :=
  1 ≤ date.month && date.month ≤ 12 && 1 ≤ date.day &&
    date.day ≤ daysInMonth date.year date.month

end CalendarDay

namespace Instant

/-- The earlier second comes first, and within a second the fewer nanoseconds. -/
def notAfter (first second : Instant) : Bool :=
  first.seconds < second.seconds ||
    (first.seconds == second.seconds && first.nanos ≤ second.nanos)

def before (first second : Instant) : Bool := !second.notAfter first

def later (instant : Instant) (seconds : Int) : Instant :=
  { instant with seconds := instant.seconds + seconds }

def laterByMicros (instant : Instant) (micros : Int) : Instant :=
  let nanos := instant.nanos + micros * 1000
  { seconds := instant.seconds + Int.fdiv nanos 1000000000
    nanos := (Int.fmod nanos 1000000000).toNat }

/-- The instant in whole microseconds, as tables keep it; a leap second runs into the next one. -/
def inMicros (instant : Instant) : Instant :=
  ({ instant with nanos := instant.nanos / 1000 * 1000 } : Instant).laterByMicros 0

/-- The first second of the year 262144 BC. -/
def firstSecond : Int := (CalendarDay.toDays ⟨-262143, 1, 1⟩) * 86400

/-- The last second of the year 262142. -/
def lastSecond : Int := (CalendarDay.toDays ⟨262143, 1, 1⟩) * 86400 - 1

/-- An instant in the supported years. A leap second can follow only second 59 of a minute. -/
def ofParts? (seconds : Int) (nanos : Nat) : Option Instant :=
  let inRange := firstSecond ≤ seconds ∧ seconds ≤ lastSecond
  let proper := nanos < 1000000000 ∨ (nanos < 2000000000 ∧ seconds % 60 = 59)
  if inRange ∧ proper then some ⟨seconds, nanos⟩ else none

/-- A number with leading zeros. -/
def padded (width number : Nat) : List Char :=
  let digits := (toString number).toList
  List.replicate (width - digits.length) '0' ++ digits

/-- A year of four digits, with a sign and at least four digits outside the years 0 to 9999. -/
def yearText (year : Int) : List Char :=
  if 0 ≤ year ∧ year ≤ 9999 then padded 4 year.toNat
  else (if year < 0 then '-' else '+') :: padded 4 year.natAbs

def date (instant : Instant) : CalendarDay :=
  CalendarDay.ofDays (Int.fdiv instant.seconds 86400)

def dateText (instant : Instant) : List Char :=
  let date := instant.date
  yearText date.year ++ '-' :: padded 2 date.month ++ '-' :: padded 2 date.day

def clockText (instant : Instant) : List Char :=
  let second := (Int.fmod instant.seconds 86400).toNat
  padded 2 (second / 3600) ++ ':' :: padded 2 (second / 60 % 60) ++ ':' ::
    padded 2 (second % 60 + instant.nanos / 1000000000)

/-- The fraction of the second: none, or 3, 6 or 9 digits, the fewest that are exact. -/
def fractionText (instant : Instant) : List Char :=
  let nanos := instant.nanos % 1000000000
  if nanos == 0 then []
  else if nanos % 1000000 == 0 then '.' :: padded 3 (nanos / 1000000)
  else if nanos % 1000 == 0 then '.' :: padded 6 (nanos / 1000)
  else '.' :: padded 9 nanos

/-- Date and time in UTC, such as `2024-01-15T10:30:00Z`. -/
def toText (instant : Instant) : String :=
  String.ofList (instant.dateText ++ 'T' :: instant.clockText ++ instant.fractionText ++ ['Z'])

/-- Date and time to the second for an operator, such as `2024-01-15 10:30:00`. -/
def toPlainText (instant : Instant) : String :=
  String.ofList (instant.dateText ++ ' ' :: instant.clockText)

/-! ## Reading -/

def valueOf (digits : List Char) : Nat :=
  digits.foldl (fun value c => value * 10 + (c.toNat - 48)) 0

/-- A number of at most so many digits, and the rest. -/
def readNumber? (width : Nat) (text : List Char) : Option (Nat × List Char) :=
  let digits := (text.take width).takeWhile Char.isDigit
  if digits.isEmpty then none else some (valueOf digits, text.drop digits.length)

/-- What follows the blanks at the front. -/
def skipBlanks (text : List Char) : List Char := text.dropWhile Text.isBlank

/-- One of the parts of a date or a time, with up to two digits. Blanks may precede it. -/
def readPart? (text : List Char) : Option (Nat × List Char) := readNumber? 2 (skipBlanks text)

def expect? (allowed : List Char) : List Char → Option (List Char)
  | first :: rest => if allowed.contains first then some rest else none
  | [] => none

/-- A mark between two parts. Blanks may precede it. -/
def readMark? (mark : Char) (text : List Char) : Option (List Char) :=
  expect? [mark] (skipBlanks text)

/-- A year of up to four digits, or a signed one of any length. -/
def readYear? (text : List Char) : Option (Int × List Char) :=
  match skipBlanks text with
  | '+' :: rest => (readNumber? rest.length rest).map fun (value, rest) => (Int.ofNat value, rest)
  | '-' :: rest => (readNumber? rest.length rest).map fun (value, rest) => (-Int.ofNat value, rest)
  | text => (readNumber? 4 text).map fun (value, rest) => (Int.ofNat value, rest)

/-- The fraction of a second in nanoseconds; digits after the ninth are dropped. -/
def readFraction? : List Char → Option (Nat × List Char)
  | '.' :: rest =>
    let kept := (rest.take 9).takeWhile Char.isDigit
    if kept.isEmpty then none
    else some (valueOf kept * Nat.pow 10 (9 - kept.length), rest.dropWhile Char.isDigit)
  | text => some (0, text)

/-- Exactly two digits. -/
def readPair? : List Char → Option (Nat × List Char)
  | tens :: ones :: rest =>
    if tens.isDigit && ones.isDigit then some (valueOf [tens, ones], rest) else none
  | _ => none

/-- The direction of a distance from UTC. -/
def readSign? : List Char → Option (Int × List Char)
  | '+' :: rest => some (1, rest)
  | '-' :: rest => some (-1, rest)
  | '\u2212' :: rest => some (-1, rest)
  | _ => none

/-- The distance of a zone from UTC in seconds. Colons and blanks may stand before the minutes. -/
def readZone? (text : List Char) : Option (Int × List Char) :=
  if (String.ofList (text.take 3)).toLower == "utc" then some (0, text.drop 3)
  else if text.head? == some 'Z' || text.head? == some 'z' then some (0, text.drop 1)
  else do
    let (sign, rest) ← readSign? text
    let (hours, rest) ← readPair? rest
    let (minutes, rest) ← readPair? (rest.dropWhile fun c => c == ':' || Text.isBlank c)
    if minutes < 60 ∧ hours < 24 then some (sign * (hours * 3600 + minutes * 60), rest) else none

/-- Reads a date and time with its zone. Second 60 is a leap second. Only the mark between date and
time stands where it must; blanks may stand between all other parts. -/
def ofText? (text : String) : Option Instant := do
  let (year, rest) ← readYear? text.toList
  let (month, rest) ← readPart? (← readMark? '-' rest)
  let (day, rest) ← readPart? (← readMark? '-' rest)
  let (hour, rest) ← readPart? (← expect? ['T', 't', ' '] rest)
  let (minute, rest) ← readPart? (← readMark? ':' rest)
  let (second, rest) ← readPart? (← readMark? ':' rest)
  let (fraction, rest) ← readFraction? rest
  let (zone, rest) ← readZone? (skipBlanks rest)
  let date : CalendarDay := { year, month, day }
  if (skipBlanks rest).isEmpty ∧ date.isValid ∧ hour < 24 ∧ minute < 60 ∧ second ≤ 60 then
    let leap := second == 60
    let clock : Int := hour * 3600 + minute * 60 + (if leap then 59 else second)
    ofParts? (date.toDays * 86400 + clock - zone) (if leap then fraction + 1000000000 else fraction)
  else none

end Instant

end LinkShortener
