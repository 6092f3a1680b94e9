/-!
# Durations

Spans of time in whole nanoseconds. The largest span has as many seconds as fit in 64 bits, and a
product that would be larger is cut to it.
-/

namespace LinkShortener

/-- A span of time. -/
structure Duration where
  nanoseconds : Nat
  deriving DecidableEq

namespace Duration

def perSecond : Nat := 1000000000

def longest : Duration := ⟨18446744073709551615 * perSecond + (perSecond - 1)⟩

def zero : Duration := ⟨0⟩

def ofSeconds (seconds : Nat) : Duration := ⟨seconds * perSecond⟩

def ofMilliseconds (milliseconds : Nat) : Duration := ⟨milliseconds * 1000000⟩

/-- Seconds and nanoseconds together, unless the span would be too long. -/
def ofParts? (seconds nanoseconds : Nat) : Option Duration :=
  let total := seconds * perSecond + nanoseconds
  if total ≤ longest.nanoseconds then some ⟨total⟩ else none

/-- The whole seconds of a span. -/
def seconds (duration : Duration) : Nat := duration.nanoseconds / perSecond

def subsecond (duration : Duration) : Nat := duration.nanoseconds % perSecond

/-- Whole milliseconds, of which 64 bits are kept. -/
def milliseconds (duration : Duration) : Nat :=
  duration.nanoseconds / 1000000 % 18446744073709551616

/-- A multiple of a span, cut to the longest span. -/
def scaled (duration : Duration) (factor : Nat) : Duration :=
  ⟨min (duration.nanoseconds * factor) longest.nanoseconds⟩

/-- A quarter of a span, without the rest of the division. -/
def quarter (duration : Duration) : Duration := ⟨duration.nanoseconds / 4⟩

/-- The sum of two spans, unless it would be too long. -/
def sum? (first second : Duration) : Option Duration :=
  let total := first.nanoseconds + second.nanoseconds
  if total ≤ longest.nanoseconds then some ⟨total⟩ else none

/-- The most seconds that a clock can be set ahead. It counts them in 63 bits, and some of that has
passed already. -/
def clockLimit : Nat := 9223372036854770000

/-- Whether a clock can be set ahead by a span. -/
def fitsClock (duration : Duration) : Bool := duration.seconds ≤ clockLimit

/-- What the program says when it sets a clock too far ahead. -/
def clockOverflowText : String := "overflow when adding duration to instant"

/-- A product that fits is exact. -/
theorem nanoseconds_scaled {duration : Duration} {factor : Nat}
    (fits : duration.nanoseconds * factor ≤ longest.nanoseconds) :
    (duration.scaled factor).nanoseconds = duration.nanoseconds * factor :=
  Nat.min_eq_left fits

end Duration

end LinkShortener
