/-!
# Shortest decimal digits

The fewest decimal digits that read back as the same binary floating-point number, and among those
the digits nearest to it.
-/

namespace LinkShortener.Decimal

/-- The positive number `significand * 2 ^ (exponent - 2)` with the bounds of the numbers that round
to it, all over the same power of two. The bounds themselves round to it exactly when the
significand of the floating-point number is even. -/
structure Interval where
  low : Nat
  value : Nat
  high : Nat
  exponent : Int
  closed : Bool

/-- The value of the bit of the sign in the binary64 representation. -/
def signBit : Nat := Nat.pow 2 63

def exponentBit : Nat := Nat.pow 2 52

/-- The interval of a positive finite number, from its binary64 representation. -/
def Interval.ofBits (bits : UInt64) : Interval :=
  let stored := bits.toNat % exponentBit
  let scale := bits.toNat / exponentBit % 2048
  let significand := if scale == 0 then stored else stored + exponentBit
  let narrow := stored == 0 && 1 < scale
  { low := if narrow then 4 * significand - 1 else 4 * significand - 2
    value := 4 * significand
    high := 4 * significand + 2
    exponent := (max 1 scale : Nat) - (1077 : Int)
    closed := significand % 2 == 0 }

/-- Decimal digits without trailing zeros and the power of ten of the first of them. -/
structure Digits where
  digits : List Char
  exponent : Int

/-- Numbers over a common denominator: the powers of two and ten that make all of them whole. -/
def Interval.scaled (interval : Interval) (grid : Int) (number : Nat) : Nat :=
  number * Nat.pow 2 interval.exponent.toNat * Nat.pow 10 (-grid).toNat

/-- One step of the decimal grid over that denominator. -/
def Interval.gridStep (interval : Interval) (grid : Int) : Nat :=
  Nat.pow 2 (-interval.exponent).toNat * Nat.pow 10 grid.toNat

/-- Whether a point of the decimal grid rounds to the number. -/
def Interval.holds (interval : Interval) (grid : Int) (point : Nat) : Bool :=
  let position := point * interval.gridStep grid
  let low := interval.scaled grid interval.low
  let high := interval.scaled grid interval.high
  if interval.closed then low ≤ position && position ≤ high
  else low < position && position < high

/-- The point of the grid nearest to the number among its two neighbours that round to it. -/
def Interval.onGrid? (interval : Interval) (grid : Int) : Option Nat :=
  let value := interval.scaled grid interval.value
  let step := interval.gridStep grid
  let below := value / step
  let belowHolds := interval.holds grid below
  let aboveHolds := interval.holds grid (below + 1)
  if belowHolds && aboveHolds then
    let distanceBelow := value - below * step
    let distanceAbove := (below + 1) * step - value
    if distanceBelow < distanceAbove then some below
    else if distanceAbove < distanceBelow then some (below + 1)
    else if below % 2 == 0 then some below else some (below + 1)
  else if belowHolds then some below
  else if aboveHolds then some (below + 1)
  else none

/-- The power of ten of the first digit. -/
def Interval.leadingExponent (interval : Interval) : Int :=
  let exponents := (List.range 640).map fun (step : Nat) => (310 : Int) - step
  (exponents.find? fun grid => interval.gridStep grid ≤ interval.scaled grid interval.value).getD 0

/-- The digits of a positive finite number. Seventeen always suffice. -/
def shortest (bits : UInt64) : Digits :=
  let interval := Interval.ofBits bits
  let leading := interval.leadingExponent
  let found := (List.range 17).findSome? fun (more : Nat) =>
    let grid := leading - (more : Int)
    (interval.onGrid? grid).map fun point => (point, grid)
  let (point, grid) := found.getD (0, 0)
  let written := (toString point).toList
  { digits := (written.reverse.dropWhile (· == '0')).reverse
    exponent := grid + written.length - 1 }

end LinkShortener.Decimal
