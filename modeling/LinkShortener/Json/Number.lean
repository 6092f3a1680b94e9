import LinkShortener.Decimal.Shortest
import LinkShortener.Json.Scanner

/-!
# JSON numbers

A whole number that fits in 64 bits is kept exactly. Any other number, and minus zero, is a binary
floating-point number: nineteen or so leading digits are taken as a whole number and scaled by one
power of ten.
-/

namespace LinkShortener.Json

/-- A number that was read. -/
inductive Number where
  | whole (value : Int)
  | floating (value : Float)

def largestWord : Nat := 18446744073709551615

/-- The number `significand * 10 ^ exponent`, unless it is too large. A tiny number is divided in
steps of the largest power of ten. -/
def scaleFloat? (significand : Nat) (exponent : Int) : Option Float :=
  let start := (UInt64.ofNat significand).toFloat
  let power (n : Nat) : Float := Float.ofScientific 1 false n
  if 0 ≤ exponent then
    if exponent ≤ 308 then
      let value := start * power exponent.toNat
      if value.isInf then none else some value
    else if significand == 0 then some start
    else none
  else
    let rec divide (steps : Nat) (value : Float) (remaining : Nat) : Float :=
      match steps with
      | 0 => value
      | steps + 1 =>
        if remaining ≤ 308 then value / power remaining
        else if value == 0 then value
        else divide steps (value / power 308) (remaining - 308)
    some (divide 4 start (-exponent).toNat)

def floating? (positive : Bool) (significand : Nat) (exponent : Int) : Option Number :=
  (scaleFloat? significand exponent).map fun value => .floating (if positive then value else -value)

/-- The digits at the front of the bytes, and the rest. -/
def spanDigits (bytes : List UInt8) : List Nat × List UInt8 :=
  let (digits, rest) := bytes.span isDigitByte
  (digits.map fun byte => byte.toNat - 0x30, rest)

/-- Adds digits to a significand as long as it fits in 64 bits; returns how many were taken. -/
def takeDigits (significand : Nat) : List Nat → Nat × Nat
  | [] => (significand, 0)
  | digit :: rest =>
    if significand * 10 + digit ≤ largestWord then
      let (total, taken) := takeDigits (significand * 10 + digit) rest
      (total, taken + 1)
    else (significand, 0)

/-- The value of the exponent digits; nothing once they exceed 31 bits. -/
def exponentValue? (digits : List Nat) : Option Nat :=
  let value := digits.foldl (fun total digit => min (total * 10 + digit) 2147483648) 0
  if value < 2147483648 then some value else none

def readExponent (positive : Bool) (significand : Nat) (exponent : Int) (bytes : List UInt8) :
    Option (Number × List UInt8) :=
  let (raises, bytes) := match bytes with
    | 0x2B :: rest => (true, rest)
    | 0x2D :: rest => (false, rest)
    | rest => (true, rest)
  let (digits, rest) := spanDigits bytes
  if digits.isEmpty then none
  else match exponentValue? digits with
    | some value =>
      let total := if raises then exponent + value else exponent - value
      (floating? positive significand total).map (·, rest)
    | none =>
      if significand ≠ 0 ∧ raises then none
      else some (.floating (if positive then 0.0 else -0.0), rest)

/-- The part of a number after its point. -/
def readFraction (positive : Bool) (significand : Nat) (exponent : Int) (bytes : List UInt8) :
    Option (Number × List UInt8) :=
  let (digits, rest) := spanDigits bytes
  if digits.isEmpty then none
  else
    let (significand, taken) := takeDigits significand digits
    let exponent := exponent - taken
    match rest with
    | 0x65 :: rest => readExponent positive significand exponent rest
    | 0x45 :: rest => readExponent positive significand exponent rest
    | rest => (floating? positive significand exponent).map (·, rest)

/-- A number without point and exponent whose digits fit in 64 bits. -/
def wholeNumber? (positive : Bool) (significand : Nat) : Option Number :=
  if positive then some (.whole significand)
  else if significand == 0 ∨ 9223372036854775808 < significand then floating? false significand 0
  else some (.whole (-significand))

def readUnsigned (positive : Bool) (bytes : List UInt8) : Option (Number × List UInt8) :=
  let (digits, rest) := spanDigits bytes
  match digits with
  | [] => none
  | 0 :: _ :: _ => none
  | digits =>
    let (significand, taken) := takeDigits 0 digits
    let beyond := digits.length - taken
    match rest with
    | 0x2E :: rest => readFraction positive significand beyond rest
    | 0x65 :: rest => readExponent positive significand beyond rest
    | 0x45 :: rest => readExponent positive significand beyond rest
    | rest =>
      if beyond == 0 then (wholeNumber? positive significand).map (·, rest)
      else (floating? positive significand beyond).map (·, rest)

def readNumber (bytes : List UInt8) : Option (Number × List UInt8) :=
  match bytes with
  | 0x2D :: rest => readUnsigned false rest
  | rest => readUnsigned true rest

/-- Shortest digits, positional from five places after the point to sixteen before it, with at least
one place after the point; beyond that with an exponent such as `1e+21`. -/
def floatText (value : Float) : String :=
  let bits := value.toBits
  let sign := if Decimal.signBit ≤ bits.toNat then "-" else ""
  if bits.toNat % Decimal.signBit == 0 then sign ++ "0.0"
  else
    let shortest := Decimal.shortest bits
    let count := shortest.digits.length
    let digits := String.ofList shortest.digits
    let body :=
      if -5 ≤ shortest.exponent ∧ shortest.exponent < 0 then
        "0." ++ String.ofList (List.replicate (-shortest.exponent - 1).toNat '0') ++ digits
      else if 0 ≤ shortest.exponent ∧ shortest.exponent ≤ 15 then
        let before := shortest.exponent.toNat + 1
        if count ≤ before then
          digits ++ String.ofList (List.replicate (before - count) '0') ++ ".0"
        else
          String.ofList (shortest.digits.take before) ++ "." ++
            String.ofList (shortest.digits.drop before)
      else
        let mantissa := match shortest.digits with
          | [] => ""
          | [only] => String.ofList [only]
          | first :: others => String.ofList (first :: '.' :: others)
        let mark := if 0 ≤ shortest.exponent then "e+" else "e-"
        mantissa ++ mark ++ toString shortest.exponent.natAbs
    sign ++ body

def Number.describe : Number → String
  | .whole value => "integer `" ++ toString value ++ "`"
  | .floating value => "floating point `" ++ floatText value ++ "`"

end LinkShortener.Json
