/-!
# Decimal numerals

Whole numbers up to a bound, written in ASCII digits. A numeral that is not one fails at the first
character that is wrong: it is no digit, or the number so far is beyond the bound.
-/

namespace LinkShortener.Text

/-- Why a text is no number within a bound. -/
inductive NumeralError where
  | empty
  | notDigit
  | tooLarge
  deriving DecidableEq

def NumeralError.message : NumeralError → String
  | .empty => "cannot parse integer from empty string"
  | .notDigit => "invalid digit found in string"
  | .tooLarge => "number too large to fit in target type"

/-- Reads digits after those that made up `value`. -/
def readDigits (largest value : Nat) : List Char → Except NumeralError Nat
  | [] => .ok value
  | c :: rest =>
    if !c.isDigit then .error .notDigit
    else
      let value := value * 10 + (c.toNat - 48)
      if largest < value then .error .tooLarge else readDigits largest value rest

/-- Reads a number: digits after an optional plus sign. -/
def readNumeral (largest : Nat) : List Char → Except NumeralError Nat
  | [] => .error .empty
  | ['+'] => .error .notDigit
  | '+' :: digits => readDigits largest 0 digits
  | digits => readDigits largest 0 digits

/-- The value of a run of digits within a bound. -/
def ofDigits? (largest : Nat) (digits : List Char) : Option Nat :=
  if digits.isEmpty then none else (readDigits largest 0 digits).toOption

/-- The largest number of 16 bits. -/
def largestWord : Nat := 65535

/-- The largest number of 32 bits. -/
def largestShort : Nat := 4294967295

/-- The largest number of 64 bits. -/
def largestLong : Nat := 18446744073709551615

/-- Whether a text is a whole number of 64 bits with an optional sign. -/
def isSignedLong (text : List Char) : Bool :=
  match text with
  | '-' :: digits => (ofDigits? 9223372036854775808 digits).isSome
  | text => (readNumeral 9223372036854775807 text).isOk

end LinkShortener.Text
