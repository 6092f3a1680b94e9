/-!
# Hexadecimal digits

A digit is a number below sixteen. It is written in lower case and read in either case.
-/

namespace LinkShortener.Text

def lastDigit (number : Nat) : Fin 16 := Fin.ofNat 16 number

/-- The lower-case digit of a number below sixteen. -/
def hexDigit (digit : Fin 16) : Char :=
  if digit.val < 10 then Char.ofNat (48 + digit.val) else Char.ofNat (87 + digit.val)

/-- Reads one hexadecimal digit of either case. -/
def hexValue? (c : Char) : Option (Fin 16) :=
  let code := c.toNat
  if 48 ≤ code ∧ code ≤ 57 then some (lastDigit (code - 48))
  else if 97 ≤ code ∧ code ≤ 102 then some (lastDigit (code - 87))
  else if 65 ≤ code ∧ code ≤ 70 then some (lastDigit (code - 55))
  else none

theorem hexValue?_hexDigit (digit : Fin 16) : hexValue? (hexDigit digit) = some digit := by
  revert digit
  decide

/-- The two digits of a byte, high digit first. -/
def hexOfByte (byte : UInt8) : List Char :=
  [hexDigit (lastDigit (byte.toNat / 16)), hexDigit (lastDigit byte.toNat)]

/-- The digits of a run of bytes. -/
def hexOfBytes (bytes : List UInt8) : String :=
  String.ofList (bytes.flatMap hexOfByte)

/-- A number in lower-case hexadecimal without leading zeros. -/
def hexOfNat (number : Nat) : String :=
  String.ofList (Nat.toDigits 16 number)

/-- The number that a run of digits stands for. -/
def natOfHex (digits : List (Fin 16)) : Nat :=
  digits.foldl (fun total digit => total * 16 + digit.val) 0

end LinkShortener.Text
