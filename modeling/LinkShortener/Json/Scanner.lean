/-!
# Skipping a JSON value

A pushdown machine over bytes that finds the end of one JSON value without keeping it. It checks the
grammar of every byte, at any depth, but not that the text of strings is well formed beyond that:
bytes that are no UTF-8 and escapes of half a surrogate pair pass, because nothing reads them.
-/

namespace LinkShortener.Json

/-- The bytes JSON allows between tokens. -/
def isSpaceByte (byte : UInt8) : Bool :=
  byte == 0x20 || byte == 0x0A || byte == 0x09 || byte == 0x0D

def isDigitByte (byte : UInt8) : Bool :=
  0x30 ≤ byte && byte ≤ 0x39

def isHexByte (byte : UInt8) : Bool :=
  isDigitByte byte || (0x41 ≤ byte && byte ≤ 0x46) || (0x61 ≤ byte && byte ≤ 0x66)

/-- A container that is still open. -/
inductive Container where
  | array
  | object
  deriving DecidableEq

/-- How far a number has been read. -/
inductive NumberPart where
  | sign
  | zero
  | whole
  | point
  | fraction
  | exponentMark
  | exponentSign
  | exponent
  deriving DecidableEq

/-- What the machine has seen of the value at hand. -/
inductive Scan where
  | value
  | firstItem
  | firstKey
  | key
  | colon
  | afterValue
  | string (isKey : Bool)
  | escape (isKey : Bool)
  | hex (isKey : Bool) (missing : Nat)
  | number (part : NumberPart)
  | literal (missing : List UInt8)
  deriving DecidableEq

/-- The result of one byte. `ended` means that the value was over before the byte. -/
inductive ScanStep where
  | next (scan : Scan) (containers : List Container)
  | ended
  | completed
  | malformed

/-- Whether a number may end after this part. -/
def NumberPart.isComplete : NumberPart → Bool
  | .zero | .whole | .fraction | .exponent => true
  | .sign | .point | .exponentMark | .exponentSign => false

/-- The part that a byte leads to; nothing if the byte cannot continue the number. -/
def NumberPart.step? (part : NumberPart) (byte : UInt8) : Option NumberPart :=
  let isExponentMark := byte == 0x65 || byte == 0x45
  match part with
  | .sign => if byte == 0x30 then some .zero else if isDigitByte byte then some .whole else none
  | .zero =>
    if byte == 0x2E then some .point else if isExponentMark then some .exponentMark else none
  | .whole =>
    if isDigitByte byte then some .whole
    else if byte == 0x2E then some .point
    else if isExponentMark then some .exponentMark
    else none
  | .point => if isDigitByte byte then some .fraction else none
  | .fraction =>
    if isDigitByte byte then some .fraction
    else if isExponentMark then some .exponentMark
    else none
  | .exponentMark =>
    if isDigitByte byte then some .exponent
    else if byte == 0x2B || byte == 0x2D then some .exponentSign
    else none
  | .exponentSign => if isDigitByte byte then some .exponent else none
  | .exponent => if isDigitByte byte then some .exponent else none

/-- A value has just been completed. -/
def ScanStep.complete : List Container → ScanStep
  | [] => .completed
  | containers => .next .afterValue containers

/-- The first byte of a value. -/
def scanStart (containers : List Container) (byte : UInt8) : ScanStep :=
  if byte == 0x22 then .next (.string false) containers
  else if byte == 0x5B then .next .firstItem (.array :: containers)
  else if byte == 0x7B then .next .firstKey (.object :: containers)
  else if byte == 0x2D then .next (.number .sign) containers
  else if byte == 0x30 then .next (.number .zero) containers
  else if isDigitByte byte then .next (.number .whole) containers
  else if byte == 0x6E then .next (.literal [0x75, 0x6C, 0x6C]) containers
  else if byte == 0x74 then .next (.literal [0x72, 0x75, 0x65]) containers
  else if byte == 0x66 then .next (.literal [0x61, 0x6C, 0x73, 0x65]) containers
  else .malformed

def scanAfter (containers : List Container) (byte : UInt8) : ScanStep :=
  match containers with
  | [] => .ended
  | .array :: outer =>
    if byte == 0x2C then .next .value containers
    else if byte == 0x5D then .complete outer
    else if isSpaceByte byte then .next .afterValue containers
    else .malformed
  | .object :: outer =>
    if byte == 0x2C then .next .key containers
    else if byte == 0x7D then .complete outer
    else if isSpaceByte byte then .next .afterValue containers
    else .malformed

def scanStep (scan : Scan) (containers : List Container) (byte : UInt8) : ScanStep :=
  match scan with
  | .value => if isSpaceByte byte then .next .value containers else scanStart containers byte
  | .firstItem =>
    if isSpaceByte byte then .next .firstItem containers
    else if byte == 0x5D then .complete (containers.drop 1)
    else scanStart containers byte
  | .firstKey =>
    if isSpaceByte byte then .next .firstKey containers
    else if byte == 0x22 then .next (.string true) containers
    else if byte == 0x7D then .complete (containers.drop 1)
    else .malformed
  | .key =>
    if isSpaceByte byte then .next .key containers
    else if byte == 0x22 then .next (.string true) containers
    else .malformed
  | .colon =>
    if isSpaceByte byte then .next .colon containers
    else if byte == 0x3A then .next .value containers
    else .malformed
  | .afterValue => scanAfter containers byte
  | .string isKey =>
    if byte == 0x22 then if isKey then .next .colon containers else .complete containers
    else if byte == 0x5C then .next (.escape isKey) containers
    else if byte < 0x20 then .malformed
    else .next (.string isKey) containers
  | .escape isKey =>
    if byte == 0x75 then .next (.hex isKey 4) containers
    else if [0x22, 0x5C, 0x2F, 0x62, 0x66, 0x6E, 0x72, 0x74].contains byte then
      .next (.string isKey) containers
    else .malformed
  | .hex isKey missing =>
    if isHexByte byte then
      if missing ≤ 1 then .next (.string isKey) containers
      else .next (.hex isKey (missing - 1)) containers
    else .malformed
  | .number part =>
    match part.step? byte with
    | some next => .next (.number next) containers
    | none =>
      if part.isComplete then
        if part == .zero && isDigitByte byte then .malformed else scanAfter containers byte
      else .malformed
  | .literal missing =>
    match missing with
    | [] => .malformed
    | [last] => if byte == last then .complete containers else .malformed
    | expected :: others =>
      if byte == expected then .next (.literal others) containers else .malformed

/-- What is left after the value at hand; nothing if the value is malformed or cut off. -/
def scanFrom (scan : Scan) (containers : List Container) : List UInt8 → Option (List UInt8)
  | [] =>
    match scan, containers with
    | .number part, [] => if part.isComplete then some [] else none
    | _, _ => none
  | byte :: rest =>
    match scanStep scan containers byte with
    | .next scan containers => scanFrom scan containers rest
    | .ended => some (byte :: rest)
    | .completed => some rest
    | .malformed => none

def skipValue (bytes : List UInt8) : Option (List UInt8) :=
  scanFrom .value [] bytes

end LinkShortener.Json
