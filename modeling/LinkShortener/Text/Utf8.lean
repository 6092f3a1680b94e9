/-!
# Bytes as text

Reads bytes as UTF-8. Where a byte sequence is not well formed, the longest part that could still
have begun a character is set aside as one broken piece, as the Unicode standard recommends.
-/

namespace LinkShortener.Text

/-- A stretch of decoded bytes: one character, or bytes that belong to none. -/
inductive Piece where
  | char (c : Char)
  | broken (bytes : List UInt8)
  deriving DecidableEq

/-- A byte that continues a character of several bytes. -/
def isContinuation (byte : UInt8) : Bool :=
  0x80 ≤ byte && byte < 0xC0

/-- The second bytes that may follow a lead byte of three or four bytes. -/
def maySecond (lead second : UInt8) : Bool :=
  if lead == 0xE0 then 0xA0 ≤ second && second < 0xC0
  else if lead == 0xED then 0x80 ≤ second && second < 0xA0
  else if lead == 0xF0 then 0x90 ≤ second && second < 0xC0
  else if lead == 0xF4 then 0x80 ≤ second && second < 0x90
  else isContinuation second

/-- The low six bits of a continuation byte. -/
def payload (byte : UInt8) : Nat :=
  byte.toNat % 64

/-- The pieces of a run of bytes, in order. -/
def pieces : List UInt8 → List Piece
  | [] => []
  | lead :: rest =>
    if lead < 0x80 then .char (Char.ofNat lead.toNat) :: pieces rest
    else if lead < 0xC2 then .broken [lead] :: pieces rest
    else if lead < 0xE0 then
      match rest with
      | second :: others =>
        if isContinuation second then
          .char (Char.ofNat (lead.toNat % 32 * 64 + payload second)) :: pieces others
        else .broken [lead] :: pieces (second :: others)
      | [] => [.broken [lead]]
    else if lead < 0xF0 then
      match rest with
      | second :: third :: others =>
        if maySecond lead second then
          if isContinuation third then
            .char (Char.ofNat (lead.toNat % 16 * 4096 + payload second * 64 + payload third)) ::
              pieces others
          else .broken [lead, second] :: pieces (third :: others)
        else .broken [lead] :: pieces (second :: third :: others)
      | [second] =>
        if maySecond lead second then [.broken [lead, second]]
        else .broken [lead] :: pieces [second]
      | [] => [.broken [lead]]
    else if lead < 0xF5 then
      match rest with
      | second :: third :: fourth :: others =>
        if maySecond lead second then
          if isContinuation third then
            if isContinuation fourth then
              .char (Char.ofNat (lead.toNat % 8 * 262144 + payload second * 4096 +
                payload third * 64 + payload fourth)) :: pieces others
            else .broken [lead, second, third] :: pieces (fourth :: others)
          else .broken [lead, second] :: pieces (third :: fourth :: others)
        else .broken [lead] :: pieces (second :: third :: fourth :: others)
      | [second, third] =>
        if maySecond lead second then
          if isContinuation third then [.broken [lead, second, third]]
          else .broken [lead, second] :: pieces [third]
        else .broken [lead] :: pieces [second, third]
      | [second] =>
        if maySecond lead second then [.broken [lead, second]]
        else .broken [lead] :: pieces [second]
      | [] => [.broken [lead]]
    else .broken [lead] :: pieces rest
termination_by bytes => bytes.length

/-- The characters of well-formed bytes; nothing if any byte belongs to no character. -/
def decodeUtf8? (bytes : List UInt8) : Option (List Char) :=
  (pieces bytes).mapM fun
    | .char c => some c
    | .broken _ => none

/-- The characters of the bytes with a replacement character for each broken piece. -/
def decodeUtf8Lossy (bytes : List UInt8) : String :=
  String.ofList <| (pieces bytes).map fun
    | .char c => c
    | .broken _ => '\ufffd'

/-- Where bytes stop being text: at bytes that belong to no character, or within the last one. -/
inductive Utf8Error where
  | invalid (index length : Nat)
  | incomplete (index : Nat)
  deriving DecidableEq

def Utf8Error.message : Utf8Error → String
  | .invalid index length =>
    "invalid utf-8 sequence of " ++ toString length ++ " bytes from index " ++ toString index
  | .incomplete index => "incomplete utf-8 byte sequence from index " ++ toString index

def firstError? (index : Nat) : List Piece → Option Utf8Error
  | [] => none
  | .char c :: rest => firstError? (index + c.utf8Size) rest
  | .broken bytes :: rest =>
    let mayGoOn := rest.isEmpty && bytes.head?.any fun lead => 0xC2 ≤ lead && lead < 0xF5
    some (if mayGoOn then .incomplete index else .invalid index bytes.length)

def utf8Error? (bytes : List UInt8) : Option Utf8Error := firstError? 0 (pieces bytes)

def encodeUtf8 (text : String) : List UInt8 :=
  text.toUTF8.toList

end LinkShortener.Text
