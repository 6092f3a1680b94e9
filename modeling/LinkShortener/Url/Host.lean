import LinkShortener.Address.Ip
import LinkShortener.DomainName.Ascii
import LinkShortener.Text.Percent

/-!
# Hosts of URLs

The host in a URL is an address in brackets, a domain name, or four numbers that stand for an
address. Under most schemes the name of a host is opaque; under those of the web it is a domain
name.
-/

namespace LinkShortener.Url

/-- Why a text is no URL. -/
inductive Problem where
  | noScheme
  | emptyHost
  | port
  | ipv4
  | ipv6
  | hostCharacter
  | domainName
  deriving DecidableEq

def Problem.message : Problem → String
  | .noScheme => "relative URL without a base"
  | .emptyHost => "empty host"
  | .port => "invalid port number"
  | .ipv4 => "invalid IPv4 address"
  | .ipv6 => "invalid IPv6 address"
  | .hostCharacter => "invalid domain character"
  | .domainName => "invalid international domain name"

inductive Host where
  | name (text : List Char)
  | address (ip : IpAddress)
  deriving DecidableEq

namespace Host

/-- Characters that no host has in its name. -/
def isForbidden (c : Char) : Bool :=
  ['\x00', '\t', '\n', '\r', ' ', '#', '/', ':', '<', '>', '?', '@', '[', '\\', ']', '^',
    '|'].contains c

/-- Characters that no domain name has. -/
def isForbiddenInDomain (c : Char) : Bool :=
  isForbidden c || c.toNat < 0x20 || c == '%' || c.toNat = 0x7F

/-- An address of version 6 behind its opening bracket. -/
def ofBracketed (text : List Char) : Except Problem Host :=
  if text.getLast? = some ']' then
    match IpAddress.readEight? text.dropLast with
    | some words => .ok (.address (.v6 words))
    | none => .error .ipv6
  else .error .ipv6

def valueOf (base : Nat) (digits : List (Fin 16)) : Nat :=
  digits.foldl (fun value digit => value * base + digit.val) 0

/-- Reads digits of a base; no digits at all are zero. -/
def readDigits? (base : Nat) (text : List Char) : Option Nat := do
  let digits ← text.mapM Text.hexValue?
  if digits.all fun digit => digit.val < base then some (valueOf base digits) else none

/-- Reads one of the numbers of an address: in hexadecimal after `0x`, in octal after `0`. -/
def readNumber? : List Char → Option Nat
  | [] => none
  | '0' :: 'x' :: digits => readDigits? 16 digits
  | '0' :: 'X' :: digits => readDigits? 16 digits
  | ['0'] => some 0
  | '0' :: digits => readDigits? 8 digits
  | digits => readDigits? 10 digits

/-- The labels of a domain name; an empty one at the end does not count. -/
def labels (domain : List Char) : List (List Char) :=
  let labels := domain.splitOn '.'
  if 1 < labels.length && labels.getLast? = some [] then labels.dropLast else labels

/-- Whether a domain name ends in a number, and therefore stands for an address. -/
def endsInNumber (domain : List Char) : Bool :=
  match (labels domain).getLast? with
  | none => false
  | some last => (!last.isEmpty && last.all Char.isDigit) || (readNumber? last).isSome

/-- The four bytes of an address. -/
def bytesOf (value : Nat) : List Nat :=
  [value / 16777216 % 256, value / 65536 % 256, value / 256 % 256, value % 256]

/-- The address that up to four numbers stand for. All but the last are bytes; the last one fills
the bytes that are left. -/
def addressOf? (numbers : List Nat) : Option IpAddress :=
  match numbers.reverse with
  | [] => none
  | last :: before =>
    let leading := before.reverse.foldl (fun value number => value * 256 + number) 0
    let width := Nat.pow 256 (4 - before.length)
    if numbers.length ≤ 4 && before.all (· ≤ 255) && last < width then
      some (.v4 (bytesOf (leading * width + last)))
    else none

def ofDomainName (text : List Char) : Except Problem Host :=
  match (Text.decodeUtf8? (Text.percentDecoded text)).bind DomainName.toAscii? with
  | none => .error .domainName
  | some domain =>
    if domain.any isForbiddenInDomain then .error .domainName
    else if domain.isEmpty then .error .emptyHost
    else if endsInNumber domain then
      match ((labels domain).mapM readNumber?).bind addressOf? with
      | some ip => .ok (.address ip)
      | none => .error .ipv4
    else .ok (.name domain)

def ofWebText : List Char → Except Problem Host
  | '[' :: rest => ofBracketed rest
  | text => ofDomainName text

def ofOpaqueText : List Char → Except Problem Host
  | '[' :: rest => ofBracketed rest
  | text => if text.any isForbidden then .error .hostCharacter else .ok (.name text)

end Host

end LinkShortener.Url
