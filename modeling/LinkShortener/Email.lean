import LinkShortener.Address.Ip
import LinkShortener.DomainName.Ascii

/-!
# Email addresses

An address is a local part, an at sign and a domain. The domain is a name in labels, or ends with an
internet address in brackets. A name in another script is judged by its ASCII form.
-/

namespace LinkShortener.Email

/-- A character of a local part. Of letters and digits only those of ASCII are. -/
def isLocal (c : Char) : Bool :=
  c.isAlphanum ||
    ['.', '!', '#', '$', '%', '&', '\'', '*', '+', '/', '=', '?', '^', '_', '\x60', '\x7b', '|',
      '\x7d', '~', '-'].contains c

/-- One to sixty-three letters, digits and hyphens with no hyphen at either end. -/
def isLabel (label : List Char) : Bool :=
  1 ≤ label.length && label.length ≤ 63 &&
    label.all (fun c => c.isAlphanum || c == '-') &&
    label.head? != some '-' && label.getLast? != some '-'

/-- What stands in brackets at the end of a text. -/
def literal? (domain : List Char) : Option (List Char) :=
  match domain.reverse with
  | ']' :: reversed =>
    if reversed.contains '[' then some (reversed.takeWhile (· != '[')).reverse else none
  | _ => none

/-- A name in labels, or an internet address in brackets. -/
def isDomain (domain : List Char) : Bool :=
  (domain.splitOn '.').all isLabel ||
    (literal? domain).any fun address => (IpAddress.ofText? address).isSome

/-- The parts before and after the last at sign. -/
def split? (address : List Char) : Option (List Char × List Char) :=
  let domain := (address.reverse.takeWhile (· != '@')).reverse
  if domain.length = address.length then none
  else some (address.take (address.length - domain.length - 1), domain)

def isValid (address : String) : Bool :=
  match split? address.toList with
  | none => false
  | some (localPart, domain) =>
    localPart.length ≤ 64 && domain.length ≤ 255 && !localPart.isEmpty &&
      localPart.all isLocal &&
      (isDomain domain || (DomainName.toAscii? domain).any isDomain)

end LinkShortener.Email
