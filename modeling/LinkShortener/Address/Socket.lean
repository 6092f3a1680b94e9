import LinkShortener.Address.Ip
import LinkShortener.Text.Numeral

/-!
# Socket addresses

An internet address with a port, such as `10.0.0.1:80` or `[::1]:80`. An address of version 6 may
name a scope by its number, as in `[fe80::1%2]:80`; the scope does not belong to the address.
-/

namespace LinkShortener

/-- An internet address and a port. -/
structure SocketAddress where
  ip : IpAddress
  port : Nat

namespace SocketAddress

/-- The words of an address of version 6 with or without a scope. -/
def readScoped? (text : List Char) : Option (List Nat) :=
  match text.dropWhile (· != '%') with
  | [] => IpAddress.readEight? text
  | _ :: scope => do
    let _ ← Text.ofDigits? Text.largestShort scope
    IpAddress.readEight? (text.takeWhile (· != '%'))

/-- Reads a socket address. An address of version 6 stands in brackets. -/
def ofText? (text : List Char) : Option SocketAddress :=
  let port := (text.reverse.takeWhile (· != ':')).reverse
  if port.length = text.length then none
  else do
    let host := text.take (text.length - port.length - 1)
    let port ← Text.ofDigits? Text.largestWord port
    match host with
    | '[' :: rest =>
      if rest.getLast? = some ']' then
        let words ← readScoped? rest.dropLast
        return ⟨.v6 words, port⟩
      else none
    | host =>
      let bytes ← IpAddress.readFour? host
      return ⟨.v4 bytes, port⟩

end SocketAddress

end LinkShortener
