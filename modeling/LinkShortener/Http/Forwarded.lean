import LinkShortener.Address.Socket
import LinkShortener.Text.Blank

/-!
# The `Forwarded` header

Proxies tell in this header how a request came to them: steps with commas between them, the first
one nearest to the client, and in each step parameters with semicolons between them. A value that
does not keep to this form says nothing at all.
-/

namespace LinkShortener.Http.Forwarded

/-- What stops the reading of a header value. -/
inductive Fault where
  /-- The value does not keep to the form. -/
  | malformed
  /-- A quote stands alone where a quoted host should be: a fault of the program. -/
  | loneQuote
  deriving DecidableEq

/-- What a fault of the program says. -/
def loneQuoteText : String := "byte range starts at 1 but ends at 0"

/-- Drops quotes of a kind at both ends. -/
def unquote (quote : Char) (text : List Char) : List Char :=
  Text.dropTrailing (· == quote) (text.dropWhile (· == quote))

/-- The address in a text, with or without a port or brackets. -/
def address? (text : List Char) : Option IpAddress :=
  match SocketAddress.ofText? text with
  | some address => some address.ip
  | none =>
    match IpAddress.ofText? text, text with
    | some ip, _ => some ip
    | none, '[' :: rest =>
      if rest.getLast? == some ']' then IpAddress.ofText? rest.dropLast else none
    | none, _ => none

/-- Who took part in a step: somebody with an address, or somebody who hides it. -/
inductive Node where
  | hidden
  | address (ip : IpAddress)

/-- Reads who took part. Hidden is one who is `unknown` or has a made-up name. -/
def readNode (value : List Char) : Except Fault Node :=
  let value := unquote '\'' (unquote '"' (Text.trimBlank value))
  if value == "unknown".toList || value.head? == some '_' then .ok .hidden
  else
    match address? value with
    | some ip => .ok (.address ip)
    | none => .error .malformed

def readParameter (client : Option Node) (name : String) (value : List Char) :
    Except Fault (Option Node) :=
  match name with
  | "for" => (readNode value).map some
  | "by" => (readNode value).map fun _ => client
  | "host" => if value == ['"'] then .error .loneQuote else .ok client
  | "proto" =>
    let scheme := (String.ofList value).toLower
    if scheme == "http" || scheme == "https" then .ok client else .error .malformed
  | _ => .ok client

/-- The parts of a text between marks, trimmed; empty ones do not count. -/
def parts (mark : Char) (text : List Char) : List (List Char) :=
  ((text.splitOn mark).map Text.trimBlank).filter fun part => !part.isEmpty

/-- Reads one step: its client, which is the last one named. -/
def readStep (text : List Char) : Except Fault (Option Node) :=
  (parts ';' text).foldlM (fun client part =>
    match part.dropWhile (· != '=') with
    | [] => .error .malformed
    | _ :: value =>
      readParameter client (String.ofList (part.takeWhile (· != '='))).toLower value) none

/-- The first client with an address in a header value. -/
def client? (text : List Char) : Except Fault (Option IpAddress) := do
  let clients ← (parts ',' text).mapM readStep
  return clients.findSome? fun
    | some (.address ip) => some ip
    | _ => none

end LinkShortener.Http.Forwarded
