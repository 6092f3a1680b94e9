import LinkShortener.Text.Numeral
import LinkShortener.Url.Form

/-!
# Cache URLs

Which URLs name a cache: a server with an optional number of a database, or the socket of one on the
same machine. An encrypted connection is not supported.
-/

namespace LinkShortener.Cache

/-- Whether the parameters ask for a protocol that is known, if they ask for one. Of several
parameters of one name the last counts. -/
def hasKnownProtocol (parameters : List (String × String)) : Bool :=
  (parameters.reverse.lookup "protocol").all ["2", "resp2", "3", "resp3"].contains

def isText (text : List Char) : Bool := (Text.decodeUtf8? (Text.percentDecoded text)).isSome

/-- Whether a host can be connected to: it is not the address that stands for none. -/
def isReachable : Url.Host → Bool
  | .name text => IpAddress.ofText? text != some (.v4 [0, 0, 0, 0])
  | .address ip => ip != .v4 [0, 0, 0, 0] && ip != .v6 (List.replicate 8 0)

/-- Whether a URL names a server, and a database if anything. -/
def namesServer (url : Url) : Bool :=
  let isSlash (c : Char) : Bool := c == '/'
  let database := Text.dropTrailing isSlash (url.path.dropWhile isSlash)
  url.host.any isReachable && (database.isEmpty || Text.isSignedLong database) &&
    isText url.username && url.password.all isText && hasKnownProtocol url.parameters

def namesSocket (url : Url) : Bool :=
  let database := url.parameters.reverse.lookup "db"
  url.path.head? == some '/' && url.host.all (· == .name "localhost".toList) &&
    database.all (Text.isSignedLong ·.toList) && hasKnownProtocol url.parameters

def isUsableUrl (text : String) : Bool :=
  match Url.ofText text with
  | .error _ => false
  | .ok url =>
    if ["redis", "valkey"].contains url.scheme then namesServer url
    else ["unix", "redis+unix", "valkey+unix"].contains url.scheme && namesSocket url

end LinkShortener.Cache
