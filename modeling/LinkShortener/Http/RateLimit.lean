import LinkShortener.Http.Forwarded
import LinkShortener.Http.Message

/-!
# Rate limits

Each client may send a burst of requests at once, and then waits until time has given some back. A
client is known by its address; behind a proxy, by the address that the proxy names.
-/

namespace LinkShortener.Http

/-- The requests that a client may send at once. -/
def burstSize : Nat := 50

/-- The seconds after which one more request is given back. -/
def refillSeconds : Nat := 2

/-- How many requests each client has sent of its burst. -/
structure RateLimiter where
  behindProxy : Bool
  spent : List (IpAddress × Nat)

namespace RateLimiter

def ofProxy (behindProxy : Bool) : RateLimiter := ⟨behindProxy, []⟩

def firstListed? (text : List Char) : Option IpAddress :=
  (text.splitOn ',').findSome? fun part => IpAddress.ofText? (Text.trimBlank part)

/-- The first client with an address in the values of `forwarded` headers. A malformed value is
passed over; a fault of the program is an error with what it says. -/
def firstForwarded? : List (List UInt8) → Except String (Option IpAddress)
  | [] => .ok none
  | value :: rest =>
    match (visibleText? value).map Forwarded.client? with
    | some (.ok (some ip)) => .ok (some ip)
    | some (.error .loneQuote) => .error Forwarded.loneQuoteText
    | _ => firstForwarded? rest

/-- The address that a proxy names, in the first header that has one. -/
def proxiedAddress? (headers : Headers) : Except String (Option IpAddress) :=
  match ((headers.first? "x-forwarded-for").bind visibleText?).bind firstListed? with
  | some address => .ok (some address)
  | none =>
    match ((headers.first? "x-real-ip").bind visibleText?).bind IpAddress.ofText? with
    | some address => .ok (some address)
    | none => firstForwarded? (headers.all "forwarded")

def client? (limiter : RateLimiter) (request : Request) : Except String (Option IpAddress) :=
  if limiter.behindProxy then do
    match ← proxiedAddress? request.headers with
    | some address => return some address
    | none => return request.peer
  else return request.peer

/-- A plain text without a content type. -/
def refusal (status : Nat) (headers : Headers) (text : String) : Response :=
  ⟨status, headers, .text text⟩

def tooMany (seconds : Nat) : Response :=
  refusal 429 [field "retry-after" (toString seconds), field "x-ratelimit-after" (toString seconds)]
    ("Too Many Requests! Wait for " ++ toString seconds ++ "s")

/-- What becomes of a request. -/
inductive Admission where
  | admitted
  | refused (refusal : Response)
  /-- A fault of the program, with what it says. -/
  | crashed (text : String)

/-- Counts a request: what becomes of it, and the limiter after it. -/
def charge (limiter : RateLimiter) (request : Request) : Admission × RateLimiter :=
  match limiter.client? request with
  | .error text => (.crashed text, limiter)
  | .ok none => (.refused (refusal 500 [] "Unable To Extract Key!"), limiter)
  | .ok (some address) =>
    let spent := (limiter.spent.lookup address).getD 0
    if spent < burstSize then
      let others := limiter.spent.filter fun (other, _) => other != address
      (.admitted, { limiter with spent := (address, spent + 1) :: others })
    else (.refused (tooMany (refillSeconds - 1)), limiter)

end RateLimiter

end LinkShortener.Http
