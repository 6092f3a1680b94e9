import LinkShortener.Address.Ip
import LinkShortener.Http.Headers
import LinkShortener.Service.Error

/-!
# Requests and responses

A request as it arrives and a response as it leaves.
-/

namespace LinkShortener.Http

structure Request where
  method : String
  /-- The path with what follows it, as it was sent. -/
  target : List Char
  headers : Headers
  body : List UInt8
  /-- The address of the other side, if it is known. -/
  peer : Option IpAddress

inductive Content where
  | empty
  | text (value : String)
  | json (value : Json)

structure Response where
  status : Nat
  headers : Headers
  content : Content

namespace Request

def afterAuthority? (target : List Char) : Option (List Char) :=
  let isSchemeMark (c : Char) : Bool := c.isAlphanum || c == '+' || c == '-' || c == '.'
  match target.dropWhile isSchemeMark with
  | ':' :: '/' :: '/' :: rest =>
    let isAuthorityMark (c : Char) : Bool := c != '/' && c != '?' && c != '#'
    if rest.head?.any isAuthorityMark then some (rest.dropWhile isAuthorityMark) else none
  | _ => none

/-- The target from its path on. A target is a path, a whole URL, a star, or an authority alone; a
URL has the root as its path if it names none, and an authority has no path. -/
def pathOnward (request : Request) : List Char :=
  match request.target with
  | '/' :: rest => '/' :: rest
  | ['*'] => ['*']
  | target =>
    match afterAuthority? target with
    | some ('/' :: rest) => '/' :: rest
    | some rest => '/' :: rest
    | none => []

/-- The path without query and fragment. -/
def path (request : Request) : List Char :=
  request.pathOnward.takeWhile fun c => c != '?' && c != '#'

/-- The request with another path and the same query. -/
def withPath (request : Request) (path : List Char) : Request :=
  let rest := request.pathOnward.drop request.path.length
  { request with target := path ++ rest.takeWhile (· != '#') }

end Request

namespace Response

/-- A response without content. -/
def empty (status : Nat) : Response := ⟨status, [], .empty⟩

def text (status : Nat) (value : String) : Response :=
  ⟨status, [field "content-type" "text/plain; charset=utf-8"], .text value⟩

def json (status : Nat) (value : Json) : Response :=
  ⟨status, [field "content-type" "application/json"], .json value⟩

/-- The response to a failed request. -/
def ofError (error : ServiceError) : Response := json error.status error.body

def withField (response : Response) (added : HeaderField) : Response :=
  { response with headers := response.headers ++ [added] }

/-- A redirect that keeps the method. A destination that no header can carry is not one. -/
def redirect (destination : String) : Response :=
  let value := Text.encodeUtf8 destination
  if value.all isValueByte then ⟨307, [⟨"location", value⟩], .empty⟩
  else text 500 "failed to parse header value"

/-- The response to a request that only asks for the head. -/
def withoutContent (response : Response) : Response := { response with content := .empty }

end Response

end LinkShortener.Http
