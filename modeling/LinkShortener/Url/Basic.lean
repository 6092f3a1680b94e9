import LinkShortener.Text.Blank
import LinkShortener.Text.Numeral
import LinkShortener.Url.Host

/-!
# URLs

A URL is read as the URL standard lays down: a scheme, then after two slashes an authority with
credentials, host and port, then a path and a query. What stands in each part is kept as it was
written; only directories that cancel each other are taken out of the path.
-/

namespace LinkShortener

structure Url where
  /-- In lower case. -/
  scheme : String
  username : List Char
  password : Option (List Char)
  host : Option Url.Host
  port : Option Nat
  path : List Char
  query : Option (List Char)

namespace Url

/-- How the rest of a URL is read. -/
inductive SchemeKind where
  /-- A scheme of the web. A backslash counts as a slash. -/
  | web
  /-- Files, which have a host but no credentials and no port. A backslash counts as a slash. -/
  | file
  | other
  deriving DecidableEq

def SchemeKind.of (scheme : String) : SchemeKind :=
  if ["http", "https", "ws", "wss", "ftp"].contains scheme then .web
  else if scheme = "file" then .file
  else .other

/-- Whether a character separates the segments of a path. -/
def SchemeKind.isSlash (kind : SchemeKind) (c : Char) : Bool :=
  c == '/' || (kind ≠ .other && c == '\\')

def SchemeKind.endsAuthority (kind : SchemeKind) (c : Char) : Bool :=
  kind.isSlash c || c == '?' || c == '#'

/-- The text without blanks and controls at its ends, and without tabs and line ends anywhere. -/
def cleaned (text : List Char) : List Char :=
  let isOuter (c : Char) : Bool := c.toNat ≤ 0x20
  (Text.dropTrailing isOuter (text.dropWhile isOuter)).filter fun c =>
    c != '\t' && c != '\n' && c != '\r'

/-- The scheme in lower case, and what follows its colon. -/
def splitScheme? (text : List Char) : Option (String × List Char) :=
  let isMark (c : Char) : Bool := c.isAlphanum || c == '+' || c == '-' || c == '.'
  let scheme := text.takeWhile isMark
  match text.dropWhile isMark with
  | ':' :: rest =>
    if scheme.head?.any Char.isAlpha then some ((String.ofList scheme).toLower, rest) else none
  | _ => none

/-! ## The authority -/

/-- What stands before a host. -/
structure Credentials where
  username : List Char
  password : Option (List Char)

namespace Credentials

def blank : Credentials := ⟨[], none⟩

/-- Reads credentials: a name and, after a colon, a password. An empty password is none. -/
def ofText (text : List Char) : Credentials :=
  let password := (text.dropWhile (· != ':')).drop 1
  ⟨text.takeWhile (· != ':'), if password.isEmpty then none else some password⟩

def isBlank (credentials : Credentials) : Bool :=
  credentials.username.isEmpty && credentials.password.isNone

end Credentials

/-- Splits credentials off, which end at the last at sign of the authority. -/
def splitCredentials (kind : SchemeKind) (text : List Char) :
    Except Problem (Credentials × List Char) :=
  let authority := text.takeWhile fun c => !kind.endsAuthority c
  let behind := (authority.reverse.takeWhile (· != '@')).length
  if behind = authority.length then .ok (.blank, text)
  else
    let given := authority.take (authority.length - behind - 1)
    let rest := text.drop (given.length + 1)
    if given.isEmpty && rest.head?.any kind.endsAuthority then .error .emptyHost
    else .ok (.ofText given, rest)

/-- The text of a host, which ends with the authority or at a colon outside of brackets, and what
follows it. -/
def splitHost (kind : SchemeKind) (inBrackets : Bool) : List Char → List Char × List Char
  | [] => ([], [])
  | c :: rest =>
    if kind.endsAuthority c || (c == ':' && !inBrackets) then ([], c :: rest)
    else
      let (host, rest) := splitHost kind (c == '[' || (inBrackets && c != ']')) rest
      (c :: host, rest)

/-- Splits a port off. Without digits there is none. -/
def splitPort : List Char → Except Problem (Option Nat × List Char)
  | ':' :: text =>
    let digits := text.takeWhile Char.isDigit
    let rest := text.dropWhile Char.isDigit
    let isOver := rest.head?.all fun c => c == '/' || c == '\\' || c == '?' || c == '#'
    if !isOver then .error .port
    else if digits.isEmpty then .ok (none, rest)
    else
      match Text.ofDigits? Text.largestWord digits with
      | some port => .ok (some port, rest)
      | none => .error .port
  | text => .ok (none, text)

/-! ## The path and the query -/

/-- Whether a character belongs to a path: it begins neither a query nor a fragment. -/
def isPathMark (c : Char) : Bool := c != '?' && c != '#'

/-- The query in what follows an authority. -/
def queryOf? (text : List Char) : Option (List Char) :=
  match text.dropWhile isPathMark with
  | '?' :: rest => some (rest.takeWhile (· != '#'))
  | _ => none

/-- Whether a segment stands for the directory itself. -/
def isHere (segment : List Char) : Bool :=
  [".", "%2e"].contains (String.ofList segment).toLower

def isAbove (segment : List Char) : Bool :=
  ["..", ".%2e", "%2e.", "%2e%2e"].contains (String.ofList segment).toLower

/-- The segments of a path after those that are kept, the last first. One that stands for a
directory leaves an empty segment at the end. -/
def resolve (kept : List (List Char)) : List (List Char) → List (List Char)
  | [] => kept.reverse
  | segment :: rest =>
    let ending := if rest.isEmpty then [[]] else []
    if isAbove segment then resolve (ending ++ kept.drop 1) rest
    else if isHere segment then resolve (ending ++ kept) rest
    else resolve (segment :: kept) rest

/-- The path in what follows an authority. -/
def pathOf (kind : SchemeKind) (text : List Char) : List Char :=
  let written := (text.takeWhile isPathMark).map fun c => if kind.isSlash c then '/' else c
  match written with
  | [] => if kind = .other then [] else ['/']
  | '/' :: rest => '/' :: ['/'].intercalate (resolve [] (rest.splitOn '/'))
  | rest => '/' :: ['/'].intercalate (resolve [] (rest.splitOn '/'))

/-! ## Whole URLs -/

/-- A URL without an authority. -/
def ofPath (scheme : String) (path : List Char) (query : Option (List Char)) : Url :=
  ⟨scheme, [], none, none, none, path, query⟩

/-- Reads a URL from its authority on. Only a URL outside of the web may do without a host, and then
it has neither credentials nor a port. -/
def ofAuthority (scheme : String) (kind : SchemeKind) (text : List Char) :
    Except Problem Url := do
  let (credentials, rest) ← splitCredentials kind text
  let (host, rest) := splitHost kind false rest
  if host.isEmpty then
    if kind ≠ .other || rest.head? = some ':' || !credentials.isBlank then throw .emptyHost
    return ofPath scheme (pathOf kind rest) (queryOf? rest)
  let host ← if kind = .other then Host.ofOpaqueText host else Host.ofWebText host
  let (port, rest) ← splitPort rest
  return { scheme, username := credentials.username, password := credentials.password
           host := some host, port, path := pathOf kind rest, query := queryOf? rest }

def isDrive : List Char → Bool
  | [letter, mark] => letter.isAlpha && (mark == ':' || mark == '|')
  | _ => false

/-- Reads the URL of a file from its host on. The own host is none. -/
def ofFile (text : List Char) : Except Problem Url := do
  let host := text.takeWhile fun c => !SchemeKind.file.endsAuthority c
  if host.isEmpty || isDrive host then
    return ofPath "file" (pathOf .file text) (queryOf? text)
  let rest := text.drop host.length
  let url := ofPath "file" (pathOf .file rest) (queryOf? rest)
  let host ← Host.ofWebText host
  return if host = .name "localhost".toList then url else { url with host := some host }

def ofText (text : String) : Except Problem Url :=
  match splitScheme? (cleaned text.toList) with
  | none => .error .noScheme
  | some (scheme, rest) =>
    let kind := SchemeKind.of scheme
    let slashes := rest.takeWhile kind.isSlash
    if kind = .web then ofAuthority scheme kind (rest.drop slashes.length)
    else if 2 ≤ slashes.length then
      if kind = .file then ofFile (rest.drop 2) else ofAuthority scheme kind (rest.drop 2)
    else if kind = .file || !slashes.isEmpty then
      .ok (ofPath scheme (pathOf kind rest) (queryOf? rest))
    else .ok (ofPath scheme (rest.takeWhile isPathMark) (queryOf? rest))

end Url

end LinkShortener
