import LinkShortener.Http.Message
import LinkShortener.Text.Percent

/-!
# Paths and routes

A path is normalized before it is matched: slashes at its end, and all but one at its beginning, are
dropped. The slug in a path is decoded after the path was matched.
-/

namespace LinkShortener.Http

/-- A path without slashes at its end and with one at its beginning. Any other path stays. -/
def normalizePath (path : List Char) : List Char :=
  if path.getLast? == some '/' || ['/', '/'].isPrefixOf path then
    '/' :: ((path.dropWhile (· == '/')).reverse.dropWhile (· == '/')).reverse
  else path

inductive Route where
  | health
  | shortUrls
  | users
  | slug (segment : List Char)

/-- The route of a path. A fixed path wins over a slug. -/
def Route.ofPath? (path : List Char) : Option Route :=
  if path == "/health".toList then some .health
  else if path == "/api/v1/shorturl".toList then some .shortUrls
  else if path == "/api/v1/users".toList then some .users
  else match path with
    | '/' :: segment =>
      if segment.isEmpty || segment.contains '/' then none else some (.slug segment)
    | _ => none

/-- The text of a segment; nothing if its bytes are not text. -/
def decodeSegment? (segment : List Char) : Option String :=
  (Text.decodeUtf8? (Text.percentDecoded segment)).map String.ofList

end LinkShortener.Http
