import LinkShortener.Url.Basic

/-!
# Parameters of URLs

The query of a URL as a form lays it out: pairs of a name and a value with ampersands between them.
-/

namespace LinkShortener.Url

/-- The text that a part of a form stands for: a plus sign is a blank. -/
def formText (text : List Char) : String :=
  Text.decodeUtf8Lossy (Text.percentDecoded (text.map fun c => if c == '+' then ' ' else c))

/-- The pair in a part of a form; without an equals sign its value is empty. -/
def formPair (part : List Char) : String × String :=
  (formText (part.takeWhile (· != '=')), formText ((part.dropWhile (· != '=')).drop 1))

def parameters (url : Url) : List (String × String) :=
  match url.query with
  | none => []
  | some query => ((query.splitOn '&').filter fun part => !part.isEmpty).map formPair

end LinkShortener.Url
