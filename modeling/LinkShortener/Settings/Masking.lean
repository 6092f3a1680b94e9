/-!
# Masking passwords

The password of a connection URL stands between the last colon and the first at sign after the
scheme. Where a URL is shown, three asterisks take its place.
-/

namespace LinkShortener.Settings

/-- The text before and after the first occurrence of a mark. -/
def splitAtMark? (mark : List Char) : List Char → Option (List Char × List Char)
  | [] => none
  | first :: rest =>
    if mark.isPrefixOf (first :: rest) then some ([], (first :: rest).drop mark.length)
    else (splitAtMark? mark rest).map fun (before, after) => (first :: before, after)

/-- What stands before the last colon, if there is one. -/
def beforeLastColon? (text : List Char) : Option (List Char) :=
  match text.reverse.dropWhile (· != ':') with
  | [] => none
  | _ :: before => some before.reverse

/-- The mark between the scheme of a URL and the rest. -/
def schemeMark : List Char := [':', '/', '/']

/-- A connection URL without its password. A text without scheme, at sign or colon before it has no
password and stays as it is. -/
def maskPassword (url : List Char) : List Char :=
  match splitAtMark? schemeMark url with
  | none => url
  | some (scheme, rest) =>
    let credentials := rest.takeWhile (· != '@')
    match rest.dropWhile (· != '@'), beforeLastColon? credentials with
    | host@(_ :: _), some user => scheme ++ schemeMark ++ user ++ [':', '*', '*', '*'] ++ host
    | _, _ => url

/-- A connection URL as it may be shown. -/
def masked (url : String) : String := String.ofList (maskPassword url.toList)

end LinkShortener.Settings
