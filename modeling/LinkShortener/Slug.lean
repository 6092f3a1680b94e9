/-!
# Slugs

A slug is the short name of a URL: four to eight ASCII letters and digits. Its length and then its
characters are drawn from a source of random words.
-/

namespace LinkShortener.Slug

def shortest : Nat := 4

def longest : Nat := 8

/-- The characters of slugs, in the order in which they are numbered. -/
def alphabet : List Char :=
  "ABCDEFGHIJKLMNOPQRSTUVWXYZabcdefghijklmnopqrstuvwxyz0123456789".toList

/-- An ASCII letter or digit. -/
def isLetter (c : Char) : Bool := c.isAlphanum

def isWellFormed (text : String) : Bool :=
  let letters := text.toList
  shortest ≤ letters.length && letters.length ≤ longest && letters.all isLetter

/-- How many words of 32 bits there are. -/
def wordCount : Nat := 4294967296

/-- Draws a length. The high half of the word times five is the number of letters beyond the fewest;
when the low half is so high that the next word could carry into it, that word decides the carry. -/
def drawLength : List UInt32 → Option (Nat × List UInt32)
  | [] => none
  | word :: rest =>
    let product := word.toNat * 5
    let low := product % wordCount
    let extra := product / wordCount
    if low ≤ wordCount - 5 then some (shortest + extra, rest)
    else match rest with
      | [] => none
      | second :: rest =>
        let carries := wordCount ≤ low + second.toNat * 5 / wordCount
        some (shortest + extra + (if carries then 1 else 0), rest)

/-- Draws a letter: the top six bits of the first word for which they number one. -/
def drawLetter : List UInt32 → Option (Char × List UInt32)
  | [] => none
  | word :: rest =>
    match alphabet[word.toNat >>> 26]? with
    | some letter => some (letter, rest)
    | none => drawLetter rest

def drawLetters : Nat → List UInt32 → Option (List Char × List UInt32)
  | 0, words => some ([], words)
  | count + 1, words => do
    let (letter, words) ← drawLetter words
    let (letters, words) ← drawLetters count words
    return (letter :: letters, words)

/-- Draws a slug; nothing if the words do not suffice. -/
def generate (words : List UInt32) : Option (String × List UInt32) := do
  let (length, words) ← drawLength words
  let (letters, words) ← drawLetters length words
  return (String.ofList letters, words)

/-- Draws so many slugs one after the other. -/
def generateMany : Nat → List UInt32 → Option (List String × List UInt32)
  | 0, words => some ([], words)
  | count + 1, words => do
    let (slug, words) ← generate words
    let (slugs, words) ← generateMany count words
    return (slug :: slugs, words)

/-- The word that a linear congruential generator delivers after the given one. -/
def followingWord (word : UInt32) : UInt32 := word * 1664525 + 1013904223

/-- So many further words of the generator. -/
def furtherWords (last : UInt32) : Nat → List UInt32
  | 0 => []
  | count + 1 => followingWord last :: furtherWords (followingWord last) count

/-- The listed words and then so many further ones. -/
def wordsFrom (listed : List UInt32) (further : Nat) : List UInt32 :=
  listed ++ furtherWords (listed.getLast?.getD 1) further

/-- Slugs drawn from the listed words and, where these do not suffice, from the words that follow
them; with the number of words used. -/
def drawMany (listed : List UInt32) (count : Nat) : List String × Nat :=
  let words := wordsFrom listed (64 * (count + 1))
  match generateMany count words with
  | some (slugs, rest) => (slugs, words.length - rest.length)
  | none => ([], words.length)

def ofSeed (seed : Nat) : String :=
  match (drawMany [UInt32.ofNat (2654435761 * (seed + 1))] 1).1 with
  | slug :: _ => slug
  | [] => ""

end LinkShortener.Slug
