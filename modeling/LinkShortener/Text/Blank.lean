/-!
# Blank characters

The characters with the Unicode property `White_Space`, and trimming a text of them at both ends.
-/

namespace LinkShortener.Text

/-- The Unicode property `White_Space`. -/
def isBlank (c : Char) : Bool :=
  let code := c.toNat
  (9 ≤ code && code ≤ 13) || code == 0x20 || code == 0x85 || code == 0xA0 || code == 0x1680 ||
    (0x2000 ≤ code && code ≤ 0x200A) || code == 0x2028 || code == 0x2029 || code == 0x202F ||
    code == 0x205F || code == 0x3000

/-- Drops every character at the end of the list that satisfies the predicate. -/
def dropTrailing (drops : Char → Bool) (text : List Char) : List Char :=
  (text.reverse.dropWhile drops).reverse

/-- Drops the blanks at both ends and keeps those in the middle. -/
def trimBlank (text : List Char) : List Char :=
  dropTrailing isBlank (text.dropWhile isBlank)

/-- A text without its blanks at either end. -/
def trim (text : String) : String :=
  String.ofList (trimBlank text.toList)

theorem trimBlank_nil : trimBlank [] = [] := rfl

theorem dropTrailing_nil (drops : Char → Bool) : dropTrailing drops [] = [] := rfl

end LinkShortener.Text
