import LinkShortener.Text.Hex
import LinkShortener.Text.Utf8

/-!
# Percent encoding

In a URL a byte may be written as a percent sign and two hexadecimal digits. A percent sign that is
not followed by two digits stands for itself.
-/

namespace LinkShortener.Text

/-- Replaces each percent sign and two hexadecimal digits by the byte that they stand for. -/
def percentDecode : List UInt8 → List UInt8
  | 0x25 :: high :: low :: rest =>
    match hexValue? (Char.ofNat high.toNat), hexValue? (Char.ofNat low.toNat) with
    | some high, some low => UInt8.ofNat (high.val * 16 + low.val) :: percentDecode rest
    | _, _ => 0x25 :: percentDecode (high :: low :: rest)
  | byte :: rest => byte :: percentDecode rest
  | [] => []

/-- The bytes that a text stands for. -/
def percentDecoded (text : List Char) : List UInt8 :=
  percentDecode (encodeUtf8 (String.ofList text))

end LinkShortener.Text
