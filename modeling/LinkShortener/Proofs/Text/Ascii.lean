import LinkShortener.Text.Percent
import Mathlib.Data.List.Basic

/-! # Plain text

A character of ASCII is one byte. A text of such characters without percent signs stands for itself,
so decoding gives it back.
-/

namespace LinkShortener.Text

private theorem toList_loop (bytes : ByteArray) (index : Nat) (read : List UInt8) :
    ByteArray.toList.loop bytes index read = read.reverse ++ bytes.data.toList.drop index := by
  induction index, read using ByteArray.toList.loop.induct bytes with
  | case1 index read within induction =>
      have place : index < bytes.data.toList.length := by
        rw [Array.length_toList]
        exact within
      have next : bytes.get! index = bytes.data.toList[index] := by
        rw [ByteArray.get!, getElem!_pos bytes.data index within, Array.getElem_toList]
      rw [ByteArray.toList.loop.eq_1, if_pos within, induction, List.drop_eq_getElem_cons place, next,
        List.reverse_cons, List.append_assoc, List.singleton_append]
  | case2 index read past =>
      have ended : bytes.data.toList.length ≤ index := by
        rw [Array.length_toList]
        exact Nat.le_of_not_lt past
      rw [ByteArray.toList.loop.eq_1, if_neg past, List.drop_eq_nil_of_le ended, List.append_nil]

theorem encodeUtf8_ofList (text : List Char) :
    encodeUtf8 (String.ofList text) = text.flatMap String.utf8EncodeChar := by
  rw [encodeUtf8, String.toUTF8, String.toByteArray_ofList, List.utf8Encode, ByteArray.toList,
    toList_loop, List.reverse_nil, List.nil_append, List.drop_zero, List.toList_data_toByteArray]

theorem encodeUtf8_eq_flatMap (text : String) :
    encodeUtf8 text = text.toList.flatMap String.utf8EncodeChar := by
  rw [← encodeUtf8_ofList, String.ofList_toList]

/-- What holds of each character of ASCII can be checked by listing them. -/
@[elab_as_elim]
theorem of_ascii {motive : Char → Prop} (listed : ∀ code < 128, motive (Char.ofNat code)) (c : Char)
    (ascii : c.toNat < 128) : motive c := by
  have single := listed c.toNat ascii
  rwa [Char.ofNat_toNat] at single

theorem toNat_ofNat_of_ascii {code : Nat} (ascii : code < 128) :
    (Char.ofNat code).toNat = code := by
  revert code
  decide +kernel

/-- A character of ASCII as a byte. -/
def asciiByte (c : Char) : UInt8 := UInt8.ofNat c.toNat

theorem toNat_asciiByte {c : Char} (ascii : c.toNat < 128) : (asciiByte c).toNat = c.toNat := by
  rw [asciiByte, UInt8.toNat_ofNat', Nat.mod_eq_of_lt (by omega)]

theorem utf8EncodeChar_ascii {c : Char} (ascii : c.toNat < 128) :
    String.utf8EncodeChar c = [asciiByte c] := by
  have small : c.val.toNat ≤ 127 := Nat.le_of_lt_succ ascii
  rw [String.utf8EncodeChar, if_pos small]
  rfl

theorem encodeUtf8_ascii {text : List Char} (ascii : ∀ c ∈ text, c.toNat < 128) :
    encodeUtf8 (String.ofList text) = text.map asciiByte := by
  rw [encodeUtf8_ofList, List.map_eq_flatMap]
  exact List.flatMap_congr fun c member => utf8EncodeChar_ascii (ascii c member)

/-- All bytes of a longer character are beyond ASCII. -/
theorem high_of_mem_utf8EncodeChar {c : Char} (long : 128 ≤ c.toNat) :
    ∀ byte ∈ String.utf8EncodeChar c, 128 ≤ byte.toNat := by
  have code : c.val.toNat = c.toNat := rfl
  rw [String.utf8EncodeChar, code, if_neg (by omega)]
  intro byte member
  split at member
  · simp only [List.mem_cons, List.not_mem_nil, or_false] at member
    rcases member with rfl | rfl <;> rw [UInt8.toNat_ofNat'] <;> omega
  · split at member
    · simp only [List.mem_cons, List.not_mem_nil, or_false] at member
      rcases member with rfl | rfl | rfl <;> rw [UInt8.toNat_ofNat'] <;> omega
    · simp only [List.mem_cons, List.not_mem_nil, or_false] at member
      rcases member with rfl | rfl | rfl | rfl <;> rw [UInt8.toNat_ofNat'] <;> omega

theorem pieces_ascii {text : List Char} (ascii : ∀ c ∈ text, c.toNat < 128) :
    pieces (text.map asciiByte) = text.map .char := by
  induction text with
  | nil => rw [List.map_nil, pieces, List.map_nil]
  | cons c rest induction =>
      have single : (asciiByte c).toNat = c.toNat := toNat_asciiByte (ascii c List.mem_cons_self)
      have small : asciiByte c < 0x80 := by
        rw [UInt8.lt_iff_toNat_lt, single]
        exact ascii c List.mem_cons_self
      rw [List.map_cons, pieces.eq_def]
      dsimp only
      rw [if_pos small, single, Char.ofNat_toNat, List.map_cons,
        induction fun other member => ascii other (List.mem_cons_of_mem c member)]

theorem decodeUtf8?_ascii {text : List Char} (ascii : ∀ c ∈ text, c.toNat < 128) :
    decodeUtf8? (text.map asciiByte) = some text := by
  rw [decodeUtf8?, pieces_ascii ascii]
  clear ascii
  induction text with
  | nil => rfl
  | cons c rest induction => rw [List.map_cons, List.mapM_cons, induction]; rfl

theorem percentDecode_of_none {bytes : List UInt8} (none : ∀ byte ∈ bytes, byte ≠ 0x25) :
    percentDecode bytes = bytes := by
  induction bytes with
  | nil => rw [percentDecode]
  | cons byte rest induction =>
      have other := none byte List.mem_cons_self
      rw [percentDecode.eq_2 _ _ fun _ _ _ same _ => other same,
        induction fun byte member => none byte (List.mem_cons_of_mem _ member)]

/-- Text of ASCII without percent signs is what it says. -/
theorem percentDecoded_ascii {text : List Char} (ascii : ∀ c ∈ text, c.toNat < 128)
    (plain : '%' ∉ text) : percentDecoded text = text.map asciiByte := by
  rw [percentDecoded, encodeUtf8_ascii ascii]
  apply percentDecode_of_none
  intro byte member same
  rcases List.mem_map.mp member with ⟨c, present, rfl⟩
  have code : c.toNat = 0x25 := by
    rw [← toNat_asciiByte (ascii c present), same]
    rfl
  have percent : c = '%' := by rw [← Char.ofNat_toNat c, code]
  exact plain (percent ▸ present)

end LinkShortener.Text
