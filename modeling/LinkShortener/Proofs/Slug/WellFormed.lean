import LinkShortener.Proofs.Text.Ascii
import LinkShortener.Slug

/-! # Well-formed slugs

A slug consists of letters and digits of ASCII, so it has as many bytes as characters. What is asked
of its characters can as well be asked of its bytes.
-/

namespace LinkShortener

namespace Slug

theorem isLetter_iff {c : Char} : isLetter c = true ↔
    48 ≤ c.toNat ∧ c.toNat ≤ 57 ∨ 65 ≤ c.toNat ∧ c.toNat ≤ 90 ∨
      97 ≤ c.toNat ∧ c.toNat ≤ 122 := by
  delta isLetter Char.isAlphanum Char.isAlpha Char.isUpper Char.isLower Char.isDigit
  simp only [Bool.or_eq_true, Bool.and_eq_true, decide_eq_true_eq, ge_iff_le,
    UInt32.le_iff_toNat_le, Char.toNat]
  change (65 ≤ c.val.toNat ∧ c.val.toNat ≤ 90 ∨ 97 ≤ c.val.toNat ∧ c.val.toNat ≤ 122) ∨
    48 ≤ c.val.toNat ∧ c.val.toNat ≤ 57 ↔ _
  omega

theorem ascii_of_isLetter {c : Char} (letter : isLetter c = true) : c.toNat < 128 := by
  rw [isLetter_iff] at letter
  omega

/-- The numbered characters are all the letters. -/
theorem mem_alphabet_iff {c : Char} : c ∈ alphabet ↔ isLetter c = true := by
  constructor
  · exact List.all_eq_true.mp (by decide) c
  · intro letter
    have ascii := ascii_of_isLetter letter
    revert letter
    refine Text.of_ascii ?_ c ascii
    decide +kernel

/-- A letter or digit of ASCII as a byte. -/
def IsLetterByte (byte : UInt8) : Prop :=
  48 ≤ byte.toNat ∧ byte.toNat ≤ 57 ∨ 65 ≤ byte.toNat ∧ byte.toNat ≤ 90 ∨
    97 ≤ byte.toNat ∧ byte.toNat ≤ 122

theorem isLetter_iff_bytes (c : Char) :
    isLetter c = true ↔ ∀ byte ∈ String.utf8EncodeChar c, IsLetterByte byte := by
  by_cases ascii : c.toNat < 128
  · rw [Text.utf8EncodeChar_ascii ascii, isLetter_iff, List.forall_mem_singleton, IsLetterByte,
      Text.toNat_asciiByte ascii]
  · have other : ¬ isLetter c = true := fun letter => ascii (ascii_of_isLetter letter)
    rw [iff_false_left other]
    intro letters
    have filled : String.utf8EncodeChar c ≠ [] := by simp
    have high := Text.high_of_mem_utf8EncodeChar (Nat.le_of_not_lt ascii) _
      (List.head_mem filled)
    have letter := letters _ (List.head_mem filled)
    rw [IsLetterByte] at letter
    omega

theorem letters_iff_bytes {text : String} : text.toList.all isLetter = true ↔
    ∀ byte ∈ Text.encodeUtf8 text, IsLetterByte byte := by
  simp only [List.all_eq_true, isLetter_iff_bytes, Text.encodeUtf8_eq_flatMap, List.mem_flatMap]
  exact ⟨fun all byte ⟨c, member, part⟩ => all c member byte part,
    fun all c member byte part => all byte ⟨c, member, part⟩⟩

theorem length_encodeUtf8_of_letters {text : String} (letters : text.toList.all isLetter = true) :
    (Text.encodeUtf8 text).length = text.toList.length := by
  have ascii : ∀ c ∈ text.toList, c.toNat < 128 := fun c member =>
    ascii_of_isLetter (List.all_eq_true.mp letters c member)
  have bytes := Text.encodeUtf8_ascii ascii
  rw [String.ofList_toList] at bytes
  rw [bytes, List.length_map]

theorem isWellFormed_iff {text : String} : isWellFormed text = true ↔
    shortest ≤ text.toList.length ∧ text.toList.length ≤ longest ∧
      text.toList.all isLetter = true := by
  simp [isWellFormed, and_assoc]

/-- The check can be made on the bytes of a text. -/
theorem isWellFormed_iff_bytes {text : String} : isWellFormed text = true ↔
    shortest ≤ (Text.encodeUtf8 text).length ∧ (Text.encodeUtf8 text).length ≤ longest ∧
      ∀ byte ∈ Text.encodeUtf8 text, IsLetterByte byte := by
  rw [isWellFormed_iff, ← letters_iff_bytes]
  constructor
  · rintro ⟨least, most, letters⟩
    have same := length_encodeUtf8_of_letters letters
    exact ⟨same ▸ least, same ▸ most, letters⟩
  · rintro ⟨least, most, letters⟩
    have same := length_encodeUtf8_of_letters letters
    exact ⟨same ▸ least, same ▸ most, letters⟩

variable {slug : String} (wellFormed : isWellFormed slug = true)

include wellFormed

theorem letters_of_wellFormed : ∀ c ∈ slug.toList, isLetter c = true := by
  simp only [isWellFormed, Bool.and_eq_true] at wellFormed
  exact List.all_eq_true.mp wellFormed.2

theorem not_mem_of_wellFormed (mark : Char) (other : isLetter mark = false) :
    mark ∉ slug.toList := by
  intro member
  have letter := letters_of_wellFormed wellFormed mark member
  rw [other] at letter
  cases letter

theorem ne_nil_of_wellFormed : slug.toList ≠ [] := by
  intro none
  rw [isWellFormed, none] at wellFormed
  cases wellFormed

end Slug

end LinkShortener
