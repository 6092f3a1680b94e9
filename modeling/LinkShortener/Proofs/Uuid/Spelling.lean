import LinkShortener.Proofs.Text.Folding
import LinkShortener.Uuid
import Mathlib.Algebra.GroupWithZero.Nat

/-! # Spellings

The texts that are read as a given UUID are its four spellings in any mix of cases. Reading is the
inverse of writing for each: the digits are folded to lower case, and the hyphens stand where they
are written.
-/

namespace LinkShortener.Uuid

/-! ## Hyphens -/

theorem unhyphenate?_cons_eq_some_iff {width next : Nat} {others : List Nat}
    {text plain : List Char} :
    unhyphenate? (width :: next :: others) text = some plain ↔
      ∃ first rest following, first.length = width ∧ text = first ++ '-' :: following ∧
        unhyphenate? (next :: others) following = some rest ∧ first ++ rest = plain := by
  rw [unhyphenate?]
  · constructor
    · intro read
      split at read
      next hyphen =>
        rcases Option.map_eq_some_iff.mp read with ⟨rest, others, joined⟩
        have hyphen := eq_of_beq hyphen
        rcases List.getElem?_eq_some_iff.mp hyphen with ⟨within, mark⟩
        refine ⟨text.take width, rest, text.drop (width + 1), ?_, ?_, others, joined⟩
        · exact List.length_take_of_le (Nat.le_of_lt within)
        · rw [← mark, ← List.drop_eq_getElem_cons, List.take_append_drop]
      next => cases read
    · rintro ⟨first, rest, following, rfl, rfl, others, joined⟩
      simp [others, joined]
  · exact nofun

/-- Hyphens are taken out of a text just where they are put in. -/
theorem unhyphenate?_eq_some_iff {widths : List Nat} {text plain : List Char} :
    unhyphenate? widths text = some plain ↔
      text = hyphenate widths plain ∧ plain.length = widths.sum := by
  induction widths generalizing text plain with
  | nil =>
      rw [hyphenate, List.sum_nil]
      cases text with
      | nil => simp [unhyphenate?, eq_comm]
      | cons c text =>
          refine iff_of_false nofun ?_
          rintro ⟨rfl, none⟩
          cases none
  | cons width others induction =>
      cases others with
      | nil =>
          simp only [unhyphenate?, hyphenate, List.sum_singleton, beq_iff_eq]
          constructor
          · intro read
            split at read
            next fits =>
              cases read
              exact ⟨rfl, fits⟩
            next => cases read
          · rintro ⟨rfl, fits⟩
            rw [if_pos fits]
      | cons next others =>
          rw [unhyphenate?_cons_eq_some_iff, hyphenate, List.sum_cons]
          · constructor
            · rintro ⟨first, rest, following, rfl, rfl, read, rfl⟩
              rcases induction.mp read with ⟨rfl, length⟩
              simp [length]
            · rintro ⟨rfl, length⟩
              have long : (plain.take width).length = width := List.length_take_of_le (by omega)
              exact ⟨plain.take width, plain.drop width, _, long, rfl,
                induction.mpr ⟨rfl, by rw [List.length_drop]; omega⟩, List.take_append_drop _ _⟩
          · exact nofun

/-- Folding leaves the hyphens where they are. -/
theorem unhyphenate?_map_toLower (widths : List Nat) (text : List Char) :
    unhyphenate? widths (text.map Char.toLower) =
      (unhyphenate? widths text).map (List.map Char.toLower) := by
  induction widths generalizing text with
  | nil => cases text <;> simp [unhyphenate?]
  | cons width others induction =>
      cases others with
      | nil =>
          simp only [unhyphenate?, List.length_map]
          split <;> rfl
      | cons next others =>
          have hyphen : (text.map Char.toLower)[width]? = some '-' ↔ text[width]? = some '-' := by
            rw [List.getElem?_map]
            cases text[width]? with
            | none => simp
            | some c => simp [Text.toLower_eq_iff (by decide : '-'.isAlpha = false)]
          simp only [unhyphenate?, beq_iff_eq, hyphen]
          split
          · rw [← List.map_drop, induction]
            cases unhyphenate? (next :: others) (text.drop (width + 1)) with
            | none => rfl
            | some rest => simp
          · rfl

/-! ## The four spellings -/

/-- How a UUID can be spelled. -/
inductive Spelling where
  | plain
  | hyphenated
  | braced
  | resource

/-- The lower-case digits. -/
def plainText (id : Uuid) : List Char := id.digits.toList.map Text.hexDigit

/-- So many of the lower-case digits, from a place on. -/
def digitsFrom (id : Uuid) (place count : Nat) : List Char := (id.plainText.drop place).take count

/-- The lower-case digits in groups of eight, four, four, four and twelve. -/
def hyphenatedText (id : Uuid) : List Char :=
  id.digitsFrom 0 8 ++ '-' :: id.digitsFrom 8 4 ++ '-' :: id.digitsFrom 12 4 ++
    '-' :: id.digitsFrom 16 4 ++ '-' :: id.digitsFrom 20 12

/-- A spelling in lower case. -/
def Spelling.lowerCase (id : Uuid) : Spelling → List Char
  | .plain => id.plainText
  | .hyphenated => id.hyphenatedText
  | .braced => '\x7b' :: id.hyphenatedText ++ ['\x7d']
  | .resource => ['u', 'r', 'n', ':', 'u', 'u', 'i', 'd', ':'] ++ id.hyphenatedText

/-- The text spells the UUID, in any mix of cases. -/
def IsSpelledBy (id : Uuid) (text : List Char) : Prop :=
  ∃ spelling : Spelling, text.map Char.toLower = spelling.lowerCase id

variable {id : Uuid} {text : List Char}

@[simp] theorem length_plainText (id : Uuid) : id.plainText.length = 32 := by simp [plainText]

theorem hyphenate_plainText (id : Uuid) : hyphenate groups id.plainText = id.hyphenatedText := by
  have rest : (id.plainText.drop 20).take 12 = id.plainText.drop 20 :=
    List.take_of_length_le (by simp)
  simp [hyphenate, groups, hyphenatedText, digitsFrom, rest]

@[simp] theorem length_hyphenatedText (id : Uuid) : id.hyphenatedText.length = 36 := by
  simp [hyphenatedText, digitsFrom]

theorem ofDigits?_eq_some_iff {digits : List (Fin 16)} :
    ofDigits? digits = some id ↔ digits = id.digits.toList := by
  rw [ofDigits?]
  split
  next proper =>
    rw [Option.some.injEq]
    constructor
    · rintro rfl
      rfl
    · rintro rfl
      rfl
  next improper =>
    refine iff_of_false nofun ?_
    rintro rfl
    exact improper id.digits.length_toList

theorem ofPlain?_eq_some_iff : ofPlain? text = some id ↔ text.map Char.toLower = id.plainText := by
  simp [ofPlain?, Option.bind_eq_some_iff, Text.mapM_hexValue?_eq_some_iff, ofDigits?_eq_some_iff,
    plainText]

theorem ofHyphenated?_eq_some_iff :
    ofHyphenated? text = some id ↔ text.map Char.toLower = id.hyphenatedText := by
  rw [← hyphenate_plainText]
  have parts : text.map Char.toLower = hyphenate groups id.plainText ↔
      unhyphenate? groups (text.map Char.toLower) = some id.plainText := by
    rw [unhyphenate?_eq_some_iff, length_plainText]
    exact (and_iff_left rfl).symm
  rw [parts, unhyphenate?_map_toLower]
  simp [ofHyphenated?, Option.bind_eq_some_iff, ofPlain?_eq_some_iff, Option.map_eq_some_iff]

theorem Spelling.braced_iff : text.map Char.toLower = Spelling.braced.lowerCase id ↔
    ∃ inner, text = '\x7b' :: inner ++ ['\x7d'] ∧ inner.map Char.toLower = id.hyphenatedText := by
  constructor
  · intro spelled
    rcases List.map_eq_cons_iff.mp spelled with ⟨first, rest, rfl, opening, spelled⟩
    rcases List.map_eq_append_iff.mp spelled with ⟨inner, ending, rfl, inside, spelled⟩
    rcases List.map_eq_singleton_iff.mp spelled with ⟨last, rfl, closing⟩
    rw [Text.toLower_eq_iff (by decide)] at opening closing
    exact ⟨inner, by rw [opening, closing, List.cons_append], inside⟩
  · rintro ⟨inner, rfl, inside⟩
    rw [List.map_append, List.map_cons, inside]
    rfl

theorem Spelling.lowerCase_resource (id : Uuid) :
    Spelling.resource.lowerCase id = resourceMark ++ id.hyphenatedText := rfl

theorem Spelling.resource_iff : text.map Char.toLower = Spelling.resource.lowerCase id ↔
    (text.take 9).map Char.toLower = resourceMark ∧
      (text.drop 9).map Char.toLower = id.hyphenatedText := by
  rw [Spelling.lowerCase_resource, List.map_take, List.map_drop]
  constructor
  · intro spelled
    rw [spelled]
    exact ⟨rfl, rfl⟩
  · rintro ⟨mark, spelled⟩
    rw [← mark, ← spelled, List.take_append_drop]

/-- A text of thirty-eight characters in braces. -/
theorem isBraced_iff : text.length = 38 ∧
    (text.head? == some '\x7b' && text.getLast? == some '\x7d') = true ↔
      ∃ inner, inner.length = 36 ∧ text = '\x7b' :: inner ++ ['\x7d'] := by
  constructor
  · rintro ⟨length, braces⟩
    rw [Bool.and_eq_true, beq_iff_eq, beq_iff_eq, List.getLast?_eq_some_iff] at braces
    rcases braces with ⟨opening, most, rfl⟩
    cases most with
    | nil => simp at length
    | cons first inner =>
        cases opening
        exact ⟨inner, by simpa using length, rfl⟩
  · rintro ⟨inner, length, rfl⟩
    rw [List.getLast?_concat]
    exact ⟨by simp [length], rfl⟩

theorem ofChars?_of_length {count : Nat} (length : text.length = count) :
    ofChars? text = if count = 32 then ofPlain? text
      else if count = 36 then ofHyphenated? text
      else if count = 38 then
        if text.head? == some '\x7b' && text.getLast? == some '\x7d' then
          ofHyphenated? ((text.drop 1).take 36)
        else none
      else if count = 45 then
        if (text.take 9).map Char.toLower == resourceMark then ofHyphenated? (text.drop 9) else none
      else none := by
  simp only [ofChars?, length, beq_iff_eq]

/-- A text is read as a UUID just if it spells it. -/
theorem ofChars?_eq_some_iff : ofChars? text = some id ↔ id.IsSpelledBy text := by
  constructor
  · intro read
    rw [ofChars?_of_length rfl] at read
    split at read
    · exact ⟨.plain, ofPlain?_eq_some_iff.mp read⟩
    split at read
    · exact ⟨.hyphenated, ofHyphenated?_eq_some_iff.mp read⟩
    split at read
    next long =>
      split at read
      next braces =>
        rcases isBraced_iff.mp ⟨long, braces⟩ with ⟨inner, length, rfl⟩
        refine ⟨.braced, Spelling.braced_iff.mpr ⟨inner, rfl, ?_⟩⟩
        rw [← ofHyphenated?_eq_some_iff, ← read]
        simp [List.take_left' length]
      next => cases read
    split at read
    · split at read
      next mark =>
        exact ⟨.resource,
          Spelling.resource_iff.mpr ⟨eq_of_beq mark, ofHyphenated?_eq_some_iff.mp read⟩⟩
      next => cases read
    · cases read
  · rintro ⟨spelling, spelled⟩
    have length := congrArg List.length spelled
    rw [List.length_map] at length
    cases spelling with
    | plain =>
        rw [ofChars?_of_length (length.trans id.length_plainText)]
        exact ofPlain?_eq_some_iff.mpr spelled
    | hyphenated =>
        rw [ofChars?_of_length (length.trans id.length_hyphenatedText)]
        exact ofHyphenated?_eq_some_iff.mpr spelled
    | braced =>
        rcases Spelling.braced_iff.mp spelled with ⟨inner, rfl, inside⟩
        have size : inner.length = 36 := by
          rw [← id.length_hyphenatedText, ← inside, List.length_map]
        rcases isBraced_iff.mpr ⟨inner, size, rfl⟩ with ⟨long, braces⟩
        rw [ofChars?_of_length long, braces]
        simp [List.take_left' size, ofHyphenated?_eq_some_iff, inside]
    | resource =>
        have long : (Spelling.resource.lowerCase id).length = 45 := by
          simp [Spelling.lowerCase_resource, resourceMark]
        rcases Spelling.resource_iff.mp spelled with ⟨mark, hyphenated⟩
        rw [ofChars?_of_length (length.trans long), mark]
        simpa using ofHyphenated?_eq_some_iff.mpr hyphenated

theorem IsSpelledBy.ne_nil (spells : id.IsSpelledBy text) : text ≠ [] := by
  rintro rfl
  have read : ofChars? [] = some id := ofChars?_eq_some_iff.mpr spells
  cases read

theorem eq_hexDigit_of_mem_plainText {c : Char} (member : c ∈ id.plainText) :
    ∃ digit, c = Text.hexDigit digit := by
  rcases List.mem_map.mp member with ⟨digit, -, rfl⟩
  exact ⟨digit, rfl⟩

theorem mem_hyphenatedText {c : Char} (member : c ∈ id.hyphenatedText) :
    c ∈ id.plainText ∨ c = '-' := by
  have digits {place count : Nat} (member : c ∈ id.digitsFrom place count) : c ∈ id.plainText :=
    List.mem_of_mem_drop (List.mem_of_mem_take member)
  simp only [hyphenatedText, List.mem_append, List.mem_cons] at member
  tauto

/-- Spellings are made of characters that show something. -/
theorem IsSpelledBy.isGraphic (spells : id.IsSpelledBy text) : ∀ c ∈ text, Text.IsGraphic c := by
  have digits : ∀ c ∈ id.plainText, Text.IsGraphic c := fun c member => by
    rcases eq_hexDigit_of_mem_plainText member with ⟨digit, rfl⟩
    exact Text.isGraphic_hexDigit digit
  have hyphenated : ∀ c ∈ id.hyphenatedText, Text.IsGraphic c := fun c member => by
    rcases mem_hyphenatedText member with digit | rfl
    · exact digits c digit
    · decide
  rcases spells with ⟨spelling, spelled⟩
  intro c member
  have folded : c.toLower ∈ spelling.lowerCase id := spelled ▸ List.mem_map_of_mem member
  apply Text.IsGraphic.of_toLower
  generalize c.toLower = c at folded ⊢
  cases spelling with
  | plain => exact digits c folded
  | hyphenated => exact hyphenated c folded
  | braced =>
      simp only [Spelling.lowerCase, List.mem_append, List.mem_cons, List.not_mem_nil,
        or_false] at folded
      rcases folded with (rfl | inner) | rfl
      · decide
      · exact hyphenated c inner
      · decide
  | resource =>
      rw [Spelling.lowerCase_resource, List.mem_append] at folded
      rcases folded with mark | inner
      · have marks : resourceMark.all Text.IsGraphic = true := by decide
        simpa using List.all_eq_true.mp marks c mark
      · exact hyphenated c inner

/-! ## The written form -/

theorem map_toLower_hyphenatedText (id : Uuid) :
    id.hyphenatedText.map Char.toLower = id.hyphenatedText := by
  have plain : id.plainText.map Char.toLower = id.plainText := by
    simp [plainText, Text.toLower_hexDigit]
  have hyphen : '-'.toLower = '-' := rfl
  simp [hyphenatedText, digitsFrom, List.map_take, List.map_drop, plain, hyphen]

theorem toList_toText (id : Uuid) : id.toText.toList = Spelling.hyphenated.lowerCase id := by
  rw [toText, String.toList_ofList]
  exact hyphenate_plainText id

/-- The written form is a spelling. -/
theorem isSpelledBy_toText (id : Uuid) : id.IsSpelledBy id.toText.toList :=
  ⟨.hyphenated, by rw [toList_toText]; exact map_toLower_hyphenatedText id⟩

end LinkShortener.Uuid
