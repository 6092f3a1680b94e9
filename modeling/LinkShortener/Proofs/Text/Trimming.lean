import LinkShortener.Text.Blank
import Mathlib.Data.List.DropRight

/-! # Trimming

A trimmed text has no blanks at either end, so trimming it again changes nothing.
-/

namespace LinkShortener.Text

theorem dropTrailing_eq_rdropWhile (drops : Char → Bool) (text : List Char) :
    dropTrailing drops text = text.rdropWhile drops := rfl

theorem trimBlank_trimBlank (text : List Char) : trimBlank (trimBlank text) = trimBlank text := by
  simp only [trimBlank, dropTrailing_eq_rdropWhile]
  have front : ((text.dropWhile isBlank).rdropWhile isBlank).dropWhile isBlank =
      (text.dropWhile isBlank).rdropWhile isBlank := by
    rw [List.dropWhile_eq_self_iff]
    intro filled
    have head := (List.rdropWhile_prefix isBlank (l := text.dropWhile isBlank)).getElem filled
    rw [head]
    exact List.dropWhile_get_zero_not isBlank text _
  rw [front, List.rdropWhile_idempotent]

theorem trim_trim (text : String) : trim (trim text) = trim text := by
  rw [trim, trim, String.toList_ofList, trimBlank_trimBlank]

/-- Trimming leaves nothing of a text just when all of it is blank. -/
theorem trimBlank_eq_nil_iff {text : List Char} :
    trimBlank text = [] ↔ ∀ c ∈ text, isBlank c = true := by
  rw [trimBlank, dropTrailing_eq_rdropWhile, List.rdropWhile_eq_nil_iff]
  constructor
  · intro blank
    rw [← List.dropWhile_eq_nil_iff]
    by_contra filled
    have positive := List.length_pos_iff.mpr filled
    exact List.dropWhile_get_zero_not isBlank text positive (blank _ (List.getElem_mem positive))
  · intro blank c member
    exact blank c ((List.dropWhile_suffix isBlank).subset member)

theorem isEmpty_trim (text : String) : (trim text).isEmpty = text.toList.all isBlank := by
  rw [Bool.eq_iff_iff, String.isEmpty_iff, ← String.toList_inj, trim, String.toList_ofList,
    String.toList_empty, trimBlank_eq_nil_iff, List.all_eq_true]

end LinkShortener.Text
