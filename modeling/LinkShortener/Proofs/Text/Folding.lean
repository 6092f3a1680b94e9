import LinkShortener.Proofs.Text.Ascii
import LinkShortener.Text.Blank

/-! # Letter case

Folding a text to lower case changes only the capitals of ASCII. Hexadecimal digits are read in either
case, so reading them is folding and then reading the written digits.
-/

namespace LinkShortener.Text

theorem toLower_of_high {c : Char} (high : 128 ≤ c.toNat) : c.toLower = c := by
  delta Char.toLower
  rw [dif_neg]
  rintro ⟨-, most⟩
  have small : c.toNat ≤ 90 := UInt32.le_iff_toNat_le.mp most
  omega

/-- Folding makes no character other than letters. -/
theorem toLower_eq_iff {c mark : Char} (symbol : mark.isAlpha = false) :
    c.toLower = mark ↔ c = mark := by
  by_cases ascii : c.toNat < 128
  · have letters : c.toLower = c ∨ c.isAlpha = true ∧ c.toLower.isAlpha = true := by
      refine of_ascii ?_ c ascii
      decide +kernel
    rcases letters with same | ⟨letter, folded⟩
    · rw [same]
    · refine iff_of_false (fun same => ?_) fun same => ?_
      · simp [same, symbol] at folded
      · simp [same, symbol] at letter
  · rw [toLower_of_high (Nat.le_of_not_lt ascii)]

/-- A character that shows something: of ASCII, and neither a control character nor a blank. -/
def IsGraphic (c : Char) : Prop := 0x21 ≤ c.toNat ∧ c.toNat ≤ 0x7E

instance : DecidablePred IsGraphic := fun _ => inferInstanceAs (Decidable (_ ∧ _))

theorem IsGraphic.of_toLower {c : Char} (graphic : IsGraphic c.toLower) : IsGraphic c := by
  by_cases ascii : c.toNat < 128
  · revert graphic
    refine of_ascii ?_ c ascii
    decide +kernel
  · rwa [toLower_of_high (Nat.le_of_not_lt ascii)] at graphic

theorem IsGraphic.not_isBlank {c : Char} (graphic : IsGraphic c) : isBlank c = false := by
  have ascii : c.toNat < 128 := Nat.lt_of_le_of_lt graphic.2 (by decide)
  revert graphic
  refine of_ascii ?_ c ascii
  decide +kernel

theorem isGraphic_hexDigit (digit : Fin 16) : IsGraphic (hexDigit digit) := by
  revert digit
  decide

theorem toLower_hexDigit (digit : Fin 16) : (hexDigit digit).toLower = hexDigit digit := by
  revert digit
  decide

theorem hexValue?_eq_some_iff {c : Char} {digit : Fin 16} :
    hexValue? c = some digit ↔ c.toLower = hexDigit digit := by
  by_cases ascii : c.toNat < 128
  · refine of_ascii ?_ c ascii
    decide +kernel +revert
  · have unread : hexValue? c = none := by
      rw [hexValue?, if_neg (by omega), if_neg (by omega), if_neg (by omega)]
    rw [unread, toLower_of_high (Nat.le_of_not_lt ascii)]
    refine iff_of_false nofun fun same => ascii ?_
    rw [same]
    exact Nat.lt_of_le_of_lt (isGraphic_hexDigit digit).2 (by decide)

theorem mapM_hexValue?_eq_some_iff {text : List Char} {digits : List (Fin 16)} :
    text.mapM hexValue? = some digits ↔ text.map Char.toLower = digits.map hexDigit := by
  induction text generalizing digits with
  | nil => cases digits <;> simp
  | cons c text induction =>
      simp only [List.mapM_cons, Option.bind_eq_bind, Option.bind_eq_some_iff,
        hexValue?_eq_some_iff, induction, Option.pure_def, Option.some.injEq, List.map_cons]
      constructor
      · rintro ⟨digit, first, others, rest, rfl⟩
        rw [first, rest, List.map_cons]
      · intro same
        cases digits with
        | nil => cases same
        | cons digit digits =>
            rcases List.cons.inj same with ⟨first, rest⟩
            exact ⟨digit, first, digits, rest, rfl⟩

end LinkShortener.Text
