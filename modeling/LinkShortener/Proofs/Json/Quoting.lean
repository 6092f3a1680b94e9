import LinkShortener.Json.Basic
import Mathlib.Tactic.IntervalCases

/-! # Quoting

A quoted string can be read back: what one character is written as tells the character and where the
next one begins. So strings with the same text in quotes are the same.
-/

namespace LinkShortener.Json

/-- Reads one character of a quoted string. -/
def unescape : List Char → Option (Char × List Char)
  | '\\' :: 'b' :: rest => some (Char.ofNat 8, rest)
  | '\\' :: 't' :: rest => some (Char.ofNat 9, rest)
  | '\\' :: 'n' :: rest => some (Char.ofNat 10, rest)
  | '\\' :: 'f' :: rest => some (Char.ofNat 12, rest)
  | '\\' :: 'r' :: rest => some (Char.ofNat 13, rest)
  | '\\' :: 'u' :: '0' :: '0' :: high :: low :: rest => do
    let high ← Text.hexValue? high
    let low ← Text.hexValue? low
    return (Char.ofNat (high.val * 16 + low.val), rest)
  | '\\' :: c :: rest => some (c, rest)
  | c :: rest => some (c, rest)
  | [] => none

theorem escape_of_plain {c : Char} (quote : c ≠ '"') (backslash : c ≠ '\\')
    (printable : ¬ c.toNat < 0x20) : escape c = [c] := by
  have others : c.toNat ≠ 8 ∧ c.toNat ≠ 9 ∧ c.toNat ≠ 10 ∧ c.toNat ≠ 12 ∧ c.toNat ≠ 13 := by omega
  simp [escape, quote, backslash, printable, others]

theorem unescape_escape (c : Char) (rest : List Char) :
    unescape (escape c ++ rest) = some (c, rest) := by
  by_cases quote : c = '"'
  · subst quote
    rfl
  · by_cases backslash : c = '\\'
    · subst backslash
      rfl
    · by_cases control : c.toNat < 0x20
      · have named : c = Char.ofNat c.toNat := (Char.ofNat_toNat c).symm
        generalize c.toNat = code at named control
        subst named
        interval_cases code <;> rfl
      · rw [escape_of_plain quote backslash control, List.singleton_append, unescape]
        all_goals simp_all

theorem escape_append_ne_quote (c : Char) (rest following : List Char) :
    escape c ++ rest ≠ '"' :: following := by
  intro equal
  have read := unescape_escape c rest
  rw [equal] at read
  have same : c = '"' := by
    have parts := Option.some.inj read
    exact (congrArg Prod.fst parts).symm
  subst same
  cases equal

/-- The end of a quoted string can be found, so the string and what follows it can be told apart. -/
theorem quoted_append_inj {first second rest following : List Char}
    (equal : first.flatMap escape ++ '"' :: rest = second.flatMap escape ++ '"' :: following) :
    first = second ∧ rest = following := by
  induction first generalizing second with
  | nil =>
      cases second with
      | nil => exact ⟨rfl, (List.cons.inj equal).2⟩
      | cons c second =>
          rw [List.flatMap_cons, List.append_assoc] at equal
          exact absurd equal.symm (escape_append_ne_quote c _ _)
  | cons c first induction =>
      cases second with
      | nil =>
          rw [List.flatMap_cons, List.append_assoc] at equal
          exact absurd equal (escape_append_ne_quote c _ _)
      | cons d second =>
          rw [List.flatMap_cons, List.flatMap_cons, List.append_assoc, List.append_assoc] at equal
          have read := congrArg unescape equal
          rw [unescape_escape, unescape_escape] at read
          rcases Prod.mk.inj (Option.some.inj read) with ⟨same, others⟩
          rcases induction others with ⟨tail, ends⟩
          exact ⟨by rw [same, tail], ends⟩

theorem quote_append_inj {first second rest following : List Char}
    (equal : quote first ++ rest = quote second ++ following) :
    first = second ∧ rest = following := by
  simp only [quote, List.cons_append, List.append_assoc, List.nil_append, List.cons.injEq,
    true_and] at equal
  exact quoted_append_inj equal

end LinkShortener.Json
