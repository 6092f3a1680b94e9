import LinkShortener.Proofs.Slug.WellFormed

/-! # Generated slugs

Whatever the random words, a slug that is drawn from them is well formed. Words that follow are not
looked at, and eight letters in the words after the first two are enough for any length.
-/

namespace LinkShortener.Slug

/-! ## The length -/

/-- The length of a drawn slug keeps the bounds: the carry comes only where it can still be added. -/
theorem drawLength_bounds {words rest : List UInt32} {length : Nat}
    (drawn : drawLength words = some (length, rest)) : shortest ≤ length ∧ length ≤ longest := by
  cases words with
  | nil => cases drawn
  | cons word words =>
      have bound : word.toNat < 4294967296 := word.toNat_lt
      simp only [drawLength] at drawn
      split at drawn
      next low =>
        cases drawn
        simp only [wordCount, shortest, longest] at low ⊢
        omega
      next high =>
        split at drawn
        · cases drawn
        · cases drawn
          split
          · simp only [wordCount, shortest, longest] at high ⊢
            omega
          · simp only [wordCount, shortest, longest] at high ⊢
            omega

theorem drawLength_append {words rest : List UInt32} {length : Nat} (more : List UInt32)
    (drawn : drawLength words = some (length, rest)) :
    drawLength (words ++ more) = some (length, rest ++ more) := by
  cases words with
  | nil => cases drawn
  | cons word words =>
      simp only [drawLength, List.cons_append] at drawn ⊢
      split at drawn
      next low =>
        cases drawn
        rw [if_pos low]
      next high =>
        rw [if_neg high]
        cases words with
        | nil => cases drawn
        | cons second words =>
            cases drawn
            rfl

/-- Two words suffice for a length, and only of these is any used. -/
theorem exists_drawLength (first second : UInt32) (words : List UInt32) :
    ∃ length, drawLength (first :: second :: words) = some (length, second :: words) ∨
      drawLength (first :: second :: words) = some (length, words) := by
  simp only [drawLength]
  split
  · exact ⟨_, .inl rfl⟩
  · exact ⟨_, .inr rfl⟩

/-! ## The letters -/

/-- The top six bits of the word number a letter. -/
def numbersLetter (word : UInt32) : Bool := word.toNat >>> 26 < 62

theorem not_numbersLetter_iff {word : UInt32} :
    numbersLetter word = false ↔ alphabet[word.toNat >>> 26]? = none := by
  have size : alphabet.length = 62 := rfl
  simp [numbersLetter, size]

theorem numbersLetter_iff {word : UInt32} :
    numbersLetter word = true ↔ ∃ letter, alphabet[word.toNat >>> 26]? = some letter := by
  rw [← Bool.not_eq_false, not_numbersLetter_iff, ← Option.isSome_iff_exists,
    Option.isSome_iff_ne_none]

/-- The letter that is drawn is the one that the first word to number any numbers. -/
theorem drawLetter_eq_some_iff {words rest : List UInt32} {letter : Char} :
    drawLetter words = some (letter, rest) ↔
      ∃ skipped word, words = skipped ++ word :: rest ∧
        (∀ other ∈ skipped, numbersLetter other = false) ∧
          alphabet[word.toNat >>> 26]? = some letter := by
  constructor
  · intro drawn
    induction words with
    | nil => cases drawn
    | cons word words induction =>
        rw [drawLetter] at drawn
        split at drawn
        next chosen found =>
          cases drawn
          exact ⟨[], word, rfl, by simp, found⟩
        next none =>
          rcases induction drawn with ⟨skipped, last, rfl, useless, found⟩
          exact ⟨word :: skipped, last, rfl,
            List.forall_mem_cons.mpr ⟨not_numbersLetter_iff.mpr none, useless⟩, found⟩
  · rintro ⟨skipped, word, rfl, useless, found⟩
    induction skipped with
    | nil => rw [List.nil_append, drawLetter, found]
    | cons other skipped induction =>
        rcases List.forall_mem_cons.mp useless with ⟨first, useless⟩
        rw [List.cons_append, drawLetter, not_numbersLetter_iff.mp first]
        exact induction useless

theorem drawLetter_isLetter {words rest : List UInt32} {letter : Char}
    (drawn : drawLetter words = some (letter, rest)) : isLetter letter = true := by
  rcases drawLetter_eq_some_iff.mp drawn with ⟨_, _, _, _, found⟩
  exact mem_alphabet_iff.mp (List.mem_of_getElem? found)

theorem drawLetter_append {words rest : List UInt32} {letter : Char} (more : List UInt32)
    (drawn : drawLetter words = some (letter, rest)) :
    drawLetter (words ++ more) = some (letter, rest ++ more) := by
  rcases drawLetter_eq_some_iff.mp drawn with ⟨skipped, word, rfl, useless, found⟩
  exact drawLetter_eq_some_iff.mpr ⟨skipped, word, by simp, useless, found⟩

/-- Drawing a letter uses up one of the words that number any. -/
theorem exists_drawLetter {words : List UInt32} {count : Nat}
    (enough : count + 1 ≤ words.countP numbersLetter) :
    ∃ letter rest, drawLetter words = some (letter, rest) ∧ count ≤ rest.countP numbersLetter := by
  induction words with
  | nil => cases enough
  | cons word words induction =>
      rw [drawLetter]
      cases numbers : numbersLetter word with
      | true =>
          rcases numbersLetter_iff.mp numbers with ⟨letter, found⟩
          rw [List.countP_cons_of_pos numbers] at enough
          exact ⟨letter, words, by rw [found], Nat.le_of_succ_le_succ enough⟩
      | false =>
          rw [List.countP_cons_of_neg (by simp [numbers])] at enough
          rw [not_numbersLetter_iff.mp numbers]
          exact induction enough

theorem drawLetters_spec {count : Nat} {words rest : List UInt32} {letters : List Char}
    (drawn : drawLetters count words = some (letters, rest)) :
    letters.length = count ∧ letters.all isLetter = true := by
  induction count generalizing words letters with
  | zero =>
      cases drawn
      exact ⟨rfl, rfl⟩
  | succ count induction =>
      simp only [drawLetters, Option.bind_eq_bind, Option.bind_eq_some_iff, Prod.exists] at drawn
      rcases drawn with ⟨letter, afterLetter, first, others, last, following, same⟩
      cases same
      rcases induction following with ⟨length, all⟩
      refine ⟨by rw [List.length_cons, length], ?_⟩
      rw [List.all_cons, drawLetter_isLetter first, all, Bool.and_self]

theorem drawLetters_append {count : Nat} {words rest : List UInt32} {letters : List Char}
    (more : List UInt32) (drawn : drawLetters count words = some (letters, rest)) :
    drawLetters count (words ++ more) = some (letters, rest ++ more) := by
  induction count generalizing words letters with
  | zero =>
      cases drawn
      rfl
  | succ count induction =>
      simp only [drawLetters, Option.bind_eq_bind, Option.bind_eq_some_iff, Prod.exists] at drawn
      rcases drawn with ⟨letter, afterLetter, first, others, last, following, same⟩
      cases same
      simp [drawLetters, drawLetter_append more first, induction following]

theorem exists_drawLetters {count : Nat} {words : List UInt32}
    (enough : count ≤ words.countP numbersLetter) :
    ∃ letters rest, drawLetters count words = some (letters, rest) := by
  induction count generalizing words with
  | zero => exact ⟨[], words, rfl⟩
  | succ count induction =>
      rcases exists_drawLetter enough with ⟨letter, afterLetter, first, left⟩
      rcases induction left with ⟨letters, rest, following⟩
      exact ⟨letter :: letters, rest, by simp [drawLetters, first, following]⟩

/-! ## The slug -/

theorem generate_eq_some_iff {words rest : List UInt32} {slug : String} :
    generate words = some (slug, rest) ↔
      ∃ length afterLength letters, drawLength words = some (length, afterLength) ∧
        drawLetters length afterLength = some (letters, rest) ∧ String.ofList letters = slug := by
  simp only [generate, Option.bind_eq_bind, Option.bind_eq_some_iff, Prod.exists, Option.pure_def,
    Option.some.injEq, Prod.mk.injEq]
  constructor
  · rintro ⟨length, afterLength, measured, letters, last, spelled, same, rfl⟩
    exact ⟨length, afterLength, letters, measured, spelled, same⟩
  · rintro ⟨length, afterLength, letters, measured, spelled, same⟩
    exact ⟨length, afterLength, measured, letters, rest, spelled, same, rfl⟩

/-- A slug that is drawn from any words is well formed. -/
theorem generate_wellFormed {words rest : List UInt32} {slug : String}
    (drawn : generate words = some (slug, rest)) : isWellFormed slug = true := by
  rcases generate_eq_some_iff.mp drawn with ⟨length, afterLength, letters, measured, spelled, rfl⟩
  rcases drawLetters_spec spelled with ⟨count, all⟩
  rcases drawLength_bounds measured with ⟨least, most⟩
  simp [isWellFormed, String.toList_ofList, count, all, least, most]

theorem generate_append {words rest : List UInt32} {slug : String} (more : List UInt32)
    (drawn : generate words = some (slug, rest)) :
    generate (words ++ more) = some (slug, rest ++ more) := by
  rcases generate_eq_some_iff.mp drawn with ⟨length, afterLength, letters, measured, spelled, same⟩
  exact generate_eq_some_iff.mpr ⟨length, afterLength ++ more, letters,
    drawLength_append more measured, drawLetters_append more spelled, same⟩

/-- A slug is drawn from all words of which, after the first two, as many number a letter as a slug
has at most. -/
theorem exists_generate {words : List UInt32}
    (enough : longest ≤ (words.drop 2).countP numbersLetter) :
    ∃ slug rest, generate words = some (slug, rest) := by
  obtain ⟨first, second, words, rfl⟩ : ∃ first second more, words = first :: second :: more := by
    match words, enough with
    | first :: second :: more, _ => exact ⟨first, second, more, rfl⟩
  rw [List.drop_succ_cons, List.drop_succ_cons, List.drop_zero] at enough
  have sufficient {length : Nat} {afterLength : List UInt32}
      (measured : drawLength (first :: second :: words) = some (length, afterLength))
      (kept : words.countP numbersLetter ≤ afterLength.countP numbersLetter) :
      ∃ slug rest, generate (first :: second :: words) = some (slug, rest) := by
    have most := (drawLength_bounds measured).2
    rcases exists_drawLetters (Nat.le_trans most (Nat.le_trans enough kept)) with
      ⟨letters, rest, spelled⟩
    exact ⟨_, rest, generate_eq_some_iff.mpr ⟨length, afterLength, letters, measured, spelled, rfl⟩⟩
  rcases exists_drawLength first second words with ⟨length, measured | measured⟩
  · exact sufficient measured (List.Sublist.countP_le (List.sublist_cons_self second words))
  · exact sufficient measured (Nat.le_refl _)

end LinkShortener.Slug
