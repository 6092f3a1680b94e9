import LinkShortener.Proofs.Service.Undisturbed
import LinkShortener.Proofs.Slug.Generation
import Mathlib.Data.Stream.Init

/-! # Generator and check

The slugs that can be drawn are exactly those that are well formed. One inclusion is the carry and
the rejection of words; for the other, words are given that draw a slug.
-/

namespace LinkShortener.Slug

/-! ## Words that draw a given slug -/

/-- A word that is drawn as the length. -/
def lengthWord (length : Nat) : UInt32 :=
  UInt32.ofNat (((length - shortest) * wordCount + 4) / 5)

/-- A word that is drawn as the letter. -/
def letterWord (letter : Char) : UInt32 := UInt32.ofNat (alphabet.idxOf letter * 2 ^ 26)

def wordsFor (slug : String) : List UInt32 :=
  lengthWord slug.toList.length :: slug.toList.map letterWord

theorem drawLength_lengthWord {length : Nat} (least : shortest ≤ length) (most : length ≤ longest)
    (words : List UInt32) : drawLength (lengthWord length :: words) = some (length, words) := by
  simp only [shortest, longest] at least most
  obtain rfl | rfl | rfl | rfl | rfl :
      length = 4 ∨ length = 5 ∨ length = 6 ∨ length = 7 ∨ length = 8 := by omega
  all_goals rfl

theorem drawLetter_letterWord {letter : Char} (isLetter : isLetter letter = true)
    (words : List UInt32) : drawLetter (letterWord letter :: words) = some (letter, words) := by
  have member := mem_alphabet_iff.mpr isLetter
  have bound : alphabet.idxOf letter < 62 := List.idxOf_lt_length_of_mem member
  have number : (letterWord letter).toNat >>> 26 = alphabet.idxOf letter := by
    rw [letterWord, UInt32.toNat_ofNat_of_lt' (by rw [UInt32.size]; omega),
      Nat.shiftRight_eq_div_pow, Nat.mul_div_cancel _ (by omega)]
  exact drawLetter_eq_some_iff.mpr
    ⟨[], letterWord letter, rfl, by simp, by rw [number, List.getElem?_idxOf member]⟩

theorem drawLetters_letterWord {letters : List Char} (all : ∀ c ∈ letters, isLetter c = true)
    (words : List UInt32) :
    drawLetters letters.length (letters.map letterWord ++ words) = some (letters, words) := by
  induction letters with
  | nil => rfl
  | cons letter letters induction =>
      rcases List.forall_mem_cons.mp all with ⟨first, others⟩
      simp [drawLetters, drawLetter_letterWord first, induction others]

theorem generate_wordsFor {slug : String} (wellFormed : isWellFormed slug = true)
    (words : List UInt32) : generate (wordsFor slug ++ words) = some (slug, words) := by
  rcases isWellFormed_iff.mp wellFormed with ⟨least, most, letters⟩
  exact generate_eq_some_iff.mpr ⟨slug.toList.length, slug.toList.map letterWord ++ words,
    slug.toList, drawLength_lengthWord least most _,
    drawLetters_letterWord (List.all_eq_true.mp letters) words, String.ofList_toList⟩

/-! ## Endless sources -/

/-- The slug is drawn from an endless source: some number of its words suffices. -/
def DrawnFrom (source : Stream' UInt32) (slug : String) : Prop :=
  ∃ count rest, generate (source.take count) = some (slug, rest)

variable {source : Stream' UInt32} {slug other : String}

theorem DrawnFrom.wellFormed (drawn : DrawnFrom source slug) : isWellFormed slug = true := by
  rcases drawn with ⟨count, rest, drawn⟩
  exact generate_wellFormed drawn

/-- More words of the source do not change what is drawn. -/
theorem DrawnFrom.unique (first : DrawnFrom source slug) (second : DrawnFrom source other) :
    slug = other := by
  rcases first with ⟨count, rest, first⟩
  rcases second with ⟨more, remainder, second⟩
  have longer := generate_append ((source.drop count).take more) first
  have further := generate_append ((source.drop more).take count) second
  rw [← Stream'.take_add] at longer further
  rw [Nat.add_comm, longer] at further
  exact congrArg Prod.fst (Option.some.inj further)

theorem exists_drawnFrom {count : Nat}
    (enough : longest ≤ ((source.drop 2).take count).countP numbersLetter) :
    ∃ slug, DrawnFrom source slug := by
  rw [Stream'.take_drop] at enough
  rcases exists_generate enough with ⟨slug, rest, drawn⟩
  exact ⟨slug, 2 + count, rest, drawn⟩

theorem drawnFrom_wordsFor (wellFormed : isWellFormed slug = true) (source : Stream' UInt32) :
    DrawnFrom (wordsFor slug ++ₛ source) slug := by
  refine ⟨(wordsFor slug).length, [], ?_⟩
  have drawn := generate_wordsFor wellFormed []
  rw [List.append_nil] at drawn
  rw [Stream'.take_append_of_le_length _ (wordsFor slug) source (Nat.le_refl _), List.take_length,
    drawn]

/-! ## The slugs of the service -/

/-- The service takes the slug everywhere: it looks the slug up instead of refusing it, the store
answers from its rows, and a row with the slug fits. -/
structure IsServable (slug : String) : Prop where
  lookedUp : Service.resolveSlug slug = do
    match ← Service.findBySlug slug with
    | some shortUrl => return shortUrl
    | none => Service.refuse (Service.slugNotFound slug)
  answered (tables : Tables) (now : Instant) :
    (Statement.fetchShortUrlBySlug slug).run tables now = .ok (tables.shortUrlBySlug? slug, tables)
  fits : slug.toList.length ≤ 8
  storable (id : Uuid) (destination : String) (clean : Char.ofNat 0 ∉ destination.toList) :
    (Statement.insertShortUrl ⟨id, destination, slug⟩).unstorable? = none

theorem IsServable.of_wellFormed (wellFormed : isWellFormed slug = true) : IsServable slug := by
  have fits : slug.toList.length ≤ 8 := (isWellFormed_iff.mp wellFormed).2.1
  refine ⟨?_, ?_, fits, ?_⟩
  · rw [Service.resolveSlug, wellFormed]
    rfl
  · intro tables now
    rw [Statement.run, Statement.storable_slug wellFormed]
    rfl
  · intro id destination clean
    have none : Char.ofNat 0 ∉ slug.toList := not_mem_of_wellFormed wellFormed _ (by decide)
    simp [Statement.unstorable?, Statement.texts, clean, none, fits]

/-- Generator and check agree: a slug that is drawn, from words or from an endless source, is well
formed and servable; eight words after the first two that number a letter are enough to draw one,
and from an endless source only one; and each well-formed text, as characters or as bytes, is drawn
from some words, and from some source. -/
theorem generate_iff_isWellFormed :
    (∀ words slug rest, generate words = some (slug, rest) →
      isWellFormed slug = true ∧ IsServable slug) ∧
    (∀ source slug, DrawnFrom source slug → isWellFormed slug = true ∧ IsServable slug) ∧
    (∀ words : List UInt32, 8 ≤ (words.drop 2).countP numbersLetter →
      ∃ slug rest, generate words = some (slug, rest)) ∧
    (∀ (source : Stream' UInt32) count,
      8 ≤ ((source.drop 2).take count).countP numbersLetter → ∃! slug, DrawnFrom source slug) ∧
    ∀ text, (isWellFormed text = true ↔ ∃ words, generate words = some (text, [])) ∧
      (isWellFormed text = true ↔ ∃ source, DrawnFrom source text) ∧
      (isWellFormed text = true ↔
        4 ≤ (Text.encodeUtf8 text).length ∧ (Text.encodeUtf8 text).length ≤ 8 ∧
          ∀ byte ∈ Text.encodeUtf8 text, IsLetterByte byte) := by
  refine ⟨?_, ?_, fun _ enough => exists_generate enough, ?_, ?_⟩
  · intro words slug rest drawn
    exact ⟨generate_wellFormed drawn, .of_wellFormed (generate_wellFormed drawn)⟩
  · intro source slug drawn
    exact ⟨drawn.wellFormed, .of_wellFormed drawn.wellFormed⟩
  · intro source count enough
    rcases exists_drawnFrom enough with ⟨slug, drawn⟩
    exact ⟨slug, drawn, fun other again => again.unique drawn⟩
  · intro text
    refine ⟨⟨fun wellFormed => ⟨wordsFor text, ?_⟩, ?_⟩, ⟨fun wellFormed => ?_, ?_⟩,
      isWellFormed_iff_bytes⟩
    · simpa using generate_wordsFor wellFormed []
    · rintro ⟨words, drawn⟩
      exact generate_wellFormed drawn
    · exact ⟨_, drawnFrom_wordsFor wellFormed (Stream'.const 0)⟩
    · rintro ⟨source, drawn⟩
      exact drawn.wellFormed

/-- The highest word is drawn as the greatest length without a carry. -/
theorem generate_iff_isWellFormed_highest :
    generate (4294967295 :: List.replicate 8 4093640704) = some ("99999999", []) ∧
      isWellFormed "99999999" = true ∧ IsServable "99999999" ∧
      8 ≤ (((Stream'.const 4093640704).drop 2).take 8).countP numbersLetter ∧
      ∃! slug, DrawnFrom (Stream'.const 4093640704) slug := by
  have drawn : generate (4294967295 :: List.replicate 8 4093640704) = some ("99999999", []) := by
    decide
  have enough : 8 ≤ (((Stream'.const 4093640704).drop 2).take 8).countP numbersLetter := by decide
  rcases generate_iff_isWellFormed with ⟨sound, _, _, single, _⟩
  exact ⟨drawn, (sound _ _ _ drawn).1, (sound _ _ _ drawn).2, enough, single _ 8 enough⟩

end LinkShortener.Slug
