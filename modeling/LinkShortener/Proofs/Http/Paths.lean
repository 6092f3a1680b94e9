import LinkShortener.Http.Path
import LinkShortener.Proofs.Slug.WellFormed

/-! # Paths of slugs

A path that consists of a slug alone passes through normalization, the routes and decoding as it is. One
slug is the exception: it is the path of the health report.
-/

namespace LinkShortener

namespace Http

/-- A request for a path without a query or fragment in it keeps the path when the path is put back. -/
theorem Request.path_withPath {request : Request} {rest : List Char}
    (same : request.path = '/' :: rest) : (request.withPath ('/' :: rest)).path = '/' :: rest := by
  let isPathMark (c : Char) : Bool := c != '?' && c != '#'
  have path : request.pathOnward.takeWhile isPathMark = '/' :: rest := same
  have plain : ∀ c ∈ '/' :: rest, isPathMark c = true := by
    rw [← path]
    exact List.all_eq_true.mp List.all_takeWhile
  have following : request.pathOnward.drop request.path.length =
      request.pathOnward.dropWhile isPathMark := by
    conv_lhs => rw [← List.takeWhile_append_dropWhile (p := isPathMark) (l := request.pathOnward)]
    exact List.drop_left
  -- What follows the path begins with a mark, so nothing of it is read as part of the path.
  have ended : ((request.pathOnward.dropWhile isPathMark).takeWhile (· != '#')).takeWhile
      isPathMark = [] := by
    have first := List.head?_dropWhile_not isPathMark request.pathOnward
    cases dropped : request.pathOnward.dropWhile isPathMark with
    | nil => rfl
    | cons mark others =>
        rw [dropped] at first
        have first : isPathMark mark = false := first
        cases fragment : mark != '#' with
        | false =>
            simp only [List.takeWhile_cons, fragment, Bool.false_eq_true, if_false, List.takeWhile_nil]
        | true =>
            simp only [List.takeWhile_cons, fragment, first, Bool.false_eq_true, if_true, if_false]
  have onward : (request.withPath ('/' :: rest)).pathOnward =
      ('/' :: rest) ++ (request.pathOnward.dropWhile isPathMark).takeWhile (· != '#') := by
    rw [withPath, following]
    rfl
  rw [Request.path, onward]
  change List.takeWhile isPathMark _ = _
  rw [List.takeWhile_append_of_pos plain, ended, List.append_nil]

variable {slug : String} (wellFormed : Slug.isWellFormed slug = true)

include wellFormed

theorem normalizePath_slug : normalizePath ('/' :: slug.toList) = '/' :: slug.toList := by
  have filled := Slug.ne_nil_of_wellFormed wellFormed
  have slash := Slug.not_mem_of_wellFormed wellFormed '/' rfl
  have last : (('/' :: slug.toList).getLast? == some '/') = false := by
    rw [beq_eq_false_iff_ne]
    intro same
    rw [List.getLast?_cons_of_ne_nil filled] at same
    exact slash (List.mem_of_getLast? same)
  have first : ['/', '/'].isPrefixOf ('/' :: slug.toList) = false := by
    cases letters : slug.toList with
    | nil => exact absurd letters filled
    | cons letter rest =>
        rw [letters] at slash
        have other : ('/' == letter) = false :=
          beq_eq_false_iff_ne.mpr fun same => slash (same ▸ List.mem_cons_self)
        simp [List.isPrefixOf, other]
  rw [normalizePath, last, first]
  rfl

/-- The path of a slug leads to the redirect from it, unless it is the path of the health report. -/
theorem ofPath?_slug :
    Route.ofPath? ('/' :: slug.toList) =
      if slug = "health" then some .health else some (.slug slug.toList) := by
  have filled := Slug.ne_nil_of_wellFormed wellFormed
  have slash := Slug.not_mem_of_wellFormed wellFormed '/' rfl
  have other : ∀ path : String, path.toList.tail.contains '/' = true →
      ('/' :: slug.toList == path.toList) = false := by
    intro path contains
    rw [beq_eq_false_iff_ne]
    intro same
    rw [← same, List.tail_cons, List.contains_iff_mem] at contains
    exact slash contains
  have health : ('/' :: slug.toList == "/health".toList) = decide (slug = "health") := by
    rw [Bool.eq_iff_iff, beq_iff_eq, decide_eq_true_eq, ← String.toList_inj]
    exact List.cons_inj_right '/'
  have single : slug.toList.contains '/' = false := by
    rw [← Bool.not_eq_true, List.contains_iff_mem]
    exact slash
  have notEmpty : slug.toList.isEmpty = false := by
    rw [← Bool.not_eq_true, List.isEmpty_iff]
    exact filled
  rw [Route.ofPath?, health, other "/api/v1/shorturl" rfl, other "/api/v1/users" rfl, single,
    notEmpty]
  by_cases same : slug = "health"
  · rw [if_pos same, if_pos (decide_eq_true same)]
  · rw [if_neg same, if_neg (by rw [decide_eq_true_eq]; exact same)]
    rfl

theorem decodeSegment?_slug : decodeSegment? slug.toList = some slug := by
  have ascii : ∀ c ∈ slug.toList, c.toNat < 128 := fun c member =>
    Slug.ascii_of_isLetter (Slug.letters_of_wellFormed wellFormed c member)
  rw [decodeSegment?, Text.percentDecoded_ascii ascii (Slug.not_mem_of_wellFormed wellFormed '%' rfl),
    Text.decodeUtf8?_ascii ascii, Option.map_some, String.ofList_toList]

end Http

end LinkShortener
