import LinkShortener.Proofs.Retry.Reasoning
import LinkShortener.Service.ShortUrls

/-! # Lookups

A search for a free slug and the resolution of a slug are made of lookups. What a lookup preserves,
they preserve.
-/

namespace LinkShortener.Service

/-- No step of a search for a slug breaks the invariant. -/
structure LookupsKeep (invariant : Scene → Prop) : Prop where
  noting : ∀ events, Preserves invariant (note events)
  drawing : Preserves invariant drawSlug
  finding : ∀ slug, Preserves invariant (findBySlug slug)

namespace LookupsKeep

variable {invariant : Scene → Prop} (keep : LookupsKeep invariant)

include keep

theorem searchFree (attempts : Nat) :
    Preserves invariant
      (searchFree drawSlug (fun slug => return (← findBySlug slug).isSome) attempts) := by
  induction attempts with
  | zero => exact preserves_pure _
  | succ attempts induction =>
      refine keep.drawing.bind fun slug => Preserves.bind ?_ fun taken => ?_
      · exact (keep.finding slug).bind fun _ => preserves_pure _
      · cases taken with
        | false => exact preserves_pure _
        | true => exact induction

theorem freeSlug : Preserves invariant freeSlug := by
  refine (keep.searchFree slugAttempts).bind fun found => ?_
  cases found with
  | some slug => exact preserves_pure _
  | none => exact (keep.noting _).bind fun _ => preserves_throw _

theorem resolveSlug (slug : String) : Preserves invariant (resolveSlug slug) := by
  unfold Service.resolveSlug
  dsimp only
  split
  · exact fun _ holds => ensures_bind (ensures_throw holds)
  · refine (keep.finding slug).bind fun found => ?_
    cases found with
    | none => exact preserves_throw _
    | some shortUrl => exact preserves_pure _

end LookupsKeep

end LinkShortener.Service
