import LinkShortener.Fingerprint
import LinkShortener.Proofs.Json.Quoting
import Mathlib.Data.Set.Image

/-! # Identities of requests

What tells requests apart is their kind and some of their fields. Different identities have
different documents, so their fingerprints differ unless the hash confuses the two documents.
-/

namespace LinkShortener

/-- The kind of a request with the fields that count. -/
inductive Identity where
  | shortUrl (destination : String)
  | user (username email : String)
  deriving DecidableEq

namespace Identity

/-- The document that is hashed. -/
def document : Identity → List Char
  | .shortUrl destination => Fingerprint.shortUrlDocument destination
  | .user username email => Fingerprint.userDocument username email

def fingerprint (identity : Identity) : String := Fingerprint.ofDocument identity.document

private theorem document_shortUrl (destination : String) :
    document (.shortUrl destination) =
      '\x7b' :: (Json.quote "destination_url".toList ++ ':' :: (Json.quote destination.toList ++
        ',' :: (Json.quote "kind".toList ++ ':' :: (Json.quote "short_url".toList ++
          ['\x7d'])))) := by
  simp [document, Fingerprint.shortUrlDocument, Json.render, Json.renderMembers]

private theorem document_user (username email : String) :
    document (.user username email) =
      '\x7b' :: (Json.quote "email".toList ++ ':' :: (Json.quote email.toList ++
        ',' :: (Json.quote "kind".toList ++ ':' :: (Json.quote "user".toList ++
          ',' :: (Json.quote "username".toList ++ ':' :: (Json.quote username.toList ++
            ['\x7d'])))))) := by
  simp [document, Fingerprint.userDocument, Json.render, Json.renderMembers]

private theorem shortUrl_ne_user (destination username email : String) :
    document (.shortUrl destination) ≠ document (.user username email) := by
  intro equal
  rw [document_shortUrl, document_user] at equal
  have names := (Json.quote_append_inj (List.cons.inj equal).2).1
  exact absurd names (by decide)

theorem document_injective {first second : Identity} (equal : first.document = second.document) :
    first = second := by
  cases first with
  | shortUrl destination =>
      cases second with
      | shortUrl other =>
          rw [document_shortUrl, document_shortUrl] at equal
          have fields := (Json.quote_append_inj (List.cons.inj equal).2).2
          have destinations := (Json.quote_append_inj (List.cons.inj fields).2).1
          rw [String.toList_inj.mp destinations]
      | user username email => exact absurd equal (shortUrl_ne_user destination username email)
  | user username email =>
      cases second with
      | shortUrl other => exact absurd equal.symm (shortUrl_ne_user other username email)
      | user otherName otherEmail =>
          rw [document_user, document_user] at equal
          have fields := (Json.quote_append_inj (List.cons.inj equal).2).2
          have emails := Json.quote_append_inj (List.cons.inj fields).2
          have kinds := (Json.quote_append_inj (List.cons.inj emails.2).2).2
          have values := (Json.quote_append_inj (List.cons.inj kinds).2).2
          have names := (Json.quote_append_inj (List.cons.inj values).2).2
          have usernames := (Json.quote_append_inj (List.cons.inj names).2).1
          rw [String.toList_inj.mp emails.1, String.toList_inj.mp usernames]

/-- The hash does not confuse the documents of two identities. -/
def IsTellable (first second : Identity) : Prop :=
  first.fingerprint = second.fingerprint → first.document = second.document

theorem eq_of_fingerprint {first second : Identity} (tellable : first.IsTellable second)
    (equal : first.fingerprint = second.fingerprint) : first = second :=
  document_injective (tellable equal)

/-- Whatever characters the fields hold, a document is that of one identity only. So requests have one
fingerprint just when they have one kind and equal fields, as long as the hash has no collision among
their documents. -/
theorem told_apart :
    (∀ destination other, Fingerprint.shortUrlDocument destination =
      Fingerprint.shortUrlDocument other → destination = other) ∧
    (∀ username email otherName otherEmail, Fingerprint.userDocument username email =
      Fingerprint.userDocument otherName otherEmail → username = otherName ∧ email = otherEmail) ∧
    (∀ destination username email,
      Fingerprint.shortUrlDocument destination ≠ Fingerprint.userDocument username email) ∧
    ∀ requests : Set Identity, Set.InjOn Fingerprint.ofDocument (document '' requests) →
      ∀ first ∈ requests, ∀ second ∈ requests,
        first.fingerprint = second.fingerprint ↔ first = second := by
  refine ⟨fun destination other equal => ?_, fun username email otherName otherEmail equal => ?_,
    shortUrl_ne_user, fun requests apart first asked second also => ⟨fun equal => ?_, ?_⟩⟩
  · have same : shortUrl destination = shortUrl other := document_injective equal
    exact shortUrl.inj same
  · have same : user username email = user otherName otherEmail := document_injective equal
    exact user.inj same
  · have documents := apart (Set.mem_image_of_mem document asked)
      (Set.mem_image_of_mem document also) equal
    exact document_injective documents
  · rintro rfl
    rfl

/-- Written without escapes, the two requests would have one document. -/
theorem told_apart_shifted :
    Fingerprint.user "c" "a\",\"kind\":\"user\",\"username\":\"b" ≠
      Fingerprint.user "b\",\"kind\":\"user\",\"username\":\"c" "a" := by
  let first := user "c" "a\",\"kind\":\"user\",\"username\":\"b"
  let second := user "b\",\"kind\":\"user\",\"username\":\"c" "a"
  have differ :
      Fingerprint.ofDocument first.document ≠ Fingerprint.ofDocument second.document := by
    decide +kernel
  have apart : Set.InjOn Fingerprint.ofDocument (document '' {first, second}) := by
    rw [Set.image_pair]
    rintro _ (rfl | rfl) _ (rfl | rfl) equal
    · rfl
    · exact absurd equal differ
    · exact absurd equal.symm differ
    · rfl
  have equivalent := told_apart.2.2.2 {first, second} apart first (.inl rfl) second (.inr rfl)
  exact equivalent.not.mpr (by decide)

/-- A fingerprint is made of hexadecimal digits, so any store can hold it. -/
theorem fingerprint_holds_no_zero (identity : Identity) :
    identity.fingerprint.toList.contains (Char.ofNat 0) = false := by
  have digit : ∀ digit : Fin 16, Text.hexDigit digit ≠ Char.ofNat 0 := by decide
  rw [fingerprint, Fingerprint.ofDocument, Sha256.ofText, Text.hexOfBytes, String.toList_ofList,
    ← Bool.not_eq_true, List.contains_iff_mem, List.mem_flatMap]
  rintro ⟨byte, -, member⟩
  rw [Text.hexOfByte, List.mem_cons, List.mem_singleton] at member
  rcases member with same | same <;> exact digit _ same.symm

end Identity

end LinkShortener
