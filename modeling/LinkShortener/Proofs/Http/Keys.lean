import LinkShortener.Proofs.Http.Likeness
import LinkShortener.Proofs.Text.Trimming
import LinkShortener.Proofs.Uuid.Spelling

/-! # Keys of requests

The header of a request names a key, has an unusable value or says nothing. Which of these it is
depends on the first value only, and all spellings of one UUID are one key.
-/

namespace LinkShortener

open Http

namespace Http

/-! ## Values -/

/-- A value of nothing but spaces and tabs. -/
def IsBlankValue (value : List UInt8) : Prop := ∀ byte ∈ value, byte = 0x20 ∨ byte = 0x09

/-- A value that spells a UUID. -/
def Spells (value : List UInt8) (id : Uuid) : Prop :=
  ∃ text : String, Text.encodeUtf8 text = value ∧ id.IsSpelledBy text.toList

theorem isVisibleByte_iff (byte : UInt8) : isVisibleByte byte = true ↔
    0x20 ≤ byte.toNat ∧ byte.toNat ≤ 0x7E ∨ byte.toNat = 0x09 := by
  simp only [isVisibleByte, Bool.or_eq_true, Bool.and_eq_true, decide_eq_true_eq, beq_iff_eq,
    UInt8.le_iff_toNat_le, ← UInt8.toNat_inj]
  rfl

theorem ascii_of_isVisibleByte {byte : UInt8} (visible : isVisibleByte byte = true) :
    byte.toNat < 128 := by
  rw [isVisibleByte_iff] at visible
  omega

theorem isBlank_ofNat_iff {byte : UInt8} (visible : isVisibleByte byte = true) :
    Text.isBlank (Char.ofNat byte.toNat) = true ↔ byte = 0x20 ∨ byte = 0x09 := by
  have listed : ∀ code < 128, isVisibleByte (UInt8.ofNat code) = true →
      (Text.isBlank (Char.ofNat code) = true ↔
        UInt8.ofNat code = 0x20 ∨ UInt8.ofNat code = 0x09) := by
    decide +kernel
  have single := listed byte.toNat (ascii_of_isVisibleByte visible)
  rw [UInt8.ofNat_toNat] at single
  exact single visible

theorem visibleText?_eq_some_iff {value : List UInt8} {text : List Char} :
    visibleText? value = some text ↔
      (∀ byte ∈ value, isVisibleByte byte = true) ∧
        text = value.map fun byte => Char.ofNat byte.toNat := by
  rw [visibleText?]
  split
  next visible =>
    rw [Option.some.injEq, and_iff_right (List.all_eq_true.mp visible)]
    exact eq_comm
  next hidden =>
    refine iff_of_false nofun fun seen => hidden ?_
    exact List.all_eq_true.mpr seen.1

/-- What is seen of a value is the value. -/
theorem encodeUtf8_of_visibleText? {value : List UInt8} {text : List Char}
    (seen : visibleText? value = some text) : Text.encodeUtf8 (String.ofList text) = value := by
  rcases visibleText?_eq_some_iff.mp seen with ⟨visible, rfl⟩
  have code : ∀ byte ∈ value, (Char.ofNat byte.toNat).toNat = byte.toNat := fun byte member =>
    Text.toNat_ofNat_of_ascii (ascii_of_isVisibleByte (visible byte member))
  rw [Text.encodeUtf8_ascii]
  · rw [List.map_map]
    conv_rhs => rw [← List.map_id value]
    apply List.map_congr_left
    intro byte member
    rw [Function.comp_apply, Text.asciiByte, code byte member, UInt8.ofNat_toNat, id]
  · intro c member
    rcases List.mem_map.mp member with ⟨byte, present, rfl⟩
    rw [code byte present]
    exact ascii_of_isVisibleByte (visible byte present)

theorem visibleText?_of_isGraphic {text : String} (graphic : ∀ c ∈ text.toList, Text.IsGraphic c) :
    visibleText? (Text.encodeUtf8 text) = some text.toList := by
  have ascii : ∀ c ∈ text.toList, c.toNat < 128 := fun c member => by
    have most := (graphic c member).2
    omega
  have bytes := Text.encodeUtf8_ascii ascii
  rw [String.ofList_toList] at bytes
  rw [bytes, visibleText?_eq_some_iff, List.forall_mem_map, List.map_map]
  constructor
  · intro c member
    have bounds := graphic c member
    rw [isVisibleByte_iff, Text.toNat_asciiByte (ascii c member)]
    exact .inl ⟨by have := bounds.1; omega, bounds.2⟩
  · conv_lhs => rw [← List.map_id text.toList]
    apply List.map_congr_left
    intro c member
    rw [Function.comp_apply, Text.toNat_asciiByte (ascii c member), Char.ofNat_toNat, id]

theorem isEmpty_trimBlank_iff {value : List UInt8} {text : List Char}
    (seen : visibleText? value = some text) :
    (Text.trimBlank text).isEmpty = true ↔ IsBlankValue value := by
  rcases visibleText?_eq_some_iff.mp seen with ⟨visible, rfl⟩
  rw [List.isEmpty_iff, Text.trimBlank_eq_nil_iff, List.forall_mem_map]
  exact forall₂_congr fun byte member => isBlank_ofNat_iff (visible byte member)

theorem Spells.not_blank {value : List UInt8} {id : Uuid} (spells : Spells value id) :
    ¬ IsBlankValue value := by
  rcases spells with ⟨text, rfl, spelled⟩
  rw [← isEmpty_trimBlank_iff (visibleText?_of_isGraphic spelled.isGraphic), List.isEmpty_iff,
    Text.trimBlank_eq_nil_iff]
  intro blank
  have first := List.head_mem spelled.ne_nil
  have shown := (spelled.isGraphic _ first).not_isBlank
  rw [blank _ first] at shown
  cases shown

end Http

/-! ## What a value says -/

namespace IdempotencyKey

variable {value : List UInt8} {key : IdempotencyKey}

theorem Presence.ofValue_of_seen {text : List Char} (seen : visibleText? value = some text)
    (filled : ¬ IsBlankValue value) :
    Presence.ofValue value = match Uuid.ofChars? text with
      | some token => .key ⟨token⟩
      | none => .invalid := by
  rw [ofValue, seen]
  exact if_neg fun empty => filled ((isEmpty_trimBlank_iff seen).mp empty)

theorem Presence.ofValue_eq_missing_iff :
    Presence.ofValue value = .missing ↔ IsBlankValue value := by
  constructor
  · intro missing
    by_contra filled
    cases seen : visibleText? value with
    | none =>
        rw [ofValue, seen] at missing
        cases missing
    | some text =>
        rw [ofValue_of_seen seen filled] at missing
        split at missing <;> cases missing
  · intro blank
    have visible : ∀ byte ∈ value, isVisibleByte byte = true := by
      intro byte member
      rcases blank byte member with rfl | rfl <;> rfl
    have seen := visibleText?_eq_some_iff.mpr ⟨visible, rfl⟩
    rw [ofValue, seen]
    exact if_pos ((isEmpty_trimBlank_iff seen).mpr blank)

theorem Presence.ofValue_eq_key_iff :
    Presence.ofValue value = .key key ↔ Spells value key.token := by
  constructor
  · intro named
    have filled : ¬ IsBlankValue value := fun blank => by
      rw [ofValue_eq_missing_iff.mpr blank] at named
      cases named
    cases seen : visibleText? value with
    | none =>
        rw [ofValue, seen] at named
        cases named
    | some text =>
        rw [ofValue_of_seen seen filled] at named
        split at named
        next token read =>
          cases named
          refine ⟨String.ofList text, encodeUtf8_of_visibleText? seen, ?_⟩
          rw [String.toList_ofList]
          exact Uuid.ofChars?_eq_some_iff.mp read
        next => cases named
  · intro spells
    have filled := spells.not_blank
    rcases spells with ⟨text, rfl, spelled⟩
    rw [ofValue_of_seen (visibleText?_of_isGraphic spelled.isGraphic) filled,
      Uuid.ofChars?_eq_some_iff.mpr spelled]

theorem Presence.ofValue_eq_invalid_iff :
    Presence.ofValue value = .invalid ↔ ¬ IsBlankValue value ∧ ∀ id, ¬ Spells value id := by
  have spelled (id : Uuid) : Spells value id ↔ Presence.ofValue value = .key ⟨id⟩ :=
    ofValue_eq_key_iff.symm
  simp only [← ofValue_eq_missing_iff, spelled]
  cases Presence.ofValue value with
  | missing => simp
  | invalid => simp
  | key key => exact iff_of_false nofun fun said => said.2 key.token rfl

/-! ## What a request says -/

/-- The name of the header, in lower case. -/
def lowerName : String := "x-idempotency-key"

/-- There is no value, or the first one is blank. -/
def IsAbsent (headers : Headers) : Prop :=
  headers.all lowerName = [] ∨
    ∃ value later, headers.all lowerName = value :: later ∧ IsBlankValue value

/-- The first value spells the UUID. -/
def IsNamed (headers : Headers) (id : Uuid) : Prop :=
  ∃ value later, headers.all lowerName = value :: later ∧ Spells value id

/-- The first value is neither blank nor a spelling of any UUID. -/
def IsUnusable (headers : Headers) : Prop :=
  ∃ value later, headers.all lowerName = value :: later ∧
    ¬ IsBlankValue value ∧ ∀ id, ¬ Spells value id

def missingKey : ServiceError :=
  .badRequest "Missing idempotency key header 'X-Idempotency-Key'"
    (.object [("header", .string "X-Idempotency-Key")])

def invalidKey : ServiceError :=
  .badRequest "idempotency key provided is not a valid UUID"
    (.object [("header", .string "X-Idempotency-Key")])

variable {headers : Headers}

theorem presence_eq (headers : Headers) : presence headers =
    match headers.all lowerName with
    | [] => .missing
    | value :: _ => Presence.ofValue value := by
  rw [presence, Headers.first?_eq_head?, lowerName]
  cases headers.all "x-idempotency-key" <;> rfl

theorem presence_eq_missing_iff : presence headers = .missing ↔ IsAbsent headers := by
  rw [presence_eq, IsAbsent]
  cases headers.all lowerName with
  | nil => simp
  | cons value later => simp [Presence.ofValue_eq_missing_iff]

theorem presence_eq_key_iff : presence headers = .key key ↔ IsNamed headers key.token := by
  rw [presence_eq, IsNamed]
  cases headers.all lowerName with
  | nil => simp
  | cons value later => simp [Presence.ofValue_eq_key_iff]

theorem presence_eq_invalid_iff : presence headers = .invalid ↔ IsUnusable headers := by
  rw [presence_eq, IsUnusable]
  cases headers.all lowerName with
  | nil => simp
  | cons value later => simp [Presence.ofValue_eq_invalid_iff]

theorem ofHeaders_eq (headers : Headers) : ofHeaders headers =
    match presence headers with
    | .key key => .ok key
    | .invalid => .error invalidKey
    | .missing => .error missingKey := rfl

theorem ofHeaders_eq_missing_iff : ofHeaders headers = .error missingKey ↔ IsAbsent headers := by
  rw [ofHeaders_eq, ← presence_eq_missing_iff]
  cases presence headers <;> simp [missingKey, invalidKey, ServiceError.badRequest]

theorem ofHeaders_eq_ok_iff : ofHeaders headers = .ok key ↔ IsNamed headers key.token := by
  rw [ofHeaders_eq, ← presence_eq_key_iff]
  cases presence headers <;> simp

theorem ofHeaders_eq_invalid_iff : ofHeaders headers = .error invalidKey ↔ IsUnusable headers := by
  rw [ofHeaders_eq, ← presence_eq_invalid_iff]
  cases presence headers <;> simp [missingKey, invalidKey, ServiceError.badRequest]

/-- Any two requests that name keys name the same one just if they spell the same UUID. -/
theorem ofHeaders_eq_iff {others : Headers} {id other : Uuid} (named : IsNamed headers id)
    (again : IsNamed others other) : ofHeaders headers = ofHeaders others ↔ id = other := by
  have first : ofHeaders headers = .ok ⟨id⟩ := ofHeaders_eq_ok_iff.mpr named
  have second : ofHeaders others = .ok ⟨other⟩ := ofHeaders_eq_ok_iff.mpr again
  rw [first, second, Except.ok.injEq, IdempotencyKey.mk.injEq]

theorem ofText?_eq_some_iff {text : String} :
    ofText? text = some key ↔ key.token.IsSpelledBy text.toList := by
  rw [ofText?, ← Uuid.ofChars?_eq_some_iff, Option.map_eq_some_iff]
  constructor
  · rintro ⟨token, read, rfl⟩
    exact read
  · exact fun read => ⟨key.token, read, rfl⟩

/-- Spellings are the same key just if they spell the same UUID. -/
theorem ofText?_eq_iff {id other : Uuid} {text again : String} (spells : id.IsSpelledBy text.toList)
    (others : other.IsSpelledBy again.toList) : ofText? text = ofText? again ↔ id = other := by
  have first : ofText? text = some ⟨id⟩ := ofText?_eq_some_iff.mpr spells
  have second : ofText? again = some ⟨other⟩ := ofText?_eq_some_iff.mpr others
  rw [first, second, Option.some.injEq, IdempotencyKey.mk.injEq]

end IdempotencyKey

/-! ## Requests that spell one key -/

namespace Http

/-- Requests that are the same but for the spelling of their key. -/
structure Request.SameButSpelling (request other : Request) : Prop extends
    request.SameBut IdempotencyKey.lowerName other where
  body : other.body = request.body
  named : ∃ id, IdempotencyKey.IsNamed request.headers id ∧ IdempotencyKey.IsNamed other.headers id

namespace Request.SameButSpelling

variable {request other : Request} (same : request.SameButSpelling other)

include same

theorem normalized : request.normalized.SameButSpelling other.normalized :=
  ⟨same.toSameBut.normalized, same.body, same.named⟩

theorem ofHeaders :
    IdempotencyKey.ofHeaders other.headers = IdempotencyKey.ofHeaders request.headers := by
  rcases same.named with ⟨id, named, again⟩
  exact (IdempotencyKey.ofHeaders_eq_iff again named).mpr rfl

theorem readRequest (shape : Json.Shape) : Http.readRequest shape other.headers other.body =
    Http.readRequest shape request.headers request.body :=
  readRequest_congr (same.first? (by decide)) same.body

theorem postShortUrl (settings : HttpSettings) :
    Http.postShortUrl settings other = Http.postShortUrl settings request := by
  unfold Http.postShortUrl
  rw [same.ofHeaders, same.readRequest]

theorem postUser (settings : HttpSettings) :
    Http.postUser settings other = Http.postUser settings request := by
  unfold Http.postUser
  rw [same.ofHeaders, same.readRequest]

theorem dispatch (server : Server) : server.dispatch other = server.dispatch request := by
  unfold Server.dispatch Server.answerOpen Server.answerLimited
  rw [same.path, same.method, same.charge (by decide), same.postShortUrl, same.postUser]

theorem answer (server : Server) (fresh : Uuid) :
    server.answer other fresh = server.answer request fresh := by
  have dispatched (request : Request) : server.answer request fresh =
      (leaving request.normalized fresh (server.dispatch request.normalized).1,
        (server.dispatch request.normalized).2) := rfl
  rw [dispatched, dispatched, same.normalized.dispatch, same.normalized.leaving (by decide)]

end Request.SameButSpelling

end Http

/-- The header of a request says nothing, names a key or is unusable by its first value alone; a
value names a key just if it spells a UUID. Texts are read as keys in just the same way. Spellings of
one UUID are one key, and those of others are others, in headers as in texts. The written form of a
key is lower-case and hyphenated and is read as the key. A server answers requests that differ only in
how they spell their key in the same way and is the same after them, its ledger included. -/
theorem IdempotencyKey.canonical :
    (∀ headers : Headers,
      (ofHeaders headers = .error missingKey ↔ IsAbsent headers) ∧
      (∀ key, ofHeaders headers = .ok key ↔ IsNamed headers key.token) ∧
      (ofHeaders headers = .error invalidKey ↔ IsUnusable headers)) ∧
    (∀ headers others id other, IsNamed headers id → IsNamed others other →
      (ofHeaders headers = ofHeaders others ↔ id = other)) ∧
    (∀ text key, ofText? text = some key ↔ key.token.IsSpelledBy text.toList) ∧
    (∀ (id other : Uuid) (text again : String), id.IsSpelledBy text.toList →
      other.IsSpelledBy again.toList → (ofText? text = ofText? again ↔ id = other)) ∧
    (∀ key : IdempotencyKey,
      key.toText.toList = Uuid.Spelling.hyphenated.lowerCase key.token ∧
      key.toText.toList.map Char.toLower = key.toText.toList ∧
      ofText? key.toText = some key) ∧
    ∀ (server : Server) (request other : Request) (fresh : Uuid), request.SameButSpelling other →
      server.answer other fresh = server.answer request fresh := by
  refine ⟨fun headers => ?_, ?_, fun text key => ofText?_eq_some_iff, ?_, fun key => ?_, ?_⟩
  · exact ⟨ofHeaders_eq_missing_iff, fun key => ofHeaders_eq_ok_iff, ofHeaders_eq_invalid_iff⟩
  · exact fun headers others id other named again => ofHeaders_eq_iff named again
  · exact fun id other text again spells others => ofText?_eq_iff spells others
  · have written := Uuid.toList_toText key.token
    refine ⟨written, ?_, ofText?_eq_some_iff.mpr (Uuid.isSpelledBy_toText key.token)⟩
    rw [toText, written]
    exact Uuid.map_toLower_hyphenatedText key.token
  · exact fun server request other fresh same => same.answer server fresh

/-- A resource name in capitals and plain digits spell one key, and a blank first value hides it. -/
theorem IdempotencyKey.canonical_resource :
    ofText? "URN:UUID:0191E2B4-7C3A-7B1E-9F4D-2A6C8E0B13F7" =
        ofText? "0191e2b47c3a7b1e9f4d2a6c8e0b13f7" ∧
      ofHeaders [⟨"X-Idempotency-Key", [0x20, 0x09]⟩,
        field "x-idempotency-key" "0191e2b4-7c3a-7b1e-9f4d-2a6c8e0b13f7"] = .error missingKey := by
  rcases canonical with ⟨headers, -, -, spellings, -⟩
  have resource : (Uuid.ofNat 0x0191e2b47c3a7b1e9f4d2a6c8e0b13f7).IsSpelledBy
      "URN:UUID:0191E2B4-7C3A-7B1E-9F4D-2A6C8E0B13F7".toList :=
    Uuid.ofChars?_eq_some_iff.mp (by decide +kernel)
  have plain : (Uuid.ofNat 0x0191e2b47c3a7b1e9f4d2a6c8e0b13f7).IsSpelledBy
      "0191e2b47c3a7b1e9f4d2a6c8e0b13f7".toList :=
    Uuid.ofChars?_eq_some_iff.mp (by decide +kernel)
  have values : Headers.all [⟨"X-Idempotency-Key", [0x20, 0x09]⟩,
      field "x-idempotency-key" "0191e2b4-7c3a-7b1e-9f4d-2a6c8e0b13f7"] lowerName =
        [[0x20, 0x09], Text.encodeUtf8 "0191e2b4-7c3a-7b1e-9f4d-2a6c8e0b13f7"] := by
    decide +kernel
  refine ⟨(spellings _ _ _ _ resource plain).mpr rfl, (headers _).1.mpr (.inr ?_)⟩
  exact ⟨[0x20, 0x09], _, values, by simp [IsBlankValue]⟩

end LinkShortener
