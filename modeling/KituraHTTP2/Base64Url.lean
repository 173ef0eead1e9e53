import KituraHTTP2.HTTP2ConnectionUpgradeFactory

/-!
# The value of `HTTP2-Settings`

A client sends its settings in base64url, without the padding.  `base64urlToBase64` makes base64 of
the value: it exchanges the two characters in which the alphabets differ, and appends the `=` that
the last group lacks.  A value that has one character more than whole groups cannot come from any
bytes; it gets three `=`, and that is not base64.

* **`base64urlToBase64_decodes`** — for every value, with a strict decoder.
* `upgrade_encode` — the session of an upgrade is created with the bytes that the client encoded.
-/

namespace KituraHTTP2

variable {P : Platform}

/-! ## The translation, character by character -/

/-- The character of base64 for one of base64url. -/
def base64Character (c : Char) : Char := if c = '-' then '+' else if c = '_' then '/' else c

lemma toList_base64urlToBase64 (base64url : String) :
    (base64urlToBase64 base64url).toList =
      Base64.padded (base64url.toList.map base64Character) := by
  have hmap : (base64url.toList.map fun c => if c = '-' then '+' else if c = '_' then '/' else c) =
      base64url.toList.map base64Character := rfl
  simp only [base64urlToBase64, hmap, Base64.padded, String.toList_ofList]
  generalize base64url.toList.map base64Character = base64
  by_cases hwhole : base64.length % 4 = 0
  · simp [hwhole]
  · have hcount : (4 - base64.length % 4) % 4 = 4 - base64.length % 4 := by omega
    simp only [if_pos hwhole, hcount]
    rfl

/-- The two alphabets agree up to the exchange. -/
lemma base64Character_character (value : ℕ) (h : value < 64) :
    base64Character (Base64.character Base64.url value) =
      Base64.character Base64.standard value := by
  have hall : (List.range 64).all fun value =>
      base64Character (Base64.character Base64.url value) =
        Base64.character Base64.standard value := by
    decide
  simpa using List.all_eq_true.1 hall value (List.mem_range.2 h)

/-- A character is never translated to one of the two that base64 does not have. -/
lemma base64Character_ne (c : Char) : base64Character c ≠ '-' ∧ base64Character c ≠ '_' := by
  by_cases hminus : c = '-'
  · simp [base64Character, hminus]
  by_cases hunderscore : c = '_'
  · simp [base64Character, hunderscore]
  · simp [base64Character, hminus, hunderscore]

/-- No character of the alphabet becomes the character of the padding. -/
lemma pad_notMem_map {text : List Char} (h : ∀ c ∈ text, c ∈ Base64.url) :
    Base64.pad ∉ text.map base64Character := by
  have hall : Base64.url.all fun c => base64Character c ≠ Base64.pad := by decide
  intro hpad
  rcases List.mem_map.1 hpad with ⟨c, hc, heq⟩
  exact absurd heq (by simpa using List.all_eq_true.1 hall c (h c hc))

/-! ## The value as a whole -/

/-- **What is asked of the translation.**  A strict decoder reads back the bytes that were encoded;
a text in the alphabet of base64url becomes whole groups in that of base64, with the padding its
length tells; and a text that no bytes are encoded to is refused. -/
structure DecodesBase64url (translate : String → String) : Prop where
  inverse : ∀ bytes : Bytes,
    Base64.decode (translate (String.ofList (Base64.encode Base64.url bytes))).toList = some bytes
  whole : ∀ text : String, (∀ c ∈ text.toList, c ∈ Base64.url) → (translate text).length % 4 = 0
  translated : ∀ text : String, (∀ c ∈ text.toList, c ∈ Base64.url) →
    '-' ∉ (translate text).toList ∧ '_' ∉ (translate text).toList
  padding_eq_one : ∀ text : String, (∀ c ∈ text.toList, c ∈ Base64.url) →
    (Base64.padding (translate text).toList = 1 ↔ text.length % 4 = 3)
  padding_eq_two : ∀ text : String, (∀ c ∈ text.toList, c ∈ Base64.url) →
    (Base64.padding (translate text).toList = 2 ↔ text.length % 4 = 2)
  unused : ∀ bytes : Bytes,
    (String.ofList (Base64.encode Base64.url bytes)).length % 4 ≠ 1
  refused : ∀ text : String, text.length % 4 = 1 → Base64.decode (translate text).toList = none

lemma padding_base64urlToBase64 {text : String} (h : ∀ c ∈ text.toList, c ∈ Base64.url) :
    Base64.padding (base64urlToBase64 text).toList = (4 - text.length % 4) % 4 := by
  rw [toList_base64urlToBase64, Base64.padding_padded (pad_notMem_map h), List.length_map,
    String.length_toList]

/-- The padding is the only thing that is not translated, and it has neither of the characters. -/
lemma notMem_base64urlToBase64 (text : String) :
    '-' ∉ (base64urlToBase64 text).toList ∧ '_' ∉ (base64urlToBase64 text).toList := by
  rw [toList_base64urlToBase64, Base64.padded]
  constructor
  · intro h
    rcases List.mem_append.1 h with h | h
    · rcases List.mem_map.1 h with ⟨c, -, heq⟩
      exact (base64Character_ne c).1 heq
    · exact absurd (List.eq_of_mem_replicate h) (by decide)
  · intro h
    rcases List.mem_append.1 h with h | h
    · rcases List.mem_map.1 h with ⟨c, -, heq⟩
      exact (base64Character_ne c).2 heq
    · exact absurd (List.eq_of_mem_replicate h) (by decide)

/-- What a client encodes is decoded to the same bytes. -/
lemma decode_base64urlToBase64_encode (bytes : Bytes) :
    Base64.decode (base64urlToBase64 (String.ofList (Base64.encode Base64.url bytes))).toList =
      some bytes := by
  rw [toList_base64urlToBase64, String.toList_ofList, Base64.map_encode base64Character_character,
    Base64.decode_padded_encode]

/-- **The translation is right for every value.** -/
theorem base64urlToBase64_decodes : DecodesBase64url base64urlToBase64 where
  inverse bytes := decode_base64urlToBase64_encode bytes
  whole text _ := by
    rw [← String.length_toList, toList_base64urlToBase64]
    exact Base64.length_padded_mod _
  translated text _ := notMem_base64urlToBase64 text
  padding_eq_one text h := by
    rw [padding_base64urlToBase64 h]
    omega
  padding_eq_two text h := by
    rw [padding_base64urlToBase64 h]
    omega
  unused bytes := by
    rw [String.length_ofList]
    exact Base64.length_encode_mod Base64.url bytes
  refused text h := by
    rw [toList_base64urlToBase64]
    exact Base64.decode_padded_eq_none (by rwa [List.length_map, String.length_toList])

/-! ## In the factory -/

/-- The session that `upgrade` creates for a request gets the bytes that the client has encoded,
where Foundation decodes base64 strictly. -/
theorem upgrade_encode (hstrict : ∀ text, P.base64Decoded text = Base64.decode text.toList)
    (delegate : Bool) (request : ServerRequest P) (response : ServerResponse) (settings : Bytes)
    (hvalue : P.lookup request.headers "HTTP2-Settings" =
      some [String.ofList (Base64.encode Base64.url settings)]) :
    (upgrade delegate request response).processor =
      some ⟨Connection.new P none delegate (some ⟨settings, some request⟩), true⟩ := by
  have hdecoded : P.base64Decoded (base64urlToBase64
      (String.ofList (Base64.encode Base64.url settings))) = some settings := by
    rw [hstrict, decode_base64urlToBase64_encode]
  simp [upgrade, hvalue, hdecoded]

end KituraHTTP2
