import Mathlib.Data.List.Basic

/-!
# Strict base64

`decode` reads text in the standard alphabet: groups of four characters, each for three bytes, the
last of them padded with one or two `=` where the data ends earlier.  Nothing else is accepted: no
other character, no group that is not full, no `=` in another place.

`encode` writes the groups without the padding, in an alphabet of sixty-four characters; there are
two of them, which differ in the last two characters.

* `map_encode` — changing the alphabet is changing the characters one by one.
* **`decode_padded_encode`** — in the standard alphabet, with its padding, the text is decoded to
  the bytes it was made from.
* `decode_padded_eq_none` — one character more than whole groups is never decoded.
-/

namespace Base64

/-- The character of the padding. -/
def pad : Char := '='

/-- The six bits a character stands for. -/
def digit (c : Char) : Option ℕ :=
  if 'A' ≤ c ∧ c ≤ 'Z' then some (c.toNat - 'A'.toNat)
  else if 'a' ≤ c ∧ c ≤ 'z' then some (c.toNat - 'a'.toNat + 26)
  else if '0' ≤ c ∧ c ≤ '9' then some (c.toNat - '0'.toNat + 52)
  else if c = '+' then some 62
  else if c = '/' then some 63
  else none

/-- The bytes of one group of four characters, which may be padded if it is the last one. -/
def decodeGroup (last : Bool) (a b c d : Char) : Option (List UInt8) :=
  (digit a).bind fun a => (digit b).bind fun b =>
    let byte₀ := (a * 4 + b / 16).toUInt8
    if last ∧ c = pad ∧ d = pad then some [byte₀]
    else (digit c).bind fun c =>
      let byte₁ := (b % 16 * 16 + c / 4).toUInt8
      if last ∧ d = pad then some [byte₀, byte₁]
      else (digit d).map fun d => [byte₀, byte₁, (c % 4 * 64 + d).toUInt8]

/-- The bytes that a text in base64 stands for. -/
def decode : List Char → Option (List UInt8)
  | [] => some []
  | a :: b :: c :: d :: text =>
    (decodeGroup text.isEmpty a b c d).bind fun bytes => (decode text).map fun rest => bytes ++ rest
  | _ => none

/-! ## Encoding -/

/-- The letters and the digits, for the values below 62. -/
def alphanumeric : List Char :=
  "ABCDEFGHIJKLMNOPQRSTUVWXYZabcdefghijklmnopqrstuvwxyz0123456789".toList

/-- The alphabet of base64. -/
def standard : List Char := alphanumeric ++ ['+', '/']

/-- The alphabet of base64url. -/
def url : List Char := alphanumeric ++ ['-', '_']

/-- The character of a value below 64. -/
def character (alphabet : List Char) (value : ℕ) : Char := alphabet.getD value pad

/-- The bytes in groups of three, each as four characters; an incomplete last group gives as many
characters as its bits need. -/
def encode (alphabet : List Char) : List UInt8 → List Char
  | [] => []
  | [a] => [character alphabet (a.toNat / 4), character alphabet (a.toNat % 4 * 16)]
  | [a, b] =>
    [character alphabet (a.toNat / 4), character alphabet (a.toNat % 4 * 16 + b.toNat / 16),
      character alphabet (b.toNat % 16 * 4)]
  | a :: b :: c :: bytes =>
    character alphabet (a.toNat / 4) :: character alphabet (a.toNat % 4 * 16 + b.toNat / 16) ::
      character alphabet (b.toNat % 16 * 4 + c.toNat / 64) :: character alphabet (c.toNat % 64) ::
      encode alphabet bytes

/-- The text with the `=` that its last group lacks. -/
def padded (text : List Char) : List Char :=
  text ++ List.replicate ((4 - text.length % 4) % 4) pad

/-- The number of `=` at the end of a text. -/
def padding (text : List Char) : ℕ := (text.reverse.takeWhile (· = pad)).length

/-! ### Lengths -/

lemma length_encode_mod (alphabet : List Char) (bytes : List UInt8) :
    (encode alphabet bytes).length % 4 ≠ 1 := by
  induction bytes using encode.induct with
  | case1 => simp [encode]
  | case2 a => simp [encode]
  | case3 a b => simp [encode]
  | case4 a b c bytes ih =>
    simp only [encode, List.length_cons]
    omega

@[simp]
lemma length_padded_mod (text : List Char) : (padded text).length % 4 = 0 := by
  simp only [padded, List.length_append, List.length_replicate]
  omega

/-- Padding does not look at the groups that are complete. -/
@[simp]
lemma padded_group (a b c d : Char) (text : List Char) :
    padded (a :: b :: c :: d :: text) = a :: b :: c :: d :: padded text := by
  have hlength : (a :: b :: c :: d :: text).length % 4 = text.length % 4 := by
    simp only [List.length_cons]
    omega
  simp only [padded, hlength, List.cons_append]

/-- The `=` at the end of a padded text are those that were added. -/
lemma padding_padded {text : List Char} (h : pad ∉ text) :
    padding (padded text) = (4 - text.length % 4) % 4 := by
  have hrest : text.reverse.takeWhile (· = pad) = [] := by
    cases htext : text.reverse with
    | nil => rfl
    | cons c rest =>
      have hc : c ∈ text := List.mem_reverse.1 (htext ▸ List.mem_cons_self)
      have hne : c ≠ pad := fun heq => h (heq ▸ hc)
      simp [hne]
  rw [padding, padded, List.reverse_append, List.reverse_replicate,
    List.takeWhile_append_of_pos (by simp), hrest]
  simp

/-! ### Changing the alphabet -/

/-- The characters of an encoding are those of values below 64. -/
lemma map_encode {alphabet alphabet' : List Char} {f : Char → Char}
    (hf : ∀ value < 64, f (character alphabet value) = character alphabet' value)
    (bytes : List UInt8) : (encode alphabet bytes).map f = encode alphabet' bytes := by
  induction bytes using encode.induct with
  | case1 => rfl
  | case2 a =>
    have ha := a.toNat_lt
    simp only [encode, List.map_cons, List.map_nil]
    rw [hf _ (by omega), hf _ (by omega)]
  | case3 a b =>
    have ha := a.toNat_lt
    have hb := b.toNat_lt
    simp only [encode, List.map_cons, List.map_nil]
    rw [hf _ (by omega), hf _ (by omega), hf _ (by omega)]
  | case4 a b c bytes ih =>
    have ha := a.toNat_lt
    have hb := b.toNat_lt
    have hc := c.toNat_lt
    simp only [encode, List.map_cons]
    rw [hf _ (by omega), hf _ (by omega), hf _ (by omega), hf _ (by omega), ih]

/-! ## The round trip -/

/-- Each character of the standard alphabet is read as its value. -/
lemma digit_character (value : ℕ) (h : value < 64) :
    digit (character standard value) = some value := by
  have hall : (List.range 64).all fun value => digit (character standard value) = some value := by
    decide
  simpa using List.all_eq_true.1 hall value (List.mem_range.2 h)

lemma ne_pad_of_digit {c : Char} {value : ℕ} (h : digit c = some value) : c ≠ pad := by
  rintro rfl
  exact absurd h (by simp [digit, pad])

section Groups

variable {a b c d : Char} {i j k l : ℕ} (last : Bool)

/-- A group without padding is three bytes, wherever it stands. -/
lemma decodeGroup_of_digits (ha : digit a = some i) (hb : digit b = some j) (hc : digit c = some k)
    (hd : digit d = some l) :
    decodeGroup last a b c d = some [(i * 4 + j / 16).toUInt8, (j % 16 * 16 + k / 4).toUInt8,
      (k % 4 * 64 + l).toUInt8] := by
  simp [decodeGroup, ha, hb, hc, hd, ne_pad_of_digit hc, ne_pad_of_digit hd]

lemma decodeGroup_pad (ha : digit a = some i) (hb : digit b = some j) (hc : digit c = some k) :
    decodeGroup true a b c pad =
      some [(i * 4 + j / 16).toUInt8, (j % 16 * 16 + k / 4).toUInt8] := by
  simp [decodeGroup, ha, hb, hc, ne_pad_of_digit hc]

lemma decodeGroup_pad_pad (ha : digit a = some i) (hb : digit b = some j) :
    decodeGroup true a b pad pad = some [(i * 4 + j / 16).toUInt8] := by
  simp [decodeGroup, ha, hb]

/-- The padding cannot begin before the third character of a group. -/
lemma decodeGroup_pad_second : decodeGroup last a pad c d = none := by
  have hpad : digit pad = none := by simp [digit, pad]
  cases ha : digit a with
  | none => simp [decodeGroup, ha]
  | some i => simp [decodeGroup, ha, hpad]

end Groups

/-- A byte is put together again from its two parts. -/
lemma toUInt8_of_eq {value : ℕ} (byte : UInt8) (h : value = byte.toNat) :
    value.toUInt8 = byte := by
  subst h
  exact UInt8.ofNat_toNat

/-- **Decoding is the inverse of encoding.** -/
theorem decode_padded_encode (bytes : List UInt8) :
    decode (padded (encode standard bytes)) = some bytes := by
  induction bytes using encode.induct with
  | case1 => rfl
  | case2 a =>
    have ha := a.toNat_lt
    have hgroup := decodeGroup_pad_pad (digit_character (a.toNat / 4) (by omega))
      (digit_character (a.toNat % 4 * 16) (by omega))
    rw [toUInt8_of_eq a (by omega)] at hgroup
    simp only [encode, padded, List.length_cons, List.length_nil, List.cons_append,
      List.nil_append, List.replicate, decode, List.isEmpty_nil, hgroup, Option.bind_some]
    rfl
  | case3 a b =>
    have ha := a.toNat_lt
    have hb := b.toNat_lt
    have hgroup := decodeGroup_pad (digit_character (a.toNat / 4) (by omega))
      (digit_character (a.toNat % 4 * 16 + b.toNat / 16) (by omega))
      (digit_character (b.toNat % 16 * 4) (by omega))
    rw [toUInt8_of_eq a (by omega), toUInt8_of_eq b (by omega)] at hgroup
    simp only [encode, padded, List.length_cons, List.length_nil, List.cons_append,
      List.nil_append, List.replicate, decode, List.isEmpty_nil, hgroup, Option.bind_some]
    rfl
  | case4 a b c bytes ih =>
    have ha := a.toNat_lt
    have hb := b.toNat_lt
    have hc := c.toNat_lt
    -- the group has no padding, so it is read alike before other groups and at the end
    have hgroup := decodeGroup_of_digits (padded (encode standard bytes)).isEmpty
      (digit_character (a.toNat / 4) (by omega))
      (digit_character (a.toNat % 4 * 16 + b.toNat / 16) (by omega))
      (digit_character (b.toNat % 16 * 4 + c.toNat / 64) (by omega))
      (digit_character (c.toNat % 64) (by omega))
    rw [toUInt8_of_eq a (by omega), toUInt8_of_eq b (by omega),
      toUInt8_of_eq c (by omega)] at hgroup
    simp only [encode, padded_group, decode, hgroup, ih, Option.bind_some, Option.map_some,
      List.cons_append, List.nil_append]

/-! ## What is refused -/

/-- A last group of one character is refused: padding it takes three `=`. -/
theorem decode_padded_eq_none {text : List Char} (h : text.length % 4 = 1) :
    decode (padded text) = none := by
  induction text using decode.induct with
  | case1 => simp at h
  | case2 a b c d text ih =>
    have hrest : text.length % 4 = 1 := by
      simp only [List.length_cons] at h
      omega
    rw [padded_group, decode, ih hrest]
    cases decodeGroup (padded text).isEmpty a b c d <;> rfl
  | case3 text hnil hgroups =>
    match text, hnil, hgroups, h with
    | [], hnil, _, _ => exact absurd rfl hnil
    | [a], _, _, _ => simp [padded, List.replicate, decode, decodeGroup_pad_second]
    | [_, _], _, _, h => simp at h
    | [_, _, _], _, _, h => simp at h
    | a :: b :: c :: d :: text, _, hgroups, _ => exact absurd rfl (hgroups a b c d text)

end Base64
