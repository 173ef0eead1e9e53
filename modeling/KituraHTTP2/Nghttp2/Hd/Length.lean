import Mathlib.Data.List.Basic
import Mathlib.Tactic.Ring
import KituraHTTP2.Platform

/-!
# The integers of a header block

An integer of a header block begins in the lowest bits of a byte, whose other bits say what follows.
If it does not fit there, all these bits are ones, and the rest comes in the bytes after it, seven
bits in each, the lowest first; the highest bit of each says that another one follows.

**Pieces.**  A block may be cut in the middle of an integer, so `decodeLength` can be interrupted at
any byte: it gives the value so far and the next shift, and the next call goes on from there.  It
takes a value of 0 as the sign that nothing was read yet.  That is safe, because an integer of which
something was read and something is missing is never 0: its first bits are all ones.

**Bounds.**  The peer may send as many bytes as it likes, and each of them adds to a number of 32
bits after a shift.  The program tests three things before it adds: that the shift is below 32, that
the seven bits are not shifted out, and that the sum does not wrap around.  Zeros at the end are
allowed, so that an integer can be written in more than one way; but the shift grows by seven with
each byte, and after five bytes there is no way on.

What is accepted is said without the loop: the value of the bytes, as a number without bounds, is
below `2 ^ 32`, and no byte of it is shifted by 32 bits or more.  So nothing that the program
accepts has wrapped around, and nothing below `2 ^ 32` is refused that is written in five bytes.

* `decodeLength_append` — the bytes can come in two pieces.
* **`decodeLength_encodeLength`** — what was encoded is decoded.
* **`decodeLengthLoop_eq_some_iff`** — what is accepted are five bytes at most, and a value below
  `2 ^ 32`, which never wraps around.
-/

namespace KituraHTTP2.Nghttp2

/-- `UINT32_MAX` -/
def uint32Max : ℕ := 2 ^ 32 - 1

lemma uint32Max_lt : uint32Max < 2 ^ 32 := by decide

/-! ## Encoding -/

/-- `count_encoded_length` of what does not fit in the first byte -/
def countEncodedRest (n : ℕ) : ℕ := if 128 ≤ n then countEncodedRest (n >>> 7) + 1 else 1
decreasing_by
  rw [Nat.shiftRight_eq_div_pow]
  omega

/-- `count_encoded_length` -/
def countEncodedLength (n width : ℕ) : ℕ :=
  let k := 2 ^ width - 1
  if n < k then 1 else countEncodedRest (n - k) + 1

/-- The loop of `encode_length` -/
def encodeLengthRest (n : ℕ) : Bytes :=
  if 128 ≤ n then UInt8.ofNat (128 + n % 128) :: encodeLengthRest (n >>> 7) else [UInt8.ofNat n]
decreasing_by
  rw [Nat.shiftRight_eq_div_pow]
  omega

/-- `first` with other lowest bits; the others say which representation it is. -/
def withLowBits (first : UInt8) (width value : ℕ) : UInt8 :=
  UInt8.ofNat (first.toNat / 2 ^ width * 2 ^ width + value)

/-- `encode_length`, where the buffer holds `first`. -/
def encodeLength (first : UInt8) (n width : ℕ) : Bytes :=
  let k := 2 ^ width - 1
  if n < k then [withLowBits first width n]
  else withLowBits first width k :: encodeLengthRest (n - k)

lemma length_encodeLengthRest (n : ℕ) : (encodeLengthRest n).length = countEncodedRest n := by
  induction n using countEncodedRest.induct with
  | case1 n hlarge ih =>
    rw [encodeLengthRest, countEncodedRest, if_pos hlarge, if_pos hlarge, List.length_cons, ih]
  | case2 n hsmall =>
    rw [encodeLengthRest, countEncodedRest, if_neg hsmall, if_neg hsmall, List.length_singleton]

/-- `count_encoded_length` counts right, so that the local buffer of the `emit_` functions is large
enough. -/
lemma length_encodeLength (first : UInt8) (n width : ℕ) :
    (encodeLength first n width).length = countEncodedLength n width := by
  simp only [encodeLength, countEncodedLength]
  split
  · rfl
  · rw [List.length_cons, length_encodeLengthRest]

/-- `n` takes a byte for each seven bits. -/
lemma countEncodedRest_le {n k : ℕ} (h : n < 128 ^ (k + 1)) : countEncodedRest n ≤ k + 1 := by
  induction k generalizing n with
  | zero =>
    have hsmall : ¬ 128 ≤ n := by omega
    rw [countEncodedRest, if_neg hsmall]
  | succ k ih =>
    rw [countEncodedRest]
    split
    · have hshift : n >>> 7 < 128 ^ (k + 1) := by
        rw [Nat.shiftRight_eq_div_pow]
        exact Nat.div_lt_of_lt_mul (by rw [pow_succ, Nat.mul_comm] at h; exact h)
      exact Nat.succ_le_succ (ih hshift)
    · omega

/-! ## Decoding -/

/-- The results of `decode_length`: `*res`, `*shift_ptr`, `*fin`, and the bytes that are left. -/
structure DecodedLength where
  res : ℕ
  shift : ℕ
  fin : Bool
  rest : Bytes
deriving DecidableEq, Repr

/-- The loop of `decode_length`; `none` is its return value `-1`.  The three tests come before
anything is added. -/
def decodeLengthLoop (n shift : ℕ) : Bytes → Option DecodedLength
  | [] => some { res := n, shift := shift, fin := false, rest := [] }
  | b :: input =>
    let add := b.toNat % 128
    if 32 ≤ shift then none
    else if (2 ^ 32 - 1) >>> shift < add then none
    else
      let add := add <<< shift
      if 2 ^ 32 - 1 - add < n then none
      else if b.toNat < 128 then some { res := n + add, shift := shift, fin := true, rest := input }
      else decodeLengthLoop (n + add) (shift + 7) input

/-- `decode_length`, which is never called without a byte.  With `initial` 0 it begins at the first
byte, otherwise it goes on. -/
def decodeLength (initial shift : ℕ) (input : Bytes) (width : ℕ) : Option DecodedLength :=
  let k := 2 ^ width - 1
  if initial = 0 then
    match input with
    | [] => none
    | b :: input =>
      if b.toNat % 2 ^ width ≠ k then
        some { res := b.toNat % 2 ^ width, shift := 0, fin := true, rest := input }
      else if input = [] then some { res := k, shift := 0, fin := false, rest := [] }
      else decodeLengthLoop k shift input
  else decodeLengthLoop initial shift input

/-! ## The loop -/

/-- The conditions on a byte of an integer: it does not leave 32 bits. -/
lemma fits_iff (n shift add : ℕ) :
    ¬ (2 ^ 32 - 1) >>> shift < add ∧ ¬ 2 ^ 32 - 1 - add <<< shift < n ↔
      n + add * 2 ^ shift < 2 ^ 32 := by
  rw [Nat.shiftRight_eq_div_pow, Nat.shiftLeft_eq, Nat.not_lt,
    Nat.le_div_iff_mul_le (Nat.two_pow_pos shift)]
  omega

/-- One byte of the loop. -/
lemma decodeLengthLoop_cons (n shift : ℕ) (b : UInt8) (input : Bytes) :
    decodeLengthLoop n shift (b :: input) =
      if shift < 32 ∧ n + b.toNat % 128 * 2 ^ shift < 2 ^ 32 then
        if b.toNat < 128 then
          some { res := n + b.toNat % 128 * 2 ^ shift, shift := shift, fin := true, rest := input }
        else decodeLengthLoop (n + b.toNat % 128 * 2 ^ shift) (shift + 7) input
      else none := by
  have hfits := fits_iff n shift (b.toNat % 128)
  simp only [decodeLengthLoop, ← Nat.shiftLeft_eq] at hfits ⊢
  by_cases hshift : 32 ≤ shift
  · have hlt : ¬ shift < 32 := by omega
    simp only [hshift, hlt, if_true, false_and, if_false]
  · have hlt : shift < 32 := by omega
    simp only [hshift, hlt, if_false, true_and, ← hfits]
    by_cases hadd : (2 ^ 32 - 1) >>> shift < b.toNat % 128
    · simp only [hadd, if_true, not_true, false_and, if_false]
    · by_cases hsum : 2 ^ 32 - 1 - (b.toNat % 128) <<< shift < n
      · simp only [hadd, hsum, if_true, if_false, not_true, and_false]
      · simp only [hadd, hsum, if_true, if_false, not_false_iff, and_self]

/-- The loop can be interrupted, as its state is the value so far and the shift. -/
lemma decodeLengthLoop_append (n shift : ℕ) (input input' : Bytes) :
    decodeLengthLoop n shift (input ++ input') = (decodeLengthLoop n shift input).bind fun r =>
      if r.fin then some { r with rest := r.rest ++ input' }
      else decodeLengthLoop r.res r.shift input' := by
  induction input generalizing n shift with
  | nil => simp [decodeLengthLoop]
  | cons b input ih =>
    rw [List.cons_append, decodeLengthLoop_cons, decodeLengthLoop_cons]
    split
    · split
      · simp
      · exact ih _ _
    · rfl

/-- The value only grows, and all bytes are read until the integer ends. -/
lemma le_of_decodeLengthLoop {n shift : ℕ} {input : Bytes} {r : DecodedLength}
    (h : decodeLengthLoop n shift input = some r) :
    n ≤ r.res ∧ (r.fin = false → r.rest = []) ∧
      (r.fin = true → r.rest <:+ input ∧ r.rest.length < input.length) := by
  induction input generalizing n shift with
  | nil =>
    cases h
    simp
  | cons b input ih =>
    rw [decodeLengthLoop_cons] at h
    split at h
    · split at h
      · cases h
        simp
      · have hnext := ih h
        refine ⟨by omega, hnext.2.1, fun hfin => ?_⟩
        obtain ⟨hsuffix, hlt⟩ := hnext.2.2 hfin
        exact ⟨hsuffix.trans (List.suffix_cons b input), Nat.lt_succ_of_lt hlt⟩
    · cases h

/-- The value of the bytes of an integer, the lowest first. -/
def lengthValue : Bytes → ℕ
  | [] => 0
  | b :: input => b.toNat % 128 + 128 * lengthValue input

lemma lengthValue_cons (b : UInt8) (input : Bytes) (n shift : ℕ) :
    n + lengthValue (b :: input) * 2 ^ shift =
      n + b.toNat % 128 * 2 ^ shift + lengthValue input * 2 ^ (shift + 7) := by
  have hpow : 2 ^ (shift + 7) = 2 ^ shift * 128 := Nat.pow_add 2 shift 7
  rw [lengthValue, hpow]
  ring

/-- **The loop accepts an integer exactly if** no byte of it is shifted by 32 bits, and the value is
below `2 ^ 32`. -/
theorem decodeLengthLoop_eq_some_iff {n shift res shift' : ℕ} {input rest : Bytes} :
    decodeLengthLoop n shift input =
        some { res := res, shift := shift', fin := true, rest := rest } ↔
      ∃ digits last, input = digits ++ last :: rest ∧ (∀ d ∈ digits, 128 ≤ d.toNat) ∧
        last.toNat < 128 ∧ shift' = shift + 7 * digits.length ∧ shift' < 32 ∧
        res = n + lengthValue (digits ++ [last]) * 2 ^ shift ∧ res < 2 ^ 32 := by
  induction input generalizing n shift with
  | nil => simp [decodeLengthLoop]
  | cons b input ih =>
    rw [decodeLengthLoop_cons]
    constructor
    · intro h
      split at h
      case isFalse => cases h
      case isTrue hfit =>
        split at h
        case isTrue hb =>
          cases h
          exact ⟨[], b, rfl, by simp, hb, rfl, hfit.1, by simp [lengthValue], hfit.2⟩
        case isFalse hb =>
          obtain ⟨digits, last, rfl, hdigits, hlast, hshift, hlt, hres, hmax⟩ := ih.1 h
          refine ⟨b :: digits, last, rfl, ?_, hlast, ?_, hlt, ?_, hmax⟩
          · rintro d (_ | ⟨_, hd⟩)
            · omega
            · exact hdigits d hd
          · rw [List.length_cons]
            omega
          · rw [List.cons_append, lengthValue_cons]
            exact hres
    · rintro ⟨digits, last, heq, hdigits, hlast, hshift, hlt, hres, hmax⟩
      cases digits with
      | nil =>
        cases heq
        simp only [List.nil_append, lengthValue, List.length_nil] at hres hshift
        have hvalue : res = n + b.toNat % 128 * 2 ^ shift := by simpa using hres
        rw [if_pos ⟨by omega, hvalue ▸ hmax⟩, if_pos hlast, hvalue, hshift]
        rfl
      | cons d digits =>
        cases heq
        have hb : 128 ≤ b.toNat := hdigits b List.mem_cons_self
        rw [List.cons_append, lengthValue_cons] at hres
        rw [List.length_cons] at hshift
        rw [if_pos ⟨by omega, by omega⟩, if_neg (by omega)]
        exact ih.2 ⟨digits, last, rfl, fun d hd => hdigits d (List.mem_cons_of_mem b hd), hlast,
          by omega, hlt, hres, hmax⟩

/-! ## An integer from its first byte -/

/-- An integer that was begun before: the bytes that come now all belong to the loop. -/
@[simp] lemma decodeLength_resume {initial : ℕ} (h : initial ≠ 0) (shift : ℕ) (input : Bytes)
    (width : ℕ) :
    decodeLength initial shift input width = decodeLengthLoop initial shift input := by
  simp only [decodeLength, h, if_false]

/-- An integer from its first byte. -/
lemma decodeLength_cons (shift : ℕ) (b : UInt8) (input : Bytes) (width : ℕ) :
    decodeLength 0 shift (b :: input) width =
      if b.toNat % 2 ^ width ≠ 2 ^ width - 1 then
        some { res := b.toNat % 2 ^ width, shift := 0, fin := true, rest := input }
      else if input = [] then some { res := 2 ^ width - 1, shift := 0, fin := false, rest := [] }
      else decodeLengthLoop (2 ^ width - 1) shift input := by
  simp only [decodeLength, if_true]

/-- The first byte of an integer leaves something to go on from. -/
lemma prefix_ne_zero {width : ℕ} (hwidth : 0 < width) : 2 ^ width - 1 ≠ 0 := by
  have hlt : 1 < 2 ^ width := Nat.one_lt_two_pow hwidth.ne'
  omega

/-- What is read of an integer. -/
lemma le_of_decodeLength {initial shift width : ℕ} (hwidth : 0 < width) {input : Bytes}
    {r : DecodedLength} (h : decodeLength initial shift input width = some r) :
    initial ≤ r.res ∧ (r.fin = false → r.rest = [] ∧ r.res ≠ 0) ∧
      (r.fin = true → r.rest <:+ input ∧ r.rest.length < input.length) := by
  have hk := prefix_ne_zero hwidth
  by_cases hinitial : initial = 0
  · subst hinitial
    cases input with
    | nil => cases h
    | cons b input =>
      rw [decodeLength_cons] at h
      split at h
      · cases h
        simp
      · split at h
        · cases h
          simpa using hk
        · have hloop := le_of_decodeLengthLoop h
          refine ⟨Nat.zero_le _, fun hfin => ⟨hloop.2.1 hfin, by omega⟩, fun hfin => ?_⟩
          obtain ⟨hsuffix, hlt⟩ := hloop.2.2 hfin
          exact ⟨hsuffix.trans (List.suffix_cons b input), Nat.lt_succ_of_lt hlt⟩
  · rw [decodeLength_resume hinitial] at h
    have hloop := le_of_decodeLengthLoop h
    exact ⟨hloop.1, fun hfin => ⟨hloop.2.1 hfin, by omega⟩, hloop.2.2⟩

/-- An integer can come in two pieces.  The value of the first piece is not 0, so that the second
call does not take it for a new integer. -/
theorem decodeLength_append {initial width : ℕ} (hwidth : 0 < width) {shift : ℕ}
    (hshift : initial = 0 → shift = 0) {input input' : Bytes} (hinput : input ≠ [])
    (hinput' : input' ≠ []) :
    decodeLength initial shift (input ++ input') width =
      (decodeLength initial shift input width).bind fun r =>
        if r.fin then some { r with rest := r.rest ++ input' }
        else decodeLength r.res r.shift input' width := by
  have hk := prefix_ne_zero hwidth
  have hloop : ∀ n shift input, n ≠ 0 → decodeLengthLoop n shift (input ++ input') =
      (decodeLengthLoop n shift input).bind fun r =>
        if r.fin then some { r with rest := r.rest ++ input' }
        else decodeLength r.res r.shift input' width := by
    intro n shift input hn
    rw [decodeLengthLoop_append]
    cases hloop : decodeLengthLoop n shift input with
    | none => rfl
    | some r =>
      have hres : r.res ≠ 0 := by
        have hle := (le_of_decodeLengthLoop hloop).1
        omega
      simp only [Option.bind_some, decodeLength_resume hres]
  by_cases hinitial : initial = 0
  · obtain ⟨b, input, rfl⟩ := List.exists_cons_of_ne_nil hinput
    subst hinitial
    rw [List.cons_append, decodeLength_cons, decodeLength_cons]
    split
    · rfl
    · rw [if_neg (by simp [hinput'])]
      split
      case isTrue hempty =>
        simp only [hempty, List.nil_append, hshift rfl, Option.bind_some, decodeLength_resume hk,
          if_false, Bool.false_eq_true]
      case isFalse => exact hloop _ shift input hk
  · rw [decodeLength_resume hinitial, decodeLength_resume hinitial]
    exact hloop initial shift input hinitial

/-- The bytes after the first one are decoded, if the value is below `2 ^ 32`. -/
lemma decodeLengthLoop_encodeLengthRest (m n shift : ℕ) (hshift : shift < 32)
    (h : m + n * 2 ^ shift < 2 ^ 32) :
    ∃ shift', ∀ rest, decodeLengthLoop m shift (encodeLengthRest n ++ rest) =
      some { res := m + n * 2 ^ shift, shift := shift', fin := true, rest := rest } := by
  induction n using Nat.strongRecOn generalizing m shift with
  | ind n ih =>
    rw [encodeLengthRest]
    split
    case isTrue hlarge =>
      have hsplit : m + n * 2 ^ shift =
          m + n % 128 * 2 ^ shift + (n >>> 7) * 2 ^ (shift + 7) := by
        have hn : n % 128 + 128 * (n / 128) = n := Nat.mod_add_div n 128
        have hpow : 2 ^ (shift + 7) = 2 ^ shift * 128 := Nat.pow_add 2 shift 7
        have hdiv : n >>> 7 = n / 128 := Nat.shiftRight_eq_div_pow n 7
        calc m + n * 2 ^ shift = m + (n % 128 + 128 * (n / 128)) * 2 ^ shift := by rw [hn]
          _ = m + n % 128 * 2 ^ shift + n / 128 * (2 ^ shift * 128) := by ring
          _ = m + n % 128 * 2 ^ shift + (n >>> 7) * 2 ^ (shift + 7) := by rw [hpow, hdiv]
      have hnext : shift + 7 < 32 := by
        by_contra hge
        have hpow : 2 ^ 25 ≤ 2 ^ shift := Nat.pow_le_pow_right (by decide) (by omega)
        have hmul : 128 * 2 ^ 25 ≤ n * 2 ^ shift := Nat.mul_le_mul hlarge hpow
        omega
      have hbyte : (UInt8.ofNat (128 + n % 128)).toNat = 128 + n % 128 := by
        rw [UInt8.toNat_ofNat']
        omega
      have hsmall : n >>> 7 < n := by
        rw [Nat.shiftRight_eq_div_pow]
        omega
      obtain ⟨shift', hrest⟩ := ih (n >>> 7) hsmall (m + n % 128 * 2 ^ shift) (shift + 7) hnext
        (hsplit ▸ h)
      refine ⟨shift', fun rest => ?_⟩
      rw [List.cons_append, decodeLengthLoop_cons, hbyte, Nat.add_mod_left, Nat.mod_mod,
        if_pos ⟨hshift, by omega⟩, if_neg (by omega), hrest, hsplit]
    case isFalse hsmall =>
      have hbyte : (UInt8.ofNat n).toNat = n := by
        rw [UInt8.toNat_ofNat']
        omega
      have hmod : n % 128 = n := Nat.mod_eq_of_lt (by omega)
      refine ⟨shift, fun rest => ?_⟩
      rw [List.cons_append, decodeLengthLoop_cons, hbyte, hmod, if_pos ⟨hshift, h⟩,
        if_pos (by omega), List.nil_append]

/-- The lowest bits of the first byte. -/
lemma withLowBits_mod (first : UInt8) {width value : ℕ} (hwidth : width ≤ 8)
    (h : value < 2 ^ width) : (withLowBits first width value).toNat % 2 ^ width = value := by
  have hpow : 2 ^ 8 = 2 ^ width * 2 ^ (8 - width) := by
    rw [← Nat.pow_add, Nat.add_sub_cancel' hwidth]
  rw [withLowBits, UInt8.toNat_ofNat', hpow, Nat.mod_mul_right_mod, Nat.mul_comm,
    Nat.mul_add_mod, Nat.mod_eq_of_lt h]

/-- **What was encoded is decoded**, with any bytes after it.  The encoder writes no more bytes than
it has to, so that none of them is shifted too far. -/
theorem decodeLength_encodeLength {n width : ℕ} (hwidth : width ≤ 8)
    (h : n < 2 ^ 32) (first : UInt8) :
    ∃ shift, ∀ rest, decodeLength 0 0 (encodeLength first n width ++ rest) width =
      some { res := n, shift := shift, fin := true, rest := rest } := by
  have hk : 2 ^ width - 1 < 2 ^ width := Nat.sub_lt (Nat.two_pow_pos width) (by decide)
  rw [encodeLength]
  split
  case isTrue hsmall =>
    have hmod := withLowBits_mod first hwidth (Nat.lt_trans hsmall hk)
    refine ⟨0, fun rest => ?_⟩
    rw [List.cons_append, decodeLength_cons, hmod, if_pos hsmall.ne]
    rfl
  case isFalse hlarge =>
    have hmod := withLowBits_mod first hwidth hk
    have hne : ∀ rest, encodeLengthRest (n - (2 ^ width - 1)) ++ rest ≠ [] := by
      intro rest
      rw [encodeLengthRest]
      split <;> simp
    obtain ⟨shift, hloop⟩ := decodeLengthLoop_encodeLengthRest (2 ^ width - 1)
      (n - (2 ^ width - 1)) 0 (by decide) (by omega)
    have hvalue : 2 ^ width - 1 + (n - (2 ^ width - 1)) * 2 ^ 0 = n := by omega
    rw [hvalue] at hloop
    refine ⟨shift, fun rest => ?_⟩
    rw [List.cons_append, decodeLength_cons, hmod, if_neg (by simp), if_neg (hne rest)]
    exact hloop rest

end KituraHTTP2.Nghttp2
