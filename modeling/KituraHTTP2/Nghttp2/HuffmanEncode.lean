import KituraHTTP2.Nghttp2.Huffman
import KituraHTTP2.Nghttp2.Buf

/-!
# Huffman encoding into chained buffers

`hdHuffEncode` appends the words of a text to a chain of buffers.  The byte that is not full yet is
held at `last`, with `rembits` bits free in it, and the next word is ored into it.  For the bytes
after that one there are two paths: a fast one, which writes to the current buffer without a look at
its end, and a slow one, which may go on in the next buffer.

The loop is followed bit by bit.  Between two symbols the bits of the text so far are the bytes that
are written and the bits that are `Held`; a symbol adds its word to them, whichever of the two paths
it takes and wherever a buffer ends in the middle of it.  At the end the byte that is held is filled
up with ones, the beginning of the terminal symbol.

The decoder of the other side gets these bytes without the length of the text, and has to tell the
padding from a symbol.  That it can is a property of the code: every byte has a word of its own, and
no word begins another one (`Lib/PrefixCode`).

* `huffEncodeRest_fast` — where the fast path is taken it does what the slow one does.
* **`writes_hdHuffEncode`** — however the words fall on the buffers, the bytes are `huffEncoded`,
  the words packed and padded, or there was no room for these bytes.
* **`hdHuffDecode_accepts_iff`** — they are decoded to the text, and nothing else is.
* `hdHuffDecode_iff_hdHuffEncode` — the same, of the buffers that the encoder has written.
-/

namespace KituraHTTP2.Nghttp2

open PrefixCode

/-! ## The code of the source -/

/-- One of the writes of `huff_encode_sym`: the byte at `shift` is written where there are bits
before it. -/
def huffEncodeByte (addb : Bufs → UInt8 → Except BufsError Bufs) (code shift : ℕ)
    (next : Bufs → ℕ → Except BufsError (Bufs × ℕ)) (bufs : Bufs) (nbits : ℕ) :
    Except BufsError (Bufs × ℕ) :=
  if shift < nbits then
    (addb bufs (code >>> shift).toUInt8).bind fun bufs => next bufs (nbits - 8)
  else next bufs nbits

/-- The last write of `huff_encode_sym`: a full byte, or one that is held. -/
def huffEncodeLast (addb addbHold : Bufs → UInt8 → Except BufsError Bufs) (code : ℕ) (bufs : Bufs)
    (nbits : ℕ) : Except BufsError (Bufs × ℕ) :=
  if nbits = 8 then (addb bufs code.toUInt8).map fun bufs => (bufs, 8)
  else (addbHold bufs code.toUInt8).map fun bufs => (bufs, 8 - nbits)

/-- The slow path of `huff_encode_sym`, and its fast path, which differ in the writes.  (The fast
path asks for `nbits < 8` first, and then there is nothing but the last write.) -/
def huffEncodeRest (addb addbHold : Bufs → UInt8 → Except BufsError Bufs) (bufs : Bufs)
    (nbits code : ℕ) : Except BufsError (Bufs × ℕ) :=
  huffEncodeByte addb code 24 (huffEncodeByte addb code 16 (huffEncodeByte addb code 8
    (huffEncodeLast addb addbHold code))) bufs nbits

/-- `huff_encode_sym`: the buffers, `avail` and the number of free bits after a symbol.  The bits of
`code` beyond the lowest 32 are never written. -/
def huffEncodeSym (bufs : Bufs) (avail rembits : ℕ) (sym : ℕ × ℕ) :
    Except BufsError (Bufs × ℕ × ℕ) :=
  let (nbits, code) := sym
  if nbits < rembits then
    (bufs.fastOrbHold (code <<< (rembits - nbits)).toUInt8).map fun bufs =>
      (bufs, avail, rembits - nbits)
  else if rembits = nbits then
    (bufs.fastOrb code.toUInt8).map fun bufs => (bufs, avail - 1, 8)
  else
    (bufs.fastOrb (code >>> (nbits - rembits)).toUInt8).bind fun bufs =>
      let avail := avail - 1
      let nbits := nbits - rembits
      let code := if nbits % 8 ≠ 0 then code <<< (8 - nbits % 8) else code
      let rest :=
        if avail < (nbits + 7) / 8 then huffEncodeRest Bufs.addb Bufs.addbHold bufs nbits code
        else huffEncodeRest Bufs.fastAddb Bufs.fastAddbHold bufs nbits code
      rest.map fun (bufs, rembits) => (bufs, bufs.cur.avail, rembits)

/-- A fresh byte is held before a symbol that begins with one. -/
def huffEncodeOpen (bufs : Bufs) (avail rembits : ℕ) : Except BufsError (Bufs × ℕ) :=
  if rembits = 8 then
    if avail ≠ 0 then (bufs.fastAddbHold 0).map fun bufs => (bufs, avail)
    else (bufs.addbHold 0).map fun bufs => (bufs, bufs.cur.avail)
  else .ok (bufs, avail)

/-- The loop of `nghttp2_hd_huff_encode` -/
def huffEncodeLoop (bufs : Bufs) (avail rembits : ℕ) :
    Bytes → Except BufsError (Bufs × ℕ × ℕ)
  | [] => .ok (bufs, avail, rembits)
  | b :: src =>
    (huffEncodeOpen bufs avail rembits).bind fun (bufs, avail) =>
      (huffEncodeSym bufs avail rembits (huffSym (some b))).bind fun (bufs, avail, rembits) =>
        huffEncodeLoop bufs avail rembits src

/-- `nghttp2_hd_huff_encode` -/
def hdHuffEncode (bufs : Bufs) (src : Bytes) : Except BufsError Bufs :=
  (huffEncodeLoop bufs bufs.cur.avail 8 src).bind fun (bufs, _, rembits) =>
    if rembits < 8 then
      let sym := huffSym none
      bufs.fastOrb (sym.2 >>> (sym.1 - rembits)).toUInt8
    else .ok bufs

/-- `nghttp2_hd_huff_encode_count` -/
def hdHuffEncodeCount (src : Bytes) : ℕ :=
  ((src.map fun b => (huffSym (some b)).1).sum + 7) / 8

/-! ## What is written -/

/-- The words of a text, padded with ones to whole bytes. -/
def huffPadded (src : Bytes) : List Bool :=
  let text := huffCode.encode (src.map some)
  text ++ List.replicate ((8 - text.length % 8) % 8) true

/-- The bytes of the words of a text. -/
def huffEncoded (src : Bytes) : Bytes := pack (huffPadded src)

/-- `text` was written after what `bufs` held, up to the bits of the last byte: it is held, and
`rembits` bits are free in it. -/
structure Held (bufs : Bufs) (text : List Bool) (bufs' : Bufs) (rembits : ℕ) : Prop where
  full : ∃ data pending, text = byteBits data ++ pending ∧ bufs.Written data bufs' ∧
    pending.length + rembits = 8 ∧
    bits 8 bufs'.cur.held.toNat = pending ++ List.replicate rembits false
  avail : 0 < bufs'.cur.avail

/-- `text` was written after what `bufs` held. -/
def WrittenBits (bufs : Bufs) (text : List Bool) (bufs' : Bufs) (rembits : ℕ) : Prop :=
  if rembits = 8 then ∃ data, text = byteBits data ∧ bufs.Written data bufs'
  else 0 < rembits ∧ rembits < 8 ∧ Held bufs text bufs' rembits

/-- The result of writing the bits `text` to `bufs`, as it should be. -/
def WritesBits (result : Except BufsError (Bufs × ℕ)) (bufs : Bufs) (text : List Bool) : Prop :=
  if (text.length + 7) / 8 ≤ bufs.room then
    ∃ bufs' rembits, result = .ok (bufs', rembits) ∧ WrittenBits bufs text bufs' rembits
  else result = .error .bufferError

variable {bufs bufs' : Bufs} {data : Bytes} {text : List Bool} {rembits : ℕ}

lemma Held.after (h : bufs.Written data bufs') {bufs'' : Bufs}
    (hheld : Held bufs' text bufs'' rembits) : Held bufs (byteBits data ++ text) bufs'' rembits where
  full := by
    obtain ⟨data', pending, rfl, hwritten, hlength, hbits⟩ := hheld.full
    exact ⟨data ++ data', pending, by simp, h.trans hwritten, hlength, hbits⟩
  avail := hheld.avail

lemma WrittenBits.after (h : bufs.Written data bufs') {bufs'' : Bufs}
    (hbits : WrittenBits bufs' text bufs'' rembits) :
    WrittenBits bufs (byteBits data ++ text) bufs'' rembits := by
  unfold WrittenBits at hbits ⊢
  split at hbits
  case isTrue height =>
    obtain ⟨data', rfl, hwritten⟩ := hbits
    rw [if_pos height]
    exact ⟨data ++ data', by simp, h.trans hwritten⟩
  case isFalse height =>
    rw [if_neg height]
    exact ⟨hbits.1, hbits.2.1, hbits.2.2.after h⟩

lemma WritesBits.after {result : Except BufsError (Bufs × ℕ)} (h : bufs.Written data bufs')
    (hresult : WritesBits result bufs' text) : WritesBits result bufs (byteBits data ++ text) := by
  have hroom := h.room
  unfold WritesBits at hresult ⊢
  rw [List.length_append, length_byteBits]
  by_cases htext : (text.length + 7) / 8 ≤ bufs'.room
  · rw [if_pos htext] at hresult
    obtain ⟨bufs'', rembits, hok, hbits⟩ := hresult
    rw [if_pos (by omega)]
    exact ⟨bufs'', rembits, hok, hbits.after h⟩
  · rw [if_neg htext] at hresult
    rw [if_neg (by omega)]
    exact hresult

/-! ## The bytes after the first one -/

/-- The bits of a word that are still to be written, of which `code` has them at its end, moved to
the border of a byte. -/
def restBits (code nbits : ℕ) : List Bool := bits nbits (code >>> ((8 - nbits % 8) % 8))

/-- The next byte of the rest. -/
lemma restBits_eq {shift nbits : ℕ} (code : ℕ) (h : shift < nbits) (hle : nbits ≤ shift + 8)
    (hshift : shift % 8 = 0) (hpos : 0 < shift) :
    restBits code nbits = bits 8 (code >>> shift) ++ restBits code (nbits - 8) := by
  have hpad : (nbits - 8) % 8 = nbits % 8 := by omega
  have hsum : (8 - nbits % 8) % 8 + (nbits - 8) = shift := by omega
  have hsplit := bits_add 8 (nbits - 8) (code >>> ((8 - nbits % 8) % 8))
  rw [← Nat.shiftRight_add, hsum, Nat.add_sub_cancel' (by omega)] at hsplit
  rw [restBits, hsplit, restBits, hpad]

lemma byteBits_toUInt8 (n : ℕ) : byteBits [n.toUInt8] = bits 8 n := by
  rw [byteBits_cons, byteBits_nil, List.append_nil, Nat.toUInt8, UInt8.toNat_ofNat']
  exact bits_mod (Nat.le_refl 8) n

/-- The bits of `code` below those of the word are zeros, up to the border of a byte. -/
def Aligned (code nbits : ℕ) : Prop :=
  bits ((8 - nbits % 8) % 8) code = List.replicate ((8 - nbits % 8) % 8) false

lemma WritesBits.of_writes {result : Except BufsError Bufs} (h : bufs.Writes result data) :
    WritesBits (result.map fun bufs => (bufs, 8)) bufs (byteBits data) := by
  have hlength : ((byteBits data).length + 7) / 8 = data.length := by
    rw [length_byteBits]
    omega
  rw [WritesBits, hlength]
  unfold Bufs.Writes at h
  split at h
  case isTrue hroom =>
    obtain ⟨bufs', rfl, hwritten⟩ := h
    rw [if_pos hroom]
    exact ⟨bufs', 8, rfl, by simpa [WrittenBits] using ⟨data, rfl, hwritten⟩⟩
  case isFalse hroom =>
    rw [if_neg hroom, h]
    rfl

lemma writesBits_last (h : bufs.Ready) {code nbits : ℕ} (hpos : 0 < nbits) (hle : nbits ≤ 8)
    (hcode : Aligned code nbits) :
    WritesBits (huffEncodeLast Bufs.addb Bufs.addbHold code bufs nbits) bufs
      (restBits code nbits) := by
  rw [huffEncodeLast]
  by_cases height : nbits = 8
  · subst height
    rw [if_pos rfl, restBits]
    exact byteBits_toUInt8 code ▸ WritesBits.of_writes (Bufs.writes_addb h _)
  · have hpad : (8 - nbits % 8) % 8 = 8 - nbits := by omega
    have hlength : ((restBits code nbits).length + 7) / 8 = 1 := by
      rw [restBits, length_bits]
      omega
    rw [if_neg height, WritesBits, hlength]
    rcases Bufs.addbHold_cases h code.toUInt8 with
      ⟨bufs', hok, hwritten, havail, hheld⟩ | ⟨herror, hroom⟩
    · have hroom := hwritten.room
      have hle' := bufs'.avail_le_room
      rw [if_pos (by simp only [List.length_nil] at hroom; omega), hok]
      refine ⟨bufs', 8 - nbits, rfl, ?_⟩
      rw [WrittenBits, if_neg (by omega)]
      refine ⟨by omega, by omega, ⟨[], restBits code nbits, rfl, hwritten, ?_, ?_⟩, havail⟩
      · rw [restBits, length_bits]
        omega
      · have hbits := byteBits_toUInt8 code
        have hsplit := bits_add nbits (8 - nbits) code
        rw [Nat.add_sub_cancel' hle] at hsplit
        rw [byteBits_cons, byteBits_nil, List.append_nil] at hbits
        rw [Aligned, hpad] at hcode
        rw [hheld, hbits, hsplit, hcode, restBits, hpad]
    · rw [if_neg (by omega), herror]
      rfl

/-- What is left of a word is written by `next`, where at most `max` bits are left. -/
def RestSpec (code max : ℕ) (next : Bufs → ℕ → Except BufsError (Bufs × ℕ)) : Prop :=
  ∀ bufs nbits, bufs.Ready → 0 < nbits → nbits ≤ max → Aligned code nbits →
    WritesBits (next bufs nbits) bufs (restBits code nbits)

lemma RestSpec.byte {code shift : ℕ} {next : Bufs → ℕ → Except BufsError (Bufs × ℕ)}
    (hnext : RestSpec code shift next) (hshift : shift % 8 = 0) (hpos : 0 < shift) :
    RestSpec code (shift + 8) (huffEncodeByte Bufs.addb code shift next) := by
  intro bufs nbits hready hnbits hle hcode
  rw [huffEncodeByte]
  split
  case isTrue hlt =>
    have haligned : Aligned code (nbits - 8) := by
      have hpad : (nbits - 8) % 8 = nbits % 8 := by omega
      rwa [Aligned, hpad]
    have hbyte := Bufs.writes_addb hready (code >>> shift).toUInt8
    rw [restBits_eq code hlt hle hshift hpos, ← byteBits_toUInt8]
    unfold Bufs.Writes at hbyte
    split at hbyte
    case isTrue =>
      obtain ⟨bufs', hok, hwritten⟩ := hbyte
      rw [hok]
      exact (hnext bufs' (nbits - 8) hwritten.ready (by omega) (by omega) haligned).after hwritten
    case isFalse hroom =>
      rw [hbyte, WritesBits, if_neg]
      · rfl
      · rw [List.length_append, length_byteBits]
        simp only [List.length_singleton] at hroom ⊢
        omega
  case isFalse hlt => exact hnext bufs nbits hready hnbits (Nat.le_of_not_lt hlt) hcode

lemma restSpec_rest (code : ℕ) :
    RestSpec code 32 fun bufs nbits => huffEncodeRest Bufs.addb Bufs.addbHold bufs nbits code :=
  have hlast : RestSpec code 8 (huffEncodeLast Bufs.addb Bufs.addbHold code) :=
    fun _ _ hready hpos hle hcode => writesBits_last hready hpos hle hcode
  ((hlast.byte rfl (by decide)).byte rfl (by decide)).byte rfl (by decide)

/-- Where the current buffer has room for the rest of a word, `fast` does what `slow` does. -/
def FastIsSlow (max : ℕ) (fast slow : Bufs → ℕ → Except BufsError (Bufs × ℕ)) : Prop :=
  ∀ bufs nbits, 0 < nbits → nbits ≤ max → (nbits + 7) / 8 ≤ bufs.cur.avail →
    fast bufs nbits = slow bufs nbits

lemma FastIsSlow.byte {code shift : ℕ} {fast slow : Bufs → ℕ → Except BufsError (Bufs × ℕ)}
    (h : FastIsSlow shift fast slow) (hpos : 0 < shift) (hshift : shift % 8 = 0) :
    FastIsSlow (shift + 8) (huffEncodeByte Bufs.fastAddb code shift fast)
      (huffEncodeByte Bufs.addb code shift slow) := by
  intro bufs nbits hnbits hle havail
  rw [huffEncodeByte, huffEncodeByte]
  split
  case isTrue hlt =>
    have hroom : 0 < bufs.cur.avail := by omega
    rw [← Bufs.fastAddb_eq hroom, Bufs.fastAddb_eq_ok hroom]
    exact h _ _ (by omega) (by omega) (by rw [Bufs.avail_push]; omega)
  case isFalse hlt => exact h bufs nbits hnbits (Nat.le_of_not_lt hlt) havail

/-- **The fast path does what the slow one does** where it is taken. -/
theorem huffEncodeRest_fast (code : ℕ) :
    FastIsSlow 32 (fun bufs nbits => huffEncodeRest Bufs.fastAddb Bufs.fastAddbHold bufs nbits code)
      fun bufs nbits => huffEncodeRest Bufs.addb Bufs.addbHold bufs nbits code := by
  have hlast : FastIsSlow 8 (huffEncodeLast Bufs.fastAddb Bufs.fastAddbHold code)
      (huffEncodeLast Bufs.addb Bufs.addbHold code) := by
    intro bufs nbits hnbits hle havail
    have hroom : 0 < bufs.cur.avail := by omega
    rw [huffEncodeLast, huffEncodeLast, Bufs.fastAddb_eq hroom, Bufs.fastAddbHold_eq hroom]
  exact ((hlast.byte (by decide) rfl).byte (by decide) rfl).byte (by decide) rfl

/-! ## A symbol -/

/-- The result with `avail`, which is always that of the current buffer. -/
def withAvail (p : Bufs × ℕ) : Bufs × ℕ × ℕ := (p.1, p.1.cur.avail, p.2)

lemma toNat_or_toUInt8 (b : UInt8) {n : ℕ} (h : n < 256) :
    (b ||| n.toUInt8).toNat = b.toNat ||| n := by
  rw [UInt8.toNat_or, Nat.toUInt8, UInt8.toNat_ofNat', Nat.mod_eq_of_lt h]

/-- The held byte when some of its free bits are filled. -/
lemma bits_held_or {b : UInt8} {pending : List Bool} {n : ℕ}
    (hlength : pending.length + rembits = 8)
    (hbits : bits 8 b.toNat = pending ++ List.replicate rembits false) (hn : n < 2 ^ rembits) :
    bits 8 (b ||| n.toUInt8).toNat = pending ++ bits rembits n := by
  have hle : 2 ^ rembits ≤ 2 ^ 8 := Nat.pow_le_pow_right (by decide) (by omega)
  rw [toNat_or_toUInt8 b (by omega), ← hlength]
  exact bits_or (hlength ▸ hbits) hn

/-- The first bits of a word, and the others. -/
lemma bits_word {rembits nbits : ℕ} (code : ℕ) (h : rembits ≤ nbits) :
    bits nbits code = bits rembits (code >>> (nbits - rembits)) ++ bits (nbits - rembits) code := by
  rw [← bits_add, Nat.add_sub_cancel' h]

lemma shiftRight_lt {rembits nbits code : ℕ} (h : rembits ≤ nbits) (hcode : code < 2 ^ nbits) :
    code >>> (nbits - rembits) < 2 ^ rembits := by
  rw [Nat.shiftRight_eq_div_pow, Nat.div_lt_iff_lt_mul (Nat.two_pow_pos _), ← Nat.pow_add,
    Nat.add_sub_cancel' h]
  exact hcode

/-- The code moved to the border of a byte. -/
lemma rest_of_shiftLeft (code nbits : ℕ) :
    (if nbits % 8 ≠ 0 then code <<< (8 - nbits % 8) else code) =
      code <<< ((8 - nbits % 8) % 8) := by
  split
  case isTrue h => rw [Nat.mod_eq_of_lt (by omega : 8 - nbits % 8 < 8)]
  case isFalse h => rw [show (8 - nbits % 8) % 8 = 0 by omega, Nat.shiftLeft_zero]

lemma restBits_shiftLeft (code nbits : ℕ) :
    restBits (code <<< ((8 - nbits % 8) % 8)) nbits = bits nbits code := by
  rw [restBits, Nat.shiftLeft_shiftRight]

lemma aligned_shiftLeft (code nbits : ℕ) : Aligned (code <<< ((8 - nbits % 8) % 8)) nbits := by
  rw [Aligned, ← bits_mod (Nat.le_refl _), Nat.shiftLeft_eq, Nat.mul_mod_left, bits_zero]

/-- A byte is held: it will be written. -/
lemma Held.room (h : Held bufs text bufs' rembits) : (text.length + 7) / 8 ≤ bufs.room := by
  obtain ⟨data, pending, rfl, hwritten, hlength, -⟩ := h.full
  have hroom := hwritten.room
  have hle := bufs'.avail_le_room
  have havail := h.avail
  rw [List.length_append, length_byteBits]
  omega

/-- **A symbol is written after the bits that are there.** -/
theorem writesBits_sym (h : Held bufs text bufs' rembits) (hpos : 0 < rembits) {nbits code : ℕ}
    (hbegin : 0 < nbits) (hnbits : nbits ≤ 32) (hcode : code < 2 ^ nbits) :
    ∃ result, huffEncodeSym bufs' bufs'.cur.avail rembits (nbits, code) = result.map withAvail ∧
      WritesBits result bufs (text ++ bits nbits code) := by
  obtain ⟨data, pending, rfl, hwritten, hlength, hbits⟩ := h.full
  have havail := h.avail
  have hroom := hwritten.room
  have hle := bufs'.avail_le_room
  simp only [huffEncodeSym]
  split
  case isTrue hlt =>
    -- the word fits in the held byte, with some bits left
    have hshift : code <<< (rembits - nbits) < 2 ^ rembits := by
      rw [Nat.shiftLeft_eq, ← Nat.add_sub_cancel' (Nat.le_of_lt hlt), Nat.pow_add,
        Nat.add_sub_cancel_left]
      exact Nat.mul_lt_mul_of_pos_right hcode (Nat.two_pow_pos _)
    have hword : bits rembits (code <<< (rembits - nbits)) =
        bits nbits code ++ List.replicate (rembits - nbits) false := by
      have happend := bits_append nbits code (Nat.two_pow_pos (rembits - nbits))
      rw [Nat.add_sub_cancel' (Nat.le_of_lt hlt), Nat.add_zero, bits_zero] at happend
      rw [Nat.shiftLeft_eq, happend]
    refine ⟨.ok (bufs'.hold (bufs'.cur.held ||| (code <<< (rembits - nbits)).toUInt8),
      rembits - nbits), ?_, ?_⟩
    · rw [Bufs.fastOrbHold, Bufs.fastAddbHold, if_pos havail]
      simp [Except.map, withAvail]
    · have hheld : Held bufs (byteBits data ++ pending ++ bits nbits code)
          (bufs'.hold (bufs'.cur.held ||| (code <<< (rembits - nbits)).toUInt8))
          (rembits - nbits) := by
        refine ⟨⟨data, pending ++ bits nbits code, by simp, hwritten.hold _, ?_, ?_⟩,
          by simpa using havail⟩
        · rw [List.length_append, length_bits]
          omega
        · rw [Bufs.held_hold havail, bits_held_or hlength hbits hshift, hword, List.append_assoc]
      rw [WritesBits, if_pos hheld.room]
      refine ⟨_, _, rfl, ?_⟩
      rw [WrittenBits, if_neg (by omega)]
      exact ⟨by omega, by omega, hheld⟩
  case isFalse hge =>
  have hrembits : rembits ≤ nbits := Nat.le_of_not_lt hge
  have hbyte : byteBits [bufs'.cur.held ||| (code >>> (nbits - rembits)).toUInt8] =
      pending ++ bits rembits (code >>> (nbits - rembits)) := by
    rw [byteBits_cons, byteBits_nil, List.append_nil,
      bits_held_or hlength hbits (shiftRight_lt hrembits hcode)]
  have hpush := hwritten.trans (Bufs.written_push hwritten.ready havail
    (bufs'.cur.held ||| (code >>> (nbits - rembits)).toUInt8))
  have hall : byteBits data ++ pending ++ bits nbits code =
      byteBits (data ++ [bufs'.cur.held ||| (code >>> (nbits - rembits)).toUInt8]) ++
        bits (nbits - rembits) code := by
    rw [bits_word code hrembits, byteBits_append, hbyte]
    simp
  split
  case isTrue heq =>
    -- the word fills the held byte
    subst heq
    have hcode' : code >>> (rembits - rembits) = code := by simp
    rw [hcode'] at hpush hall
    rw [Nat.sub_self] at hall
    refine ⟨.ok (bufs'.push (bufs'.cur.held ||| code.toUInt8) havail, 8), ?_, ?_⟩
    · rw [Bufs.fastOrb, Bufs.fastAddb_eq_ok havail]
      simp [Except.map, withAvail]
    · rw [hall, WritesBits, if_pos]
      · refine ⟨_, _, rfl, ?_⟩
        rw [WrittenBits, if_pos rfl]
        exact ⟨_, by simp [bits], hpush⟩
      · simp only [List.length_append, length_byteBits, length_bits, List.length_singleton]
        omega
  case isFalse hne =>
    -- the held byte is filled, and the rest of the word is written after it
    rw [Bufs.fastOrb, Bufs.fastAddb_eq_ok havail]
    simp only [Except.bind, rest_of_shiftLeft]
    have hslow := restSpec_rest (code <<< ((8 - (nbits - rembits) % 8) % 8)) _ (nbits - rembits)
      hpush.ready (by omega) (by omega) (aligned_shiftLeft code (nbits - rembits))
    have hresult := hslow.after hpush
    rw [restBits_shiftLeft, ← hall] at hresult
    refine ⟨_, ?_, hresult⟩
    have hfast := huffEncodeRest_fast (code <<< ((8 - (nbits - rembits) % 8) % 8))
      (bufs'.push (bufs'.cur.held ||| (code >>> (nbits - rembits)).toUInt8) havail)
      (nbits - rembits) (by omega) (by omega)
    split
    case isTrue => rfl
    case isFalse hroom =>
      rw [← hfast (by rw [Bufs.avail_push]; omega)]
      rfl

/-! ## A text -/

/-- A byte is held for the next symbol, or there is no room for its bits. -/
lemma huffEncodeOpen_cases (h : WrittenBits bufs text bufs' rembits) (hready : bufs'.Ready) :
    (∃ bufs'', huffEncodeOpen bufs' bufs'.cur.avail rembits = .ok (bufs'', bufs''.cur.avail) ∧
      0 < rembits ∧ Held bufs text bufs'' rembits) ∨
      huffEncodeOpen bufs' bufs'.cur.avail rembits = .error .bufferError ∧
        text.length = 8 * bufs.room := by
  unfold WrittenBits at h
  rw [huffEncodeOpen]
  split at h
  case isFalse hrembits =>
    rw [if_neg hrembits]
    exact Or.inl ⟨bufs', rfl, h.1, h.2.2⟩
  case isTrue hrembits =>
    obtain ⟨data, rfl, hwritten⟩ := h
    have hopen : ∀ {bufs''}, bufs'.Written [] bufs'' → 0 < bufs''.cur.avail →
        bufs''.cur.held = 0 → Held bufs (byteBits data) bufs'' 8 := by
      intro bufs'' hhold havail hheld
      refine ⟨⟨data, [], by simp, by simpa using hwritten.trans hhold, rfl, ?_⟩, havail⟩
      rw [hheld]
      rfl
    rw [if_pos hrembits, hrembits]
    by_cases havail : bufs'.cur.avail ≠ 0
    · have hpos : 0 < bufs'.cur.avail := Nat.pos_of_ne_zero havail
      rw [if_pos havail, Bufs.fastAddbHold, if_pos hpos]
      exact Or.inl ⟨bufs'.hold 0, by simp [Except.map], by decide,
        hopen ((Bufs.Written.refl hready).hold 0) (by simpa using hpos) (Bufs.held_hold hpos 0)⟩
    · rw [if_neg havail]
      rcases Bufs.addbHold_cases hready 0 with ⟨bufs'', hok, hhold, hpos, hheld⟩ | ⟨herror, hroom⟩
      · rw [hok]
        exact Or.inl ⟨bufs'', rfl, by decide, hopen hhold hpos hheld⟩
      · have hall := hwritten.room
        rw [herror]
        exact Or.inr ⟨rfl, by rw [length_byteBits]; omega⟩

lemma WrittenBits.ready (h : WrittenBits bufs text bufs' rembits) : bufs'.Ready := by
  unfold WrittenBits at h
  split at h
  · obtain ⟨data, -, hwritten⟩ := h
    exact hwritten.ready
  · obtain ⟨data, pending, -, hwritten, -⟩ := h.2.2.full
    exact hwritten.ready

lemma WrittenBits.room (h : WrittenBits bufs text bufs' rembits) :
    (text.length + 7) / 8 ≤ bufs.room := by
  unfold WrittenBits at h
  split at h
  · obtain ⟨data, rfl, hwritten⟩ := h
    have hroom := hwritten.room
    rw [length_byteBits]
    omega
  · exact h.2.2.room

/-- The words of a text are written after the bits that are there. -/
lemma writesBits_loop (h : WrittenBits bufs text bufs' rembits) (src : Bytes) :
    ∃ result, huffEncodeLoop bufs' bufs'.cur.avail rembits src = result.map withAvail ∧
      WritesBits result bufs (text ++ huffCode.encode (src.map some)) := by
  induction src generalizing text bufs' rembits with
  | nil =>
    refine ⟨.ok (bufs', rembits), rfl, ?_⟩
    rw [List.map_nil, Code.encode_nil, List.append_nil, WritesBits, if_pos h.room]
    exact ⟨bufs', rembits, rfl, h⟩
  | cons b src ih =>
    obtain ⟨hfive, hthirty, hcode⟩ := huffSym_fits (some b)
    have hword : (huffCode.word (some b)).length = (huffSym (some b)).1 := length_bits _ _
    rw [huffEncodeLoop, List.map_cons, Code.encode_cons]
    rcases huffEncodeOpen_cases h h.ready with ⟨bufs₁, hok, hpos, hheld⟩ | ⟨herror, hroom⟩
    · obtain ⟨result, hsym, hresult⟩ :=
        writesBits_sym hheld hpos (by omega) (by omega) hcode
      rw [hok]
      simp only [Except.bind]
      rw [hsym]
      unfold WritesBits at hresult
      split at hresult
      case isTrue =>
        obtain ⟨bufs₂, rembits', rfl, hwritten⟩ := hresult
        obtain ⟨result', hloop, hall⟩ := ih hwritten
        refine ⟨result', hloop, ?_⟩
        rw [← List.append_assoc]
        exact hall
      case isFalse hroom =>
        rw [hresult]
        refine ⟨.error .bufferError, rfl, ?_⟩
        rw [WritesBits, if_neg]
        simp only [List.length_append, length_bits, hword] at hroom ⊢
        omega
    · rw [herror]
      refine ⟨.error .bufferError, rfl, ?_⟩
      rw [WritesBits, if_neg]
      simp only [List.length_append, hword]
      omega

lemma length_huffPadded (src : Bytes) : (huffPadded src).length % 8 = 0 := by
  rw [huffPadded, List.length_append, List.length_replicate]
  omega

lemma byteBits_huffEncoded (src : Bytes) : byteBits (huffEncoded src) = huffPadded src :=
  byteBits_pack (length_huffPadded src)

/-- **The words of a text are written, packed and padded**, or there is no room for them. -/
theorem writes_hdHuffEncode (h : bufs.Ready) (src : Bytes) :
    bufs.Writes (hdHuffEncode bufs src) (huffEncoded src) := by
  have hstart : WrittenBits bufs [] bufs 8 := by
    rw [WrittenBits, if_pos rfl]
    exact ⟨[], rfl, .refl h⟩
  obtain ⟨result, hloop, hresult⟩ := writesBits_loop hstart src
  have hlength : 8 * (huffEncoded src).length = (huffPadded src).length := by
    rw [← byteBits_huffEncoded, length_byteBits]
  rw [huffPadded, List.length_append, List.length_replicate] at hlength
  rw [List.nil_append] at hresult
  rw [hdHuffEncode, hloop, Bufs.Writes]
  unfold WritesBits at hresult
  split at hresult
  case isFalse hroom =>
    rw [hresult, if_neg (by omega)]
    rfl
  case isTrue hroom =>
    obtain ⟨bufs', rembits, rfl, hwritten⟩ := hresult
    rw [if_pos (by omega)]
    simp only [Except.map, withAvail, Except.bind]
    unfold WrittenBits at hwritten
    split at hwritten
    case isTrue hrembits =>
      obtain ⟨data, hdata, hwritten⟩ := hwritten
      have heq : data = huffEncoded src := byteBits_injective (by
        rw [byteBits_huffEncoded, huffPadded, hdata, length_byteBits]
        simp)
      rw [if_neg (by omega)]
      exact ⟨bufs', rfl, heq ▸ hwritten⟩
    case isFalse =>
      obtain ⟨hpos, hlt, hheld⟩ := hwritten
      obtain ⟨data, pending, hdata, hwritten, hpending, hbits⟩ := hheld.full
      have hones : (huffSym none).2 >>> ((huffSym none).1 - rembits) = 2 ^ rembits - 1 := by
        have hall : ∀ rembits < 8,
            (huffSym none).2 >>> ((huffSym none).1 - rembits) = 2 ^ rembits - 1 := by
          decide +kernel
        exact hall rembits hlt
      have hsub : 2 ^ rembits - 1 < 2 ^ rembits := Nat.sub_lt (Nat.two_pow_pos _) (by decide)
      have hbyte := bits_held_or hpending hbits hsub
      rw [bits_two_pow_sub_one (Nat.le_refl _)] at hbyte
      rw [if_pos hlt, hones, Bufs.fastOrb, Bufs.fastAddb_eq_ok hheld.avail]
      refine ⟨_, rfl, ?_⟩
      have hpush := hwritten.trans (Bufs.written_push hwritten.ready hheld.avail
        (bufs'.cur.held ||| (2 ^ rembits - 1).toUInt8))
      have heq : data ++ [bufs'.cur.held ||| (2 ^ rembits - 1).toUInt8] = huffEncoded src := by
        refine byteBits_injective ?_
        have hpad : (8 - (byteBits data ++ pending).length % 8) % 8 = rembits := by
          rw [List.length_append, length_byteBits]
          omega
        rw [byteBits_append, byteBits_cons, hbyte, byteBits_huffEncoded, huffPadded, hdata, hpad]
        simp
      exact heq ▸ hpush

lemma length_encode_map_some (src : Bytes) :
    (huffCode.encode (src.map some)).length = (src.map fun b => (huffSym (some b)).1).sum := by
  induction src with
  | nil => rfl
  | cons b src ih =>
    have hword : (huffCode.word (some b)).length = (huffSym (some b)).1 := length_bits _ _
    simp [ih, hword]

/-- `nghttp2_hd_huff_encode_count` is the number of bytes. -/
theorem length_huffEncoded (src : Bytes) :
    (huffEncoded src).length = hdHuffEncodeCount src := by
  have hlength : 8 * (huffEncoded src).length = (huffPadded src).length := by
    rw [← byteBits_huffEncoded, length_byteBits]
  rw [huffPadded, List.length_append, List.length_replicate, length_encode_map_some] at hlength
  rw [hdHuffEncodeCount]
  omega

/-- **What was encoded is decoded**, also where it arrives in pieces. -/
theorem hdHuffDecode_huffEncoded (src : Bytes) :
    (hdHuffDecode {} (huffEncoded src) true).map Prod.snd = some src := by
  rw [hdHuffDecode_eq_some_iff]
  exact ⟨_, Nat.mod_lt _ (by decide), byteBits_huffEncoded src⟩

/-- Only what the encoder writes is decoded. -/
lemma eq_huffEncoded_of_decoded {src out : Bytes}
    (h : (hdHuffDecode {} src true).map Prod.snd = some out) : src = huffEncoded out := by
  obtain ⟨k, hk, hbits⟩ := (hdHuffDecode_eq_some_iff src out).1 h
  -- both end with a byte, and there is one padding that is short enough
  have hlength := congrArg List.length hbits
  rw [length_byteBits, List.length_append, List.length_replicate] at hlength
  refine byteBits_injective ?_
  rw [hbits, byteBits_huffEncoded, huffPadded]
  have hpadding : k = (8 - (huffCode.encode (out.map some)).length % 8) % 8 := by omega
  rw [hpadding]

/-- **Every text has one encoding that is accepted**: its words, packed and padded.  A decoder that
took other paddings, or the terminal symbol, would let a peer write one field in several ways. -/
theorem hdHuffDecode_accepts_iff (src out : Bytes) :
    (hdHuffDecode {} src true).map Prod.snd = some out ↔ src = huffEncoded out := by
  constructor
  · exact eq_huffEncoded_of_decoded
  · rintro rfl
    exact hdHuffDecode_huffEncoded out

/-- **The decoder accepts what the encoder writes, and nothing else**: to any buffers with room for
as many bytes as `nghttp2_hd_huff_encode_count` says. -/
theorem hdHuffDecode_iff_hdHuffEncode (h : bufs.Ready) (src : Bytes) {out : Bytes}
    (hroom : hdHuffEncodeCount out ≤ bufs.room) :
    (hdHuffDecode {} src true).map Prod.snd = some out ↔
      ∃ bufs', hdHuffEncode bufs out = .ok bufs' ∧ bufs'.contents = bufs.contents ++ src := by
  have hwrites := writes_hdHuffEncode h out
  rw [Bufs.Writes, length_huffEncoded, if_pos hroom] at hwrites
  obtain ⟨bufs', hencode, hwritten⟩ := hwrites
  constructor
  · intro hdecode
    rw [eq_huffEncoded_of_decoded hdecode]
    exact ⟨bufs', hencode, hwritten.contents⟩
  · rintro ⟨bufs'', hencode', hcontents⟩
    cases hencode.symm.trans hencode'
    have hsrc : src = huffEncoded out :=
      List.append_cancel_left (hcontents.symm.trans hwritten.contents)
    rw [hsrc]
    exact hdHuffDecode_huffEncoded out

end KituraHTTP2.Nghttp2
