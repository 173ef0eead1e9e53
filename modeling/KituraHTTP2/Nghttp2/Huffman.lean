import Mathlib.Data.List.ReduceOption
import KituraHTTP2.Platform
import KituraHTTP2.Nghttp2.HuffmanData

/-!
# Huffman decoding

`hdHuffDecode` reads a string of a header block with a table: it takes four bits at a time, and the
table tells for each state and four bits which state comes next and whether a symbol is complete.

A state stands for the bits of a word that were read since the last symbol (`huffPath`), and the
table is checked entry by entry against the words (`huffDecodeTable_correct`): it is a `Decoder` of
the code, which makes its properties those of the general ones.

* `hdHuffDecode_append` — a string can come in pieces.
* **`hdHuffDecode_eq_some_iff`** — what is accepted is words, none of them that of the terminal
  symbol, and less than eight bits of padding, all ones; the result is the text of these words.
* `length_hdHuffDecode_le` — two symbols for a byte at most, which is what the buffers are made for.
-/

namespace KituraHTTP2.Nghttp2

open PrefixCode

/-! ## The code -/

/-- The place of a symbol in `huff_sym_table`: `none` is the terminal symbol. -/
def huffIndex : Option UInt8 → ℕ
  | none => 256
  | some b => b.toNat

/-- The entry of a symbol in `huff_sym_table`: `nbits` and `code`. -/
def huffSym (s : Option UInt8) : ℕ × ℕ := huffSymTable.getD (huffIndex s) (0, 0)

/-- One of two words, as numbers, is the beginning of the other. -/
def wordBegins (v w : ℕ × ℕ) : Bool :=
  Nat.ble v.1 w.1 && Nat.beq (w.2 >>> (w.1 - v.1)) v.2

/-- No word of the list is the beginning of another. -/
def noWordBegins : List (ℕ × ℕ) → Bool
  | [] => true
  | v :: words => words.all (fun w => !wordBegins v w && !wordBegins w v) && noWordBegins words

lemma noWordBegins_huffSymTable : noWordBegins huffSymTable = true := by decide +kernel

lemma huffSymTable_fits :
    huffSymTable.all (fun w => 5 ≤ w.1 ∧ w.1 ≤ 30 ∧ w.2 < 2 ^ w.1) = true := by
  decide +kernel

lemma length_huffSymTable : huffSymTable.length = 257 := by decide +kernel

lemma huffIndex_lt (s : Option UInt8) : huffIndex s < huffSymTable.length := by
  rw [length_huffSymTable]
  cases s with
  | none => decide
  | some b => exact Nat.lt_of_lt_of_le b.toNat_lt (by decide)

lemma huffSym_eq (s : Option UInt8) : huffSym s = huffSymTable.get ⟨huffIndex s, huffIndex_lt s⟩ := by
  rw [List.get_eq_getElem, huffSym, List.getD_eq_getElem?_getD, List.getElem?_eq_getElem (huffIndex_lt s),
    Option.getD_some]

lemma huffIndex_injective : Function.Injective huffIndex := by
  intro s t h
  cases s with
  | none => cases t with
    | none => rfl
    | some b => exact absurd h (Nat.ne_of_gt b.toNat_lt)
  | some a => cases t with
    | none => exact absurd h (Nat.ne_of_lt a.toNat_lt)
    | some b => rw [UInt8.toNat_inj.1 h]

lemma huffSym_fits (s : Option UInt8) :
    5 ≤ (huffSym s).1 ∧ (huffSym s).1 ≤ 30 ∧ (huffSym s).2 < 2 ^ (huffSym s).1 := by
  have hmem : huffSym s ∈ huffSymTable := huffSym_eq s ▸ List.getElem_mem _
  exact of_decide_eq_true (List.all_eq_true.1 huffSymTable_fits (huffSym s) hmem)

lemma pairwise_of_noWordBegins {words : List (ℕ × ℕ)} (h : noWordBegins words = true) :
    words.Pairwise fun v w => wordBegins v w = false ∧ wordBegins w v = false := by
  induction words with
  | nil => exact List.Pairwise.nil
  | cons v words ih =>
    rw [noWordBegins, Bool.and_eq_true] at h
    refine List.Pairwise.cons (fun w hw => ?_) (ih h.2)
    simpa using List.all_eq_true.1 h.1 w hw

/-- Different symbols have words of which none is the beginning of the other. -/
lemma not_wordBegins {s t : Option UInt8} (h : s ≠ t) :
    wordBegins (huffSym s) (huffSym t) = false := by
  have hpairwise := pairwise_of_noWordBegins noWordBegins_huffSymTable
  rw [List.pairwise_iff_getElem] at hpairwise
  rw [huffSym_eq, huffSym_eq]
  rcases Nat.lt_or_gt_of_ne (huffIndex_injective.ne h) with hlt | hgt
  · exact (hpairwise _ _ (huffIndex_lt s) (huffIndex_lt t) hlt).1
  · exact (hpairwise _ _ (huffIndex_lt t) (huffIndex_lt s) hgt).2

/-- The number of a word is that of a word it begins, without the last bits. -/
lemma wordBegins_of_prefix {v w : ℕ × ℕ} (hv : v.2 < 2 ^ v.1) (hw : w.2 < 2 ^ w.1)
    (h : bits v.1 v.2 <+: bits w.1 w.2) : wordBegins v w = true := by
  have hle : v.1 ≤ w.1 := by simpa using h.length_le
  have hsplit : bits w.1 w.2 = bits v.1 (w.2 >>> (w.1 - v.1)) ++ bits (w.1 - v.1) w.2 := by
    rw [← bits_add, Nat.add_sub_cancel' hle]
  obtain ⟨rest, hrest⟩ := h
  rw [hsplit] at hrest
  have hbits := (List.append_inj hrest (by simp)).1
  have hlt : w.2 >>> (w.1 - v.1) < 2 ^ v.1 := by
    rw [Nat.shiftRight_eq_div_pow, Nat.div_lt_iff_lt_mul (Nat.two_pow_pos _), ← Nat.pow_add,
      Nat.add_sub_cancel' hle]
    exact hw
  rw [wordBegins, Bool.and_eq_true, Nat.ble_eq, Nat.beq_eq]
  exact ⟨hle, (bits_injOn hv hlt hbits).symm⟩

/-- The words of `huff_sym_table` -/
def huffCode : Code (Option UInt8) where
  word s := bits (huffSym s).1 (huffSym s).2
  word_ne_nil s h := by
    have hlength := congrArg List.length h
    have hfive := (huffSym_fits s).1
    rw [length_bits, List.length_nil] at hlength
    omega
  eq_of_prefix s t h := by
    by_contra hne
    have hbegins := wordBegins_of_prefix (huffSym_fits s).2.2 (huffSym_fits t).2.2 h
    rw [not_wordBegins hne] at hbegins
    cases hbegins

/-! ## The decoding table -/

/-- `nghttp2_huff_decode`, with its flags `NGHTTP2_HUFF_ACCEPTED`, `NGHTTP2_HUFF_SYM` and
`NGHTTP2_HUFF_FAIL`. -/
structure HuffDecode where
  state : UInt8
  accepted : Bool
  emits : Bool
  fail : Bool
  sym : UInt8

/-- The entry of a row for four bits. -/
def huffRowEntry (row nibble : ℕ) : HuffDecode :=
  let entry := row >>> (20 * (15 - nibble))
  { state := (entry >>> 12).toUInt8
    accepted := entry.testBit 8
    emits := entry.testBit 9
    fail := entry.testBit 10
    sym := entry.toUInt8 }

/-- The entry of `huff_decode_table` for a state and four bits. -/
def huffDecodeEntry (state : UInt8) (nibble : ℕ) : HuffDecode :=
  huffRowEntry (huffDecodeTable.getD state.toNat 0) nibble

/-- `nghttp2_hd_huff_decode_context`, from `nghttp2_hd_huff_decode_context_init`. -/
structure HuffDecodeContext where
  state : UInt8 := 0
  accept : Bool := true
deriving DecidableEq, Repr

/-- One half of the loop of `nghttp2_hd_huff_decode`: the entry, and what is appended to the
buffer. -/
def huffDecodeNibble (state : UInt8) (nibble : ℕ) : Option (HuffDecode × Bytes) :=
  let t := huffDecodeEntry state nibble
  if t.fail then none else some (t, if t.emits then [t.sym] else [])

/-- `nghttp2_hd_huff_decode`: the context after `src`, and what is appended to the buffer; `none` is
`NGHTTP2_ERR_HEADER_COMP`. -/
def hdHuffDecode (ctx : HuffDecodeContext) (src : Bytes) (final : Bool) :
    Option (HuffDecodeContext × Bytes) :=
  match src with
  | [] => if final && !ctx.accept then none else some (ctx, [])
  | b :: src =>
    (huffDecodeNibble ctx.state (b.toNat / 16)).bind fun (t₁, out₁) =>
      (huffDecodeNibble t₁.state (b.toNat % 16)).bind fun (t₂, out₂) =>
        (hdHuffDecode { state := t₂.state, accept := t₂.accepted } src final).map fun rest =>
          (rest.1, out₁ ++ out₂ ++ rest.2)

/-- A string can be decoded in two pieces. -/
lemma hdHuffDecode_append (ctx : HuffDecodeContext) (src src' : Bytes) (final : Bool) :
    hdHuffDecode ctx (src ++ src') final = (hdHuffDecode ctx src false).bind fun next =>
      (hdHuffDecode next.1 src' final).map fun rest => (rest.1, next.2 ++ rest.2) := by
  induction src generalizing ctx with
  | nil => simp [hdHuffDecode]
  | cons b src ih =>
    simp [hdHuffDecode, ih, Option.map_bind, Option.bind_map, Option.bind_assoc,
      Function.comp_def]

lemma length_huffDecodeNibble_le {state : UInt8} {nibble : ℕ} {t : HuffDecode} {out : Bytes}
    (h : huffDecodeNibble state nibble = some (t, out)) : out.length ≤ 1 := by
  obtain ⟨-, h⟩ := Option.ite_none_left_eq_some.1 h
  cases h
  split <;> simp

/-- A byte completes two symbols at most. -/
lemma length_hdHuffDecode_le {ctx ctx' : HuffDecodeContext} {src out : Bytes} {final : Bool}
    (h : hdHuffDecode ctx src final = some (ctx', out)) : out.length ≤ 2 * src.length := by
  induction src generalizing ctx out with
  | nil =>
    obtain ⟨-, h⟩ := Option.ite_none_left_eq_some.1 h
    cases h
    simp
  | cons b src ih =>
    obtain ⟨⟨t₁, out₁⟩, h₁, h⟩ := Option.bind_eq_some_iff.1 h
    obtain ⟨⟨t₂, out₂⟩, h₂, h⟩ := Option.bind_eq_some_iff.1 h
    obtain ⟨rest, hrest, heq⟩ := Option.map_eq_some_iff.1 h
    cases heq
    have hle₁ := length_huffDecodeNibble_le h₁
    have hle₂ := length_huffDecodeNibble_le h₂
    have hle := ih hrest
    simp only [List.length_append, List.length_cons]
    omega

/-! ## What the states stand for -/

/-- The bits each state stands for, in the order of the states: two hexadecimal digits for their
number, eight for their value. -/
def huffPathTable : List ℕ := [
  0x0000000000_0100000000_0200000000_0300000000_0400000000_0400000001_0300000001_0400000002,
  0x0400000003_0200000001_0300000002_0400000004_0400000005_050000000a_050000000b_0300000003,
  0x0400000006_050000000c_050000000d_0400000007_050000000e_050000000f_0100000001_0200000002,
  0x0300000004_0400000008_0500000010_0500000011_0400000009_0500000012_0500000013_0300000005,
  0x040000000a_0500000014_0500000015_040000000b_0500000016_0500000017_060000002e_060000002f,
  0x0200000003_0300000006_040000000c_0500000018_0600000030_0600000031_0500000019_0600000032,
  0x0600000033_040000000d_050000001a_0600000034_0600000035_050000001b_0600000036_0600000037,
  0x0300000007_040000000e_050000001c_0600000038_0600000039_050000001d_060000003a_060000003b,
  0x040000000f_050000001e_060000003c_060000003d_050000001f_060000003e_070000007c_070000007d,
  0x060000003f_070000007e_070000007f_08000000fe_09000001fc_09000001fd_08000000ff_09000001fe,
  0x0a000003fd_09000001ff_0a000003fe_0b000007fd_0a000003ff_0b000007fe_0c00000ffc_0c00000ffd,
  0x0b000007ff_0c00000ffe_0c00000fff_0d00001ffe_0d00001fff_0e00003ffe_0e00003fff_0f00007fff,
  0x100000fffe_110001fffc_120003fff8_120003fff9_130007fff3_110001fffd_120003fffa_130007fff4,
  0x130007fff5_120003fffb_130007fff6_130007fff7_14000fffee_14000fffef_100000ffff_110001fffe,
  0x120003fffc_130007fff8_14000ffff0_14000ffff1_130007fff9_14000ffff2_14000ffff3_120003fffd,
  0x130007fffa_14000ffff4_15001fffe9_14000ffff5_15001fffea_15001fffeb_130007fffb_14000ffff6,
  0x15001fffec_15001fffed_14000ffff7_15001fffee_15001fffef_110001ffff_120003fffe_130007fffc,
  0x14000ffff8_15001ffff0_15001ffff1_14000ffff9_15001ffff2_15001ffff3_130007fffd_14000ffffa,
  0x15001ffff4_15001ffff5_14000ffffb_15001ffff6_16003fffec_16003fffed_15001ffff7_16003fffee,
  0x16003fffef_120003ffff_130007fffe_14000ffffc_15001ffff8_16003ffff0_16003ffff1_15001ffff9,
  0x16003ffff2_16003ffff3_14000ffffd_15001ffffa_16003ffff4_16003ffff5_15001ffffb_16003ffff6,
  0x16003ffff7_130007ffff_14000ffffe_15001ffffc_16003ffff8_16003ffff9_15001ffffd_16003ffffa,
  0x17007ffff5_16003ffffb_17007ffff6_17007ffff7_14000fffff_15001ffffe_16003ffffc_17007ffff8,
  0x17007ffff9_16003ffffd_17007ffffa_17007ffffb_1800fffff6_1800fffff7_15001fffff_16003ffffe,
  0x17007ffffc_1800fffff8_1901fffff0_1901fffff1_1800fffff9_1901fffff2_1901fffff3_17007ffffd,
  0x1800fffffa_1901fffff4_1901fffff5_1800fffffb_1901fffff6_1901fffff7_1a03ffffef_16003fffff,
  0x17007ffffe_1800fffffc_1901fffff8_1a03fffff0_1a03fffff1_1901fffff9_1a03fffff2_1a03fffff3,
  0x1800fffffd_1901fffffa_1a03fffff4_1a03fffff5_1901fffffb_1a03fffff6_1a03fffff7_17007fffff,
  0x1800fffffe_1901fffffc_1a03fffff8_1b07fffff1_1a03fffff9_1b07fffff2_1b07fffff3_1901fffffd,
  0x1a03fffffa_1b07fffff4_1b07fffff5_1a03fffffb_1b07fffff6_1b07fffff7_1800ffffff_1901fffffe,
  0x1a03fffffc_1b07fffff8_1b07fffff9_1a03fffffd_1b07fffffa_1b07fffffb_1901ffffff_1a03fffffe,
  0x1b07fffffc_1b07fffffd_1a03ffffff_1b07fffffe_1b07ffffff_1c0fffffff_1d1ffffffe_1d1fffffff]

/-- The number of bits that a state stands for, and their value. -/
def huffPathNumber (state : ℕ) : ℕ × ℕ :=
  let entry := huffPathTable.getD (state / 8) 0 >>> (40 * (7 - state % 8)) % 2 ^ 40
  (entry >>> 32, entry % 2 ^ 32)

/-- The bits of a word that were read in a state. -/
def huffPath (state : UInt8) : List Bool :=
  bits (huffPathNumber state.toNat).1 (huffPathNumber state.toNat).2

/-- The bits read in a state can be padding: less than eight, and all of them ones. -/
def huffAccepts (state : UInt8) : Bool :=
  let path := huffPathNumber state.toNat
  Nat.blt path.1 8 && Nat.beq path.2 (2 ^ path.1 - 1)

/-- What an entry must be, for a state with the bits `p`. -/
def huffEntryCorrect (p : ℕ × ℕ) (t : HuffDecode) (nibble : ℕ) : Bool :=
  let q := huffPathNumber t.state.toNat
  if t.fail then
    let w := huffSym none
    Nat.ble w.1 (p.1 + 4) && Nat.beq ((p.2 * 16 + nibble) >>> (p.1 + 4 - w.1)) w.2
  else
    let w := if t.emits then huffSym (some t.sym) else (0, 0)
    Nat.beq (w.1 + q.1) (p.1 + 4) && Nat.beq (w.2 * 2 ^ q.1 + q.2) (p.2 * 16 + nibble) &&
      t.accepted == huffAccepts t.state

/-- Every entry is right. -/
lemma huffDecodeTable_correct : (huffDecodeTable.zipIdx.all fun row =>
    (List.range 16).all fun nibble =>
      huffEntryCorrect (huffPathNumber row.2) (huffRowEntry row.1 nibble) nibble) = true := by
  decide +kernel

/-- The bits of a state are bits of a word, and not all of them. -/
lemma huffPathTable_inner : ((List.range 256).all fun state =>
    let p := huffPathNumber state
    Nat.blt p.2 (2 ^ p.1) && huffSymTable.any fun w =>
      Nat.blt p.1 w.1 && Nat.beq (w.2 >>> (w.1 - p.1)) p.2) = true := by
  decide +kernel

/-- The bits of a state as a number that grows with the state. -/
def huffPathKey (state : ℕ) : ℕ :=
  (huffPathNumber state).2 <<< (30 - (huffPathNumber state).1) * 32 + (huffPathNumber state).1

lemma huffPathTable_ordered : ((List.range 255).all fun state =>
    Nat.blt (huffPathKey state) (huffPathKey (state + 1))) = true := by
  decide +kernel

lemma length_huffDecodeTable : huffDecodeTable.length = 256 := by decide +kernel

lemma huffEntryCorrect_entry (state : UInt8) {nibble : ℕ} (h : nibble < 16) :
    huffEntryCorrect (huffPathNumber state.toNat) (huffDecodeEntry state nibble) nibble = true := by
  have hlt : state.toNat < huffDecodeTable.length := by
    rw [length_huffDecodeTable]
    exact state.toNat_lt
  have hmem : (huffDecodeTable[state.toNat], state.toNat) ∈ huffDecodeTable.zipIdx :=
    List.mk_mem_zipIdx_iff_getElem?.2 (List.getElem?_eq_getElem hlt)
  have hrow := List.all_eq_true.1 (List.all_eq_true.1 huffDecodeTable_correct _ hmem) nibble
    (List.mem_range.2 h)
  rw [huffDecodeEntry, List.getD_eq_getElem?_getD, List.getElem?_eq_getElem hlt,
    Option.getD_some]
  exact hrow

lemma exists_huffSym {w : ℕ × ℕ} (h : w ∈ huffSymTable) : ∃ s, huffSym s = w := by
  obtain ⟨i, hi, rfl⟩ := List.mem_iff_getElem.1 h
  have hlt : i < 257 := length_huffSymTable ▸ hi
  have hindex : ∃ s, huffIndex s = i := by
    rcases Nat.lt_succ_iff_lt_or_eq.1 hlt with hbyte | rfl
    · exact ⟨some (UInt8.ofNat i), by simp [huffIndex, Nat.mod_eq_of_lt hbyte]⟩
    · exact ⟨none, rfl⟩
  obtain ⟨s, rfl⟩ := hindex
  exact ⟨s, huffSym_eq s⟩

lemma huffPathNumber_lt (state : UInt8) :
    (huffPathNumber state.toNat).2 < 2 ^ (huffPathNumber state.toNat).1 := by
  have h := List.all_eq_true.1 huffPathTable_inner state.toNat
    (List.mem_range.2 state.toNat_lt)
  rw [Bool.and_eq_true, Nat.blt_eq] at h
  exact h.1

lemma huffPath_inner (state : UInt8) : huffCode.Inner (huffPath state) := by
  have h := List.all_eq_true.1 huffPathTable_inner state.toNat
    (List.mem_range.2 state.toNat_lt)
  rw [Bool.and_eq_true, List.any_eq_true] at h
  obtain ⟨w, hw, hbits⟩ := h.2
  rw [Bool.and_eq_true, Nat.blt_eq, Nat.beq_eq] at hbits
  obtain ⟨s, rfl⟩ := exists_huffSym hw
  have hsplit := bits_add (huffPathNumber state.toNat).1
    ((huffSym s).1 - (huffPathNumber state.toNat).1) (huffSym s).2
  rw [Nat.add_sub_cancel' (Nat.le_of_lt hbits.1), hbits.2] at hsplit
  refine ⟨s, ⟨_, hsplit.symm⟩, fun heq => ?_⟩
  have hlength := congrArg List.length heq
  rw [huffPath, huffCode, length_bits, length_bits] at hlength
  omega

lemma huffPathKey_strictMono {i j : ℕ} (hij : i < j) (hj : j < 256) :
    huffPathKey i < huffPathKey j := by
  induction j with
  | zero => omega
  | succ j ih =>
    have hnext := List.all_eq_true.1 huffPathTable_ordered j (List.mem_range.2 (by omega))
    rw [Nat.blt_eq] at hnext
    rcases Nat.lt_succ_iff_lt_or_eq.1 hij with hlt | rfl
    · exact Nat.lt_trans (ih hlt (by omega)) hnext
    · exact hnext

lemma huffPath_injective : Function.Injective huffPath := by
  intro p q h
  have hlength := congrArg List.length h
  rw [huffPath, huffPath, length_bits, length_bits] at hlength
  have hvalue : (huffPathNumber p.toNat).2 = (huffPathNumber q.toNat).2 := by
    refine bits_injOn (huffPathNumber_lt p) (hlength ▸ huffPathNumber_lt q) ?_
    rw [huffPath, huffPath, ← hlength] at h
    exact h
  have hkey : huffPathKey p.toNat = huffPathKey q.toNat := by
    rw [huffPathKey, huffPathKey, hlength, hvalue]
  rcases Nat.lt_trichotomy p.toNat q.toNat with hlt | heq | hgt
  · exact absurd hkey (Nat.ne_of_lt (huffPathKey_strictMono hlt q.toNat_lt))
  · exact UInt8.toNat_inj.1 heq
  · exact absurd hkey (Nat.ne_of_gt (huffPathKey_strictMono hgt p.toNat_lt))

/-! ## The decoder -/

/-- Four bits after those of a state. -/
lemma huffPath_append (state : UInt8) {nibble : ℕ} (h : nibble < 16) :
    huffPath state ++ bits 4 nibble = bits ((huffPathNumber state.toNat).1 + 4)
      ((huffPathNumber state.toNat).2 * 16 + nibble) :=
  (bits_append (huffPathNumber state.toNat).1 (huffPathNumber state.toNat).2 h).symm

lemma huffDecodeNibble_some {state : UInt8} {nibble : ℕ} (h : nibble < 16) {t : HuffDecode}
    {out : Bytes} (hstep : huffDecodeNibble state nibble = some (t, out)) :
    huffPath state ++ bits 4 nibble = huffCode.encode (out.map some) ++ huffPath t.state ∧
      t.accepted = huffAccepts t.state := by
  have hcorrect := huffEntryCorrect_entry state h
  obtain ⟨hfail, hstep⟩ := Option.ite_none_left_eq_some.1 hstep
  obtain ⟨rfl, rfl⟩ := Prod.mk.inj (Option.some.inj hstep)
  rw [huffEntryCorrect, if_neg hfail, Bool.and_eq_true, Bool.and_eq_true, Nat.beq_eq,
    Nat.beq_eq, beq_iff_eq] at hcorrect
  obtain ⟨⟨hlength, hvalue⟩, haccepted⟩ := hcorrect
  refine ⟨?_, haccepted⟩
  rw [huffPath_append state h, ← hlength, ← hvalue, bits_append _ _ (huffPathNumber_lt _)]
  split <;> simp [huffCode, huffPath, bits]

lemma huffDecodeNibble_none {state : UInt8} {nibble : ℕ} (h : nibble < 16)
    (hstep : huffDecodeNibble state nibble = none) :
    ∃ r, huffPath state ++ bits 4 nibble = huffCode.word none ++ r := by
  have hcorrect := huffEntryCorrect_entry state h
  have hfail : (huffDecodeEntry state nibble).fail = true := by
    by_contra hfail
    rw [huffDecodeNibble, if_neg hfail] at hstep
    cases hstep
  rw [huffEntryCorrect, if_pos hfail, Bool.and_eq_true, Nat.ble_eq, Nat.beq_eq] at hcorrect
  have hsplit := bits_add (huffSym none).1
    ((huffPathNumber state.toNat).1 + 4 - (huffSym none).1)
    ((huffPathNumber state.toNat).2 * 16 + nibble)
  rw [Nat.add_sub_cancel' hcorrect.1, hcorrect.2] at hsplit
  rw [huffPath_append state h, hsplit]
  exact ⟨_, rfl⟩

/-- The decoding table, as a decoder of the words of `huff_sym_table` that takes four bits at a
time. -/
def huffDecoder : Decoder huffCode none UInt8 (Fin 16) where
  portion nibble := bits 4 nibble
  path := huffPath
  step state nibble := (huffDecodeNibble state nibble).map fun next =>
    (next.2.map some, next.1.state)
  inner := huffPath_inner
  path_injective := huffPath_injective
  step_some {_ nibble out _} h := by
    obtain ⟨⟨t, out⟩, hstep, heq⟩ := Option.map_eq_some_iff.1 h
    cases heq
    exact ⟨(huffDecodeNibble_some nibble.isLt hstep).1, by simp⟩
  step_none {_ nibble} h := by
    obtain ⟨r, hbits⟩ := huffDecodeNibble_none nibble.isLt (Option.map_eq_none_iff.1 h)
    exact ⟨[], r, hbits⟩

/-- The two halves of each byte. -/
def nibbles (src : Bytes) : List (Fin 16) :=
  src.flatMap fun b => [⟨b.toNat / 16, by have := b.toNat_lt; omega⟩, ⟨b.toNat % 16, by omega⟩]

lemma flatMap_portion_nibbles (src : Bytes) :
    (nibbles src).flatMap huffDecoder.portion = byteBits src := by
  induction src with
  | nil => rfl
  | cons b src ih =>
    have hsplit := bits_append 4 (b.toNat / 16) (show b.toNat % 16 < 2 ^ 4 by omega)
    rw [show (2 : ℕ) ^ 4 = 16 from rfl, Nat.div_add_mod' b.toNat 16] at hsplit
    rw [nibbles, List.flatMap_cons, ← nibbles, List.flatMap_append, ih, byteBits_cons, hsplit]
    simp [huffDecoder]

lemma huffDecoder_step (state : UInt8) (nibble : Fin 16) :
    huffDecoder.step state nibble = (huffDecodeNibble state nibble).map fun next =>
      (next.2.map some, next.1.state) := rfl

lemma reduceOption_map_some_append (out : Bytes) (rest : List (Option UInt8)) :
    (out.map some ++ rest).reduceOption = out ++ rest.reduceOption := by
  simp [List.reduceOption, List.filterMap_append, List.filterMap_map]

lemma map_some_reduceOption {out : List (Option UInt8)} (h : none ∉ out) :
    out.reduceOption.map some = out := by
  induction out with
  | nil => rfl
  | cons s out ih =>
    rw [List.mem_cons, not_or] at h
    cases s with
    | none => exact absurd rfl h.1
    | some b => rw [List.reduceOption_cons_of_some, List.map_cons, ih h.2]

/-- Decoding is running the decoder: what the context accepts is what its state accepts. -/
lemma hdHuffDecode_eq (ctx : HuffDecodeContext) (h : ctx.accept = huffAccepts ctx.state)
    (src : Bytes) (final : Bool) :
    hdHuffDecode ctx src final = (huffDecoder.run ctx.state (nibbles src)).bind fun next =>
      if final && !huffAccepts next.2 then none
      else some ({ state := next.2, accept := huffAccepts next.2 }, next.1.reduceOption) := by
  induction src generalizing ctx with
  | nil =>
    rw [hdHuffDecode, nibbles, List.flatMap_nil, Decoder.run, Option.bind_some, h]
    cases ctx
    simp_all [List.reduceOption]
  | cons b src ih =>
    have hlow : b.toNat % 16 < 16 := Nat.mod_lt _ (by decide)
    rw [hdHuffDecode, nibbles, List.flatMap_cons, ← nibbles]
    simp only [List.cons_append, List.nil_append, Decoder.run, huffDecoder_step]
    cases h₁ : huffDecodeNibble ctx.state (b.toNat / 16) with
    | none => rfl
    | some next₁ =>
      simp only [Option.bind_some, Option.map_some]
      cases h₂ : huffDecodeNibble next₁.1.state (b.toNat % 16) with
      | none => rfl
      | some next₂ =>
        have haccepted := (huffDecodeNibble_some hlow h₂).2
        simp only [Option.bind_some, Option.map_some]
        rw [ih { state := next₂.1.state, accept := next₂.1.accepted } haccepted]
        cases huffDecoder.run next₂.1.state (nibbles src) with
        | none => rfl
        | some rest =>
          simp only [Option.bind_some, Option.map_some, reduceOption_map_some_append]
          split <;> simp

/-! ## What is accepted -/

/-- Padding is less than eight ones. -/
lemma huffAccepts_iff (state : UInt8) :
    huffAccepts state = true ↔ ∃ k < 8, huffPath state = List.replicate k true := by
  rw [huffAccepts, Bool.and_eq_true, Nat.blt_eq, Nat.beq_eq]
  constructor
  · rintro ⟨hlt, hvalue⟩
    refine ⟨_, hlt, ?_⟩
    rw [huffPath, hvalue]
    exact bits_two_pow_sub_one (Nat.le_refl _)
  · rintro ⟨k, hk, hpath⟩
    have hlength := congrArg List.length hpath
    rw [huffPath, length_bits, List.length_replicate] at hlength
    refine ⟨hlength ▸ hk, bits_injOn (huffPathNumber_lt state) ?_ ?_⟩
    · exact Nat.sub_lt (Nat.two_pow_pos _) (by decide)
    · rw [bits_two_pow_sub_one (Nat.le_refl _), ← huffPath, hpath, hlength]

/-- The state after padding. -/
lemma exists_huffPath_replicate {k : ℕ} (h : k < 8) :
    ∃ state, huffPath state = List.replicate k true := by
  have hpaths : ∀ k < 8, ∃ state ∈ List.range 256,
      huffPathNumber state = (k, 2 ^ k - 1) := by decide +kernel
  obtain ⟨state, hstate, hnumber⟩ := hpaths k h
  refine ⟨UInt8.ofNat state, ?_⟩
  have hmod : (UInt8.ofNat state).toNat = state := by
    rw [UInt8.toNat_ofNat']
    exact Nat.mod_eq_of_lt (List.mem_range.1 hstate)
  rw [huffPath, hmod, hnumber]
  exact bits_two_pow_sub_one (Nat.le_refl k)

/-- **A string is accepted exactly if it is the words of a text and padding**: less than eight bits,
all of them ones.  The text is what it is decoded to. -/
theorem hdHuffDecode_eq_some_iff (src out : Bytes) :
    (hdHuffDecode {} src true).map Prod.snd = some out ↔
      ∃ k < 8, byteBits src = huffCode.encode (out.map some) ++ List.replicate k true := by
  have hinitial : huffPath 0 = [] := by decide +kernel
  have hrun : ∀ {out' q}, huffDecoder.run 0 (nibbles src) = some (out', q) ↔
      byteBits src = huffCode.encode out' ++ huffPath q ∧ none ∉ out' := by
    intro out' q
    rw [huffDecoder.run_eq_some_iff, flatMap_portion_nibbles]
    change huffPath 0 ++ byteBits src = huffCode.encode out' ++ huffPath q ∧ none ∉ out' ↔ _
    rw [hinitial, List.nil_append]
  rw [hdHuffDecode_eq {} (by decide +kernel)]
  constructor
  · intro h
    obtain ⟨next, hnext, rfl⟩ := Option.map_eq_some_iff.1 h
    obtain ⟨⟨out', q⟩, hdecode, haccept⟩ := Option.bind_eq_some_iff.1 hnext
    obtain ⟨hnot, heq⟩ := Option.ite_none_left_eq_some.1 haccept
    obtain ⟨hbits, hstop⟩ := hrun.1 hdecode
    obtain ⟨k, hk, hpath⟩ := (huffAccepts_iff q).1 (by simpa using hnot)
    cases heq
    exact ⟨k, hk, by rw [map_some_reduceOption hstop, hbits, hpath]⟩
  · rintro ⟨k, hk, hbits⟩
    obtain ⟨q, hq⟩ := exists_huffPath_replicate hk
    have hdecode := hrun.2 ⟨hq ▸ hbits, by simp⟩
    have haccept := (huffAccepts_iff q).2 ⟨k, hk, hq⟩
    have hout : (out.map some).reduceOption = out := by
      simp [List.reduceOption]
    simp [hdecode, haccept, hout]

end KituraHTTP2.Nghttp2
