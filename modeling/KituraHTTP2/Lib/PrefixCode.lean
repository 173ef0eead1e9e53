import Mathlib.Data.Nat.Bitwise
import Mathlib.Data.List.Flatten
import Mathlib.Data.List.Induction

/-!
# Prefix codes, and decoders that take several bits at a time

A prefix code gives each symbol a word of bits, none of them the beginning of another.  What has
been read of a stream of words is then whole words and a proper beginning of the next one, in one
way only (`encode_append_inj`).

A `Decoder` reads the stream in portions: it goes from state to state, each of which stands for the
beginning of a word, and gives out the symbols that a portion completes.  It refuses a portion that
completes the word of `stop`, a symbol that never occurs.

* **`Decoder.run_eq_some_iff`** — a decoder gives out the symbols whose words it has read, and
  refuses nothing else than `stop`.

The numbers of the first section are read from their highest bit; `pack` makes bytes of bits.
-/

namespace PrefixCode

/-! ## The bits of a number -/

/-- The lowest bits of a number, `width` of them, the highest one first. -/
def bits : ℕ → ℕ → List Bool
  | 0, _ => []
  | width + 1, n => n.testBit width :: bits width n

@[simp]
lemma length_bits (width n : ℕ) : (bits width n).length = width := by
  induction width with
  | zero => rfl
  | succ width ih => simp [bits, ih]

/-- The higher bits and the lower bits. -/
lemma bits_add (high low n : ℕ) : bits (high + low) n = bits high (n >>> low) ++ bits low n := by
  induction high with
  | zero => simp [bits]
  | succ high ih =>
    rw [Nat.succ_add, bits, bits, ih, List.cons_append, Nat.testBit_shiftRight, Nat.add_comm low]

/-- Only the lowest bits count. -/
lemma bits_congr {width m n : ℕ} (h : ∀ i < width, m.testBit i = n.testBit i) :
    bits width m = bits width n := by
  induction width with
  | zero => rfl
  | succ width ih =>
    rw [bits, bits, h width (Nat.lt_succ_self width), ih fun i hi => h i (Nat.lt_succ_of_lt hi)]

lemma bits_mod {width k : ℕ} (h : width ≤ k) (n : ℕ) : bits width (n % 2 ^ k) = bits width n := by
  refine bits_congr fun i hi => ?_
  rw [Nat.testBit_mod_two_pow, decide_eq_true (Nat.lt_of_lt_of_le hi h), Bool.true_and]

lemma bits_zero (width : ℕ) : bits width 0 = List.replicate width false := by
  induction width with
  | zero => rfl
  | succ width ih => rw [bits, ih, Nat.zero_testBit, List.replicate_succ]

lemma bits_two_pow_sub_one {width k : ℕ} (h : width ≤ k) :
    bits width (2 ^ k - 1) = List.replicate width true := by
  induction width with
  | zero => rfl
  | succ width ih =>
    rw [bits, ih (Nat.le_of_succ_le h), Nat.testBit_two_pow_sub_one,
      decide_eq_true (Nat.lt_of_succ_le h), List.replicate_succ]

/-- A number next to another one. -/
lemma bits_append {low n : ℕ} (high m : ℕ) (h : n < 2 ^ low) :
    bits (high + low) (m * 2 ^ low + n) = bits high m ++ bits low n := by
  have hshift : (m * 2 ^ low + n) >>> low = m := by
    rw [Nat.shiftRight_eq_div_pow, Nat.mul_comm, Nat.mul_add_div (Nat.two_pow_pos low),
      Nat.div_eq_of_lt h, Nat.add_zero]
  have hmod : (m * 2 ^ low + n) % 2 ^ low = n := by
    rw [Nat.mul_comm, Nat.mul_add_mod, Nat.mod_eq_of_lt h]
  rw [bits_add, hshift, ← bits_mod (Nat.le_refl low) (m * 2 ^ low + n), hmod]

lemma testBit_eq_of_bits {width m n i : ℕ} (h : bits width m = bits width n) (hi : i < width) :
    m.testBit i = n.testBit i := by
  induction width with
  | zero => omega
  | succ width ih =>
    rw [bits, bits, List.cons.injEq] at h
    rcases Nat.lt_succ_iff_lt_or_eq.1 hi with hlt | rfl
    · exact ih h.2 hlt
    · exact h.1

/-- The number below a power of two that has these bits. -/
lemma bits_injOn {width m n : ℕ} (hm : m < 2 ^ width) (hn : n < 2 ^ width)
    (h : bits width m = bits width n) : m = n := by
  refine Nat.eq_of_testBit_eq fun i => ?_
  rcases Nat.lt_or_ge i width with hi | hi
  · exact testBit_eq_of_bits h hi
  · have hpow : 2 ^ width ≤ 2 ^ i := Nat.pow_le_pow_right (by omega) hi
    rw [Nat.testBit_lt_two_pow (by omega), Nat.testBit_lt_two_pow (by omega)]

/-- Bits that are ored into the place of zeros. -/
lemma bits_or {low m n : ℕ} {p : List Bool}
    (h : bits (p.length + low) m = p ++ List.replicate low false) (hn : n < 2 ^ low) :
    bits (p.length + low) (m ||| n) = p ++ bits low n := by
  rw [bits_add, ← bits_zero] at h
  obtain ⟨hhigh, hlow⟩ := List.append_inj h (by simp)
  have hshift : (m ||| n) >>> low = m >>> low := by
    rw [Nat.shiftRight_or_distrib, Nat.shiftRight_eq_zero n low hn, Nat.or_zero]
  have hor : bits low (m ||| n) = bits low n := by
    refine bits_congr fun i hi => ?_
    rw [Nat.testBit_or, testBit_eq_of_bits hlow hi, Nat.zero_testBit, Bool.false_or]
  rw [bits_add, hshift, hhigh, hor]

/-- The bits of a text of bytes. -/
def byteBits (text : List UInt8) : List Bool := text.flatMap fun b => bits 8 b.toNat

@[simp]
lemma byteBits_nil : byteBits [] = [] := rfl

@[simp]
lemma byteBits_cons (b : UInt8) (text : List UInt8) :
    byteBits (b :: text) = bits 8 b.toNat ++ byteBits text := rfl

@[simp]
lemma byteBits_append (text text' : List UInt8) :
    byteBits (text ++ text') = byteBits text ++ byteBits text' := List.flatMap_append

@[simp]
lemma length_byteBits (text : List UInt8) : (byteBits text).length = 8 * text.length := by
  induction text with
  | nil => rfl
  | cons b text ih => simp [ih]; omega

lemma byteBits_injective : Function.Injective byteBits := by
  intro text
  induction text with
  | nil =>
    intro text' h
    have hlength := congrArg List.length h
    rw [length_byteBits, length_byteBits, List.length_nil] at hlength
    exact (List.length_eq_zero_iff.1 (by omega)).symm
  | cons b text ih =>
    intro text' h
    cases text' with
    | nil =>
      have hlength := congrArg List.length h
      rw [length_byteBits, length_byteBits, List.length_cons, List.length_nil] at hlength
      omega
    | cons b' text' =>
      rw [byteBits_cons, byteBits_cons] at h
      obtain ⟨hb, htext⟩ := List.append_inj h (by simp)
      rw [UInt8.toNat_inj.1 (bits_injOn b.toNat_lt b'.toNat_lt hb), ih htext]

/-- The number that has these bits. -/
def ofBits (l : List Bool) : ℕ := l.foldl (fun n b => 2 * n + b.toNat) 0

lemma ofBits_concat (l : List Bool) (b : Bool) : ofBits (l ++ [b]) = 2 * ofBits l + b.toNat := by
  simp [ofBits]

lemma bits_ofBits (l : List Bool) : bits l.length (ofBits l) = l := by
  induction l using List.reverseRecOn with
  | nil => rfl
  | append_singleton l b ih =>
    have hb : b.toNat < 2 ^ 1 := by cases b <;> decide
    have hlast : bits 1 b.toNat = [b] := by cases b <;> rfl
    rw [ofBits_concat, List.length_append, List.length_singleton, Nat.mul_comm,
      ← Nat.pow_one 2, bits_append _ _ hb, ih, hlast]

lemma ofBits_lt (l : List Bool) : ofBits l < 2 ^ l.length := by
  induction l using List.reverseRecOn with
  | nil => decide
  | append_singleton l b ih =>
    have hb : b.toNat ≤ 1 := Bool.toNat_le b
    rw [ofBits_concat, List.length_append, List.length_singleton, Nat.pow_succ]
    omega

/-- The bytes that have these bits, without the bits that do not fill a byte. -/
def pack : List Bool → List UInt8
  | b₇ :: b₆ :: b₅ :: b₄ :: b₃ :: b₂ :: b₁ :: b₀ :: rest =>
    UInt8.ofNat (ofBits [b₇, b₆, b₅, b₄, b₃, b₂, b₁, b₀]) :: pack rest
  | _ => []

/-- Whole bytes are packed without a loss. -/
lemma byteBits_pack {l : List Bool} (h : l.length % 8 = 0) : byteBits (pack l) = l := by
  fun_induction pack l with
  | case1 b₇ b₆ b₅ b₄ b₃ b₂ b₁ b₀ rest ih =>
    have hlt : ofBits [b₇, b₆, b₅, b₄, b₃, b₂, b₁, b₀] < 2 ^ 8 := ofBits_lt _
    have hbits := bits_ofBits [b₇, b₆, b₅, b₄, b₃, b₂, b₁, b₀]
    have hrest : rest.length % 8 = 0 := by
      simp only [List.length_cons] at h
      omega
    rw [byteBits_cons, UInt8.toNat_ofNat', Nat.mod_eq_of_lt hlt, ih hrest]
    exact congrArg (· ++ rest) hbits
  | case2 l hshort =>
    match l with
    | [] => rfl
    | [_] | [_, _] | [_, _, _] | [_, _, _, _] | [_, _, _, _, _] | [_, _, _, _, _, _]
    | [_, _, _, _, _, _, _] => simp at h
    | b₇ :: b₆ :: b₅ :: b₄ :: b₃ :: b₂ :: b₁ :: b₀ :: rest =>
      exact absurd rfl (hshort b₇ b₆ b₅ b₄ b₃ b₂ b₁ b₀ rest)

/-! ## Prefix codes -/

/-- A word for each symbol, such that no word is the beginning of another. -/
structure Code (σ : Type*) where
  word : σ → List Bool
  word_ne_nil : ∀ s, word s ≠ []
  eq_of_prefix : ∀ s t, word s <+: word t → s = t

namespace Code

variable {σ : Type*} {code : Code σ}

/-- The words of a text, one after the other. -/
def encode (code : Code σ) (text : List σ) : List Bool := text.flatMap code.word

/-- The bits of a word that is not read to its end. -/
def Inner (code : Code σ) (p : List Bool) : Prop := ∃ s, p <+: code.word s ∧ p ≠ code.word s

@[simp]
lemma encode_nil : code.encode [] = [] := rfl

@[simp]
lemma encode_cons (s : σ) (text : List σ) :
    code.encode (s :: text) = code.word s ++ code.encode text := rfl

@[simp]
lemma encode_append (text text' : List σ) :
    code.encode (text ++ text') = code.encode text ++ code.encode text' := List.flatMap_append

/-- Two words at the beginning of the same bits are the word of the same symbol. -/
lemma eq_of_word_append {s t : σ} {r r' : List Bool}
    (h : code.word s ++ r = code.word t ++ r') : s = t := by
  have hs : code.word s <+: code.word t ++ r' := ⟨r, h⟩
  rcases List.prefix_or_prefix_of_prefix hs (List.prefix_append _ r') with hst | hts
  · exact code.eq_of_prefix s t hst
  · exact (code.eq_of_prefix t s hts).symm

/-- What is inside a word does not begin with a whole one. -/
lemma not_word_append_of_inner {s : σ} {p r : List Bool} (hp : code.Inner p) :
    p ≠ code.word s ++ r := by
  rintro rfl
  obtain ⟨t, hprefix, hne⟩ := hp
  have hst : s = t := code.eq_of_prefix s t ((List.prefix_append _ r).trans hprefix)
  subst hst
  have hnil : r = [] := by
    have hlength := hprefix.length_le
    rw [List.length_append] at hlength
    exact List.length_eq_zero_iff.1 (by omega)
  exact hne (by rw [hnil, List.append_nil])

/-- **What was read are these words and this beginning of a word**, and no others. -/
theorem encode_append_inj {text text' : List σ} {p q : List Bool} (hp : code.Inner p)
    (hq : code.Inner q) (h : code.encode text ++ p = code.encode text' ++ q) :
    text = text' ∧ p = q := by
  induction text generalizing text' with
  | nil =>
    cases text' with
    | nil => exact ⟨rfl, h⟩
    | cons t text' =>
      rw [encode_nil, List.nil_append, encode_cons, List.append_assoc] at h
      exact absurd h (not_word_append_of_inner hp)
  | cons s text ih =>
    cases text' with
    | nil =>
      rw [encode_nil, List.nil_append, encode_cons, List.append_assoc] at h
      exact absurd h.symm (not_word_append_of_inner hq)
    | cons t text' =>
      rw [encode_cons, encode_cons, List.append_assoc, List.append_assoc] at h
      have hst : s = t := eq_of_word_append h
      subst hst
      obtain ⟨rfl, hpq⟩ := ih (List.append_cancel_left h)
      exact ⟨rfl, hpq⟩

/-- A word that ends in the bits of a text is the word of one of its symbols. -/
lemma mem_of_encode_word {text text' : List σ} {s : σ} {p r : List Bool} (hp : code.Inner p)
    (h : code.encode text ++ (code.word s ++ r) = code.encode text' ++ p) : s ∈ text' := by
  induction text generalizing text' with
  | nil =>
    cases text' with
    | nil => exact absurd h.symm (not_word_append_of_inner hp)
    | cons t text' =>
      rw [encode_nil, List.nil_append, encode_cons, List.append_assoc] at h
      rw [eq_of_word_append h]
      exact List.mem_cons_self
  | cons t text ih =>
    cases text' with
    | nil =>
      rw [encode_cons, List.append_assoc] at h
      exact absurd h.symm (not_word_append_of_inner hp)
    | cons t' text' =>
      rw [encode_cons, encode_cons, List.append_assoc, List.append_assoc] at h
      have htt' : t = t' := eq_of_word_append h
      subst htt'
      exact List.mem_cons_of_mem t (ih (List.append_cancel_left h))

end Code

/-! ## Decoders -/

/-- A decoder of `code` that takes portions of bits, from states that stand for the beginnings of
words.  It refuses the portion that completes the word of `stop`. -/
structure Decoder {σ : Type*} (code : Code σ) (stop : σ) (Q κ : Type*) where
  portion : κ → List Bool
  path : Q → List Bool
  step : Q → κ → Option (List σ × Q)
  inner : ∀ q, code.Inner (path q)
  path_injective : Function.Injective path
  step_some : ∀ {q k out q'}, step q k = some (out, q') →
    path q ++ portion k = code.encode out ++ path q' ∧ stop ∉ out
  step_none : ∀ {q k}, step q k = none →
    ∃ out r, path q ++ portion k = code.encode out ++ (code.word stop ++ r)

namespace Decoder

variable {σ Q κ : Type*} {code : Code σ} {stop : σ} (decoder : Decoder code stop Q κ)

/-- Read portions until one is refused. -/
def run (q : Q) : List κ → Option (List σ × Q)
  | [] => some ([], q)
  | k :: ks => (decoder.step q k).bind fun next =>
      (run next.2 ks).map fun rest => (next.1 ++ rest.1, rest.2)

lemma run_append (q : Q) (ks ks' : List κ) :
    decoder.run q (ks ++ ks') = (decoder.run q ks).bind fun next =>
      (decoder.run next.2 ks').map fun rest => (next.1 ++ rest.1, rest.2) := by
  induction ks generalizing q with
  | nil => simp [run]
  | cons k ks ih =>
    simp only [List.cons_append, run]
    cases decoder.step q k with
    | none => rfl
    | some next =>
      simp only [Option.bind_some, ih]
      cases decoder.run next.2 ks with
      | none => rfl
      | some next' => simp [Function.comp_def]

/-- The bits that were read, with those the state stands for, are the words of the symbols and the
bits of the new state. -/
lemma bits_of_run {q q' : Q} {ks : List κ} {out : List σ}
    (h : decoder.run q ks = some (out, q')) :
    decoder.path q ++ ks.flatMap decoder.portion = code.encode out ++ decoder.path q' ∧
      stop ∉ out := by
  induction ks generalizing q out with
  | nil =>
    cases h
    simp
  | cons k ks ih =>
    obtain ⟨⟨out₁, q₁⟩, hstep, hrest⟩ := Option.bind_eq_some_iff.1 h
    obtain ⟨⟨out₂, q₂⟩, hrun, heq⟩ := Option.map_eq_some_iff.1 hrest
    cases heq
    obtain ⟨hbits₁, hstop₁⟩ := decoder.step_some hstep
    obtain ⟨hbits₂, hstop₂⟩ := ih hrun
    refine ⟨?_, by simp [hstop₁, hstop₂]⟩
    rw [List.flatMap_cons, ← List.append_assoc, hbits₁, List.append_assoc, hbits₂,
      Code.encode_append, List.append_assoc]

/-- Where a portion is refused, the word of `stop` was in what was read. -/
lemma bits_of_run_none {q : Q} {ks : List κ} (h : decoder.run q ks = none) :
    ∃ out r, decoder.path q ++ ks.flatMap decoder.portion =
      code.encode out ++ (code.word stop ++ r) := by
  induction ks generalizing q with
  | nil => cases h
  | cons k ks ih =>
    rw [run] at h
    cases hstep : decoder.step q k with
    | none =>
      obtain ⟨out, r, hbits⟩ := decoder.step_none hstep
      refine ⟨out, r ++ ks.flatMap decoder.portion, ?_⟩
      rw [List.flatMap_cons, ← List.append_assoc, hbits]
      simp
    | some next =>
      rw [hstep, Option.bind_some, Option.map_eq_none_iff] at h
      obtain ⟨out, r, hbits⟩ := ih h
      obtain ⟨out₁, q₁⟩ := next
      obtain ⟨hbits₁, -⟩ := decoder.step_some hstep
      refine ⟨out₁ ++ out, r, ?_⟩
      rw [List.flatMap_cons, ← List.append_assoc, hbits₁, List.append_assoc, hbits,
        Code.encode_append, List.append_assoc]

/-- **A decoder reads exactly the streams of words**, up to the beginning of a word at the end, in
which `stop` does not occur. -/
theorem run_eq_some_iff {q q' : Q} {ks : List κ} {out : List σ} :
    decoder.run q ks = some (out, q') ↔
      decoder.path q ++ ks.flatMap decoder.portion = code.encode out ++ decoder.path q' ∧
        stop ∉ out := by
  constructor
  · exact decoder.bits_of_run
  · rintro ⟨hbits, hstop⟩
    cases hrun : decoder.run q ks with
    | none =>
      obtain ⟨out', r, hbits'⟩ := decoder.bits_of_run_none hrun
      exact absurd (Code.mem_of_encode_word (decoder.inner q') (hbits'.symm.trans hbits)) hstop
    | some next =>
      obtain ⟨out', r⟩ := next
      obtain ⟨hbits', -⟩ := decoder.bits_of_run hrun
      obtain ⟨hout, hpath⟩ := Code.encode_append_inj (decoder.inner r) (decoder.inner q')
        (hbits'.symm.trans hbits)
      rw [← hout, ← decoder.path_injective hpath]

end Decoder

end PrefixCode
