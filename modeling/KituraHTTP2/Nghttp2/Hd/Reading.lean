import KituraHTTP2.Nghttp2.Hd.InflateRun

/-!
# What the decoder makes of representations

The decoder reads the bytes of a representation as the representation, whatever comes after them.
This is the half of the agreement between encoder and decoder that is about the decoder alone:
nothing is said of where the bytes come from, and the table is the decoder's own.

A field takes several turns, one for the first byte, one for each integer, one for each text, and
each of them leaves the decoder in a state that the next one needs.  So the turns are put together
one after the other with `Reader.Reads`, and what they leave alone is carried along: a decoder
within a field has the table that it had before (`Alike`), and remembers how the field is to be
indexed (`InLiteral`, `Within`).  At the end the field goes into the table, or not, as its first
byte has said.

Two things are asked of what is read.  A text must not take more than 65536 bytes (`Rep.Short`),
which is the limit of this library and not of the protocol.  And a size must be allowed, which means
that it is not above the last one this side has sent, and if a smaller one was sent before that, the
first size of the block is not above that one.

* **`reads_tableSize`** — a size that is allowed becomes the size of the table.
* `reads_indexed`, `reads_indname`, `feed_name`, `reads_value` — the parts of a field.
* **`reads_rep`** — the decoder returns the field that the representation means for its table, and
  its table becomes the one that the representation makes.
* **`reads_reps`** — a sequence of representations.
-/

namespace KituraHTTP2.Nghttp2

open BoundedQueue Incremental

/-! ## Integers -/

/-- The first byte of an integer. -/
lemma exists_encodeLength (first : UInt8) (n : ℕ) {width : ℕ} (hwidth : 0 < width) :
    ∃ value tail, encodeLength first n width = withLowBits first width value :: tail ∧
      value < 2 ^ width ∧ (0 < n → 0 < value) := by
  have hpow : 1 < 2 ^ width := Nat.one_lt_two_pow hwidth.ne'
  simp only [encodeLength]
  split
  · exact ⟨n, [], rfl, by omega, id⟩
  · exact ⟨2 ^ width - 1, _, rfl, by omega, fun _ => by omega⟩

/-- An integer that is complete is read, and the turn goes on with what comes after it. -/
lemma withLen_encodeLength (inflater : HdInflater) {n width maxlen : ℕ} (hwidth : width ≤ 8)
    (hn : n < 2 ^ 32) (hmax : n ≤ maxlen) (hleft : inflater.left = 0) (hshift : inflater.shift = 0)
    (first : UInt8) (next : HdInflater → Bytes → HdTurn) :
    ∃ shift, ∀ rest, withLen inflater (encodeLength first n width ++ rest) width maxlen next =
      next { inflater with left := n, shift := shift } rest := by
  obtain ⟨shift, hlength⟩ := decodeLength_encodeLength hwidth hn first
  have hne : ∀ rest, encodeLength first n width ++ rest ≠ [] := by
    intro rest
    simp only [encodeLength]
    split <;> simp
  refine ⟨shift, fun rest => ?_⟩
  simp only [withLen, hdInflateReadLen, hne, if_false, hleft, hshift, hlength, Nat.not_lt.2 hmax]

/-! ## Sizes and indices -/

/-- What happens to the decoder before a field is complete: its table and the sizes that it allows
stay. -/
structure Alike (inflater inflater' : HdInflater) : Prop where
  ctx : inflater'.ctx = inflater.ctx
  settings : inflater'.settingsHdTableBufsizeMax = inflater.settingsHdTableBufsizeMax
  min : inflater'.minHdTableBufsizeMax = inflater.minHdTableBufsizeMax

/-- The decoder within a literal field, which remembers from the first byte whether the field goes
into the table. -/
structure InLiteral (inflater inflater' : HdInflater) (mode : IndexingMode) : Prop
    extends Alike inflater inflater' where
  required : inflater'.indexRequired = decide (mode = .withIndexing)
  noIndex : inflater'.noIndex = decide (mode = .neverIndexing)

variable {inflater : HdInflater}

/-- At the beginning of a field. -/
def HdInflater.AtField (inflater : HdInflater) : Prop :=
  inflater.state = .opcode ∨ inflater.state = .inflateStart

lemma turn_atField (h : inflater.AtField) (b : UInt8) (rest : Bytes) :
    hdInflateTurn inflater (b :: rest) = turnOpcode inflater b rest := by
  rcases h with h | h <;> simp only [hdInflateTurn, h, withByte]

/-- **A size that is allowed** becomes the size of the table.  The decoder is at the beginning of a
block before and after it, so that a second size may follow. -/
theorem reads_tableSize (h : inflater.Valid) (hbetween : inflater.Between) (size : ℕ)
    (hsize : size ≤ min inflater.minHdTableBufsizeMax inflater.settingsHdTableBufsizeMax) :
    ∃ inflater', hdReader.Reads inflater (Rep.tableSize size).bytes [] inflater' ∧
      inflater'.state = .inflateStart ∧ inflater'.minHdTableBufsizeMax = uint32Max ∧
      inflater'.settingsHdTableBufsizeMax = inflater.settingsHdTableBufsizeMax ∧
      inflater'.ctx.toTable = inflater.ctx.toTable.resize size := by
  obtain ⟨value, tail, hbytes, hvalue, -⟩ :=
    exists_encodeLength 0x20 size (show 0 < 5 by decide)
  have hsettings := h.settings_lt
  have hvalid := h.ctx
  have hbits : ∀ value < 32, withLowBits 0x20 5 value &&& 0xe0 = 0x20 := by decide +kernel
  have hopcode : inflater.state ≠ .opcode := by
    rcases hbetween with hs | hs <;> simp [hs]
  have hfirst : ∀ rest, hdInflateTurn inflater ((Rep.tableSize size).bytes ++ rest) =
      .next { inflater with opcode := .indexed, state := .readTableSize, left := 0, shift := 0 }
        ((Rep.tableSize size).bytes ++ rest) false := by
    intro rest
    rw [show (Rep.tableSize size).bytes = _ from hbytes, List.cons_append]
    rcases hbetween with hs | hs <;>
      simp [hdInflateTurn, hs, withByte, turnOpcode, hbits value hvalue]
  obtain ⟨shift, hsecond⟩ : ∃ shift, ∀ rest, turnReadTableSize
      { inflater with opcode := .indexed, state := .readTableSize, left := 0, shift := 0 }
        ((Rep.tableSize size).bytes ++ rest) =
      .next { inflater with
        opcode := .indexed
        left := size
        shift := shift
        minHdTableBufsizeMax := uint32Max
        ctx := (hdContextShrinkTableSize { inflater.ctx with bufsizeMax := size } none).1
        state := .inflateStart } rest false :=
    withLen_encodeLength _ (by decide) (by omega) hsize rfl rfl 0x20 _
  have hshrink := hvalid.shrink (show size < 2 ^ 32 by omega) none (by simp)
  have hne : (Rep.tableSize size).bytes ≠ [] := by
    rw [show (Rep.tableSize size).bytes = _ from hbytes]
    simp
  exact ⟨_, Reader.reads_after hne hfirst (Reader.reads_next hne hsecond), rfl, rfl, rfl,
    hshrink.toTable_resize⟩

/-- **The index of a field** is read as the field. -/
lemma reads_indexed (h : inflater.Valid) (hfield : inflater.AtField) {idx : ℕ} {nv : HdNv}
    (hget : inflater.ctx.tableGet idx = some nv) :
    ∃ inflater', hdReader.Reads inflater (Rep.indexed idx).bytes [nv] inflater' ∧
      inflater'.state = .opcode ∧ Alike inflater inflater' := by
  obtain ⟨value, tail, hbytes, hvalue, -⟩ :=
    exists_encodeLength 0x80 (idx + 1) (show 0 < 7 by decide)
  have hbits : ∀ value < 128, withLowBits 0x80 7 value &&& 0xe0 ≠ 0x20 ∧
      withLowBits 0x80 7 value &&& 0x80 ≠ 0 := by decide +kernel
  have hlt := HdContext.index_lt h.ctx.toConsistent hget
  have hne : (Rep.indexed idx).bytes ≠ [] := by
    rw [show (Rep.indexed idx).bytes = _ from hbytes]
    simp
  have hfirst : ∀ rest, hdInflateTurn inflater ((Rep.indexed idx).bytes ++ rest) =
      .next { inflater with opcode := .indexed, state := .readIndex, left := 0, shift := 0 }
        ((Rep.indexed idx).bytes ++ rest) false := by
    intro rest
    rw [show (Rep.indexed idx).bytes = _ from hbytes, List.cons_append, turn_atField hfield]
    simp [turnOpcode, (hbits value hvalue).1, (hbits value hvalue).2]
  obtain ⟨shift, hsecond⟩ : ∃ shift, ∀ rest, turnReadIndex
      { inflater with opcode := .indexed, state := .readIndex, left := 0, shift := 0 }
        ((Rep.indexed idx).bytes ++ rest) =
      .emit { inflater with
        opcode := .indexed
        left := idx + 1
        shift := shift
        index := idx
        state := .opcode } nv rest := by
    refine (withLen_encodeLength _ (by decide) hlt (lt_of_tableGet hget) rfl rfl 0x80 _).imp
      fun shift hread rest => (hread rest).trans ?_
    simp [hget]
  exact ⟨_, Reader.reads_after hne hfirst (Reader.reads_emit hne hsecond), rfl, rfl, rfl, rfl⟩

/-! ## Texts -/

/-- The way in which a text is read. -/
def decoderOf (huffman : Bool) :
    HuffDecodeContext → Bytes → Bool → Option (HuffDecodeContext × Bytes) :=
  if huffman then hdHuffDecode else hdCopy

/-- A text is decoded, with Huffman coding or without. -/
lemma decoderOf_encoded (s : HdString) {ctx : HuffDecodeContext}
    (hctx : s.huffman = true → ctx = {}) :
    ∃ ctx', decoderOf s.huffman ctx s.encoded true = some (ctx', s.text) := by
  rw [decoderOf, HdString.encoded]
  cases hhuffman : s.huffman with
  | true =>
    obtain ⟨⟨ctx', text⟩, hdecode, rfl⟩ :=
      Option.map_eq_some_iff.1 (hdHuffDecode_huffEncoded s.text)
    rw [hctx hhuffman]
    exact ⟨ctx', hdecode⟩
  | false => exact ⟨ctx, rfl⟩

/-- The size of the buffer is enough for the text. -/
lemma length_text_le (s : HdString) : s.text.length ≤
    if s.huffman then s.encoded.length * 2 else s.encoded.length := by
  rw [HdString.encoded]
  cases s.huffman with
  | true =>
    obtain ⟨⟨ctx', text⟩, hdecode, htext⟩ :=
      Option.map_eq_some_iff.1 (hdHuffDecode_huffEncoded s.text)
    have hle := length_hdHuffDecode_le hdecode
    rw [show text = s.text from htext] at hle
    simp only [if_true]
    omega
  | false => exact Nat.le_refl _

/-- A text that is complete is read. -/
lemma readString_encoded (s : HdString) {buf : StringBuf} (hleft : inflater.left = s.encoded.length)
    (hdata : buf.data = []) (hcap : s.text.length ≤ buf.cap)
    (hctx : s.huffman = true → inflater.huffDecodeCtx = {}) :
    ∃ ctx, ∀ rest, readString (decoderOf s.huffman) inflater buf (s.encoded ++ rest) =
      .ok ({ inflater with huffDecodeCtx := ctx, left := 0 }, ⟨buf.cap, s.text⟩, rest) := by
  obtain ⟨ctx, hdecode⟩ := decoderOf_encoded s hctx
  refine ⟨ctx, fun rest => ?_⟩
  have hmin : min (s.encoded ++ rest).length s.encoded.length = s.encoded.length := by
    rw [List.length_append]
    omega
  have hle : s.encoded.length ≤ (s.encoded ++ rest).length := by
    rw [List.length_append]
    omega
  simp only [readString, hleft, hmin, List.take_left, List.drop_left, hle, decide_true, hdecode,
    hdata, List.nil_append, List.length_nil, Nat.zero_add, Nat.not_lt.2 hcap, if_false,
    Nat.sub_self]

/-- A turn with a text that is complete goes on. -/
lemma withString_encoded (s : HdString) {buf : StringBuf}
    (hleft : inflater.left = s.encoded.length) (hdata : buf.data = [])
    (hcap : s.text.length < buf.cap) (hctx : s.huffman = true → inflater.huffDecodeCtx = {})
    (put : HdInflater → StringBuf → HdInflater)
    (hput : ∀ inflater buf, (put inflater buf).left = inflater.left)
    (next : HdInflater → Bytes → HdTurn) :
    ∃ ctx, ∀ rest, withString put next
        (readString (decoderOf s.huffman) inflater buf (s.encoded ++ rest)) =
      next (put { inflater with huffDecodeCtx := ctx, left := 0 } ⟨buf.cap, s.text⟩) rest := by
  obtain ⟨ctx, hread⟩ := readString_encoded s hleft hdata (Nat.le_of_lt hcap) hctx
  refine ⟨ctx, fun rest => ?_⟩
  simp only [withString, hread, hput, ne_eq, not_true, if_false, Nat.not_le.2 hcap]

/-- The first byte of a text says whether it is Huffman-coded, in the bit above its length. -/
lemma exists_stringBytes (s : HdString) :
    ∃ b tail, s.bytes = b :: tail ∧ decide (b &&& 0x80 ≠ 0) = s.huffman := by
  obtain ⟨value, tail, hbytes, hvalue, -⟩ :=
    exists_encodeLength (if s.huffman then 0x80 else 0) s.encoded.length (show 0 < 7 by decide)
  have hset : ∀ value < 128, withLowBits 0x80 7 value &&& 0x80 ≠ 0 := by decide +kernel
  have hclear : ∀ value < 128, withLowBits 0 7 value &&& 0x80 = 0 := by decide +kernel
  refine ⟨_, tail ++ s.encoded, by rw [HdString.bytes, hbytes, List.cons_append], ?_⟩
  cases s.huffman with
  | true => simpa using hset value hvalue
  | false => simpa using hclear value hvalue

/-- What the decoder keeps while it reads a text. -/
structure Within (inflater inflater' : HdInflater) : Prop extends Alike inflater inflater' where
  opcode : inflater'.opcode = inflater.opcode
  index : inflater'.index = inflater.index
  required : inflater'.indexRequired = inflater.indexRequired
  noIndex : inflater'.noIndex = inflater.noIndex

/-- The decoder before a text that it will put into `buf`: the length is known, and the buffer is
empty and large enough. -/
structure AtText (inflater : HdInflater) (s : HdString) (buf : StringBuf) : Prop where
  left : inflater.left = s.encoded.length
  data : buf.data = []
  cap : s.text.length < buf.cap
  ctx : s.huffman = true → inflater.huffDecodeCtx = {}

/-- The size of the buffer for a text. -/
lemma length_text_lt_stringCap (inflater : HdInflater) {s : HdString}
    (hhuffman : inflater.huffmanEncoded = s.huffman)
    (hleft : inflater.left = s.encoded.length) : s.text.length < stringCap inflater := by
  have hle := length_text_le s
  rw [stringCap, hhuffman, hleft]
  split <;> simp_all

/-- The length of a name. -/
lemma turn_namelen (hstate : inflater.state = .newnameCheckNamelen) {name : HdString}
    (hname : name.encoded.length ≤ Rep.maxNv) :
    ∃ inflater', (∀ rest, hdInflateTurn inflater (name.bytes ++ rest) =
        .next inflater' (name.encoded ++ rest) false) ∧
      inflater'.state = (if name.huffman then .newnameReadNamehuff else .newnameReadName) ∧
      AtText inflater' name inflater'.namebuf ∧ Within inflater inflater' := by
  obtain ⟨b, tail, hbytes, hhuffman⟩ := exists_stringBytes name
  have hmax : name.encoded.length < 2 ^ 32 := Nat.lt_of_le_of_lt hname (by decide)
  obtain ⟨shift, hread⟩ := withLen_encodeLength
    { hdInflateSetHuffmanEncoded inflater b with
      state := .newnameReadNamelen, left := 0, shift := 0 }
    (show 7 ≤ 8 by decide) hmax hname rfl rfl (if name.huffman then 0x80 else 0) startName
  have hturn : ∀ rest, hdInflateTurn inflater (name.bytes ++ rest) =
      startName { hdInflateSetHuffmanEncoded inflater b with
        state := .newnameReadNamelen, left := name.encoded.length, shift := shift }
        (name.encoded ++ rest) := by
    intro rest
    rw [← hread, ← List.append_assoc, ← HdString.bytes]
    simp only [hdInflateTurn, hstate, hbytes, List.cons_append, withByte, turnReadNamelen]
  have hcap := length_text_lt_stringCap (s := name)
    { hdInflateSetHuffmanEncoded inflater b with
      state := .newnameReadNamelen, left := name.encoded.length, shift := shift } hhuffman rfl
  simp only [startName, hdInflateSetHuffmanEncoded, hhuffman] at hturn hcap
  cases hcase : name.huffman with
  | true =>
    simp only [hcase, if_true] at hturn hcap ⊢
    exact ⟨_, hturn, rfl, ⟨rfl, rfl, hcap, fun _ => rfl⟩, ⟨⟨rfl, rfl, rfl⟩, rfl, rfl, rfl, rfl⟩⟩
  | false =>
    simp only [hcase, Bool.false_eq_true, if_false] at hturn hcap ⊢
    exact ⟨_, hturn, rfl, ⟨rfl, rfl, hcap, fun h => absurd h (by simp [hcase])⟩,
      ⟨⟨rfl, rfl, rfl⟩, rfl, rfl, rfl, rfl⟩⟩

/-- The length of a value. -/
lemma turn_valuelen (hstate : inflater.state = .checkValuelen) {value : HdString}
    (hvalue : value.encoded.length ≤ Rep.maxNv) :
    ∃ inflater', (∀ rest, hdInflateTurn inflater (value.bytes ++ rest) =
        .next inflater' (value.encoded ++ rest) true) ∧
      inflater'.state = (if value.huffman then .readValuehuff else .readValue) ∧
      AtText inflater' value inflater'.valuebuf ∧ Within inflater inflater' ∧
      inflater'.namebuf = inflater.namebuf := by
  obtain ⟨b, tail, hbytes, hhuffman⟩ := exists_stringBytes value
  have hmax : value.encoded.length < 2 ^ 32 := Nat.lt_of_le_of_lt hvalue (by decide)
  obtain ⟨shift, hread⟩ := withLen_encodeLength
    { hdInflateSetHuffmanEncoded inflater b with
      state := .readValuelen, left := 0, shift := 0 }
    (show 7 ≤ 8 by decide) hmax hvalue rfl rfl (if value.huffman then 0x80 else 0) startValue
  have hturn : ∀ rest, hdInflateTurn inflater (value.bytes ++ rest) =
      startValue { hdInflateSetHuffmanEncoded inflater b with
        state := .readValuelen, left := value.encoded.length, shift := shift }
        (value.encoded ++ rest) := by
    intro rest
    rw [← hread, ← List.append_assoc, ← HdString.bytes]
    simp only [hdInflateTurn, hstate, hbytes, List.cons_append, withByte, turnReadValuelen]
  have hcap := length_text_lt_stringCap (s := value)
    { hdInflateSetHuffmanEncoded inflater b with
      state := .readValuelen, left := value.encoded.length, shift := shift } hhuffman rfl
  simp only [startValue, hdInflateSetHuffmanEncoded, hhuffman] at hturn hcap
  cases hcase : value.huffman with
  | true =>
    simp only [hcase, if_true] at hturn hcap ⊢
    exact ⟨_, hturn, rfl, ⟨rfl, rfl, hcap, fun _ => rfl⟩,
      ⟨⟨rfl, rfl, rfl⟩, rfl, rfl, rfl, rfl⟩, rfl⟩
  | false =>
    simp only [hcase, Bool.false_eq_true, if_false] at hturn hcap ⊢
    exact ⟨_, hturn, rfl, ⟨rfl, rfl, hcap, fun h => absurd h (by simp [hcase])⟩,
      ⟨⟨rfl, rfl, rfl⟩, rfl, rfl, rfl, rfl⟩, rfl⟩

/-- The text of a name. -/
lemma turn_name {name : HdString} (hstate : inflater.state =
      if name.huffman then .newnameReadNamehuff else .newnameReadName)
    (h : AtText inflater name inflater.namebuf) :
    ∃ inflater', (∀ rest, hdInflateTurn inflater (name.encoded ++ rest) =
        .next inflater' rest false) ∧
      inflater'.state = .checkValuelen ∧ inflater'.namebuf.data = name.text ∧
      Within inflater inflater' := by
  obtain ⟨ctx, hread⟩ := withString_encoded name h.left h.data h.cap h.ctx
    (fun inflater buf => { inflater with namebuf := buf }) (fun _ _ => rfl)
    fun inflater rest => .next { inflater with state := .checkValuelen } rest false
  have hturn : ∀ input, hdInflateTurn inflater input =
      turnReadName (readString (decoderOf name.huffman) inflater inflater.namebuf input) := by
    intro input
    cases hcase : name.huffman <;> rw [hcase] at hstate <;> simp only [hdInflateTurn, hstate,
      if_true, Bool.false_eq_true, if_false, hdInflateReadHuff_eq, hdInflateRead_eq, decoderOf]
  exact ⟨_, fun rest => (hturn _).trans (hread rest), rfl, rfl,
    ⟨⟨rfl, rfl, rfl⟩, rfl, rfl, rfl, rfl⟩⟩

/-- The text of a value. -/
lemma turn_value {value : HdString} (hstate : inflater.state =
      if value.huffman then .readValuehuff else .readValue)
    (h : AtText inflater value inflater.valuebuf) :
    ∃ inflater', (∀ rest, hdInflateTurn inflater (value.encoded ++ rest) =
        commitValue inflater' rest) ∧
      inflater'.valuebuf.data = value.text ∧ inflater'.namebuf = inflater.namebuf ∧
      Within inflater inflater' := by
  obtain ⟨ctx, hread⟩ := withString_encoded value h.left h.data h.cap h.ctx
    (fun inflater buf => { inflater with valuebuf := buf }) (fun _ _ => rfl) commitValue
  have hturn : ∀ input, hdInflateTurn inflater input =
      turnReadValue (readString (decoderOf value.huffman) inflater inflater.valuebuf input) := by
    intro input
    cases hcase : value.huffman <;> rw [hcase] at hstate <;> simp only [hdInflateTurn, hstate,
      if_true, Bool.false_eq_true, if_false, hdInflateReadHuff_eq, hdInflateRead_eq, decoderOf]
  exact ⟨_, fun rest => (hturn _).trans (hread rest), rfl, rfl,
    ⟨⟨rfl, rfl, rfl⟩, rfl, rfl, rfl, rfl⟩⟩

lemma Within.trans {inflater inflater' inflater'' : HdInflater} (h : Within inflater inflater')
    (h' : Within inflater' inflater'') : Within inflater inflater'' :=
  ⟨⟨h'.ctx.trans h.ctx, h'.settings.trans h.settings, h'.min.trans h.min⟩,
    h'.opcode.trans h.opcode, h'.index.trans h.index, h'.required.trans h.required,
    h'.noIndex.trans h.noIndex⟩

lemma Within.valid {inflater' : HdInflater} (h : Within inflater inflater') (hvalid : inflater.Valid)
    (hstate : inflater'.StateOk) : inflater'.Valid := by
  obtain ⟨hctx, hgood, hsettings, hmin, hindexed, -⟩ := hvalid
  rw [← h.ctx] at hctx hgood
  rw [← h.settings] at hsettings
  rw [← h.min] at hmin
  rw [← h.required, ← h.noIndex] at hindexed
  exact ⟨hctx, hgood, hsettings, hmin, hindexed, hstate⟩

lemma bytes_ne_nil (s : HdString) : s.bytes ≠ [] := by
  obtain ⟨b, tail, hbytes, -⟩ := exists_stringBytes s
  simp [hbytes]

/-- **A name.**  The turn that completes it is made when something comes after it. -/
lemma feed_name (hstate : inflater.state = .newnameCheckNamelen) {name : HdString}
    (hname : name.encoded.length ≤ Rep.maxNv) :
    ∃ inflater', (∀ rest, rest ≠ [] → hdReader.feed inflater (name.bytes ++ rest) false =
        hdReader.feed inflater' rest false) ∧
      inflater'.state = .checkValuelen ∧ inflater'.namebuf.data = name.text ∧
      Within inflater inflater' := by
  obtain ⟨inflater₁, hfirst, hstate₁, htext, hwithin₁⟩ := turn_namelen hstate hname
  obtain ⟨inflater₂, hsecond, hstate₂, hdata, hwithin₂⟩ := turn_name hstate₁ htext
  refine ⟨inflater₂, fun rest hrest => ?_, hstate₂, hdata, hwithin₁.trans hwithin₂⟩
  rw [Reader.feed_next (r := hdReader) (Or.inl (by simp [bytes_ne_nil])) (hfirst rest),
    Reader.feed_next (r := hdReader) (Or.inl (by simp [hrest])) (hsecond rest)]

/-- **A value**, with which the field is complete. -/
lemma reads_value (h : inflater.Valid) (hstate : inflater.state = .checkValuelen)
    (hindex : inflater.IndexOk) {value : HdString} (hvalue : value.encoded.length ≤ Rep.maxNv) :
    ∃ (inflater' : HdInflater) (nv : HdNv), hdReader.Reads inflater value.bytes [nv] inflater' ∧
      inflater'.state = .opcode ∧
      inflater'.settingsHdTableBufsizeMax = inflater.settingsHdTableBufsizeMax ∧
      inflater'.minHdTableBufsizeMax = inflater.minHdTableBufsizeMax ∧
      nv.token = lookupToken nv.name ∧ nv.value = value.text ∧ nv.noIndex = inflater.noIndex ∧
      (if inflater.opcode = .newname then nv.name = inflater.namebuf.data
        else ∃ field, inflater.ctx.tableGet inflater.index = some field ∧ field.name = nv.name) ∧
      inflater'.ctx.toTable =
        (if inflater.indexRequired then inflater.ctx.toTable.add nv
          else inflater.ctx.toTable) := by
  obtain ⟨inflater₁, hfirst, hstate₁, htext, hwithin₁, hname₁⟩ := turn_valuelen hstate hvalue
  obtain ⟨inflater₂, hsecond, hdata, hname₂, hwithin₂⟩ := turn_value hstate₁ htext
  have hwithin := hwithin₁.trans hwithin₂
  have hindex₂ : inflater₂.IndexOk := by
    intro hopcode
    rw [hwithin.index, hwithin.ctx]
    exact hindex (hwithin.opcode ▸ hopcode)
  obtain ⟨ctx, nv, hcommit, -, htoken, hnvvalue, hnoIndex, hnvname, htable, -⟩ :=
    commitValue_spec inflater₂ (hwithin.ctx ▸ h.ctx)
      (by rw [hwithin.required, hwithin.noIndex]; exact h.indexed) hindex₂
  rw [hwithin.opcode, hwithin.ctx, hwithin.index, hname₂, hname₁] at hnvname
  rw [hwithin.required, hwithin.ctx] at htable
  refine ⟨{ inflater₂ with ctx := ctx, state := .opcode }, nv,
    Reader.reads_after (bytes_ne_nil value) hfirst fun rest => ?_, rfl, hwithin.settings,
    hwithin.min, htoken, hnvvalue.trans hdata, hnoIndex.trans hwithin.noIndex, hnvname, htable⟩
  exact Reader.feed_emit (r := hdReader) (Or.inr rfl) ((hsecond rest).trans (hcommit rest))

/-! ## Literal fields -/

/-- The first byte of a field with a new name. -/
lemma turn_newname (hfield : inflater.AtField) (mode : IndexingMode) :
    ∃ inflater', (∀ rest, hdInflateTurn inflater (packFirstByte mode :: rest) =
        .next inflater' rest false) ∧
      inflater'.state = .newnameCheckNamelen ∧ inflater'.opcode = .newname ∧
      InLiteral inflater inflater' mode := by
  simp only [turn_atField hfield, turnOpcode]
  cases mode <;> exact ⟨_, fun rest => rfl, rfl, rfl, ⟨⟨rfl, rfl, rfl⟩, rfl, rfl⟩⟩

/-- The bits of the first byte of a field with an indexed name. -/
lemma indname_bits (mode : IndexingMode) : ∀ value < 2 ^ prefixlen mode, 0 < value →
    let b := withLowBits (packFirstByte mode) (prefixlen mode) value
    b &&& 0xe0 ≠ 0x20 ∧ b &&& 0x80 = 0 ∧ ¬ (b = 0x40 ∨ b = 0 ∨ b = 0x10) ∧
      decide (b &&& 0x40 ≠ 0) = decide (mode = .withIndexing) ∧
      decide (b &&& 0xf0 = 0x10) = decide (mode = .neverIndexing) := by
  cases mode <;> decide +kernel

/-- The index of a name. -/
lemma reads_indname (h : inflater.Valid) (hfield : inflater.AtField) (mode : IndexingMode)
    {idx : ℕ} {nv : HdNv} (hget : inflater.ctx.tableGet idx = some nv) :
    ∃ inflater', hdReader.Reads inflater
        (encodeLength (packFirstByte mode) (idx + 1) (prefixlen mode)) [] inflater' ∧
      inflater'.state = .checkValuelen ∧ inflater'.opcode = .indname ∧ inflater'.index = idx ∧
      InLiteral inflater inflater' mode := by
  have hwidth : 0 < prefixlen mode ∧ prefixlen mode ≤ 8 := by cases mode <;> decide
  obtain ⟨value, tail, hbytes, hvalue, hpos⟩ :=
    exists_encodeLength (packFirstByte mode) (idx + 1) hwidth.1
  obtain ⟨hsize, hliteral, hnew, hrequired, hnoIndex⟩ :=
    indname_bits mode value hvalue (hpos (Nat.succ_pos idx))
  have hlt := HdContext.index_lt h.ctx.toConsistent hget
  have hne : encodeLength (packFirstByte mode) (idx + 1) (prefixlen mode) ≠ [] := by
    rw [hbytes]
    simp
  have hfirst : ∀ rest, hdInflateTurn inflater
        (encodeLength (packFirstByte mode) (idx + 1) (prefixlen mode) ++ rest) =
      .next { inflater with
        opcode := .indname
        state := .readIndex
        indexRequired := decide (mode = .withIndexing)
        noIndex := decide (mode = .neverIndexing)
        left := 0
        shift := 0 }
        (encodeLength (packFirstByte mode) (idx + 1) (prefixlen mode) ++ rest) false := by
    intro rest
    rw [hbytes, List.cons_append, turn_atField hfield]
    simp only [turnOpcode, hsize, hliteral, hnew, hrequired, hnoIndex, if_false, ne_eq, not_true]
  have hprefixlen : indexPrefixlen { inflater with
      opcode := .indname
      state := .readIndex
      indexRequired := decide (mode = .withIndexing)
      noIndex := decide (mode = .neverIndexing)
      left := 0
      shift := 0 } = prefixlen mode := by
    cases mode <;> rfl
  obtain ⟨shift, hsecond⟩ : ∃ shift, ∀ rest, turnReadIndex { inflater with
        opcode := .indname
        state := .readIndex
        indexRequired := decide (mode = .withIndexing)
        noIndex := decide (mode = .neverIndexing)
        left := 0
        shift := 0 }
        (encodeLength (packFirstByte mode) (idx + 1) (prefixlen mode) ++ rest) =
      .next { inflater with
        opcode := .indname
        indexRequired := decide (mode = .withIndexing)
        noIndex := decide (mode = .neverIndexing)
        left := idx + 1
        shift := shift
        index := idx
        state := .checkValuelen } rest false := by
    simp only [turnReadIndex, hprefixlen]
    refine (withLen_encodeLength _ hwidth.2 hlt (lt_of_tableGet hget) rfl rfl
      (packFirstByte mode) _).imp fun shift hread rest => (hread rest).trans ?_
    simp
  exact ⟨_, Reader.reads_after hne hfirst (Reader.reads_next hne hsecond), rfl, rfl, rfl,
    ⟨⟨rfl, rfl, rfl⟩, rfl, rfl⟩⟩

/-! ## Representations -/

/-- The decoder after a field: it was returned, the table is the one that the field has made, and
another field may follow. -/
structure ReadsField (inflater : HdInflater) (data : Bytes) (nv : Option HdNv) (table : HdTable)
    (inflater' : HdInflater) : Prop where
  reads : hdReader.Reads inflater data nv.toList inflater'
  state : inflater'.state = .opcode
  table : inflater'.ctx.toTable = table
  settings : inflater'.settingsHdTableBufsizeMax = inflater.settingsHdTableBufsizeMax
  min : inflater'.minHdTableBufsizeMax = inflater.minHdTableBufsizeMax

/-- The field of a literal, and the table after it. -/
lemma literal_field {table : HdTable} {mode : IndexingMode} {required : Bool} {nv nv' : HdNv}
    (hrequired : required = decide (mode = .withIndexing)) (h : nv' = nv) :
    (if required then table.add nv' else table) =
      if mode = .withIndexing then table.add nv else table := by
  rw [hrequired, h]
  simp

/-- **A field is read as what it means.**  The index of a name is looked up only when the value is
complete, in a table that has not changed in between. -/
theorem reads_rep (h : inflater.Valid) (hfield : inflater.AtField) {rep : Rep}
    (hrep : rep.IsField) (hshort : rep.Short) {nv : Option HdNv} {table : HdTable}
    (hrun : rep.run inflater.ctx.toTable = some (nv, table)) :
    ∃ inflater', ReadsField inflater rep.bytes nv table inflater' := by
  cases rep with
  | tableSize size => exact absurd hrep id
  | indexed idx =>
    obtain ⟨field, hget, heq⟩ := Option.map_eq_some_iff.1 hrun
    cases heq
    rw [← HdContext.tableGet_eq] at hget
    obtain ⟨inflater', hreads, hstate, halike⟩ := reads_indexed h hfield hget
    exact ⟨inflater', hreads, hstate, by rw [halike.ctx], halike.settings, halike.min⟩
  | literal mode name value =>
    obtain ⟨⟨text, token⟩, hname, heq⟩ := Option.map_eq_some_iff.1 hrun
    cases heq
    cases name with
    | index idx =>
      obtain ⟨field, hget, heq⟩ := Option.map_eq_some_iff.1 hname
      cases heq
      rw [← HdContext.tableGet_eq] at hget
      obtain ⟨inflater₁, hreads₁, hstate₁, hopcode₁, hindex₁, hin₁⟩ :=
        reads_indname h hfield mode hget
      have hindexOk : inflater₁.IndexOk := by
        intro _
        rw [hindex₁, hin₁.ctx]
        exact lt_of_tableGet hget
      obtain ⟨inflater₂, nv, hreads₂, hstate₂, hsettings₂, hmin₂, htoken, hvalue, hnoIndex, hnvname,
        htable⟩ := reads_value (hreads₁.inv h) hstate₁ hindexOk hshort
      rw [if_neg (by rw [hopcode₁]; simp), hin₁.ctx, hindex₁, hget] at hnvname
      obtain ⟨field', hfield', hnvname⟩ := hnvname
      cases hfield'
      have hnv : nv = ⟨field.name, value.text, field.token, decide (mode = .neverIndexing)⟩ := by
        rw [token_of_tableGet h.ctx.toConsistent hget, hnvname, ← htoken, ← hvalue, ← hin₁.noIndex,
          ← hnoIndex]
      refine ⟨inflater₂, ?_, hstate₂, ?_, hsettings₂.trans hin₁.settings, hmin₂.trans hin₁.min⟩
      · exact hnv ▸ hreads₁.trans hreads₂
      · rw [htable, hin₁.ctx]
        exact literal_field hin₁.required hnv
    | new name =>
      cases hname
      obtain ⟨inflater₁, hturn, hstate₁, hopcode₁, hin₁⟩ := turn_newname hfield mode
      have hreads₁ : hdReader.Reads inflater [packFirstByte mode] [] inflater₁ :=
        Reader.reads_next (by simp) hturn
      obtain ⟨inflater₂, hfeed, hstate₂, hdata, hwithin⟩ := feed_name hstate₁ hshort.1
      have hnew : inflater₂.opcode = .newname := hwithin.opcode.trans hopcode₁
      have hvalid : inflater₂.Valid := by
        refine hwithin.valid (hreads₁.inv h) ?_
        simp only [HdInflater.StateOk, hstate₂]
        exact fun hne => absurd hnew hne
      obtain ⟨inflater₃, nv, hreads₃, hstate₃, hsettings₃, hmin₃, htoken, hvalue, hnoIndex, hnvname,
        htable⟩ := reads_value hvalid hstate₂ (fun hne => absurd hnew hne) hshort.2
      rw [if_pos hnew, hdata] at hnvname
      have hnv : nv = ⟨name.text, value.text, lookupToken name.text,
          decide (mode = .neverIndexing)⟩ := by
        rw [← hnvname, ← htoken, ← hvalue, ← hin₁.noIndex, ← hwithin.noIndex, ← hnoIndex]
      have hreads : hdReader.Reads inflater₁ (name.bytes ++ value.bytes) [nv] inflater₃ := by
        intro rest
        rw [List.append_assoc, hfeed _ (by simp [bytes_ne_nil]), hreads₃]
      refine ⟨inflater₃, ?_, hstate₃, ?_,
        hsettings₃.trans (hwithin.settings.trans hin₁.settings),
        hmin₃.trans (hwithin.min.trans hin₁.min)⟩
      · exact hnv ▸ hreads₁.trans hreads
      · rw [htable, hwithin.ctx, hin₁.ctx]
        exact literal_field (hwithin.required.trans hin₁.required) hnv
/-- **A sequence of fields.**  Each is read with the table that the one before has left, as
`Rep.runs` has it. -/
theorem reads_reps (h : inflater.Valid) (hfield : inflater.AtField) {reps : List Rep}
    (hreps : ∀ rep ∈ reps, rep.IsField) (hshort : ∀ rep ∈ reps, rep.Short) {nvs : List HdNv}
    {table : HdTable} (hruns : Rep.runs inflater.ctx.toTable reps = some (nvs, table)) :
    ∃ inflater', hdReader.Reads inflater (reps.flatMap Rep.bytes) nvs inflater' ∧
      inflater'.AtField ∧ inflater'.ctx.toTable = table ∧
      inflater'.settingsHdTableBufsizeMax = inflater.settingsHdTableBufsizeMax ∧
      inflater'.minHdTableBufsizeMax = inflater.minHdTableBufsizeMax := by
  induction reps generalizing inflater nvs with
  | nil =>
    cases hruns
    exact ⟨inflater, Reader.Reads.refl inflater, hfield, rfl, rfl, rfl⟩
  | cons rep reps ih =>
    simp only [Rep.runs, Option.bind_eq_some_iff, Option.map_eq_some_iff] at hruns
    obtain ⟨⟨nv, table₁⟩, hrun, ⟨nvs₁, table₂⟩, hrest, heq⟩ := hruns
    cases heq
    obtain ⟨inflater₁, hfirst⟩ := reads_rep h hfield (hreps rep List.mem_cons_self)
      (hshort rep List.mem_cons_self) hrun
    obtain ⟨inflater₂, hreads, hfield₂, htable, hsettings, hmin⟩ := ih (hfirst.reads.inv h)
      (Or.inl hfirst.state) (fun rep' hrep' => hreps rep' (List.mem_cons_of_mem rep hrep'))
      (fun rep' hrep' => hshort rep' (List.mem_cons_of_mem rep hrep')) (hfirst.table ▸ hrest)
    exact ⟨inflater₂, hfirst.reads.trans hreads, hfield₂, htable, hsettings.trans hfirst.settings,
      hmin.trans hfirst.min⟩

end KituraHTTP2.Nghttp2
