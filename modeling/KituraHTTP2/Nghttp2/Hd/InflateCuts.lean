import KituraHTTP2.Nghttp2.Hd.InflateValid

/-!
# The decoder with more input

The session hands the decoder what it has of a header block.  Where this ends in the middle of an
integer, of a Huffman code or of a text, the decoder waits, and goes on with the next piece as if it
had come at once.  Three things have to be kept over the gap: the digits of an integer that were
read, with the place of the next one; the state of the Huffman decoder, of which the padding is
looked at with the last piece only; and what is in the buffer of the text.

* `withLen_append` — an integer in two pieces.
* `withString_append` — a text in two pieces.
* **`turn_append`** — with more input a turn does the same.
-/

namespace KituraHTTP2.Nghttp2

open BoundedQueue Incremental

variable {more : Bytes}

/-- The turn does not look at the rest of the input, and so it may come later. -/
def Passes (next : HdInflater → Bytes → HdTurn) (more : Bytes) : Prop :=
  ∀ inflater rest, next inflater (rest ++ more) = (next inflater rest).append hdInflateTurn more

/-- An integer that comes in two pieces. -/
lemma withLen_append {inflater : HdInflater} {input : Bytes} {width maxlen : ℕ}
    (hwidth : 0 < width) {next : HdInflater → Bytes → HdTurn} (hstarted : inflater.Started)
    (hinput : input ≠ []) (hmore : more ≠ [])
    (hresume : ∀ left shift, hdInflateTurn { inflater with left := left, shift := shift } more =
      withLen { inflater with left := left, shift := shift } more width maxlen next)
    (hnext : Passes next more) :
    withLen inflater (input ++ more) width maxlen next =
      (withLen inflater input width maxlen next).append hdInflateTurn more := by
  have happend := decodeLength_append hwidth hstarted hinput hmore
  have hne : input ++ more ≠ [] := by simp [hinput]
  simp only [withLen, hdInflateReadLen, hne, hinput, if_false, happend]
  cases hlength : decodeLength inflater.left inflater.shift input width with
  | none => rfl
  | some r =>
    rcases r with ⟨res, shift, fin, rest⟩
    simp only [Option.bind_some]
    cases fin with
    | true =>
      simp only [if_true]
      by_cases hle : maxlen < res
      · simp only [hle, if_true, Turn.append]
      · simp only [hle, if_false]
        exact hnext _ _
    | false =>
      simp only [Bool.false_eq_true, if_false]
      by_cases hle : maxlen < res
      · simp only [hle, if_true, Turn.append]
        cases hrest : decodeLength res shift more width with
        | none => rfl
        | some r' =>
          have hgrow := (le_of_decodeLength hwidth hrest).1
          simp only [show maxlen < r'.res by omega, if_true]
      · simp only [hle, if_false, Turn.append, hresume, withLen, hdInflateReadLen, hmore]

section AppendString

variable {factor : ℕ}
  {decode : HuffDecodeContext → Bytes → Bool → Option (HuffDecodeContext × Bytes)}
  {inflater : HdInflater} {buf : StringBuf} {input : Bytes}

/-- A text that does not end in the first piece: what is decoded of the second one. -/
lemma decode_append_short (hdecode : Decodes factor decode) (hshort : input.length < inflater.left)
    (more : Bytes) :
    decode inflater.huffDecodeCtx
        ((input ++ more).take (min (input ++ more).length inflater.left))
        (decide (inflater.left ≤ (input ++ more).length)) =
      (decode inflater.huffDecodeCtx input false).bind fun next =>
        (decode next.1 (more.take (min more.length (inflater.left - input.length)))
          (decide (inflater.left - input.length ≤ more.length))).map fun rest =>
            (rest.1, next.2 ++ rest.2) := by
  have hmin : min (input ++ more).length inflater.left - input.length =
      min more.length (inflater.left - input.length) := by
    rw [List.length_append]
    omega
  have htake : (input ++ more).take (min (input ++ more).length inflater.left) =
      input ++ more.take (min more.length (inflater.left - input.length)) := by
    rw [List.take_append, hmin, List.take_of_length_le]
    rw [List.length_append]
    omega
  have hfinal : decide (inflater.left ≤ (input ++ more).length) =
      decide (inflater.left - input.length ≤ more.length) := by
    rw [decide_eq_decide, List.length_append]
    omega
  rw [htake, hfinal, hdecode.append]

/-- Such a text is read on in the second piece. -/
lemma readString_append_short (hdecode : Decodes factor decode)
    (hshort : input.length < inflater.left) {ctx : HuffDecodeContext} {out : Bytes}
    (hfirst : decode inflater.huffDecodeCtx input false = some (ctx, out)) (more : Bytes) :
    readString decode inflater buf (input ++ more) =
      readString decode { inflater with
          huffDecodeCtx := ctx, left := inflater.left - input.length }
        ⟨buf.cap, buf.data ++ out⟩ more := by
  have hmin : min (input ++ more).length inflater.left =
      input.length + min more.length (inflater.left - input.length) := by
    rw [List.length_append]
    omega
  have hdrop : (input ++ more).drop (min (input ++ more).length inflater.left) =
      more.drop (min more.length (inflater.left - input.length)) := by
    rw [hmin, List.drop_append]
    simp
  have hleft : inflater.left - min (input ++ more).length inflater.left =
      inflater.left - input.length - min more.length (inflater.left - input.length) := by
    rw [hmin]
    omega
  rw [readString, decode_append_short hdecode hshort, hfirst, Option.bind_some, hdrop, hleft,
    readString]
  cases decode ctx (more.take (min more.length (inflater.left - input.length)))
      (decide (inflater.left - input.length ≤ more.length)) with
  | none => rfl
  | some rest =>
    simp only [Option.map_some, List.length_append, Nat.add_assoc, List.append_assoc]

/-- A text that ends in the first piece. -/
lemma readString_append_long (hlong : inflater.left ≤ input.length) (more : Bytes) :
    readString decode inflater buf (input ++ more) =
      (readString decode inflater buf input).map fun read =>
        (read.1, read.2.1, read.2.2 ++ more) := by
  have hmin : min (input ++ more).length inflater.left = inflater.left := by
    rw [List.length_append]
    omega
  have hmin' : min input.length inflater.left = inflater.left := by omega
  have hlong' : inflater.left ≤ (input ++ more).length := by
    rw [List.length_append]
    omega
  simp only [readString, hmin, hmin', hlong, hlong', decide_true, List.take_append_of_le_length,
    List.drop_append_of_le_length]
  cases decode inflater.huffDecodeCtx (input.take inflater.left) true with
  | none => rfl
  | some result =>
    simp only
    split <;> rfl

/-- What notes how far a text has come changes nothing else. -/
structure Puts (put : HdInflater → StringBuf → HdInflater) : Prop where
  left : ∀ inflater buf, (put inflater buf).left = inflater.left
  ctx : ∀ inflater buf, (put inflater buf).huffDecodeCtx = inflater.huffDecodeCtx
  again : ∀ inflater buf buf' ctx left,
    put { put inflater buf with huffDecodeCtx := ctx, left := left } buf' =
      put { inflater with huffDecodeCtx := ctx, left := left } buf'

lemma puts_name : Puts fun inflater buf => { inflater with namebuf := buf } :=
  ⟨fun _ _ => rfl, fun _ _ => rfl, fun _ _ _ _ _ => rfl⟩

lemma puts_value : Puts fun inflater buf => { inflater with valuebuf := buf } :=
  ⟨fun _ _ => rfl, fun _ _ => rfl, fun _ _ _ _ _ => rfl⟩

/-- What was noted before does not matter. -/
lemma withString_put {put : HdInflater → StringBuf → HdInflater} (hput : Puts put)
    (next : HdInflater → Bytes → HdTurn) (buf' : StringBuf) :
    withString put next (readString decode (put inflater buf') buf input) =
      withString put next (readString decode inflater buf input) := by
  simp only [readString, hput.left, hput.ctx]
  cases decode inflater.huffDecodeCtx (input.take (min input.length inflater.left))
      (decide (inflater.left ≤ input.length)) with
  | none => rfl
  | some result =>
    simp only
    split
    · rfl
    · simp only [withString, hput.again]

/-- A text that comes in two pieces.  If it ends in the first one the second is not looked at. -/
lemma withString_append (hdecode : Decodes factor decode)
    {put : HdInflater → StringBuf → HdInflater} {next : HdInflater → Bytes → HdTurn}
    (hput : Puts put) (hfits : buf.Fits factor inflater.left)
    (hresume : ∀ ctx left buf',
      hdInflateTurn (put { inflater with huffDecodeCtx := ctx, left := left } buf') more =
        withString put next (readString decode
          (put { inflater with huffDecodeCtx := ctx, left := left } buf') buf' more))
    (hnext : Passes next more) :
    withString put next (readString decode inflater buf (input ++ more)) =
      (withString put next (readString decode inflater buf input)).append hdInflateTurn more := by
  rcases Nat.lt_or_ge input.length inflater.left with hshort | hlong
  · have hmin : min input.length inflater.left = input.length := by omega
    have hnot : ¬ inflater.left ≤ input.length := by omega
    have hleft : inflater.left - input.length ≠ 0 := by omega
    cases hfirst : decode inflater.huffDecodeCtx input false with
    | none =>
      have hread : readString decode inflater buf (input ++ more) = .error .headerComp := by
        rw [readString, decode_append_short hdecode hshort, hfirst]
        rfl
      have hread' : readString decode inflater buf input = .error .headerComp := by
        simp only [readString, hmin, List.take_length, hnot, decide_false, hfirst]
      rw [hread, hread']
      rfl
    | some first =>
      rcases first with ⟨ctx, out⟩
      have hout := hdecode.length_le _ _ _ _ _ hfirst
      have hroom : ¬ buf.cap < buf.data.length + out.length := by
        have hle : factor * input.length ≤ factor * inflater.left :=
          Nat.mul_le_mul_left factor (Nat.le_of_lt hshort)
        simp only [StringBuf.Fits] at hfits
        omega
      have hread : readString decode inflater buf input = .ok ({ inflater with
          huffDecodeCtx := ctx, left := inflater.left - input.length },
          ⟨buf.cap, buf.data ++ out⟩, []) := by
        simp only [readString, hmin, List.take_length, hnot, decide_false, hfirst, hroom, if_false,
          List.drop_length]
      have hwait : withString put next (readString decode inflater buf input) =
          .wait (put { inflater with
            huffDecodeCtx := ctx, left := inflater.left - input.length }
            ⟨buf.cap, buf.data ++ out⟩) [] := by
        simp only [withString, hread, hput.left, hleft, ne_eq, not_false_iff, if_true]
      rw [readString_append_short hdecode hshort hfirst, hwait, Turn.append, hresume,
        withString_put hput]
  · rw [readString_append_long hlong]
    cases hread : readString decode inflater buf input with
    | error error => rfl
    | ok read =>
      rcases read with ⟨inflater', buf', rest⟩
      have hzero : inflater'.left = 0 := by
        simp only [readString] at hread
        split at hread
        · cases hread
        · split at hread
          · cases hread
          · cases hread
            simp only
            omega
      simp only [withString, Except.map, hput.left, hzero, ne_eq, not_true, if_false]
      split
      · rfl
      · exact hnext _ _

end AppendString

/-! ## The reader -/

lemma turnOpcode_append (inflater : HdInflater) (b : UInt8) (rest more : Bytes) :
    turnOpcode inflater b (rest ++ more) =
      (turnOpcode inflater b rest).append hdInflateTurn more := by
  simp only [turnOpcode]
  split_ifs <;> rfl

lemma commitValue_passes (more : Bytes) : Passes commitValue more := by
  intro inflater rest
  rw [commitValue, commitValue]
  split <;> rfl

/-- The integer of a name. -/
lemma turnReadNamelen_append (inflater : HdInflater) (hstate : inflater.state = .newnameReadNamelen)
    (hstarted : inflater.Started) {input : Bytes} (hinput : input ≠ []) (hmore : more ≠ []) :
    turnReadNamelen inflater (input ++ more) =
      (turnReadNamelen inflater input).append hdInflateTurn more := by
  refine withLen_append (by decide) hstarted hinput hmore ?_ ?_
  · intro left shift
    simp only [hdInflateTurn, hstate]
    rfl
  · intro inflater' rest
    simp only [startName]
    split <;> rfl

/-- The integer of a value. -/
lemma turnReadValuelen_append (inflater : HdInflater) (hstate : inflater.state = .readValuelen)
    (hstarted : inflater.Started) {input : Bytes} (hinput : input ≠ []) (hmore : more ≠ []) :
    turnReadValuelen inflater (input ++ more) =
      (turnReadValuelen inflater input).append hdInflateTurn more := by
  refine withLen_append (by decide) hstarted hinput hmore ?_ ?_
  · intro left shift
    simp only [hdInflateTurn, hstate]
    rfl
  · intro inflater' rest
    simp only [startValue]
    split <;> rfl

/-- **With more input a turn does the same**, and where it would have waited it does what the
waiting decoder does with the rest. -/
theorem turn_append {inflater : HdInflater} (h : inflater.Valid) {input : Bytes}
    (hready : input ≠ [] ∨ inflater.Ready) (hmore : more ≠ []) :
    hdInflateTurn inflater (input ++ more) =
      (hdInflateTurn inflater input).append hdInflateTurn more := by
  have hstateOk := h.state
  have hinput : ¬ inflater.Ready → input ≠ [] := fun hnot => hready.resolve_right hnot
  cases hstate : inflater.state <;>
    simp only [hdInflateTurn, hstate, HdInflater.StateOk, HdInflater.Ready, reduceCtorEq, or_self,
      not_false_iff, true_implies] at hstateOk hinput ⊢
  case expectTableSize =>
    obtain ⟨b, rest, rfl⟩ := List.exists_cons_of_ne_nil hinput
    simp only [List.cons_append, withByte]
    split
    · rfl
    · exact turnOpcode_append inflater b rest more
  case inflateStart | opcode =>
    obtain ⟨b, rest, rfl⟩ := List.exists_cons_of_ne_nil hinput
    exact turnOpcode_append inflater b rest more
  case readTableSize =>
    refine withLen_append (by decide) hstateOk hinput hmore ?_ fun inflater' rest => rfl
    intro left shift
    simp only [hdInflateTurn, hstate]
    rfl
  case readIndex =>
    have hwidth : 0 < indexPrefixlen inflater := by
      rw [indexPrefixlen]
      split_ifs <;> decide
    refine withLen_append hwidth hstateOk hinput hmore ?_ ?_
    · intro left shift
      simp only [hdInflateTurn, hstate]
      rfl
    · intro inflater' rest
      simp only
      split
      · rfl
      · split
        · split <;> rfl
        · rfl
  case newnameCheckNamelen =>
    obtain ⟨b, rest, rfl⟩ := List.exists_cons_of_ne_nil hinput
    exact turnReadNamelen_append { hdInflateSetHuffmanEncoded inflater b with
      state := .newnameReadNamelen, left := 0, shift := 0 } rfl (fun _ => rfl) hinput hmore
  case newnameReadNamelen => exact turnReadNamelen_append inflater hstate hstateOk.2 hinput hmore
  case newnameReadNamehuff =>
    refine withString_append decodes_huff puts_name hstateOk.2 ?_ fun _ _ => rfl
    intro ctx left buf
    simp only [hdInflateTurn, hstate]
    rfl
  case newnameReadName =>
    rw [hdInflateRead_eq]
    refine withString_append decodes_copy puts_name hstateOk.2 ?_ fun _ _ => rfl
    intro ctx left buf
    simp only [hdInflateTurn, hstate, hdInflateRead_eq]
    rfl
  case checkValuelen =>
    obtain ⟨b, rest, rfl⟩ := List.exists_cons_of_ne_nil hinput
    exact turnReadValuelen_append { hdInflateSetHuffmanEncoded inflater b with
      state := .readValuelen, left := 0, shift := 0 } rfl (fun _ => rfl) hinput hmore
  case readValuelen => exact turnReadValuelen_append inflater hstate hstateOk.2 hinput hmore
  case readValuehuff =>
    refine withString_append decodes_huff puts_value hstateOk.2 ?_ (commitValue_passes more)
    intro ctx left buf
    simp only [hdInflateTurn, hstate]
    rfl
  case readValue =>
    rw [hdInflateRead_eq]
    refine withString_append decodes_copy puts_value hstateOk.2 ?_ (commitValue_passes more)
    intro ctx left buf
    simp only [hdInflateTurn, hstate, hdInflateRead_eq]
    rfl

end KituraHTTP2.Nghttp2
