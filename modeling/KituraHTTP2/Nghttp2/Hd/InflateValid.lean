import KituraHTTP2.Nghttp2.Hd.InflateTurn

/-!
# The invariant of the decoder

`HdInflater.Valid` is what holds of a decoder between two turns, in whatever state it waits: its
table is in order and not larger than the peer was told, an integer that is half read lies below the
bound that it is read with, the buffers of a name and a value have room for what is still to come of
them, and an index that was kept is one of an entry of the table.  The peer chooses every byte, so
each of these has to follow from the checks of the decoder and not from what an encoder would send.

`TurnOk` is the same of the end of a turn; an error must be `NGHTTP2_ERR_HEADER_COMP`.  The other
errors of the model stand for what must not happen: a byte that is not there is read, a place beyond
the end of a buffer is written, an entry that is not in the table is looked up.

* **`valid_turn`** — every turn keeps the invariant, and the only error is
  `NGHTTP2_ERR_HEADER_COMP`, so that no read, write or index is out of bounds.
* `turnOk_opcode`, `turnOk_readIndex`, `turnOk_readName`, `turnOk_readValue` — the states in which
  the peer says how a field is represented, and those in which its parts are read.
-/

namespace KituraHTTP2.Nghttp2

open BoundedQueue Incremental

namespace HdInflater

/-- The name of the literal field is there, if it is that of an index. -/
def IndexOk (inflater : HdInflater) : Prop :=
  inflater.opcode ≠ .newname → inflater.index < inflater.ctx.maxIndex

/-- An integer is at its beginning, or something was read of it. -/
def Started (inflater : HdInflater) : Prop := inflater.left = 0 → inflater.shift = 0

/-- What holds in a state: what it will read must have room, and what it will look up must be there.
-/
def StateOk (inflater : HdInflater) : Prop :=
  match inflater.state with
  | .readTableSize | .readIndex => inflater.Started
  | .newnameCheckNamelen => inflater.opcode = .newname
  | .newnameReadNamelen => inflater.opcode = .newname ∧ inflater.Started
  | .newnameReadNamehuff => inflater.opcode = .newname ∧ inflater.namebuf.Fits 2 inflater.left
  | .newnameReadName => inflater.opcode = .newname ∧ inflater.namebuf.Fits 1 inflater.left
  | .checkValuelen => inflater.IndexOk
  | .readValuelen => inflater.IndexOk ∧ inflater.Started
  | .readValuehuff => inflater.IndexOk ∧ inflater.valuebuf.Fits 2 inflater.left
  | .readValue => inflater.IndexOk ∧ inflater.valuebuf.Fits 1 inflater.left
  | _ => True

/-- **The invariant of the decoder.**  A field that goes into the table may be indexed. -/
structure Valid (inflater : HdInflater) : Prop where
  ctx : inflater.ctx.Valid
  good : inflater.ctx.bad = false
  settings_lt : inflater.settingsHdTableBufsizeMax < 2 ^ 32
  min_lt : inflater.minHdTableBufsizeMax < 2 ^ 32
  indexed : inflater.indexRequired = true → inflater.noIndex = false
  state : inflater.StateOk

/-- The states in which the loop goes on without input: a text may be empty. -/
def Ready (inflater : HdInflater) : Prop :=
  inflater.state = .readValuehuff ∨ inflater.state = .readValue

end HdInflater

lemma valid_hdInflateInit : hdInflateInit.Valid :=
  ⟨HdContext.valid_init, rfl, by decide, by decide, fun h => (nomatch h), trivial⟩

/-- What may come of a turn. -/
def TurnOk : HdTurn → Prop :=
  Turn.Sat (fun inflater _ busy => inflater.Valid ∧ (busy = true → inflater.Ready))
    (fun inflater nv _ => inflater.Valid ∧ nv.token = lookupToken nv.name)
    (fun inflater rest => inflater.Valid ∧ rest = []) (fun error => error = .headerComp)

/-- The fields of the tables have the token of their name. -/
lemma token_of_tableGet {context : HdContext} (h : context.Consistent) {idx : ℕ} {field : HdNv}
    (hget : context.tableGet idx = some field) : field.token = lookupToken field.name := by
  rw [HdContext.tableGet] at hget
  split at hget
  · obtain ⟨ent, hent, rfl⟩ := Option.map_eq_some_iff.1 hget
    rw [Ringbuf.get_eq] at hent
    exact h.token ent (List.mem_of_getElem? hent)
  · obtain ⟨ent, hent, rfl⟩ := Option.map_eq_some_iff.1 hget
    exact (lookupToken_staticTable (List.mem_of_getElem? hent)).symm

/-- An index below `get_max_index` is that of a field, so that the comparison of the decoder is
enough. -/
lemma tableGet_of_lt {context : HdContext} {idx : ℕ} (h : idx < context.maxIndex) :
    ∃ field, context.tableGet idx = some field := by
  rw [HdContext.maxIndex] at h
  rw [HdContext.tableGet]
  split
  · rename_i hle
    obtain ⟨ent, hent⟩ := Option.isSome_iff_exists.1
      (Ringbuf.get_isSome (show idx - staticTableLength < context.table.len by omega))
    exact ⟨ent.nv, by rw [hent]; rfl⟩
  · rename_i hlt
    have hidx : idx < staticTable.length := by
      rw [length_staticTable]
      omega
    rw [List.getElem?_eq_getElem hidx]
    exact ⟨_, rfl⟩

/-- A field goes into the table. -/
lemma hdInflateIndex_spec {inflater : HdInflater} (h : inflater.ctx.Valid) (nv : HdNv)
    (htoken : nv.token = lookupToken nv.name)
    (hindex : inflater.indexRequired = true → nv.noIndex = false) :
    ∃ ctx, hdInflateIndex inflater nv = some { inflater with ctx := ctx } ∧ ctx.Valid ∧
      ctx.toTable =
        (if inflater.indexRequired then inflater.ctx.toTable.add nv else inflater.ctx.toTable) ∧
      ctx.bad = inflater.ctx.bad := by
  rw [hdInflateIndex]
  split
  · rename_i hrequired
    obtain ⟨⟨ctx, map⟩, hadd, hbecomes⟩ := addHdTableIncremental_spec none h
      (by simp) htoken (hindex hrequired) 0
    exact ⟨ctx, by rw [hadd]; rfl, hbecomes.valid, hbecomes.toTable_add, hbecomes.bad⟩
  · exact ⟨inflater.ctx, rfl, h, rfl, rfl⟩

/-- The value of a literal field is complete: its field is returned. -/
lemma commitValue_spec (inflater : HdInflater) (h : inflater.ctx.Valid)
    (hindexed : inflater.indexRequired = true → inflater.noIndex = false)
    (hindex : inflater.IndexOk) :
    ∃ (ctx : HdContext) (nv : HdNv),
      (∀ rest, commitValue inflater rest =
        .emit { inflater with ctx := ctx, state := .opcode } nv rest) ∧
      ctx.Valid ∧ nv.token = lookupToken nv.name ∧ nv.value = inflater.valuebuf.data ∧
      nv.noIndex = inflater.noIndex ∧
      (if inflater.opcode = .newname then nv.name = inflater.namebuf.data
        else ∃ field, inflater.ctx.tableGet inflater.index = some field ∧ field.name = nv.name) ∧
      ctx.toTable =
        (if inflater.indexRequired then inflater.ctx.toTable.add nv else inflater.ctx.toTable) ∧
      ctx.bad = inflater.ctx.bad := by
  by_cases hnew : inflater.opcode = .newname
  · obtain ⟨ctx, hctx, hvalid, htable, hbad⟩ := hdInflateIndex_spec h ⟨inflater.namebuf.data,
      inflater.valuebuf.data, lookupToken inflater.namebuf.data, inflater.noIndex⟩ rfl hindexed
    refine ⟨ctx, _, fun rest => ?_, hvalid, rfl, rfl, rfl, by rw [if_pos hnew], htable, hbad⟩
    rw [commitValue, if_pos hnew, hdInflateCommitNewname, hctx]
  · obtain ⟨field, hfield⟩ := tableGet_of_lt (hindex hnew)
    have htoken := token_of_tableGet h.toConsistent hfield
    obtain ⟨ctx, hctx, hvalid, htable, hbad⟩ := hdInflateIndex_spec h { field with
      value := inflater.valuebuf.data, noIndex := inflater.noIndex } htoken hindexed
    refine ⟨ctx, { field with value := inflater.valuebuf.data, noIndex := inflater.noIndex },
      fun rest => ?_, hvalid, htoken, rfl, rfl, ?_, htable, hbad⟩
    · rw [commitValue, if_neg hnew, hdInflateCommitIndname, hfield]
      simp only
      rw [hctx]
    · rw [if_neg hnew]
      exact ⟨field, hfield, rfl⟩

/-- What holds of all numbers below 256 holds of all bytes. -/
lemma forall_byte {P : UInt8 → Prop} (h : ∀ n < 256, P (UInt8.ofNat n)) (b : UInt8) : P b := by
  have hb := h b.toNat (UInt8.toNat_lt b)
  rwa [UInt8.ofNat_toNat] at hb

/-- The first byte of a representation. -/
lemma turnOk_opcode {inflater : HdInflater} (h : inflater.Valid) (b : UInt8) (rest : Bytes) :
    TurnOk (turnOpcode inflater b rest) := by
  obtain ⟨hctx, hgood, hsettings, hmin, hbefore, -⟩ := h
  have hbits : ∀ b : UInt8, b &&& 0x40 ≠ 0 → ¬ b &&& 0xf0 = 0x10 :=
    forall_byte (by decide +kernel)
  have hindexed : decide (b &&& 0x40 ≠ 0) = true → decide (b &&& 0xf0 = 0x10) = false := by
    intro hb
    exact decide_eq_false (hbits b (of_decide_eq_true hb))
  rw [turnOpcode]
  split_ifs
  · rfl
  · exact ⟨⟨hctx, hgood, hsettings, hmin, hbefore, fun _ => rfl⟩, fun hbusy => absurd hbusy Bool.false_ne_true⟩
  · exact ⟨⟨hctx, hgood, hsettings, hmin, hbefore, fun _ => rfl⟩, fun hbusy => absurd hbusy Bool.false_ne_true⟩
  · exact ⟨⟨hctx, hgood, hsettings, hmin, hindexed, rfl⟩, fun hbusy => absurd hbusy Bool.false_ne_true⟩
  · exact ⟨⟨hctx, hgood, hsettings, hmin, hindexed, fun _ => rfl⟩, fun hbusy => absurd hbusy Bool.false_ne_true⟩

/-- The integer of a name. -/
lemma turnOk_readNamelen {inflater : HdInflater} (h : inflater.Valid)
    (hstate : inflater.state = .newnameReadNamelen) (hnew : inflater.opcode = .newname)
    {input : Bytes} (hinput : input ≠ []) : TurnOk (turnReadNamelen inflater input) := by
  obtain ⟨hctx, hgood, hsettings, hmin, hindexed, -⟩ := h
  refine sat_withLen (by decide) (fun hempty => absurd hempty hinput) rfl ?_ ?_
  · intro left shift hleft _
    refine ⟨⟨hctx, hgood, hsettings, hmin, hindexed, ?_⟩, rfl⟩
    simp only [HdInflater.StateOk, hstate]
    exact ⟨hnew, fun hzero => absurd hzero hleft⟩
  · intro left shift rest _ _
    simp only [startName]
    split
    · rename_i hhuff
      refine ⟨⟨hctx, hgood, hsettings, hmin, hindexed, hnew, ?_⟩, fun hbusy => absurd hbusy Bool.false_ne_true⟩
      simp only [StringBuf.Fits, stringCap, hhuff, if_true, List.length_nil]
      omega
    · rename_i hhuff
      refine ⟨⟨hctx, hgood, hsettings, hmin, hindexed, hnew, ?_⟩, fun hbusy => absurd hbusy Bool.false_ne_true⟩
      simp only [StringBuf.Fits, stringCap, hhuff, if_false, List.length_nil, Bool.false_eq_true]
      omega

/-- The integer of a value. -/
lemma turnOk_readValuelen {inflater : HdInflater} (h : inflater.Valid)
    (hstate : inflater.state = .readValuelen) (hindex : inflater.IndexOk) {input : Bytes}
    (hinput : input ≠ []) : TurnOk (turnReadValuelen inflater input) := by
  obtain ⟨hctx, hgood, hsettings, hmin, hindexed, -⟩ := h
  refine sat_withLen (by decide) (fun hempty => absurd hempty hinput) rfl ?_ ?_
  · intro left shift hleft _
    refine ⟨⟨hctx, hgood, hsettings, hmin, hindexed, ?_⟩, rfl⟩
    simp only [HdInflater.StateOk, hstate]
    exact ⟨hindex, fun hzero => absurd hzero hleft⟩
  · intro left shift rest _ _
    simp only [startValue]
    split
    · rename_i hhuff
      refine ⟨⟨hctx, hgood, hsettings, hmin, hindexed, hindex, ?_⟩, fun _ => Or.inl rfl⟩
      simp only [StringBuf.Fits, stringCap, hhuff, if_true, List.length_nil]
      omega
    · rename_i hhuff
      refine ⟨⟨hctx, hgood, hsettings, hmin, hindexed, hindex, ?_⟩, fun _ => Or.inr rfl⟩
      simp only [StringBuf.Fits, stringCap, hhuff, if_false, List.length_nil, Bool.false_eq_true]
      omega

section ReadString

variable {factor : ℕ}
  {decode : HuffDecodeContext → Bytes → Bool → Option (HuffDecodeContext × Bytes)}

/-- The text of a name. -/
lemma turnOk_readName (hdecode : Decodes factor decode) {inflater : HdInflater}
    (h : inflater.Valid) (hnew : inflater.opcode = .newname)
    (hfits : inflater.namebuf.Fits factor inflater.left)
    (hstate : ∀ inflater' : HdInflater, inflater'.state = inflater.state →
      inflater'.opcode = .newname → inflater'.namebuf.Fits factor inflater'.left →
      inflater'.StateOk) (input : Bytes) :
    TurnOk (turnReadName (readString decode inflater inflater.namebuf input)) := by
  obtain ⟨hctx, hgood, hsettings, hmin, hindexed, -⟩ := h
  refine sat_withString hdecode (fun _ _ => rfl) rfl (fun hnot => absurd hfits hnot) ?_ ?_
  · intro ctx out left _ hrest
    exact ⟨⟨hctx, hgood, hsettings, hmin, hindexed, hstate _ rfl hnew (hrest hfits)⟩, rfl⟩
  · intro ctx out
    exact ⟨⟨hctx, hgood, hsettings, hmin, hindexed, fun hne => absurd hnew hne⟩, fun hbusy => absurd hbusy Bool.false_ne_true⟩

/-- The text of a value. -/
lemma turnOk_readValue (hdecode : Decodes factor decode) {inflater : HdInflater}
    (h : inflater.Valid) (hindex : inflater.IndexOk)
    (hfits : inflater.valuebuf.Fits factor inflater.left)
    (hstate : ∀ inflater' : HdInflater, inflater'.state = inflater.state →
      inflater'.IndexOk → inflater'.valuebuf.Fits factor inflater'.left → inflater'.StateOk)
    (input : Bytes) :
    TurnOk (turnReadValue (readString decode inflater inflater.valuebuf input)) := by
  obtain ⟨hctx, hgood, hsettings, hmin, hindexed, -⟩ := h
  refine sat_withString hdecode (fun _ _ => rfl) rfl (fun hnot => absurd hfits hnot) ?_ ?_
  · intro ctx out left _ hrest
    exact ⟨⟨hctx, hgood, hsettings, hmin, hindexed, hstate _ rfl hindex (hrest hfits)⟩, rfl⟩
  · intro ctx out
    obtain ⟨ctx', nv, hcommit, hvalid, htoken, -, -, -, -, hbad⟩ := commitValue_spec
      { inflater with
        huffDecodeCtx := ctx
        left := 0
        valuebuf := ⟨inflater.valuebuf.cap, inflater.valuebuf.data ++ out⟩ }
      hctx hindexed hindex
    rw [hcommit]
    exact ⟨⟨hvalid, hbad.trans hgood, hsettings, hmin, hindexed, trivial⟩, htoken⟩

end ReadString

/-- The new size of the table. -/
lemma turnOk_readTableSize {inflater : HdInflater} (h : inflater.Valid)
    (hstate : inflater.state = .readTableSize) {input : Bytes} (hinput : input ≠ []) :
    TurnOk (turnReadTableSize inflater input) := by
  obtain ⟨hctx, hgood, hsettings, hmin, hindexed, -⟩ := h
  refine sat_withLen (by decide) (fun hempty => absurd hempty hinput) rfl ?_ ?_
  · intro left shift hleft _
    refine ⟨⟨hctx, hgood, hsettings, hmin, hindexed, ?_⟩, rfl⟩
    simp only [HdInflater.StateOk, hstate]
    exact fun hzero => absurd hzero hleft
  · intro left shift rest hle _
    have hshrink := hctx.shrink (show left < 2 ^ 32 by omega) none (by simp)
    exact ⟨⟨hshrink.valid, hshrink.bad.trans hgood, hsettings, uint32Max_lt, hindexed, trivial⟩,
      fun hbusy => absurd hbusy Bool.false_ne_true⟩

/-- An index: it is compared with the table in which it is looked up, at once or when the value has
come. -/
lemma turnOk_readIndex {inflater : HdInflater} (h : inflater.Valid)
    (hstate : inflater.state = .readIndex) {input : Bytes} (hinput : input ≠ []) :
    TurnOk (turnReadIndex inflater input) := by
  obtain ⟨hctx, hgood, hsettings, hmin, hindexed, -⟩ := h
  have hwidth : 0 < indexPrefixlen inflater := by
    rw [indexPrefixlen]
    split_ifs <;> decide
  refine sat_withLen hwidth (fun hempty => absurd hempty hinput) rfl ?_ ?_
  · intro left shift hleft _
    refine ⟨⟨hctx, hgood, hsettings, hmin, hindexed, ?_⟩, rfl⟩
    simp only [HdInflater.StateOk, hstate]
    exact fun hzero => absurd hzero hleft
  · intro left shift rest hle _
    split
    · rfl
    · rename_i hleft
      have hlt : left - 1 < inflater.ctx.maxIndex := by
        simp only at hleft
        omega
      obtain ⟨field, hfield⟩ := tableGet_of_lt hlt
      simp only
      split
      · rw [hfield]
        exact ⟨⟨hctx, hgood, hsettings, hmin, hindexed, trivial⟩,
          token_of_tableGet hctx.toConsistent hfield⟩
      · exact ⟨⟨hctx, hgood, hsettings, hmin, hindexed, fun _ => hlt⟩, fun hbusy => absurd hbusy Bool.false_ne_true⟩

/-- **Every turn keeps the invariant**, and the only error is that the input is wrong: there is no
read, write or index out of bounds. -/
theorem valid_turn {inflater : HdInflater} (h : inflater.Valid) {input : Bytes}
    (hready : input ≠ [] ∨ inflater.Ready) : TurnOk (hdInflateTurn inflater input) := by
  have hstateOk := h.state
  have hinput : ¬ inflater.Ready → input ≠ [] := fun hnot => hready.resolve_right hnot
  cases hstate : inflater.state <;>
    simp only [hdInflateTurn, hstate, HdInflater.StateOk, HdInflater.Ready, reduceCtorEq, or_self,
      not_false_iff, true_implies] at hstateOk hinput ⊢
  case expectTableSize =>
    obtain ⟨b, rest, rfl⟩ := List.exists_cons_of_ne_nil hinput
    simp only [withByte]
    split
    · rfl
    · exact turnOk_opcode h b rest
  case inflateStart | opcode =>
    obtain ⟨b, rest, rfl⟩ := List.exists_cons_of_ne_nil hinput
    exact turnOk_opcode h b rest
  case readTableSize => exact turnOk_readTableSize h hstate hinput
  case readIndex => exact turnOk_readIndex h hstate hinput
  case newnameCheckNamelen =>
    obtain ⟨b, rest, rfl⟩ := List.exists_cons_of_ne_nil hinput
    obtain ⟨hctx, hgood, hsettings, hmin, hindexed, -⟩ := h
    have hvalid : HdInflater.Valid { hdInflateSetHuffmanEncoded inflater b with
        state := .newnameReadNamelen, left := 0, shift := 0 } :=
      ⟨hctx, hgood, hsettings, hmin, hindexed, hstateOk, fun _ => rfl⟩
    exact turnOk_readNamelen hvalid rfl hstateOk hinput
  case newnameReadNamelen => exact turnOk_readNamelen h hstate hstateOk.1 hinput
  case newnameReadNamehuff =>
    refine turnOk_readName decodes_huff h hstateOk.1 hstateOk.2 ?_ input
    intro inflater' hsame hnew hfits
    simp only [HdInflater.StateOk, hsame, hstate]
    exact ⟨hnew, hfits⟩
  case newnameReadName =>
    rw [hdInflateRead_eq]
    refine turnOk_readName decodes_copy h hstateOk.1 hstateOk.2 ?_ input
    intro inflater' hsame hnew hfits
    simp only [HdInflater.StateOk, hsame, hstate]
    exact ⟨hnew, hfits⟩
  case checkValuelen =>
    obtain ⟨b, rest, rfl⟩ := List.exists_cons_of_ne_nil hinput
    obtain ⟨hctx, hgood, hsettings, hmin, hindexed, -⟩ := h
    have hvalid : HdInflater.Valid { hdInflateSetHuffmanEncoded inflater b with
        state := .readValuelen, left := 0, shift := 0 } :=
      ⟨hctx, hgood, hsettings, hmin, hindexed, hstateOk, fun _ => rfl⟩
    exact turnOk_readValuelen hvalid rfl hstateOk hinput
  case readValuelen => exact turnOk_readValuelen h hstate hstateOk.1 hinput
  case readValuehuff =>
    refine turnOk_readValue decodes_huff h hstateOk.1 hstateOk.2 ?_ input
    intro inflater' hsame hindex hfits
    simp only [HdInflater.StateOk, hsame, hstate]
    exact ⟨hindex, hfits⟩
  case readValue =>
    rw [hdInflateRead_eq]
    refine turnOk_readValue decodes_copy h hstateOk.1 hstateOk.2 ?_ input
    intro inflater' hsame hindex hfits
    simp only [HdInflater.StateOk, hsame, hstate]
    exact ⟨hindex, hfits⟩

end KituraHTTP2.Nghttp2
