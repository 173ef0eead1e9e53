import KituraHTTP2.Nghttp2.Hd.Representation

/-!
# The encoder of header blocks

`HdDeflater` writes the fields of a header block to a chain of buffers, one representation for each
field, and before them the new size of the table if it was changed.

**What is chosen.**  For each field the encoder looks for an index, of the whole field or of the
name, and decides whether the field goes into the table: not if it is sensitive, and not if its name
is one of those that come with ever new values, or it would drive out too much of the table.  It may
send a text with Huffman coding, and does so where that is shorter.  All of this is its own
business, and the decoder does not have to know it.  So what is proved does not say which
representation is written, but that it means the field (`deflateNv_spec`).

**Errors.**  A field changes the table before its bytes are written.  If the buffers are full after
that, the table has an entry of which the peer will never hear, and every later block would be
misunderstood; so the encoder is spoiled (`bad`) and refuses everything from then on.  The statement
about a block says both: where the buffers have room it is written, and where they have not the
result is `NGHTTP2_ERR_BUFFER_ERROR` and the encoder cannot be used any more.

**The size of the table** can be changed several times between two blocks.  Only the smallest of the
sizes and the last one matter to a decoder, and only these are sent; the encoder has already made
its table smaller by then.

* **`deflateHdBufs_spec`** — the block that is written consists of representations that mean the
  fields, and it does not depend on the buffers.
* `Deflated` — the table of the encoder is the one that its representations make.
-/

namespace KituraHTTP2.Nghttp2

open BoundedQueue

/-- What goes wrong: `NGHTTP2_ERR_HEADER_COMP`, or an error of the buffers. -/
inductive HdError where
  | headerComp
  | bufs (error : BufsError)
deriving DecidableEq, Repr

/-- `nghttp2_hd_deflater`.  `minHdTableBufsizeMax` is the smallest size since the last block. -/
structure HdDeflater where
  ctx : HdContext
  map : HdMap
  deflateHdTableBufsizeMax : ℕ
  minHdTableBufsizeMax : ℕ
  notifyTableSizeChange : Bool

/-- `nghttp2_hd_deflate_init2` -/
def hdDeflateInit2 (maxDeflateDynamicTableSize : ℕ) : HdDeflater where
  ctx :=
    if maxDeflateDynamicTableSize < 4096 then
      { HdContext.init with bufsizeMax := maxDeflateDynamicTableSize }
    else HdContext.init
  map := HdMap.init
  deflateHdTableBufsizeMax := maxDeflateDynamicTableSize
  minHdTableBufsizeMax := uint32Max
  notifyTableSizeChange := decide (maxDeflateDynamicTableSize < 4096)

/-- `nghttp2_hd_deflate_change_table_size` -/
def hdDeflateChangeTableSize (deflater : HdDeflater) (settingsMaxDynamicTableSize : ℕ) :
    HdDeflater :=
  let nextBufsize := min settingsMaxDynamicTableSize deflater.deflateHdTableBufsizeMax
  let (ctx, map) := hdContextShrinkTableSize { deflater.ctx with bufsizeMax := nextBufsize }
    (some deflater.map)
  { deflater with
    ctx := ctx
    map := map.getD deflater.map
    minHdTableBufsizeMax := min deflater.minHdTableBufsizeMax nextBufsize
    notifyTableSizeChange := true }

/-! ## Writing -/

/-- What the `emit_` functions begin with: an integer behind the bits `first`, in a local buffer of
16 bytes. -/
def emitLength (bufs : Bufs) (first : UInt8) (n width : ℕ) : Except HdError Bufs :=
  if 16 < countEncodedLength n width then .error .headerComp
  else (bufs.add (encodeLength first n width)).mapError .bufs

/-- `emit_table_size` -/
def emitTableSize (bufs : Bufs) (tableSize : ℕ) : Except HdError Bufs :=
  emitLength bufs 0x20 tableSize 5

/-- `emit_indexed_block` -/
def emitIndexedBlock (bufs : Bufs) (idx : ℕ) : Except HdError Bufs :=
  emitLength bufs 0x80 (idx + 1) 7

/-- `emit_string` -/
def emitString (bufs : Bufs) (str : Bytes) : Except HdError Bufs :=
  let enclen := hdHuffEncodeCount str
  let huffman := enclen < str.length
  let enclen := if huffman then enclen else str.length
  (emitLength bufs (if huffman then 0x80 else 0) enclen 7).bind fun bufs =>
    if huffman then (hdHuffEncode bufs str).mapError .bufs else (bufs.add str).mapError .bufs

/-- `emit_indname_block` -/
def emitIndnameBlock (bufs : Bufs) (idx : ℕ) (nv : Nv) (indexingMode : IndexingMode) :
    Except HdError Bufs :=
  (emitLength bufs (packFirstByte indexingMode) (idx + 1) (prefixlen indexingMode)).bind fun bufs =>
    emitString bufs nv.value

/-- `emit_newname_block` -/
def emitNewnameBlock (bufs : Bufs) (nv : Nv) (indexingMode : IndexingMode) :
    Except HdError Bufs :=
  ((bufs.addb (packFirstByte indexingMode)).mapError .bufs).bind fun bufs =>
    (emitString bufs nv.name).bind fun bufs => emitString bufs nv.value

/-! ## One field -/

/-- The tokens that `hd_deflate_decide_indexing` does not index: `:path`, `age`, `content-length`,
`etag`, `if-modified-since`, `if-none-match`, `location` and `set-cookie`. -/
def tokensWithoutIndexing : List ℕ := [3, 20, 27, 33, 39, 40, 45, 54]

/-- `hd_deflate_decide_indexing`: a field that would take more than three quarters of the table is
not put there. -/
def hdDeflateDecideIndexing (deflater : HdDeflater) (nv : Nv) (token : Option ℕ) : IndexingMode :=
  if (∃ t ∈ token, t ∈ tokensWithoutIndexing) ∨
      deflater.ctx.bufsizeMax * 3 / 4 < entryRoom nv.name.length nv.value.length then
    .withoutIndexing
  else .withIndexing

/-- `NGHTTP2_TOKEN_AUTHORIZATION` -/
def tokenAuthorization : ℕ := 22

/-- `NGHTTP2_TOKEN_COOKIE` -/
def tokenCookie : ℕ := 31

/-- A field that `deflate_nv` never indexes: an `authorization`, a short `cookie`, or one with
`NGHTTP2_NV_FLAG_NO_INDEX`. -/
def neverIndexed (nv : Nv) (token : Option ℕ) : Bool :=
  token == some tokenAuthorization || (token == some tokenCookie && nv.value.length < 20) ||
    nv.noIndex

/-- The indexing mode of a field in `deflate_nv`. -/
def indexingMode (deflater : HdDeflater) (nv : Nv) (token : Option ℕ) : IndexingMode :=
  if neverIndexed nv token then .neverIndexing else hdDeflateDecideIndexing deflater nv token

/-- The name that goes into the table: a name of the static table is shared. -/
def tableName (deflater : HdDeflater) (nv : Nv) (index : Option ℕ) : Bytes :=
  match index with
  | some idx =>
    if idx < staticTableLength then ((deflater.ctx.tableGet idx).map HdNv.name).getD nv.name
    else nv.name
  | none => nv.name

/-- The literal field at the end of `deflate_nv`. -/
def emitLiteral (bufs : Bufs) (nv : Nv) (mode : IndexingMode) : Option ℕ → Except HdError Bufs
  | none => emitNewnameBlock bufs nv mode
  | some idx => emitIndnameBlock bufs idx nv mode

/-- `deflate_nv`: what becomes of the encoder, and of the buffers.  The table is changed before the
bytes are written. -/
def deflateNv (deflater : HdDeflater) (bufs : Bufs) (nv : Nv) :
    HdDeflater × Except HdError Bufs :=
  let token := lookupToken nv.name
  let hash := fieldHash nv.name token
  let mode := indexingMode deflater nv token
  let res := searchHdTable deflater.ctx nv token mode deflater.map hash
  if res.nameValueMatch then (deflater, emitIndexedBlock bufs (res.index.getD (sizeMax - 1)))
  else if mode = .withIndexing then
    match addHdTableIncremental deflater.ctx
        ⟨tableName deflater nv res.index, nv.value, token, false⟩ (some deflater.map) hash with
    | none => (deflater, .error .headerComp)
    | some (ctx, map) =>
      ({ deflater with ctx := ctx, map := map.getD deflater.map },
        emitLiteral bufs nv mode res.index)
  else (deflater, emitLiteral bufs nv mode res.index)

/-- The loop of `nghttp2_hd_deflate_hd_bufs`. -/
def deflateNvs (deflater : HdDeflater) (bufs : Bufs) : List Nv → HdDeflater × Except HdError Bufs
  | [] => (deflater, .ok bufs)
  | nv :: nva =>
    match deflateNv deflater bufs nv with
    | (deflater, .error error) => (deflater, .error error)
    | (deflater, .ok bufs) => deflateNvs deflater bufs nva

/-- The table sizes that `nghttp2_hd_deflate_hd_bufs` writes: the smallest one, if it is not the
last one too, and the last one. -/
def emitTableSizes (deflater : HdDeflater) (bufs : Bufs) : Except HdError Bufs :=
  if deflater.notifyTableSizeChange then
    (if deflater.minHdTableBufsizeMax < deflater.ctx.bufsizeMax then
        emitTableSize bufs deflater.minHdTableBufsizeMax
      else .ok bufs).bind fun bufs => emitTableSize bufs deflater.ctx.bufsizeMax
  else .ok bufs

/-- The encoder when the table sizes are written. -/
def HdDeflater.notified (deflater : HdDeflater) : HdDeflater :=
  if deflater.notifyTableSizeChange then
    { deflater with notifyTableSizeChange := false, minHdTableBufsizeMax := uint32Max }
  else deflater

/-- `ctx.bad = 1`: the encoder refuses every block from now on. -/
def HdDeflater.spoil (deflater : HdDeflater) : HdDeflater :=
  { deflater with ctx := { deflater.ctx with bad := true } }

/-- `nghttp2_hd_deflate_hd_bufs` -/
def deflateHdBufs (deflater : HdDeflater) (bufs : Bufs) (nva : List Nv) :
    HdDeflater × Except HdError Bufs :=
  if deflater.ctx.bad then (deflater, .error .headerComp)
  else
    match emitTableSizes deflater bufs with
    | .error error => (deflater.notified.spoil, .error error)
    | .ok bufs =>
      match deflateNvs deflater.notified bufs nva with
      | (deflater, .error error) => (deflater.spoil, .error error)
      | (deflater, .ok bufs) => (deflater, .ok bufs)

/-! ## What is written -/

/-- The result of writing `data` to `bufs`, as `Bufs.Writes` has it for the buffers alone. -/
def Emits (result : Except HdError Bufs) (bufs : Bufs) (data : Bytes) : Prop :=
  if data.length ≤ bufs.room then ∃ bufs', result = .ok bufs' ∧ bufs.Written data bufs'
  else result = .error (.bufs .bufferError)

variable {bufs bufs' : Bufs} {data data' : Bytes}

lemma emits_of_writes {result : Except BufsError Bufs} (h : Bufs.Writes result bufs data) :
    Emits (result.mapError .bufs) bufs data := by
  unfold Bufs.Writes at h
  unfold Emits
  split
  · rename_i hroom
    rw [if_pos hroom] at h
    obtain ⟨bufs', rfl, hwritten⟩ := h
    exact ⟨bufs', rfl, hwritten⟩
  · rename_i hroom
    rw [if_neg hroom] at h
    rw [h]
    rfl

lemma emits_nil (h : bufs.Ready) : Emits (.ok bufs) bufs [] := by
  have hempty : ([] : Bytes).length ≤ bufs.room := Nat.zero_le _
  rw [Emits, if_pos hempty]
  exact ⟨bufs, rfl, .refl h⟩

/-- What is written after `data`. -/
lemma Emits.after {result : Except HdError Bufs} (h : bufs.Written data bufs')
    (hresult : Emits result bufs' data') : Emits result bufs (data ++ data') := by
  have hroom := h.room
  unfold Emits at hresult ⊢
  rw [List.length_append]
  by_cases hdata : data'.length ≤ bufs'.room
  · rw [if_pos hdata] at hresult
    obtain ⟨bufs'', hok, hwritten⟩ := hresult
    rw [if_pos (by omega)]
    exact ⟨bufs'', hok, h.trans hwritten⟩
  · rw [if_neg hdata] at hresult
    rw [if_neg (by omega)]
    exact hresult

/-- What cannot be written cannot be written with more after it, so that an error may come early. -/
lemma Emits.append_error {result : Except HdError Bufs} {error : HdError}
    (h : Emits result bufs data) (hresult : result = .error error) :
    Emits result bufs (data ++ data') := by
  unfold Emits at h ⊢
  split at h
  · obtain ⟨bufs', hok, -⟩ := h
    rw [hok] at hresult
    cases hresult
  · rw [if_neg (by rw [List.length_append]; omega)]
    exact h

lemma Emits.written {result : Except HdError Bufs} (h : Emits result bufs data)
    (hresult : result = .ok bufs') : bufs.Written data bufs' := by
  unfold Emits at h
  split at h
  · obtain ⟨bufs'', hok, hwritten⟩ := h
    rw [hresult, Except.ok.injEq] at hok
    rwa [hok]
  · rw [hresult] at h
    cases h

/-- One part after the other. -/
lemma Emits.bind {result : Except HdError Bufs} {write : Bufs → Except HdError Bufs}
    (h : Emits result bufs data)
    (hwrite : ∀ bufs', bufs.Written data bufs' → Emits (write bufs') bufs' data') :
    Emits (result.bind write) bufs (data ++ data') := by
  cases hresult : result with
  | ok bufs' =>
    have hwritten := h.written hresult
    exact Emits.after hwritten (hwrite bufs' hwritten)
  | error error =>
    have herror : Emits result bufs (data ++ data') := h.append_error hresult
    rw [hresult] at herror
    exact herror

/-- An integer below `2 ^ 64` fits into the local buffer: it has eleven bytes at most. -/
lemma emits_length (h : bufs.Ready) (first : UInt8) {n : ℕ} (width : ℕ) (hn : n < 2 ^ 64) :
    Emits (emitLength bufs first n width) bufs (encodeLength first n width) := by
  have hcount : countEncodedLength n width ≤ 16 := by
    have hrest : countEncodedRest (n - (2 ^ width - 1)) ≤ 10 :=
      countEncodedRest_le (k := 9) (by omega)
    simp only [countEncodedLength]
    split <;> omega
  rw [emitLength, if_neg (Nat.not_lt.2 hcount)]
  exact emits_of_writes (Bufs.writes_add h _)

/-- A text as the encoder sends it: Huffman-coded if that is shorter. -/
def HdString.choose (text : Bytes) : HdString := ⟨text, decide (hdHuffEncodeCount text < text.length)⟩

lemma HdString.length_encoded_choose (text : Bytes) :
    (HdString.choose text).encoded.length =
      if hdHuffEncodeCount text < text.length then hdHuffEncodeCount text else text.length := by
  simp only [encoded, choose, decide_eq_true_eq]
  split
  · exact length_huffEncoded text
  · rfl

/-- It is not longer than the text, since Huffman coding is chosen only where it is shorter. -/
lemma HdString.length_encoded_choose_le (text : Bytes) :
    (HdString.choose text).encoded.length ≤ text.length := by
  rw [length_encoded_choose]
  split <;> omega

lemma emits_string (h : bufs.Ready) {str : Bytes} (hstr : str.length < 2 ^ 64) :
    Emits (emitString bufs str) bufs (HdString.choose str).bytes := by
  have hle := HdString.length_encoded_choose_le str
  simp only [emitString, HdString.bytes, ← HdString.length_encoded_choose]
  refine Emits.bind ?_ fun bufs' hwritten => ?_
  · simp only [HdString.choose, decide_eq_true_eq]
    exact emits_length h _ 7 (Nat.lt_of_le_of_lt hle hstr)
  · simp only [HdString.encoded, HdString.choose, decide_eq_true_eq]
    split
    · exact emits_of_writes (writes_hdHuffEncode hwritten.ready str)
    · exact emits_of_writes (Bufs.writes_add hwritten.ready str)

/-! ## The invariant of the encoder -/

/-- The table and its map are right, and the sizes are sizes of settings. -/
structure HdDeflater.Valid (deflater : HdDeflater) : Prop where
  ctx : deflater.ctx.Valid
  map : deflater.map.For deflater.ctx
  bufsizeMax_le : deflater.ctx.bufsizeMax ≤ deflater.deflateHdTableBufsizeMax
  min_lt : deflater.minHdTableBufsizeMax < 2 ^ 32

/-- The map of what is left. -/
lemma Becomes.mapFor {context : HdContext} {map : HdMap} {cap : ℕ} {entries : List HdEntry}
    {result : HdContext × Option HdMap}
    (h : Becomes context (some map) (keep HdEntry.room cap entries) result)
    (hhash : ∀ ent ∈ entries, Hashed ent) (map' : HdMap) : (result.2.getD map').For result.1 := by
  obtain ⟨map'', hmap''⟩ := Option.isSome_iff_exists.1 (h.isSome.trans rfl)
  rw [hmap'', Option.getD_some]
  refine ⟨h.holds map'' hmap'', fun ent hent => hhash ent ?_⟩
  rw [h.entries] at hent
  exact (keep_initial cap entries).subset hent

lemma valid_hdDeflateInit2 (max : ℕ) : (hdDeflateInit2 max).Valid where
  ctx := by
    rw [hdDeflateInit2]
    split
    · rename_i hmax
      have hvalid := HdContext.valid_init
      exact ⟨⟨hvalid.bufsize_eq, hvalid.bufsize_lt, hvalid.seq, hvalid.token, hvalid.indexed⟩,
        Nat.zero_le _, show max < 2 ^ 32 by omega⟩
    · exact HdContext.valid_init
  map := by
    rw [hdDeflateInit2]
    split
    · exact ⟨HdMap.holds_init, fun _ h => nomatch h⟩
    · exact ⟨HdMap.holds_init, fun _ h => nomatch h⟩
  bufsizeMax_le := by
    rw [hdDeflateInit2]
    split
    · exact Nat.le_refl _
    · rename_i hmax
      exact Nat.not_lt.1 hmax
  min_lt := by
    simp only [hdDeflateInit2, uint32Max]
    omega

/-- **A change of the table's size** leaves the newest fields that fit.  The encoder never uses more
than it was made for, whatever the peer allows. -/
theorem hdDeflateChangeTableSize_spec {deflater : HdDeflater} (h : deflater.Valid) {size : ℕ}
    (hsize : size < 2 ^ 32) :
    (hdDeflateChangeTableSize deflater size).Valid ∧
      (hdDeflateChangeTableSize deflater size).ctx.toTable =
        deflater.ctx.toTable.resize (min size deflater.deflateHdTableBufsizeMax) ∧
      (hdDeflateChangeTableSize deflater size).ctx.bad = deflater.ctx.bad := by
  have hvalid := h.ctx
  have hshrink := hvalid.shrink (Nat.lt_of_le_of_lt
    (Nat.min_le_left size deflater.deflateHdTableBufsizeMax) hsize) (some deflater.map)
    (fun map' hmap' => by
      cases hmap'
      exact h.map.holds)
  have hmin := h.min_lt
  refine ⟨⟨hshrink.valid, hshrink.mapFor h.map.hashed deflater.map, ?_, ?_⟩, ?_, hshrink.bad⟩
  · exact hshrink.bufsizeMax ▸ Nat.min_le_right _ _
  · simp only [hdDeflateChangeTableSize]
    omega
  · exact hshrink.toTable_resize

/-- What a decoder makes of a field.  It learns that the field is sensitive, and finds the token of
its own. -/
def Nv.decoded (nv : Nv) : HdNv :=
  ⟨nv.name, nv.value, lookupToken nv.name, neverIndexed nv (lookupToken nv.name)⟩

/-- A name and a value of less than `2 ^ 64` bytes. -/
def Nv.Sized (nv : Nv) : Prop := nv.name.length < 2 ^ 64 ∧ nv.value.length < 2 ^ 64

/-- The name of a literal field, by its index if it has one. -/
def literalName (nv : Nv) : Option ℕ → HdName
  | none => .new (HdString.choose nv.name)
  | some idx => .index idx

/-- The representation that is written for a field, which depends on the table but not on the
buffers. -/
def deflateNvRep (deflater : HdDeflater) (nv : Nv) : Rep :=
  let mode := indexingMode deflater nv (lookupToken nv.name)
  let res := searchFields deflater.ctx.fields nv (decide (mode = .neverIndexing))
  if res.nameValueMatch then .indexed (res.index.getD (sizeMax - 1))
  else .literal mode (literalName nv res.index) (HdString.choose nv.value)

/-- The encoder before and after a field: its table is `table`, and what it knows of sizes is the
same. -/
structure Deflated (deflater deflater' : HdDeflater) (table : HdTable) : Prop where
  valid : deflater'.Valid
  table : deflater'.ctx.toTable = table
  bad : deflater'.ctx.bad = deflater.ctx.bad
  deflateMax : deflater'.deflateHdTableBufsizeMax = deflater.deflateHdTableBufsizeMax
  minMax : deflater'.minHdTableBufsizeMax = deflater.minHdTableBufsizeMax
  notify : deflater'.notifyTableSizeChange = deflater.notifyTableSizeChange

lemma indexingMode_neverIndexing {deflater : HdDeflater} {nv : Nv} {token : Option ℕ} :
    indexingMode deflater nv token = .neverIndexing ↔ neverIndexed nv token = true := by
  rw [indexingMode]
  split
  · rename_i h
    simp [h]
  · rename_i h
    rw [hdDeflateDecideIndexing]
    split <;> simp [h]

/-- A literal field is written. -/
lemma emits_literal (h : bufs.Ready) {nv : Nv} (hnv : nv.Sized) (mode : IndexingMode)
    {index : Option ℕ} (hindex : ∀ idx ∈ index, idx + 1 < 2 ^ 64) :
    Emits (emitLiteral bufs nv mode index) bufs
      (Rep.literal mode (literalName nv index) (HdString.choose nv.value)).bytes := by
  cases index with
  | none =>
    exact (emits_of_writes (Bufs.writes_addb h _)).bind fun _ hwritten =>
      (emits_string hwritten.ready hnv.1).bind fun _ hwritten' =>
        emits_string hwritten'.ready hnv.2
  | some idx =>
    exact (emits_length h _ _ (hindex idx rfl)).bind fun _ hwritten =>
      emits_string hwritten.ready hnv.2

/-- The name of what is found is the name of the field. -/
lemma tableName_eq {deflater : HdDeflater} {nv : Nv} {res : SearchResult}
    (h : res.Points deflater.ctx nv) : tableName deflater nv res.index = nv.name := by
  unfold tableName
  split
  · rename_i idx hidx
    obtain ⟨field, hget, hname, -⟩ := h.field idx hidx
    rw [hget]
    split
    · exact hname
    · rfl
  · rfl

/-- The name of a literal field means its name, whether it is sent as an index or as a text. -/
lemma nameOf_literalName {context : HdContext} {nv : Nv} {res : SearchResult}
    (h : res.Points context nv) :
    Rep.nameOf context.toTable (literalName nv res.index) =
      some (nv.name, lookupToken nv.name) := by
  cases hindex : res.index with
  | none => rfl
  | some idx =>
    obtain ⟨field, hget, hname, htoken, -⟩ := h.field idx hindex
    rw [literalName, Rep.nameOf, ← HdContext.tableGet_eq, hget, Option.map_some, hname, htoken]

/-- The table with the field `nv`. -/
lemma HdDeflater.Valid.add {deflater : HdDeflater} (h : deflater.Valid) (nv : HdNv)
    (htoken : nv.token = lookupToken nv.name) (hindex : nv.noIndex = false) :
    ∃ ctx map, addHdTableIncremental deflater.ctx nv (some deflater.map)
        (fieldHash nv.name nv.token) = some (ctx, map) ∧
      Deflated deflater { deflater with ctx := ctx, map := map.getD deflater.map }
        (deflater.ctx.toTable.add nv) := by
  obtain ⟨⟨ctx, map⟩, hadd, hbecomes⟩ := addHdTableIncremental_spec (some deflater.map)
    h.ctx (fun map' hmap' => by cases hmap'; exact h.map.holds) htoken hindex
    (fieldHash nv.name nv.token)
  refine ⟨ctx, map, hadd, ⟨hbecomes.valid, hbecomes.mapFor ?_ deflater.map, ?_, h.min_lt⟩, ?_,
    hbecomes.bad, rfl, rfl, rfl⟩
  · rintro ent (_ | ⟨_, hent⟩)
    · rfl
    · exact h.map.hashed ent hent
  · exact hbecomes.bufsizeMax ▸ h.bufsizeMax_le
  · exact hbecomes.toTable_add

/-- **A field is written as a representation that means it**, and the table of the encoder becomes
the one that this representation makes, before anything of it was changed: an index that was found
belongs to the table in which the decoder will look it up. -/
theorem deflateNv_spec {deflater : HdDeflater} (h : deflater.Valid) {nv : Nv} (hnv : nv.Sized) :
    ∃ table deflater', (deflateNvRep deflater nv).run deflater.ctx.toTable =
        some (some nv.decoded, table) ∧
      Deflated deflater deflater' table ∧ ∀ bufs, bufs.Ready →
        (deflateNv deflater bufs nv).1 = deflater' ∧
        Emits (deflateNv deflater bufs nv).2 bufs (deflateNvRep deflater nv).bytes := by
  have hpoints := points_searchFields h.ctx.toConsistent nv
    (decide (indexingMode deflater nv (lookupToken nv.name) = .neverIndexing))
  have hnever := @indexingMode_neverIndexing deflater nv (lookupToken nv.name)
  have hsame : Deflated deflater deflater deflater.ctx.toTable := ⟨h, rfl, rfl, rfl, rfl, rfl⟩
  simp only [deflateNv, deflateNvRep, searchHdTable_eq h.ctx.toConsistent h.map]
  generalize hmode : indexingMode deflater nv (lookupToken nv.name) = mode at hpoints hnever
  generalize hres : searchFields deflater.ctx.fields nv (decide (mode = .neverIndexing)) = res
    at hpoints
  have hindex : ∀ idx ∈ res.index, idx + 1 < 2 ^ 64 := by
    intro idx hidx
    obtain ⟨field, hget, -⟩ := hpoints.field idx hidx
    have hlt := HdContext.index_lt h.ctx.toConsistent hget
    omega
  cases hmatch : res.nameValueMatch with
  | true =>
    obtain ⟨idx, hidx⟩ := Option.isSome_iff_exists.1 (hpoints.isSome hmatch)
    obtain ⟨field, hget, hname, htoken, hnoIndex, hvalue⟩ := hpoints.field idx hidx
    have hmode' : neverIndexed nv (lookupToken nv.name) = false := by
      by_contra hne
      have heq : mode = .neverIndexing := hnever.2 (by simpa using hne)
      rw [decide_eq_true heq] at hres
      rw [← hres, nameValueMatch_nameOnly] at hmatch
      cases hmatch
    have hdecoded : field = nv.decoded := by
      rw [Nv.decoded, hmode', ← hnoIndex, ← htoken, ← hname, ← hvalue hmatch]
    simp only [hidx, if_true, Option.getD_some]
    refine ⟨_, deflater, ?_, hsame, fun bufs hready => ⟨rfl, ?_⟩⟩
    · rw [Rep.run, ← HdContext.tableGet_eq, hget, hdecoded]
      rfl
    · exact emits_length hready _ _ (hindex idx hidx)
  | false =>
    have hliteral : ∀ bufs : Bufs, bufs.Ready → Emits (emitLiteral bufs nv mode res.index) bufs
        (Rep.literal mode (literalName nv res.index) (HdString.choose nv.value)).bytes :=
      fun bufs hready => emits_literal hready hnv mode hindex
    have hdecoded : (⟨nv.name, nv.value, lookupToken nv.name, decide (mode = .neverIndexing)⟩ :
        HdNv) = nv.decoded := by
      simp only [Nv.decoded, hnever, Bool.decide_eq_true]
    have hrun : Rep.run deflater.ctx.toTable
        (.literal mode (literalName nv res.index) (HdString.choose nv.value)) =
        some (some nv.decoded, if mode = .withIndexing then deflater.ctx.toTable.add nv.decoded
          else deflater.ctx.toTable) := by
      rw [Rep.run, nameOf_literalName hpoints, ← hdecoded]
      rfl
    simp only [Bool.false_eq_true, if_false, tableName_eq hpoints, hrun]
    by_cases hwith : mode = .withIndexing
    · have hadded : (⟨nv.name, nv.value, lookupToken nv.name, false⟩ : HdNv) = nv.decoded := by
        rw [← hdecoded, hwith]
        rfl
      obtain ⟨ctx, map, hadd, hdeflated⟩ := h.add (nv.decoded) rfl (by rw [← hadded])
      simp only [hwith, if_true, hadded]
      refine ⟨_, _, rfl, hdeflated, fun bufs hready => ?_⟩
      rw [show addHdTableIncremental deflater.ctx nv.decoded (some deflater.map)
        (fieldHash nv.name (lookupToken nv.name)) = some (ctx, map) from hadd]
      exact ⟨rfl, hwith ▸ hliteral bufs hready⟩
    · simp only [hwith, if_false]
      exact ⟨_, _, rfl, hsame, fun bufs hready => ⟨rfl, hliteral bufs hready⟩⟩

/-! ## A block -/

lemma Deflated.trans {deflater deflater' deflater'' : HdDeflater} {table table' : HdTable}
    (h : Deflated deflater deflater' table) (h' : Deflated deflater' deflater'' table') :
    Deflated deflater deflater'' table' :=
  ⟨h'.valid, h'.table, h'.bad.trans h.bad, h'.deflateMax.trans h.deflateMax,
    h'.minMax.trans h.minMax, h'.notify.trans h.notify⟩

/-- A name and a value that are far from the limits of an integer. -/
def Nv.Small (nv : Nv) : Prop := nv.name.length + nv.value.length < 2 ^ 28

lemma textLength_deflateNvRep_le (deflater : HdDeflater) (nv : Nv) :
    (deflateNvRep deflater nv).textLength ≤ nv.name.length + nv.value.length := by
  have hname := HdString.length_encoded_choose_le nv.name
  have hvalue := HdString.length_encoded_choose_le nv.value
  simp only [deflateNvRep]
  split
  · exact Nat.zero_le _
  · unfold literalName
    split
    · simp only [Rep.textLength]
      omega
    · simp only [Rep.textLength]
      omega

/-- The encoded name and value are not longer than a decoder allows. -/
def Nv.Short (nv : Nv) : Prop :=
  (HdString.choose nv.name).encoded.length ≤ Rep.maxNv ∧
    (HdString.choose nv.value).encoded.length ≤ Rep.maxNv

lemma deflateNvRep_isField (deflater : HdDeflater) (nv : Nv) :
    (deflateNvRep deflater nv).IsField := by
  simp only [deflateNvRep]
  split <;> trivial

lemma deflateNvRep_short (deflater : HdDeflater) {nv : Nv} (h : nv.Short) :
    (deflateNvRep deflater nv).Short := by
  simp only [deflateNvRep]
  split
  · trivial
  · unfold literalName
    split
    · exact h
    · exact h.2

/-- **The fields are written one after the other**, each for the table that the one before has left.
The induction carries what the bound of the session needs, that no field takes more than twelve
bytes besides its texts. -/
theorem deflateNvs_spec {deflater : HdDeflater} (h : deflater.Valid) {nva : List Nv}
    (hnva : ∀ nv ∈ nva, nv.Sized) :
    ∃ reps table deflater', Rep.runs deflater.ctx.toTable reps =
        some (nva.map Nv.decoded, table) ∧
      Deflated deflater deflater' table ∧ (∀ rep ∈ reps, rep.IsField) ∧
      ((∀ nv ∈ nva, nv.Short) → ∀ rep ∈ reps, rep.Short) ∧
      ((∀ nv ∈ nva, nv.Small) → (reps.flatMap Rep.bytes).length ≤
        12 * nva.length + (nva.map fun nv => nv.name.length + nv.value.length).sum) ∧
      ∀ bufs, bufs.Ready →
        Emits (deflateNvs deflater bufs nva).2 bufs (reps.flatMap Rep.bytes) ∧
        ∀ bufs', (deflateNvs deflater bufs nva).2 = .ok bufs' →
          (deflateNvs deflater bufs nva).1 = deflater' := by
  induction nva generalizing deflater with
  | nil =>
    exact ⟨[], _, deflater, rfl, ⟨h, rfl, rfl, rfl, rfl, rfl⟩, by simp, by simp, by simp,
      fun bufs hready => ⟨emits_nil hready, fun _ _ => rfl⟩⟩
  | cons nv nva ih =>
    obtain ⟨table, deflater', hrun, hdeflated, hwrites⟩ :=
      deflateNv_spec h (hnva nv List.mem_cons_self)
    obtain ⟨reps, table', deflater'', hruns, hdeflated', hfields, hshort, hsmall, hrest⟩ :=
      ih hdeflated.valid fun nv' hnv' => hnva nv' (List.mem_cons_of_mem nv hnv')
    rw [hdeflated.table] at hruns
    refine ⟨deflateNvRep deflater nv :: reps, table', deflater'', Rep.runs_cons hrun hruns,
      hdeflated.trans hdeflated', ?_, ?_, ?_, fun bufs hready => ?_⟩
    · rintro rep (_ | ⟨_, hrep⟩)
      · exact deflateNvRep_isField deflater nv
      · exact hfields rep hrep
    · rintro hnvs rep (_ | ⟨_, hrep⟩)
      · exact deflateNvRep_short deflater (hnvs nv List.mem_cons_self)
      · exact hshort (fun nv' hnv' => hnvs nv' (List.mem_cons_of_mem nv hnv')) rep hrep
    · intro hnvs
      have hnv' : nv.name.length + nv.value.length < 2 ^ 28 := hnvs nv List.mem_cons_self
      have htext := textLength_deflateNvRep_le deflater nv
      have hlength := Rep.length_bytes_le h.ctx.toConsistent hrun
        (deflateNvRep_isField deflater nv) (by omega)
      have hreps := hsmall fun nv' hnv' => hnvs nv' (List.mem_cons_of_mem nv hnv')
      simp only [List.flatMap_cons, List.length_append, List.length_cons, List.map_cons,
        List.sum_cons]
      omega
    · obtain ⟨hnext, hemits⟩ := hwrites bufs hready
      rw [deflateNvs, List.flatMap_cons]
      rcases hresult : deflateNv deflater bufs nv with ⟨d, result⟩
      rw [hresult] at hnext hemits
      cases hnext
      cases result with
      | error error =>
        exact ⟨hemits.append_error rfl, fun bufs' hbufs' => nomatch hbufs'⟩
      | ok bufs' =>
        have hwritten := hemits.written rfl
        obtain ⟨hemits', hok⟩ := hrest bufs' hwritten.ready
        exact ⟨Emits.after hwritten hemits', hok⟩

/-- The table sizes that are written before the fields. -/
def HdDeflater.pending (deflater : HdDeflater) : List Rep :=
  if deflater.notifyTableSizeChange then
    (if deflater.minHdTableBufsizeMax < deflater.ctx.bufsizeMax then
        [.tableSize deflater.minHdTableBufsizeMax]
      else []) ++ [.tableSize deflater.ctx.bufsizeMax]
  else []

lemma length_pending_le {deflater : HdDeflater} (h : deflater.Valid) :
    (deflater.pending.flatMap Rep.bytes).length ≤ 12 := by
  have hmax := h.ctx.max_lt
  have hmin := h.min_lt
  have hsize : ∀ size, size < 2 ^ 32 → (Rep.tableSize size).bytes.length ≤ 6 :=
    fun size hsize => length_encodeLength_le 0x20 5 (k := 4) (by omega)
  have hmax' := hsize _ hmax
  have hmin' := hsize _ hmin
  rw [HdDeflater.pending]
  split_ifs <;> simp only [List.flatMap_append, List.flatMap_singleton, List.flatMap_nil,
    List.length_append, List.length_nil] <;> omega

lemma emits_tableSizes {deflater : HdDeflater} (h : deflater.Valid) (hready : bufs.Ready) :
    Emits (emitTableSizes deflater bufs) bufs (deflater.pending.flatMap Rep.bytes) := by
  have hmax := h.ctx.max_lt
  have hmin := h.min_lt
  rw [emitTableSizes, HdDeflater.pending]
  split
  · rw [List.flatMap_append, List.flatMap_singleton]
    refine Emits.bind ?_ fun bufs' hwritten => emits_length hwritten.ready _ _ (by omega)
    split
    · rw [List.flatMap_singleton]
      exact emits_length hready _ _ (by omega)
    · exact emits_nil hready
  · exact emits_nil hready

lemma HdDeflater.Valid.notified {deflater : HdDeflater} (h : deflater.Valid) :
    deflater.notified.Valid := by
  rw [HdDeflater.notified]
  split
  · refine ⟨h.ctx, h.map, h.bufsizeMax_le, ?_⟩
    simp only [uint32Max]
    omega
  · exact h

@[simp] lemma ctx_notified (deflater : HdDeflater) : deflater.notified.ctx = deflater.ctx := by
  rw [HdDeflater.notified]
  split <;> rfl

@[simp] lemma deflateMax_notified (deflater : HdDeflater) :
    deflater.notified.deflateHdTableBufsizeMax = deflater.deflateHdTableBufsizeMax := by
  rw [HdDeflater.notified]
  split <;> rfl

/-- **A header block is written.**  Its representations mean the fields, for a decoder that knows
the table of the encoder; what is written does not depend on the buffers; if these have no room for
it the encoder cannot be used any more. -/
theorem deflateHdBufs_spec {deflater : HdDeflater} (h : deflater.Valid)
    (hbad : deflater.ctx.bad = false) {nva : List Nv} (hnva : ∀ nv ∈ nva, nv.Sized) :
    ∃ reps table deflater', Rep.runs deflater.ctx.toTable reps =
        some (nva.map Nv.decoded, table) ∧
      Deflated deflater.notified deflater' table ∧ (∀ rep ∈ reps, rep.IsField) ∧
      ((∀ nv ∈ nva, nv.Short) → ∀ rep ∈ reps, rep.Short) ∧
      ((∀ nv ∈ nva, nv.Small) → ((deflater.pending ++ reps).flatMap Rep.bytes).length ≤
        12 + 12 * nva.length + (nva.map fun nv => nv.name.length + nv.value.length).sum) ∧
      ∀ bufs, bufs.Ready →
        Emits (deflateHdBufs deflater bufs nva).2 bufs
          ((deflater.pending ++ reps).flatMap Rep.bytes) ∧
        (∀ bufs', (deflateHdBufs deflater bufs nva).2 = .ok bufs' →
          (deflateHdBufs deflater bufs nva).1 = deflater') ∧
        ∀ error, (deflateHdBufs deflater bufs nva).2 = .error error →
          (deflateHdBufs deflater bufs nva).1.ctx.bad = true := by
  obtain ⟨reps, table, deflater', hruns, hdeflated, hfields, hshort, hsmall, hwrites⟩ :=
    deflateNvs_spec h.notified hnva
  rw [ctx_notified] at hruns
  refine ⟨reps, table, deflater', hruns, hdeflated, hfields, hshort, ?_, fun bufs hready => ?_⟩
  · intro hnvs
    have hpending := length_pending_le h
    have hreps := hsmall hnvs
    rw [List.flatMap_append, List.length_append]
    omega
  have hsizes := emits_tableSizes h hready
  rw [deflateHdBufs, hbad, List.flatMap_append]
  simp only [Bool.false_eq_true, if_false]
  cases hresult : emitTableSizes deflater bufs with
  | error error =>
    rw [hresult] at hsizes
    exact ⟨hsizes.append_error rfl, (fun bufs' hbufs' => nomatch hbufs'), fun _ _ => rfl⟩
  | ok bufs' =>
    have hwritten := hsizes.written hresult
    obtain ⟨hemits, hok⟩ := hwrites bufs' hwritten.ready
    have hafter := Emits.after hwritten hemits
    simp only
    rcases hnvs : deflateNvs deflater.notified bufs' nva with ⟨d, result⟩
    rw [hnvs] at hafter hok
    cases result with
    | error error => exact ⟨hafter, (fun bufs'' hbufs'' => nomatch hbufs''), fun _ _ => rfl⟩
    | ok bufs'' => exact ⟨hafter, hok, fun _ herror => nomatch herror⟩

end KituraHTTP2.Nghttp2
