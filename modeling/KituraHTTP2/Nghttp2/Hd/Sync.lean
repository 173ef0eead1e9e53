import KituraHTTP2.Nghttp2.Settings
import KituraHTTP2.Nghttp2.Hd.Deflate
import KituraHTTP2.Nghttp2.Hd.Reading

/-!
# Encoder and decoder in sync

The encoder on one side of a connection and the decoder on the other one both keep a table, and a
block means something only with the right table.  Nobody ever compares the two.  That they agree
follows from what both have done since the connection began, and one block that is lost, or read
twice, would spoil all that come after it.

**The relation.**  `HdSync` relates the two when the decoder has seen everything from the encoder.
Where no change of the table's size is pending their tables are equal (`HdSync.toTable_eq`).  Where
one is pending they are not: the encoder makes its table smaller as soon as it is told to, and the
decoder hears of it with the next block.  Until then the encoder has what the smallest of the sizes
has left of the decoder's table.

**Sizes.**  The limits come from the decoding side, in SETTINGS frames, and several of them may be
on their way before a block comes.  The decoder takes note of the smallest and of the last one, and
demands that a block begins with a size that is not above the smallest; the encoder remembers the
same two and writes them.  If the session of the encoder took each entry of a SETTINGS frame in turn
that would be clear; but it merges the entries of a frame, and keeps of the sizes just the smallest
and the last (`smallestAndLast`).  That these two are enough is what `sync_settings` is about.

* **`sync_settings`** — a SETTINGS frame of the decoding side: the decoder takes the sizes that it
  has sent, the encoder those that remain when the frame is read, the smallest and the last one.
* **`sync_block`** — a header block: the decoder returns the fields that were encoded.
-/

namespace KituraHTTP2.Nghttp2

open BoundedQueue Incremental

/-! ## The relation -/

/-- **The decoder has seen everything from the encoder**, which may have been told of a change of
the size since. -/
structure HdSync (deflater : HdDeflater) (inflater : HdInflater) : Prop where
  encoder : deflater.Valid
  good : deflater.ctx.bad = false
  decoder : inflater.Valid
  between : inflater.Between
  fields : deflater.ctx.fields =
    keep HdNv.room (min deflater.minHdTableBufsizeMax deflater.ctx.bufsizeMax) inflater.ctx.fields
  max_le : deflater.ctx.bufsizeMax ≤ inflater.settingsHdTableBufsizeMax
  min_le : min deflater.minHdTableBufsizeMax deflater.ctx.bufsizeMax ≤
    inflater.minHdTableBufsizeMax
  /-- the smallest size is not above the last one, unless none of them makes a difference -/
  order : deflater.minHdTableBufsizeMax ≤ deflater.ctx.bufsizeMax ∨
    total HdNv.room inflater.ctx.fields ≤ deflater.ctx.bufsizeMax ∧
      inflater.minHdTableBufsizeMax = uint32Max
  /-- no change of the size is pending -/
  quiet : deflater.notifyTableSizeChange = false →
    inflater.state = .inflateStart ∧ inflater.ctx.bufsizeMax = deflater.ctx.bufsizeMax ∧
      deflater.minHdTableBufsizeMax = uint32Max ∧ inflater.minHdTableBufsizeMax = uint32Max

lemma HdContext.Valid.total_le {context : HdContext} (h : context.Valid) :
    total HdNv.room context.fields ≤ context.bufsizeMax := by
  have hle := h.bufsize_le
  rw [h.bufsize_eq, total] at hle
  rwa [total, HdContext.fields, List.map_map]

/-- Where no change of the size is pending the tables are equal. -/
lemma HdSync.toTable_eq {deflater : HdDeflater} {inflater : HdInflater}
    (h : HdSync deflater inflater) (hquiet : deflater.notifyTableSizeChange = false) :
    deflater.ctx.toTable = inflater.ctx.toTable := by
  obtain ⟨-, hmax, hmin, -⟩ := h.quiet hquiet
  have htotal := h.decoder.ctx.total_le
  have hlt := h.encoder.ctx.max_lt
  have hfields := h.fields
  rw [keep_eq_self (by rw [hmin, ← hmax, uint32Max]; omega)] at hfields
  rw [HdContext.toTable, HdContext.toTable, hfields, hmax]

/-- At the beginning of a connection both tables are empty; an encoder that was made with a smaller
table has that to tell first. -/
lemma hdSync_init (max : ℕ) : HdSync (hdDeflateInit2 max) hdInflateInit where
  encoder := valid_hdDeflateInit2 max
  good := by
    rw [hdDeflateInit2]
    split <;> rfl
  decoder := valid_hdInflateInit
  between := Or.inr rfl
  fields := by
    rw [hdDeflateInit2]
    split <;> rfl
  max_le := by
    rw [hdDeflateInit2]
    split
    · rename_i hmax
      exact Nat.le_of_lt hmax
    · exact Nat.le_refl _
  min_le := Nat.min_le_left _ _
  order := Or.inr ⟨Nat.zero_le _, rfl⟩
  quiet h := by
    rw [hdDeflateInit2] at h ⊢
    split
    · rename_i hmax
      simp [hmax] at h
    · exact ⟨rfl, rfl, rfl, rfl⟩

/-! ## Settings -/

/-- The encoder after the values of a SETTINGS frame, one after the other. -/
structure Shrunk (deflater deflater' : HdDeflater) (sizes : List ℕ) : Prop where
  valid : deflater'.Valid
  bad : deflater'.ctx.bad = deflater.ctx.bad
  deflateMax : deflater'.deflateHdTableBufsizeMax = deflater.deflateHdTableBufsizeMax
  fields : deflater'.ctx.fields =
    keep HdNv.room (min (smallest sizes) deflater.deflateHdTableBufsizeMax) deflater.ctx.fields
  minMax : min deflater'.minHdTableBufsizeMax deflater.deflateHdTableBufsizeMax =
    min (min deflater.minHdTableBufsizeMax (smallest sizes)) deflater.deflateHdTableBufsizeMax
  last : ∀ size ∈ sizes.getLast?, deflater'.notifyTableSizeChange = true ∧
    deflater'.ctx.bufsizeMax = min size deflater.deflateHdTableBufsizeMax ∧
    deflater'.minHdTableBufsizeMax ≤ deflater'.ctx.bufsizeMax

/-- **The encoder takes one size after the other**, and what it is left with depends on the smallest
and the last of them alone. -/
theorem shrunk_foldl {deflater : HdDeflater} (h : deflater.Valid) {sizes : List ℕ}
    (hsizes : ∀ size ∈ sizes, size < 2 ^ 32) :
    Shrunk deflater (sizes.foldl hdDeflateChangeTableSize deflater) sizes := by
  induction sizes using List.reverseRecOn with
  | nil =>
    have htotal := h.ctx.total_le
    have hmax := h.ctx.max_lt
    have hle := h.bufsizeMax_le
    have hmin := h.min_lt
    refine ⟨h, rfl, rfl, ?_, ?_, fun size hsize => nomatch hsize⟩
    · rw [keep_eq_self]
      · rfl
      · simp only [smallest, List.foldl_nil, uint32Max]
        omega
    · simp only [smallest, List.foldl_nil, uint32Max]
      omega
  | append_singleton sizes size ih =>
    obtain ⟨hvalid, hbad, hdeflateMax, hfields, hmin, -⟩ :=
      ih fun size' hsize' => hsizes size' (List.mem_append_left _ hsize')
    obtain ⟨hvalid', htable, hbad'⟩ :=
      hdDeflateChangeTableSize_spec hvalid (hsizes size (by simp))
    rw [List.foldl_append, List.foldl_cons, List.foldl_nil]
    generalize sizes.foldl hdDeflateChangeTableSize deflater = deflater₁ at *
    rw [hdeflateMax] at htable
    have hmax : (hdDeflateChangeTableSize deflater₁ size).ctx.bufsizeMax =
        min size deflater.deflateHdTableBufsizeMax := congrArg HdTable.max htable
    have hmin' : (hdDeflateChangeTableSize deflater₁ size).minHdTableBufsizeMax =
        min deflater₁.minHdTableBufsizeMax (min size deflater.deflateHdTableBufsizeMax) := by
      rw [← hdeflateMax]
      rfl
    refine ⟨hvalid', hbad'.trans hbad, hdeflateMax, ?_, ?_, ?_⟩
    · have hkeep : (hdDeflateChangeTableSize deflater₁ size).ctx.fields = _ :=
        congrArg HdTable.fields htable
      rw [hkeep]
      simp only [HdTable.resize, HdContext.toTable, hfields, keep_keep, smallest_concat]
      congr 1
      omega
    · rw [hmin', smallest_concat]
      omega
    · intro size' hsize'
      rw [List.getLast?_append_of_ne_nil _ (by simp), List.getLast?_singleton] at hsize'
      cases hsize'
      exact ⟨rfl, hmax, by rw [hmin', hmax]; omega⟩

/-- The decoder after the values of a SETTINGS frame, whose last one is `size`. -/
structure Updated (inflater inflater' : HdInflater) (sizes : List ℕ) (size : ℕ) : Prop where
  valid : inflater'.Valid
  between : inflater'.Between
  fields : inflater'.ctx.fields = keep HdNv.room (smallest sizes) inflater.ctx.fields
  settings : inflater'.settingsHdTableBufsizeMax = size
  minMax : inflater'.minHdTableBufsizeMax =
    if smallest sizes < inflater.ctx.bufsizeMax then smallest sizes
    else inflater.minHdTableBufsizeMax

/-- **The decoder takes the smallest size and the last one**, and expects to be told both by the
next block. -/
theorem updated_updateLocalTableSize {inflater : HdInflater} (h : inflater.Valid)
    (hbetween : inflater.Between) {sizes : List ℕ} (hsizes : ∀ size ∈ sizes, size < 2 ^ 32)
    {size : ℕ} (hlast : size ∈ sizes.getLast?) :
    ∃ inflater', updateLocalTableSize inflater sizes = some inflater' ∧
      Updated inflater inflater' sizes size := by
  have hmem : size ∈ sizes := List.mem_of_getLast? hlast
  have hle := smallest_le hmem
  have hsize := hsizes size hmem
  simp only [updateLocalTableSize, show sizes.getLast? = some size from hlast]
  rw [show sizes.foldl min uint32Max = smallest sizes from rfl]
  split
  · rename_i hlt
    obtain ⟨inflater₁, hfirst, hresized₁⟩ :=
      hdInflateChangeTableSize_spec h hbetween (smallest_lt sizes)
    obtain ⟨inflater₂, hsecond, hresized₂⟩ :=
      hdInflateChangeTableSize_spec hresized₁.valid hresized₁.between hsize
    have hmax₁ : inflater₁.ctx.bufsizeMax = smallest sizes :=
      congrArg HdTable.max hresized₁.table
    have hfields₁ : inflater₁.ctx.fields = _ := congrArg HdTable.fields hresized₁.table
    have hfields₂ : inflater₂.ctx.fields = _ := congrArg HdTable.fields hresized₂.table
    refine ⟨inflater₂, by rw [hfirst, Option.bind_some, hsecond], hresized₂.valid,
      hresized₂.between, ?_, hresized₂.settings, ?_⟩
    · rw [hfields₂]
      simp only [HdTable.resize, HdContext.toTable, hfields₁, keep_keep]
      rw [Nat.min_eq_right hle]
    · rw [hresized₂.min, hmax₁, if_neg (by omega), hresized₁.min]
  · rename_i hge
    have heq : smallest sizes = size := by omega
    obtain ⟨inflater', hchange, hresized⟩ := hdInflateChangeTableSize_spec h hbetween hsize
    exact ⟨inflater', hchange, hresized.valid, hresized.between,
      heq ▸ congrArg HdTable.fields hresized.table, hresized.settings, heq ▸ hresized.min⟩

/-- **A SETTINGS frame**, of which the encoder gets the smallest and the last size.  Afterwards both
sides are in sync, with a change of the size pending. -/
theorem sync_settings {deflater : HdDeflater} {inflater : HdInflater}
    (h : HdSync deflater inflater) {sizes : List ℕ} (hsizes : ∀ size ∈ sizes, size < 2 ^ 32) :
    ∃ inflater', updateLocalTableSize inflater sizes = some inflater' ∧
      HdSync ((smallestAndLast sizes).foldl hdDeflateChangeTableSize deflater) inflater' := by
  cases hlast : sizes.getLast? with
  | none =>
    rw [List.getLast?_eq_none_iff] at hlast
    subst hlast
    exact ⟨inflater, rfl, h⟩
  | some size =>
    have hshrunk := shrunk_foldl h.encoder (mem_smallestAndLast_lt hsizes)
    have hlast' := getLast?_smallestAndLast sizes
    rw [hlast] at hlast'
    obtain ⟨inflater', hupdate, hupdated⟩ :=
      updated_updateLocalTableSize h.decoder h.between hsizes hlast
    obtain ⟨hnotify, hmax, hminle⟩ := hshrunk.last size hlast'
    have hfields := hshrunk.fields
    have hsmall := smallest_le (List.mem_of_getLast? hlast)
    have hdeflateMax := h.encoder.bufsizeMax_le
    have hmin := hshrunk.minMax
    rw [smallest_smallestAndLast] at hfields hmin
    have hmax_le := h.max_le
    have hmin_le := h.min_le
    have horder := h.order
    generalize (smallestAndLast sizes).foldl hdDeflateChangeTableSize deflater = deflater' at *
    refine ⟨inflater', hupdate, hshrunk.valid, hshrunk.bad.trans h.good, hupdated.valid,
      hupdated.between, ?_, ?_, ?_, Or.inl hminle, fun hquiet => ?_⟩
    · -- where the smallest size was above the last one, all fields fit into the last one
      have hcap : keep HdNv.room (min (min (smallest sizes) deflater.deflateHdTableBufsizeMax)
            (min deflater.minHdTableBufsizeMax deflater.ctx.bufsizeMax)) inflater.ctx.fields =
          keep HdNv.room (min (min (smallest sizes) deflater.deflateHdTableBufsizeMax)
            deflater.minHdTableBufsizeMax) inflater.ctx.fields := by
        rcases horder with hle | ⟨htotal, -⟩
        · rw [Nat.min_eq_left hle]
        · rw [← Nat.min_assoc, ← keep_keep, keep_eq_self htotal]
      rw [hfields, hupdated.fields, h.fields, keep_keep, keep_keep, hcap]
      congr 1
      omega
    · rw [hmax, hupdated.settings]
      exact Nat.min_le_left _ _
    · rw [hupdated.minMax]
      split
      · omega
      · rename_i hlarge
        rcases horder with hle | ⟨-, hinflater⟩
        · omega
        · have hlt := hshrunk.valid.min_lt
          rw [hinflater, uint32Max]
          omega
    · rw [hnotify] at hquiet
      cases hquiet

theorem sync_settings_twice :
    ∃ inflater', updateLocalTableSize hdInflateInit [100, 4096] = some inflater' ∧
      HdSync ((smallestAndLast [100, 4096]).foldl hdDeflateChangeTableSize (hdDeflateInit2 4096))
        inflater' :=
  sync_settings (hdSync_init 4096) (by decide)

/-! ## Header blocks -/

/-- Fields leave the size of the table as it is, so that only the beginning of a block changes it.
-/
lemma max_of_runs {table table' : HdTable} {reps : List Rep} {nvs : List HdNv}
    (hreps : ∀ rep ∈ reps, rep.IsField) (h : Rep.runs table reps = some (nvs, table')) :
    table'.max = table.max := by
  induction reps generalizing table nvs with
  | nil =>
    cases h
    rfl
  | cons rep reps ih =>
    simp only [Rep.runs, Option.bind_eq_some_iff, Option.map_eq_some_iff] at h
    obtain ⟨⟨nv, table₁⟩, hrun, ⟨nvs₁, table₂⟩, hrest, heq⟩ := h
    cases heq
    rw [ih (fun rep' hrep' => hreps rep' (List.mem_cons_of_mem rep hrep')) hrest]
    cases rep with
    | tableSize size => exact absurd (hreps _ List.mem_cons_self) id
    | indexed idx =>
      obtain ⟨nv, -, heq⟩ := Option.map_eq_some_iff.1 hrun
      cases heq
      rfl
    | literal mode name value =>
      obtain ⟨⟨text, token⟩, -, heq⟩ := Option.map_eq_some_iff.1 hrun
      cases heq
      split <;> rfl

/-- The decoder before the fields of a block: it has the table of the encoder. -/
structure Announced (deflater : HdDeflater) (inflater inflater' : HdInflater) : Prop where
  reads : hdReader.Reads inflater (deflater.pending.flatMap Rep.bytes) [] inflater'
  state : inflater'.state = .inflateStart
  table : inflater'.ctx.toTable = deflater.ctx.toTable
  settings : inflater'.settingsHdTableBufsizeMax = inflater.settingsHdTableBufsizeMax
  minMax : inflater'.minHdTableBufsizeMax = uint32Max

/-- **The pending sizes** are read, and are allowed: the decoder has seen no smaller limit than the
encoder has. -/
lemma announced {deflater : HdDeflater} {inflater : HdInflater} (h : HdSync deflater inflater) :
    ∃ inflater', Announced deflater inflater inflater' := by
  have hmax_le := h.max_le
  have hmin_le := h.min_le
  have hfields := h.fields
  have hsettings := h.decoder.settings_lt
  cases hnotify : deflater.notifyTableSizeChange with
  | false =>
    obtain ⟨hstate, -, -, hminMax⟩ := h.quiet hnotify
    have hpending : deflater.pending = [] := by
      rw [HdDeflater.pending, hnotify]
      rfl
    exact ⟨inflater, by rw [hpending]; exact Reader.Reads.refl inflater, hstate,
      (h.toTable_eq hnotify).symm, rfl, hminMax⟩
  | true =>
    by_cases hlt : deflater.minHdTableBufsizeMax < deflater.ctx.bufsizeMax
    · have hpending : deflater.pending = [.tableSize deflater.minHdTableBufsizeMax,
          .tableSize deflater.ctx.bufsizeMax] := by
        rw [HdDeflater.pending, hnotify, if_pos rfl, if_pos hlt]
        rfl
      obtain ⟨inflater₁, hreads₁, hstate₁, hmin₁, hsettings₁, htable₁⟩ :=
        reads_tableSize h.decoder h.between deflater.minHdTableBufsizeMax (by omega)
      obtain ⟨inflater₂, hreads₂, hstate₂, hmin₂, hsettings₂, htable₂⟩ :=
        reads_tableSize (hreads₁.inv h.decoder) (Or.inr hstate₁)
          deflater.ctx.bufsizeMax (by rw [hmin₁, hsettings₁, uint32Max]; omega)
      refine ⟨inflater₂, ?_, hstate₂, ?_, hsettings₂.trans hsettings₁, hmin₂⟩
      · rw [hpending]
        simpa using hreads₁.trans hreads₂
      · rw [htable₂, htable₁, HdContext.toTable, HdContext.toTable, hfields, HdTable.resize,
          HdTable.resize, keep_keep, Nat.min_comm]
    · have hpending : deflater.pending = [.tableSize deflater.ctx.bufsizeMax] := by
        rw [HdDeflater.pending, hnotify, if_pos rfl, if_neg hlt]
        rfl
      obtain ⟨inflater₁, hreads₁, hstate₁, hmin₁, hsettings₁, htable₁⟩ :=
        reads_tableSize h.decoder h.between deflater.ctx.bufsizeMax (by omega)
      refine ⟨inflater₁, ?_, hstate₁, ?_, hsettings₁, hmin₁⟩
      · rw [hpending]
        simpa using hreads₁
      · rw [htable₁, HdContext.toTable, HdContext.toTable, hfields, HdTable.resize,
          Nat.min_eq_right (Nat.not_lt.1 hlt)]

/-- **The bytes that the encoder writes are decoded** as the fields that were encoded, and
afterwards both sides are in sync. -/
theorem feed_block {deflater deflater' : HdDeflater} {nva : List Nv} (hnva : ∀ nv ∈ nva, nv.Sized)
    (hshort : ∀ nv ∈ nva, nv.Short) {bufs bufs' : Bufs} (hready : bufs.Ready)
    (hempty : bufs.contents = [])
    (hdeflate : deflateHdBufs deflater bufs nva = (deflater', .ok bufs'))
    {inflater : HdInflater} (h : HdSync deflater inflater) :
    ∃ inflater', hdReader.feed inflater bufs'.contents false =
        (nva.map Nv.decoded, .ok inflater') ∧
      inflater'.AtEnd = true ∧ HdSync deflater' (hdInflateEndHeaders inflater') := by
  obtain ⟨reps, table, deflater'', hruns, hdeflated, hfields, hreps, -, hwrites⟩ :=
    deflateHdBufs_spec h.encoder h.good hnva
  obtain ⟨hemits, hnext, -⟩ := hwrites bufs hready
  rw [hdeflate] at hemits hnext
  cases hnext bufs' rfl
  have hcontents := (hemits.written rfl).contents
  rw [hempty, List.nil_append, List.flatMap_append] at hcontents
  obtain ⟨inflater₁, hannounced⟩ := announced h
  have hvalid₁ : inflater₁.Valid := hannounced.reads.inv h.decoder
  obtain ⟨inflater₂, hreads, hfield, htable, hsettings, hmin⟩ :=
    reads_reps hvalid₁ (Or.inr hannounced.state) hfields (hreps hshort) (hannounced.table ▸ hruns)
  have hfeed := (hannounced.reads.trans hreads).feed
  have hvalid₂ : inflater₂.Valid := hreads.inv hvalid₁
  have hend : inflater₂.AtEnd = true := by
    rcases hfield with hs | hs <;> simp [HdInflater.AtEnd, hs]
  rw [List.nil_append] at hfeed
  refine ⟨inflater₂, by rw [hcontents, hfeed], hend, ?_⟩
  have htables : deflater'.ctx.toTable = inflater₂.ctx.toTable := hdeflated.table.trans htable.symm
  have hmax : deflater'.ctx.bufsizeMax = deflater.ctx.bufsizeMax := by
    have htablemax := max_of_runs hfields hruns
    rwa [← hdeflated.table] at htablemax
  have hmax₂ : deflater'.ctx.bufsizeMax = inflater₂.ctx.bufsizeMax := congrArg HdTable.max htables
  have hfields₂ : deflater'.ctx.fields = inflater₂.ctx.fields := congrArg HdTable.fields htables
  have hminMax : deflater'.minHdTableBufsizeMax = uint32Max := by
    rw [hdeflated.minMax, HdDeflater.notified]
    cases hnotify : deflater.notifyTableSizeChange with
    | false => exact (h.quiet hnotify).2.2.1
    | true => rfl
  have hmin₂ : inflater₂.minHdTableBufsizeMax = uint32Max := hmin.trans hannounced.minMax
  have htotal := hvalid₂.ctx.total_le
  have hlt := hvalid₂.ctx.max_lt
  refine ⟨hdeflated.valid, hdeflated.bad.trans (by rw [ctx_notified, h.good]),
    HdInflater.Valid.endHeaders hvalid₂, Or.inr rfl, ?_, ?_, ?_, Or.inr ⟨?_, hmin₂⟩, fun _ =>
      ⟨rfl, hmax₂.symm, hminMax, hmin₂⟩⟩
  · change deflater'.ctx.fields = keep HdNv.room _ inflater₂.ctx.fields
    rw [keep_eq_self (by rw [hminMax, hmax₂, uint32Max]; omega), hfields₂]
  · change deflater'.ctx.bufsizeMax ≤ inflater₂.settingsHdTableBufsizeMax
    rw [hsettings, hannounced.settings, hmax]
    exact h.max_le
  · change min _ _ ≤ inflater₂.minHdTableBufsizeMax
    rw [hminMax, hmin₂]
    exact Nat.min_le_left _ _
  · rw [hmax₂]
    exact htotal

/-- **A header block** may be cut into pieces anywhere: it comes in CONTINUATIONs, and these come as
the network cuts them. -/
theorem sync_block {deflater deflater' : HdDeflater} {nva : List Nv} (hnva : ∀ nv ∈ nva, nv.Sized)
    (hshort : ∀ nv ∈ nva, nv.Short) {bufs bufs' : Bufs} (hready : bufs.Ready)
    (hempty : bufs.contents = [])
    (hdeflate : deflateHdBufs deflater bufs nva = (deflater', .ok bufs'))
    {inflater : HdInflater} (h : HdSync deflater inflater) {pieces : List Bytes} {last : Bytes}
    (hbytes : pieces.flatten ++ last = bufs'.contents) :
    ∃ inflater', inflateBlock inflater pieces last = (inflater', nva.map Nv.decoded, none) ∧
      HdSync deflater' inflater' := by
  obtain ⟨inflater', hfeed, hend, hsync⟩ :=
    feed_block hnva hshort hready hempty hdeflate h
  have hends := ends_inflateBlock h.decoder pieces last
  rw [hbytes, hfeed] at hends
  simp only [Ends, Bool.true_eq_false, if_false, hend, if_true] at hends
  exact ⟨_, hends, hsync⟩

end KituraHTTP2.Nghttp2
