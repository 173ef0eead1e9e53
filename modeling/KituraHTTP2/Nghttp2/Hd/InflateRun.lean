import KituraHTTP2.Nghttp2.Hd.InflateCuts

/-!
# The decoder at work

The session hands each piece of a header block to `inflateHeaderBlock`, which calls the decoder
until the piece is used up; with the last piece the block must be complete.  There are two loops,
one in the decoder, which ends with each field, and one in the session around it, and both end
because every turn makes the decoder cheaper (`cost_turn`).

The decoder is a `Reader`, and its calls are those of the reader (`ends_inflateHeaderBlock`).  What
is known of readers then holds of the session: it does not matter where the pieces end.  This needs
one thing that no single turn shows.  The end of a block is checked in two places, where the input
ends before anything is left to do and where it ends within something, and a decoder that is cut off
in the one place would have to be cut off in the other as well, had the pieces been cut differently.
`Ends` says what the last piece has to come to for both.

A decoder that has failed is `bad`, and every later call fails at once.  It must not be used
further, as it has missed a part of the block and its table is no longer that of the encoder; what
else is in it does not matter any more, and nothing is said about it.

* **`ends_inflateBlock`** — it does not matter how a header block is cut into pieces.
* **`inflateBlock_valid`** — after any bytes the decoder is as it should be, or the error is
  `NGHTTP2_ERR_HEADER_COMP`: nothing is read, written or looked up out of bounds, and the table is
  not larger than it may be.
* `hdInflateChangeTableSize_spec` — between two blocks the size of the table may be changed.
-/

namespace KituraHTTP2.Nghttp2

open Incremental

/-! ## The calls -/

/-- What a call of the decoder returns: the field with `NGHTTP2_HD_INFLATE_EMIT`,
`NGHTTP2_HD_INFLATE_FINAL`, and what it has left of the input. -/
structure Inflated where
  nv : Option HdNv
  final : Bool
  rest : Bytes

/-- `ctx.bad = 1` -/
def HdInflater.spoil (inflater : HdInflater) : HdInflater :=
  { inflater with ctx := { inflater.ctx with bad := true } }

/-- The loop of `nghttp2_hd_inflate_hd_nv`.  It ends with a field, or when the input is used up. -/
def hdInflateLoop (inFinal : Bool) (inflater : HdInflater) (input : Bytes) (busy : Bool) :
    HdInflater × Except InflateError Inflated :=
  if input = [] ∧ busy = false then
    if inFinal && !inflater.AtEnd then (inflater.spoil, .error .headerComp)
    else (inflater, .ok ⟨none, inFinal, []⟩)
  else
    match h : hdInflateTurn inflater input with
    | .next inflater' rest busy' => hdInflateLoop inFinal inflater' rest busy'
    | .emit inflater' nv rest => (inflater', .ok ⟨some nv, false, rest⟩)
    | .wait inflater' rest =>
      if inFinal then (inflater'.spoil, .error .headerComp)
      else (inflater', .ok ⟨none, false, rest⟩)
    | .fail error => (inflater.spoil, .error error)
termination_by inflater.cost input
decreasing_by
  have hcost := cost_turn inflater input
  rw [h] at hcost
  exact hcost

/-- `nghttp2_hd_inflate_hd_nv`, which a decoder that has failed refuses. -/
def hdInflateHdNv (inflater : HdInflater) (input : Bytes) (inFinal : Bool) :
    HdInflater × Except InflateError Inflated :=
  if inflater.ctx.bad then (inflater, .error .headerComp)
  else hdInflateLoop inFinal inflater input false

/-- `nghttp2_hd_inflate_end_headers` -/
def hdInflateEndHeaders (inflater : HdInflater) : HdInflater :=
  { inflater with state := .inflateStart }

/-- A call returns a field and has made progress, or it has used up the input. -/
lemma hdInflateLoop_progress (inFinal : Bool) (inflater : HdInflater) (input : Bytes)
    (busy : Bool) {inflater' : HdInflater} {r : Inflated}
    (h : hdInflateLoop inFinal inflater input busy = (inflater', .ok r)) :
    if r.nv.isSome then inflater'.cost r.rest < inflater.cost input else r.rest = [] := by
  induction hcost : inflater.cost input using Nat.strongRecOn generalizing inflater input busy with
  | ind n ih =>
    have hturn := cost_turn inflater input
    rw [hdInflateLoop] at h
    split at h
    · split at h
      · cases h
      · cases h
        rfl
    · split at h <;> rename_i heq <;> rw [heq] at hturn
      · rename_i inflater'' rest busy'
        have hlt : inflater''.cost rest < inflater.cost input := hturn
        have hrest := ih _ (hcost ▸ hlt) inflater'' rest busy' h rfl
        split
        · rename_i hsome
          rw [if_pos hsome] at hrest
          omega
        · rename_i hnone
          rwa [if_neg hnone] at hrest
      · cases h
        exact hcost ▸ hturn
      · split at h
        · cases h
        · cases h
          exact hturn.1
      · cases h

/-- `inflate_header_block`, where the callbacks succeed: the fields that they get, and the error. -/
def inflateHeaderBlock (inflater : HdInflater) (input : Bytes) (final : Bool) :
    HdInflater × List HdNv × Option InflateError :=
  match h : hdInflateHdNv inflater input final with
  | (inflater', .error error) => (inflater', [], some error)
  | (inflater', .ok r) =>
    if r.final then (hdInflateEndHeaders inflater', r.nv.toList, none)
    else if hstop : r.nv = none ∧ r.rest = [] then (inflater', [], none)
    else
      let next := inflateHeaderBlock inflater' r.rest final
      (next.1, r.nv.toList ++ next.2.1, next.2.2)
termination_by inflater.cost input
decreasing_by
  rw [hdInflateHdNv] at h
  split at h
  · cases h
  · have hprogress := hdInflateLoop_progress final inflater input false h
    cases hnv : r.nv with
    | none =>
      rw [hnv] at hprogress
      exact absurd ⟨hnv, hprogress⟩ hstop
    | some nv =>
      rw [hnv] at hprogress
      exact hprogress

/-! ## The reader -/

/-- The decoder as a reader. -/
def hdReader : Reader HdInflater UInt8 HdNv InflateError where
  turn := hdInflateTurn
  cost := HdInflater.cost
  inv := HdInflater.Valid
  ready := HdInflater.Ready
  cost_next {inflater _ input _ _} h := by
    have hcost := cost_turn inflater input
    rw [h] at hcost
    exact hcost
  cost_emit {inflater _ input _ _} h := by
    have hcost := cost_turn inflater input
    rw [h] at hcost
    exact hcost
  inv_next hvalid hready h := by
    have hok := valid_turn hvalid hready
    rw [h] at hok
    exact hok
  inv_emit hvalid hready h := by
    have hok := valid_turn hvalid hready
    rw [h] at hok
    exact hok.1
  inv_wait hvalid hready h := by
    have hok := valid_turn hvalid hready
    rw [h] at hok
    exact hok.1

/-- **The decoder's input can be cut in two**, in every valid state: no other law is needed for the
pieces not to matter. -/
lemma cuts_hdReader : hdReader.Cuts := fun hvalid _ _ hready hmore => turn_append hvalid hready hmore

/-! ## The calls are those of the reader -/

section Loop

variable {inflater inflater' : HdInflater} {input rest : Bytes} {busy busy' final : Bool}

lemma hdInflateLoop_nil (final : Bool) (inflater : HdInflater) :
    hdInflateLoop final inflater [] false =
      if final && !inflater.AtEnd then (inflater.spoil, .error .headerComp)
      else (inflater, .ok ⟨none, final, []⟩) := by
  rw [hdInflateLoop, if_pos ⟨rfl, rfl⟩]

lemma hdInflateLoop_next (h : Reader.Goes input busy)
    (hturn : hdInflateTurn inflater input = .next inflater' rest busy') :
    hdInflateLoop final inflater input busy = hdInflateLoop final inflater' rest busy' := by
  rw [hdInflateLoop, if_neg h.not]
  split <;> rename_i hsplit <;> cases hturn.symm.trans hsplit
  rfl

lemma hdInflateLoop_emit {nv : HdNv} (h : Reader.Goes input busy)
    (hturn : hdInflateTurn inflater input = .emit inflater' nv rest) :
    hdInflateLoop final inflater input busy = (inflater', .ok ⟨some nv, false, rest⟩) := by
  rw [hdInflateLoop, if_neg h.not]
  split <;> rename_i hsplit <;> cases hturn.symm.trans hsplit
  rfl

lemma hdInflateLoop_wait (h : Reader.Goes input busy)
    (hturn : hdInflateTurn inflater input = .wait inflater' rest) :
    hdInflateLoop final inflater input busy =
      if final then (inflater'.spoil, .error .headerComp)
      else (inflater', .ok ⟨none, false, rest⟩) := by
  rw [hdInflateLoop, if_neg h.not]
  split <;> rename_i hsplit <;> cases hturn.symm.trans hsplit
  rfl

lemma hdInflateLoop_fail {error : InflateError} (h : Reader.Goes input busy)
    (hturn : hdInflateTurn inflater input = .fail error) :
    hdInflateLoop final inflater input busy = (inflater.spoil, .error error) := by
  rw [hdInflateLoop, if_neg h.not]
  split <;> rename_i hsplit <;> cases hturn.symm.trans hsplit
  rfl

end Loop

/-- What `inflate_header_block` does after a call of the decoder. -/
def afterCall (final : Bool) :
    HdInflater × Except InflateError Inflated → HdInflater × List HdNv × Option InflateError
  | (inflater, .error error) => (inflater, [], some error)
  | (inflater, .ok r) =>
    if r.final then (hdInflateEndHeaders inflater, r.nv.toList, none)
    else if r.nv = none ∧ r.rest = [] then (inflater, [], none)
    else
      let next := inflateHeaderBlock inflater r.rest final
      (next.1, r.nv.toList ++ next.2.1, next.2.2)

lemma inflateHeaderBlock_eq_afterCall (inflater : HdInflater) (input : Bytes) (final : Bool) :
    inflateHeaderBlock inflater input final =
      afterCall final (hdInflateHdNv inflater input final) := by
  rw [inflateHeaderBlock]
  split
  · rename_i heq
    rw [heq, afterCall]
  · rename_i heq
    rw [heq, afterCall]
    split
    · rfl
    · split <;> rfl

/-- What a piece of a block comes to when the reader ends with `result`: with the last piece the
block must be complete. -/
def Ends (final : Bool) (result : List HdNv × Except InflateError HdInflater)
    (r : HdInflater × List HdNv × Option InflateError) : Prop :=
  match result.2 with
  | .error error => r.1.ctx.bad = true ∧ r.2 = (result.1, some error)
  | .ok inflater =>
    if final = false then r = (inflater, result.1, none)
    else if inflater.AtEnd then r = (hdInflateEndHeaders inflater, result.1, none)
    else r.1.ctx.bad = true ∧ r.2 = (result.1, some .headerComp)

lemma Ends.before {final : Bool} {result : List HdNv × Except InflateError HdInflater}
    {r : HdInflater × List HdNv × Option InflateError} (h : Ends final result r)
    (out : List HdNv) : Ends final (Reader.before out result) (r.1, out ++ r.2.1, r.2.2) := by
  rcases result with ⟨nvs, error | inflater⟩
  · obtain ⟨hbad, heq⟩ := h
    simp only [Ends, Reader.before, heq]
    exact ⟨hbad, trivial⟩
  · simp only [Ends, Reader.before] at h ⊢
    split
    · rename_i hfinal
      rw [if_pos hfinal] at h
      rw [h]
    · rename_i hfinal
      rw [if_neg hfinal] at h
      split
      · rename_i hend
        rw [if_pos hend] at h
        rw [h]
      · rename_i hend
        rw [if_neg hend] at h
        rw [h.2]
        exact ⟨h.1, rfl⟩

/-- **The calls for a piece of a block are the turns of the reader.**  A call makes the turns up to
the next field; the induction is on the cost of what is left after it. -/
theorem ends_inflateHeaderBlock {inflater : HdInflater} (h : inflater.Valid) (input : Bytes)
    (final : Bool) :
    Ends final (hdReader.feed inflater input false) (inflateHeaderBlock inflater input final) := by
  have hcall : ∀ {inflater : HdInflater}, inflater.Valid → ∀ input,
      inflateHeaderBlock inflater input final =
        afterCall final (hdInflateLoop final inflater input false) := by
    intro inflater hvalid input
    rw [inflateHeaderBlock_eq_afterCall, hdInflateHdNv, hvalid.good]
    rfl
  rw [hcall h]
  have hready : false = true → inflater.Ready := by simp
  revert h hready
  refine Reader.feed_induct (r := hdReader) (P := fun inflater input busy => inflater.Valid →
    (busy = true → inflater.Ready) → Ends final (hdReader.feed inflater input busy)
      (afterCall final (hdInflateLoop final inflater input busy))) ?_ ?_ ?_ ?_ ?_ inflater input false
  · intro inflater h _
    rw [Reader.feed_nil, hdInflateLoop_nil]
    cases final with
    | false => simp [Ends, afterCall]
    | true => cases hend : inflater.AtEnd <;> simp [Ends, afterCall, hend, HdInflater.spoil]
  · intro inflater input busy inflater' rest busy' hgoes hturn ih h hready
    have hvalid := hdReader.inv_next h (hgoes.ready hready) hturn
    rw [Reader.feed_next hgoes hturn, hdInflateLoop_next hgoes hturn]
    exact ih hvalid.1 hvalid.2
  · intro inflater input busy inflater' nv rest hgoes hturn ih h hready
    have hvalid := hdReader.inv_emit h (hgoes.ready hready) hturn
    rw [Reader.feed_emit hgoes hturn, hdInflateLoop_emit hgoes hturn]
    have hrest := (ih hvalid (by simp)).before [nv]
    rw [← hcall hvalid] at hrest
    simpa [afterCall] using hrest
  · intro inflater input busy inflater' rest hgoes hturn h _
    have hcost := cost_turn inflater input
    rw [show hdInflateTurn inflater input = _ from hturn] at hcost
    obtain ⟨rfl, hend⟩ := hcost
    rw [Reader.feed_wait hgoes hturn, hdInflateLoop_wait hgoes hturn]
    cases final with
    | false => simp [Ends, afterCall]
    | true => simp [Ends, afterCall, hend, HdInflater.spoil]
  · intro inflater input busy error hgoes hturn h _
    rw [Reader.feed_fail hgoes hturn, hdInflateLoop_fail hgoes hturn]
    exact ⟨rfl, rfl⟩

/-! ## A block in pieces -/

/-- A header block that comes in `pieces` and a last one, which the session knows to be the last:
the frame has `END_HEADERS` and nothing is left of it. -/
def inflateBlock (inflater : HdInflater) : List Bytes → Bytes →
    HdInflater × List HdNv × Option InflateError
  | [], last => inflateHeaderBlock inflater last true
  | piece :: pieces, last =>
    match inflateHeaderBlock inflater piece false with
    | (inflater, nvs, some error) => (inflater, nvs, some error)
    | (inflater, nvs, none) =>
      let next := inflateBlock inflater pieces last
      (next.1, nvs ++ next.2.1, next.2.2)

/-- **The pieces are read as if they were one.**  Only the last piece is told apart, by what has to
be complete at its end. -/
theorem ends_inflateBlock {inflater : HdInflater} (h : inflater.Valid) (pieces : List Bytes)
    (last : Bytes) :
    Ends true (hdReader.feed inflater (pieces.flatten ++ last) false)
      (inflateBlock inflater pieces last) := by
  induction pieces generalizing inflater with
  | nil => exact ends_inflateHeaderBlock h last true
  | cons piece pieces ih =>
    have hends := ends_inflateHeaderBlock h piece false
    have hvalid := Reader.feed_preserves (r := hdReader) (fun _ => True)
      (fun _ _ _ _ _ _ => trivial) h piece false (by simp)
    rw [List.flatten_cons, List.append_assoc, cuts_hdReader.feed_append h (by simp),
      inflateBlock]
    rcases hfirst : hdReader.feed inflater piece false with ⟨nvs, error | inflater'⟩
    · rw [hfirst] at hends
      rcases hpiece : inflateHeaderBlock inflater piece false with ⟨inflater', nvs', error'⟩
      rw [hpiece] at hends
      obtain ⟨hbad, heq⟩ := hends
      cases heq
      exact ⟨hbad, rfl⟩
    · rw [hfirst] at hends hvalid
      have hpiece : inflateHeaderBlock inflater piece false = (inflater', nvs, none) := hends
      rw [hpiece]
      exact (ih hvalid).before nvs

/-- The decoder after a block without errors. -/
lemma HdInflater.Valid.endHeaders {inflater : HdInflater} (h : inflater.Valid) :
    (hdInflateEndHeaders inflater).Valid :=
  ⟨h.ctx, h.good, h.settings_lt, h.min_lt, h.indexed, trivial⟩

/-- The only error of a turn: the others of `InflateError` would be accesses out of bounds. -/
lemma fail_turn {inflater : HdInflater} (h : inflater.Valid) {input : Bytes}
    (hready : input ≠ [] ∨ inflater.Ready) {error : InflateError}
    (hturn : hdInflateTurn inflater input = .fail error) : error = .headerComp := by
  have hok := valid_turn h hready
  rw [hturn] at hok
  exact hok

/-- **After any bytes** the decoder is valid and at the beginning of a block, or the error is
`NGHTTP2_ERR_HEADER_COMP` and it cannot be used any more.  Nothing is asked of the bytes, nor of the
pieces, because the peer chooses the ones and the network the others. -/
theorem inflateBlock_valid {inflater : HdInflater} (h : inflater.Valid) (pieces : List Bytes)
    (last : Bytes) :
    match (inflateBlock inflater pieces last).2.2 with
    | none => (inflateBlock inflater pieces last).1.Valid ∧
        (inflateBlock inflater pieces last).1.state = .inflateStart
    | some error => error = .headerComp ∧
        (inflateBlock inflater pieces last).1.ctx.bad = true := by
  have hends := ends_inflateBlock h pieces last
  have hpreserves := Reader.feed_preserves (r := hdReader) (fun error => error = .headerComp)
    (fun _ _ _ hvalid hready hturn => fail_turn hvalid hready hturn) h (pieces.flatten ++ last) false
    (by simp)
  rcases hfeed : hdReader.feed inflater (pieces.flatten ++ last) false with
    ⟨nvs, error | inflater'⟩
  · rw [hfeed] at hends hpreserves
    obtain ⟨hbad, heq⟩ := hends
    rw [heq]
    exact ⟨hpreserves, hbad⟩
  · rw [hfeed] at hends hpreserves
    simp only [Ends, Bool.true_eq_false, if_false] at hends
    split at hends
    · rw [hends]
      exact ⟨HdInflater.Valid.endHeaders hpreserves, rfl⟩
    · rw [hends.2]
      exact ⟨rfl, hends.1⟩

theorem inflateBlock_valid_method :
    match (inflateBlock hdInflateInit [[0x82]] []).2.2 with
    | none => (inflateBlock hdInflateInit [[0x82]] []).1.Valid ∧
        (inflateBlock hdInflateInit [[0x82]] []).1.state = .inflateStart
    | some error => error = .headerComp ∧
        (inflateBlock hdInflateInit [[0x82]] []).1.ctx.bad = true :=
  inflateBlock_valid valid_hdInflateInit _ _

/-! ## The size of the table -/

/-- `nghttp2_hd_inflate_change_table_size`; `none` is `NGHTTP2_ERR_INVALID_STATE`. -/
def hdInflateChangeTableSize (inflater : HdInflater) (settingsMaxDynamicTableSize : ℕ) :
    Option HdInflater :=
  if inflater.state = .expectTableSize ∨ inflater.state = .inflateStart then
    let inflater :=
      if settingsMaxDynamicTableSize < inflater.ctx.bufsizeMax then
        { inflater with
          state := .expectTableSize
          minHdTableBufsizeMax := settingsMaxDynamicTableSize }
      else inflater
    some { inflater with
      settingsHdTableBufsizeMax := settingsMaxDynamicTableSize
      ctx := (hdContextShrinkTableSize
        { inflater.ctx with bufsizeMax := settingsMaxDynamicTableSize } none).1 }
  else none

/-- The part of `nghttp2_session_update_local_settings` that is about the values of
`SETTINGS_HEADER_TABLE_SIZE`, of which the smallest and the last one count. -/
def updateLocalTableSize (inflater : HdInflater) (sizes : List ℕ) : Option HdInflater :=
  match sizes.getLast? with
  | none => some inflater
  | some headerTableSize =>
    let minHeaderTableSize := sizes.foldl min uint32Max
    if minHeaderTableSize < headerTableSize then
      (hdInflateChangeTableSize inflater minHeaderTableSize).bind fun inflater =>
        hdInflateChangeTableSize inflater headerTableSize
    else hdInflateChangeTableSize inflater headerTableSize

/-- The states between two blocks. -/
def HdInflater.Between (inflater : HdInflater) : Prop :=
  inflater.state = .expectTableSize ∨ inflater.state = .inflateStart

/-- The decoder with another size of the table.  If it is smaller than before, the next block has to
begin with a size. -/
structure Resized (inflater inflater' : HdInflater) (size : ℕ) : Prop where
  valid : inflater'.Valid
  between : inflater'.Between
  table : inflater'.ctx.toTable = inflater.ctx.toTable.resize size
  settings : inflater'.settingsHdTableBufsizeMax = size
  min : inflater'.minHdTableBufsizeMax =
    if size < inflater.ctx.bufsizeMax then size else inflater.minHdTableBufsizeMax
  start : ¬ size < inflater.ctx.bufsizeMax → inflater'.state = inflater.state

/-- Between two blocks the size may be changed. -/
theorem hdInflateChangeTableSize_spec {inflater : HdInflater} (h : inflater.Valid)
    (hbetween : inflater.Between) {size : ℕ} (hsize : size < 2 ^ 32) :
    ∃ inflater', hdInflateChangeTableSize inflater size = some inflater' ∧
      Resized inflater inflater' size := by
  have hvalid := h.ctx
  have hshrink := hvalid.shrink hsize none (by simp)
  have hgood : (hdContextShrinkTableSize { inflater.ctx with bufsizeMax := size } none).1.bad =
      false := hshrink.bad.trans h.good
  have hbetween' : inflater.state = .expectTableSize ∨ inflater.state = .inflateStart := hbetween
  simp only [hdInflateChangeTableSize, hbetween', if_true]
  refine ⟨_, rfl, ?_⟩
  split
  · rename_i hless
    exact ⟨⟨hshrink.valid, hgood, hsize, hsize, h.indexed, trivial⟩, Or.inl rfl,
      hshrink.toTable_resize, rfl, (if_pos hless).symm, fun hnot => absurd hless hnot⟩
  · rename_i hless
    have hstate : HdInflater.StateOk { inflater with
        settingsHdTableBufsizeMax := size
        ctx := (hdContextShrinkTableSize { inflater.ctx with bufsizeMax := size } none).1 } := by
      rcases hbetween with hs | hs <;> simp only [HdInflater.StateOk, hs]
    exact ⟨⟨hshrink.valid, hgood, hsize, h.min_lt, h.indexed, hstate⟩, hbetween,
      hshrink.toTable_resize, rfl, (if_neg hless).symm, fun _ => rfl⟩

end KituraHTTP2.Nghttp2
