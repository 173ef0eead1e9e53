import Mathlib.Algebra.Order.BigOperators.Group.List
import KituraHTTP2.Nghttp2.Frame
import KituraHTTP2.Nghttp2.Hd.Deflate

/-!
# HEADERS, PUSH_PROMISE and CONTINUATION

A frame with a header block cannot be packed from the front.  Its length is not known before the
block was encoded, and neither is the number of frames, as a block that does not fit into one frame
goes on in CONTINUATIONs.  So nghttp2 writes the block first, to the buffers of the session, and
packs the frames around it.

The chain is laid out for that.  Each buffer leaves room for a header before what is written to it,
and holds as much after it as a frame may carry; so each buffer that the block needs becomes a frame
of its own, in place.  The first one is the HEADERS or PUSH_PROMISE, the others are CONTINUATIONs,
and the last one has the flag `END_HEADERS`, which is taken from the first if there are others.  In
the first buffer the block begins a little later (`Buf.leave`), because the priority or the promised
stream comes before it; these few bytes are written backwards too (`Bufs.prependHead`).

A block may be too long for the chain.  Before a frame is packed `session_prep_frame` bounds the
length of its block by the lengths of the fields, and refuses the frame if that bound is above the
limit from which the number of buffers is reckoned (`Fits`).  The bound is that of
`nghttp2_hd_deflate_bound`, and it is right because no representation is longer than its texts and
twelve bytes.  So the session never meets the error that the buffers are full, which would leave it
with an encoder that is `bad`.

* **`exists_packHeadersShared`** — each buffer becomes a frame.
* `exists_left`, `exists_prependHead` — the room before the block, and what is written there.
* **`packed_packHeaderBlock`** — a block that the session agrees to send (`Fits`) fits into the
  buffers, and the frames that are written have at most 16384 bytes of payload: the priority fields
  and the block.
-/

namespace KituraHTTP2.Nghttp2

/-- `nghttp2_headers` -/
structure Headers where
  hd : FrameHd
  nva : List Nv
  priSpec : PrioritySpec

/-- `nghttp2_frame_headers_init` -/
def frameHeadersInit (flags : UInt8) (streamId : StreamId) (priSpec : Option PrioritySpec)
    (nva : List Nv) : Headers :=
  ⟨⟨0, FrameType.headers.toUInt8, flags, streamId⟩, nva, priSpec.getD prioritySpecDefaultInit⟩

/-- `pos += offset`, `last = pos`; `none` is a place beyond the end of the buffer. -/
def Buf.leave (buf : Buf) (offset : ℕ) : Option Buf :=
  if h : buf.pos + offset ≤ buf.mem.length then
    some ⟨buf.mem, buf.pos + offset, buf.pos + offset, Nat.le_refl _, h⟩
  else none

/-- `data` is written before the contents of the first buffer. -/
def Bufs.prependHead (bufs : Bufs) (data : Bytes) : Option Bufs :=
  match h : bufs.prior with
  | [] => (bufs.cur.prepend data).map fun cur => { bufs with cur := cur }
  | head :: prior =>
    (head.prepend data).map fun head =>
      { bufs with
        prior := head :: prior
        used_le := by simpa [h] using bufs.used_le }

/-- The header of a frame is written before its payload, which is what is in the buffer. -/
def packHd (hd : FrameHd) (buf : Buf) : Option Buf :=
  buf.prepend (packFrameHd { hd with length := buf.len })

lemma length_of_mapM {α β : Type*} {f : α → Option β} {xs : List α} {ys : List β}
    (h : xs.mapM f = some ys) : ys.length = xs.length := by
  induction xs generalizing ys with
  | nil =>
    cases h
    rfl
  | cons x xs ih =>
    rw [List.mapM_cons] at h
    obtain ⟨y, -, hrest⟩ := Option.bind_eq_some_iff.1 h
    obtain ⟨ys', hys', heq⟩ := Option.bind_eq_some_iff.1 hrest
    cases heq
    rw [List.length_cons, List.length_cons, ih hys']

/-- `frame_pack_headers_shared` -/
def packHeadersShared (bufs : Bufs) (frameHd : FrameHd) : Option Bufs :=
  match h : bufs.prior with
  | [] => (packHd frameHd bufs.cur).map fun cur => { bufs with cur := cur }
  | head :: prior =>
    let hd := { frameHd with flags := frameHd.flags &&& ~~~flagEndHeaders }
    let cont := { hd with type := FrameType.continuation.toUInt8, flags := flagNone }
    (packHd hd head).bind fun head =>
      match hprior : prior.mapM (packHd cont) with
      | none => none
      | some prior' =>
        (packHd { cont with flags := flagEndHeaders } bufs.cur).map fun cur =>
          { bufs with
            prior := head :: prior'
            cur := cur
            used_le := by
              have hused := bufs.used_le
              have hlength := length_of_mapM hprior
              simp only [h, List.length_cons] at hused ⊢
              omega }

/-- What `nghttp2_frame_pack_headers` and `nghttp2_frame_pack_push_promise` have in common: `lead`
is what comes before the header block. -/
def packHeaderBlock (bufs : Bufs) (hd : FrameHd) (nva : List Nv) (lead : Bytes)
    (deflater : HdDeflater) : HdDeflater × Except PackError Bufs :=
  match bufs.cur.leave lead.length with
  | none => (deflater, .error .invalidWrite)
  | some cur =>
    match deflateHdBufs deflater { bufs with cur := cur } nva with
    | (deflater, .error (.bufs .invalidWrite)) => (deflater, .error .invalidWrite)
    | (deflater, .error _) => (deflater, .error .headerComp)
    | (deflater, .ok bufs) =>
      match (bufs.prependHead lead).bind fun bufs => packHeadersShared bufs hd with
      | none => (deflater, .error .invalidWrite)
      | some bufs => (deflater, .ok bufs)

/-- `nghttp2_frame_pack_headers` -/
def packHeaders (bufs : Bufs) (frame : Headers) (deflater : HdDeflater) :
    HdDeflater × Except PackError Bufs :=
  packHeaderBlock bufs frame.hd frame.nva
    (if frame.hd.flags &&& flagPriority ≠ 0 then packPrioritySpec frame.priSpec else []) deflater

/-- `nghttp2_frame_pack_push_promise` -/
def packPushPromise (bufs : Bufs) (hd : FrameHd) (promisedStreamId : StreamId) (nva : List Nv)
    (deflater : HdDeflater) : HdDeflater × Except PackError Bufs :=
  packHeaderBlock bufs hd nva (putUint32be (uint32 promisedStreamId)) deflater

/-! ## The frames that are written -/

/-- CONTINUATIONs with the given payloads. -/
def continuations (streamId : StreamId) : List Bytes → List (FrameHd × Bytes)
  | [] => []
  | [payload] =>
    [(⟨payload.length, FrameType.continuation.toUInt8, flagEndHeaders, streamId⟩, payload)]
  | payload :: payloads =>
    (⟨payload.length, FrameType.continuation.toUInt8, flagNone, streamId⟩, payload) ::
      continuations streamId payloads

/-- The frames of a header block with the given payloads.  `END_HEADERS` moves to the last of them.
-/
def headerFrames (hd : FrameHd) (payload : Bytes) : List Bytes → List (FrameHd × Bytes)
  | [] => [({ hd with length := payload.length }, payload)]
  | payload' :: payloads =>
    ({ hd with length := payload.length, flags := hd.flags &&& ~~~flagEndHeaders }, payload) ::
      continuations hd.streamId (payload' :: payloads)

/-- The bytes of frames. -/
def wire (frames : List (FrameHd × Bytes)) : Bytes :=
  frames.flatMap fun frame => packFrameHd frame.1 ++ frame.2

lemma continuations_concat (streamId : StreamId) (payloads : List Bytes) (last : Bytes) :
    continuations streamId (payloads ++ [last]) =
      payloads.map (fun payload =>
        (⟨payload.length, FrameType.continuation.toUInt8, flagNone, streamId⟩, payload)) ++
      [(⟨last.length, FrameType.continuation.toUInt8, flagEndHeaders, streamId⟩, last)] := by
  induction payloads with
  | nil => rfl
  | cons payload payloads ih =>
    cases payloads with
    | nil => rfl
    | cons payload' payloads =>
      change _ :: continuations streamId (payload' :: payloads ++ [last]) = _
      rw [ih]
      rfl

lemma headerFrames_of_ne_nil (hd : FrameHd) (payload : Bytes) {payloads : List Bytes}
    (h : payloads ≠ []) :
    headerFrames hd payload payloads =
      ({ hd with length := payload.length, flags := hd.flags &&& ~~~flagEndHeaders }, payload) ::
        continuations hd.streamId payloads := by
  cases payloads with
  | nil => exact absurd rfl h
  | cons payload' payloads => rfl

lemma Buf.length_contents (buf : Buf) : buf.contents.length = buf.len := by
  have hlast := buf.last_le
  rw [Buf.contents, Buf.len, List.length_drop, List.length_take, Nat.min_eq_left hlast]

/-- A header is written before the contents of a buffer. -/
structure Headed (hd : FrameHd) (buf buf' : Buf) : Prop where
  contents : buf'.contents =
    packFrameHd { hd with length := buf.contents.length } ++ buf.contents
  length : buf'.mem.length = buf.mem.length

lemma exists_packHd (hd : FrameHd) {buf : Buf} (h : frameHdlen ≤ buf.pos) :
    ∃ buf', packHd hd buf = some buf' ∧ Headed hd buf buf' := by
  obtain ⟨buf', hbuf'⟩ : ∃ buf', buf.prepend (packFrameHd { hd with length := buf.len }) = some buf' :=
    exists_prepend (by rwa [length_packFrameHd])
  exact ⟨buf', hbuf', by rw [contents_prepend hbuf', buf.length_contents], length_prepend hbuf'⟩

lemma exists_mapM_packHd (hd : FrameHd) {bufs : List Buf} (h : ∀ buf ∈ bufs, frameHdlen ≤ buf.pos) :
    ∃ bufs', bufs.mapM (packHd hd) = some bufs' ∧ List.Forall₂ (Headed hd) bufs bufs' := by
  induction bufs with
  | nil => exact ⟨[], rfl, .nil⟩
  | cons buf bufs ih =>
    obtain ⟨buf', hbuf', hheaded⟩ := exists_packHd hd (h buf List.mem_cons_self)
    obtain ⟨bufs', hbufs', hall⟩ := ih fun buf hbuf => h buf (List.mem_cons_of_mem _ hbuf)
    exact ⟨buf' :: bufs', by simp [List.mapM_cons, hbuf', hbufs'], .cons hheaded hall⟩

/-- The contents of CONTINUATIONs without `END_HEADERS`. -/
lemma contents_of_headed {streamId : StreamId} {n : ℕ} {bufs bufs' : List Buf}
    (h : List.Forall₂ (Headed ⟨n, FrameType.continuation.toUInt8, flagNone, streamId⟩) bufs bufs') :
    bufs'.flatMap Buf.contents = wire ((bufs.map Buf.contents).map fun payload =>
      (⟨payload.length, FrameType.continuation.toUInt8, flagNone, streamId⟩, payload)) := by
  induction h with
  | nil => rfl
  | cons head tail ih =>
    simp only [List.flatMap_cons, List.map_cons, wire] at ih ⊢
    rw [ih, head.contents]

lemma length_of_headed {hd : FrameHd} {size : ℕ} {bufs bufs' : List Buf}
    (h : List.Forall₂ (Headed hd) bufs bufs') (hsize : ∀ buf ∈ bufs, buf.mem.length = size) :
    ∀ buf ∈ bufs', buf.mem.length = size := by
  induction h with
  | nil => simp
  | cons head tail ih =>
    rintro buf (_ | ⟨_, hbuf⟩)
    · exact head.length.trans (hsize _ List.mem_cons_self)
    · exact ih (fun buf hbuf => hsize buf (List.mem_cons_of_mem _ hbuf)) buf hbuf

/-- The payloads of the frames that a chain of buffers becomes. -/
def Bufs.payloads (bufs : Bufs) : List Bytes := (bufs.prior ++ [bufs.cur]).map Buf.contents

/-- **Each buffer becomes a frame.**  The first keeps the flags that it was given if it is the only
one; otherwise they lose `END_HEADERS`, and the last CONTINUATION gets it. -/
theorem exists_packHeadersShared {bufs : Bufs} (hlaid : bufs.Laid frameHdlen)
    (hnext : bufs.next = []) (hd : FrameHd) :
    ∃ bufs' payload payloads, packHeadersShared bufs hd = some bufs' ∧
      bufs.payloads = payload :: payloads ∧
      bufs'.contents = wire (headerFrames hd payload payloads) ∧ Bufs.Kept bufs bufs' := by
  have hcur : frameHdlen ≤ bufs.cur.pos := (hlaid bufs.cur (by simp)).2
  have hsize : bufs.cur.mem.length = bufs.chunkLength := (hlaid bufs.cur (by simp)).1
  unfold packHeadersShared
  split
  · rename_i hprior
    obtain ⟨cur, hpack, hheaded⟩ := exists_packHd hd hcur
    rw [hpack]
    refine ⟨_, bufs.cur.contents, [], rfl, ?_, ?_, rfl, rfl, rfl, ?_⟩
    · simp [Bufs.payloads, hprior]
    · simp [Bufs.contents, hprior, hnext, hheaded.contents, wire, headerFrames]
    · intro buf hbuf
      simp only [hprior, hnext, List.nil_append, List.mem_singleton] at hbuf
      subst hbuf
      exact ⟨hheaded.length.trans hsize, Nat.zero_le _⟩
  · rename_i head prior hprior
    have hmem : ∀ buf ∈ head :: prior, buf.mem.length = bufs.chunkLength ∧ frameHdlen ≤ buf.pos :=
      fun buf hbuf => hlaid buf (by rw [hprior]; exact List.mem_append_left _ hbuf)
    obtain ⟨head', hpack, hheaded⟩ := exists_packHd
      { hd with flags := hd.flags &&& ~~~flagEndHeaders } (hmem head List.mem_cons_self).2
    obtain ⟨prior', hpack', hall⟩ := exists_mapM_packHd
      { hd with type := FrameType.continuation.toUInt8, flags := flagNone }
      (show ∀ buf ∈ prior, frameHdlen ≤ buf.pos from
        fun buf hbuf => (hmem buf (List.mem_cons_of_mem _ hbuf)).2)
    obtain ⟨cur', hpack'', hheaded'⟩ := exists_packHd
      { hd with type := FrameType.continuation.toUInt8, flags := flagEndHeaders } hcur
    simp only [hpack, Option.bind_some]
    split
    · rename_i hnone
      cases hpack'.symm.trans hnone
    · rename_i prior'' hsome
      cases hpack'.symm.trans hsome
      rw [hpack'']
      refine ⟨_, head.contents, prior.map Buf.contents ++ [bufs.cur.contents], rfl, ?_, ?_, rfl,
        rfl, rfl, ?_⟩
      · simp [Bufs.payloads, hprior]
      · have hcontents := contents_of_headed hall
        rw [headerFrames_of_ne_nil _ _ (by simp), continuations_concat]
        simp only [Bufs.contents, hnext, List.flatMap_append, List.flatMap_cons, List.flatMap_nil,
          hcontents, hheaded.contents, hheaded'.contents, wire, List.append_nil, List.append_assoc]
      · intro buf hbuf
        simp only [hnext, List.mem_append, List.mem_cons, List.not_mem_nil, or_false] at hbuf
        rcases hbuf with (rfl | hbuf) | rfl
        · exact ⟨hheaded.length.trans (hmem head List.mem_cons_self).1, Nat.zero_le _⟩
        · exact ⟨length_of_headed hall (fun buf hbuf =>
            (hmem buf (List.mem_cons_of_mem _ hbuf)).1) buf hbuf, Nat.zero_le _⟩
        · exact ⟨hheaded'.length.trans hsize, Nat.zero_le _⟩

/-! ## A header block in the buffers -/

/-- The size of a header block that the session agrees to send: what `session_prep_frame` checks
before anything of it is encoded. -/
def Fits (nva : List Nv) : Prop :=
  Session.deflateBound (nva.map fun nv => (nv.name, nv.value)) + prioritySpecLen ≤
    maxSendHeaderBlockLength

lemma Fits.sum_le {nva : List Nv} (h : Fits nva) :
    12 + 12 * nva.length + (nva.map fun nv => nv.name.length + nv.value.length).sum +
      prioritySpecLen ≤ maxSendHeaderBlockLength := by
  simpa [Fits, Session.deflateBound, Function.comp_def] using h

lemma Fits.nv_le {nva : List Nv} (h : Fits nva) {nv : Nv} (hnv : nv ∈ nva) :
    nv.name.length + nv.value.length ≤ maxSendHeaderBlockLength := by
  have hsum := h.sum_le
  have hle := List.single_le_sum (l := nva.map fun nv => nv.name.length + nv.value.length)
    (by simp) _ (List.mem_map_of_mem hnv)
  omega

lemma Fits.small {nva : List Nv} (h : Fits nva) : ∀ nv ∈ nva, nv.Small := by
  intro nv hnv
  have hle := h.nv_le hnv
  simp only [maxSendHeaderBlockLength] at hle
  rw [Nv.Small]
  omega

lemma Fits.sized {nva : List Nv} (h : Fits nva) : ∀ nv ∈ nva, nv.Sized := by
  intro nv hnv
  have hle := h.nv_le hnv
  simp only [maxSendHeaderBlockLength] at hle
  rw [Nv.Sized]
  omega

lemma Fits.short {nva : List Nv} (h : Fits nva) : ∀ nv ∈ nva, nv.Short := by
  intro nv hnv
  have hle := h.nv_le hnv
  have hname := HdString.length_encoded_choose_le nv.name
  have hvalue := HdString.length_encoded_choose_le nv.value
  simp only [maxSendHeaderBlockLength] at hle
  rw [Nv.Short, Rep.maxNv]
  omega

/-- The buffers with room before the header block. -/
structure Left (bufs : Bufs) (cur : Buf) (offset : ℕ) : Prop where
  leave : bufs.cur.leave offset = some cur
  ready : Bufs.Ready { bufs with cur := cur }
  contents : Bufs.contents { bufs with cur := cur } = []
  room : Bufs.room { bufs with cur := cur } + offset = maxSendHeaderBlockLength
  laid : Bufs.Laid { bufs with cur := cur } (frameHdlen + 1)
  pos : cur.pos = frameHdlen + 1 + offset

lemma exists_left {bufs : Bufs} (h : bufs.Clear) {offset : ℕ} (hoffset : offset ≤ maxPayloadlen) :
    ∃ cur, Left bufs cur offset := by
  have hle : bufs.cur.pos + offset ≤ bufs.cur.mem.length := by
    rw [h.pos, h.length, framebufChunklen]
    omega
  refine ⟨⟨bufs.cur.mem, bufs.cur.pos + offset, bufs.cur.pos + offset, Nat.le_refl _, hle⟩,
    dif_pos hle, ⟨h.ready.empty, h.ready.avail, h.ready.fresh⟩, ?_, ?_, ?_, ?_⟩
  · simp only [Bufs.contents, h.prior, h.next, List.nil_append, List.flatMap_singleton,
      Buf.contents]
    exact List.drop_eq_nil_of_le (List.length_take_le _ _)
  · simp only [Bufs.room, Bufs.chunkUsed, Buf.avail, h.prior, h.next, h.pos, h.length, h.maxChunk,
      h.chunkLength, h.offset, List.map_nil, List.sum_nil, List.length_nil]
    have hnumbers : (nbuffer - (0 + 1 + 0)) * (framebufChunklen - (frameHdlen + 1)) +
        maxPayloadlen = maxSendHeaderBlockLength := by decide
    have hchunk : framebufChunklen = frameHdlen + 1 + maxPayloadlen := rfl
    omega
  · intro buf hbuf
    simp only [h.prior, h.next, List.nil_append, List.mem_singleton] at hbuf
    subst hbuf
    simp only [h.pos]
    exact ⟨h.length.trans h.chunkLength.symm, Nat.le_add_right _ _⟩
  · simp only [h.pos]

/-- What comes first in the payload is written before the block. -/
lemma exists_prependHead {bufs : Bufs} {lead : Bytes} (hlaid : bufs.Laid (frameHdlen + 1))
    (hpos : bufs.head.pos = frameHdlen + 1 + lead.length) :
    ∃ bufs', bufs.prependHead lead = some bufs' ∧ bufs'.Laid (frameHdlen + 1) ∧
      bufs'.next = bufs.next ∧ bufs'.payloads.flatten = lead ++ bufs.payloads.flatten ∧
      (∀ payload ∈ bufs'.payloads.head?, lead <+: payload) ∧
      bufs'.chunkLength = bufs.chunkLength ∧ bufs'.maxChunk = bufs.maxChunk ∧
      bufs'.offset = bufs.offset := by
  have hprepend : ∃ head', bufs.head.prepend lead = some head' := exists_prepend (by omega)
  obtain ⟨head', hhead'⟩ := hprepend
  have hpos' : head'.pos = frameHdlen + 1 := by
    unfold Buf.prepend at hhead'
    split at hhead'
    · cases hhead'
      simp only
      omega
    · cases hhead'
  have hlength := (length_prepend hhead').trans (hlaid _ bufs.mem_head).1
  have hcontents := contents_prepend hhead'
  unfold Bufs.prependHead
  split
  · rename_i hprior
    rw [Bufs.head, hprior, List.headD_nil] at hhead' hcontents
    rw [hhead']
    refine ⟨_, rfl, ?_, rfl, ?_, ?_, rfl, rfl, rfl⟩
    · intro buf hbuf
      simp only [hprior, List.nil_append, List.mem_cons] at hbuf
      rcases hbuf with rfl | hbuf
      · exact ⟨hlength, hpos'.ge⟩
      · exact hlaid buf (by simp [hbuf])
    · simp [Bufs.payloads, hprior, hcontents]
    · simp [Bufs.payloads, hprior, hcontents]
  · rename_i head prior hprior
    rw [Bufs.head, hprior, List.headD_cons] at hhead' hcontents
    rw [hhead']
    refine ⟨_, rfl, ?_, rfl, ?_, ?_, rfl, rfl, rfl⟩
    · intro buf hbuf
      simp only [List.cons_append, List.mem_cons, List.mem_append] at hbuf
      rcases hbuf with rfl | hbuf | rfl | hbuf
      · exact ⟨hlength, hpos'.ge⟩
      · exact hlaid buf (by simp [hprior, hbuf])
      · exact hlaid bufs.cur (by simp)
      · exact hlaid buf (by simp [hbuf])
    · simp [Bufs.payloads, hprior, hcontents]
    · simp [Bufs.payloads, hcontents]

lemma Bufs.flatten_payloads {bufs : Bufs} (hnext : bufs.next = []) :
    bufs.payloads.flatten = bufs.contents := by
  rw [Bufs.payloads, Bufs.contents, hnext, List.flatMap_def]

/-- A buffer of the session holds the payload of a frame at most. -/
lemma length_payload_le {bufs : Bufs} (hlaid : bufs.Laid (frameHdlen + 1))
    (hchunk : bufs.chunkLength = framebufChunklen) :
    ∀ payload ∈ bufs.payloads, payload.length ≤ maxPayloadlen := by
  intro payload hpayload
  obtain ⟨buf, hbuf, rfl⟩ := List.mem_map.1 hpayload
  have hmem : buf ∈ bufs.prior ++ bufs.cur :: bufs.next := by
    simp only [List.mem_append, List.mem_cons] at hbuf ⊢
    tauto
  obtain ⟨hlength, hpos⟩ := hlaid buf hmem
  have hlast := buf.last_le
  have hsize : framebufChunklen = frameHdlen + 1 + maxPayloadlen := rfl
  rw [buf.length_contents, Buf.len]
  omega

/-- The frames of a header block in the buffers of the session. -/
structure PackedBlock (bufs bufs' : Bufs) (hd : FrameHd) (lead block payload : Bytes)
    (payloads : List Bytes) : Prop where
  contents : bufs'.contents = wire (headerFrames hd payload payloads)
  flatten : (payload :: payloads).flatten = lead ++ block
  first : lead <+: payload
  length_le : ∀ p ∈ payload :: payloads, p.length ≤ maxPayloadlen
  kept : Bufs.Kept bufs bufs'

/-- **A header block is packed** into frames that have the payloads `payload :: payloads`.  The
block is what the encoder writes to an empty chain of buffers; that it fits there follows from the
bound that the session has checked, since the encoder writes what it writes whatever the buffers
are. -/
theorem packed_packHeaderBlock {bufs : Bufs} (h : bufs.Clear) (hd : FrameHd) {nva : List Nv}
    (hfits : Fits nva) {lead : Bytes} (hlead : lead.length ≤ prioritySpecLen)
    {deflater : HdDeflater} (hdeflater : deflater.Valid) (hbad : deflater.ctx.bad = false) :
    ∃ deflater' bufs' empty written payload payloads,
      packHeaderBlock bufs hd nva lead deflater = (deflater', .ok bufs') ∧
      empty.Ready ∧ empty.contents = [] ∧
      deflateHdBufs deflater empty nva = (deflater', .ok written) ∧
      PackedBlock bufs bufs' hd lead written.contents payload payloads := by
  have hsmall : lead.length ≤ maxPayloadlen := hlead.trans (by decide)
  obtain ⟨cur, hleft⟩ := exists_left h hsmall
  obtain ⟨reps, table, deflater', -, -, -, -, hlength, hwrites⟩ :=
    deflateHdBufs_spec hdeflater hbad hfits.sized
  obtain ⟨hemits, hnext, -⟩ := hwrites _ hleft.ready
  have hroom : ((deflater.pending ++ reps).flatMap Rep.bytes).length ≤
      Bufs.room { bufs with cur := cur } := by
    have hle := hlength hfits.small
    have hsum := hfits.sum_le
    have hroom := hleft.room
    omega
  rw [Emits, if_pos hroom] at hemits
  obtain ⟨written, hok, hwritten⟩ := hemits
  have hdeflate : deflateHdBufs deflater { bufs with cur := cur } nva = (deflater', .ok written) :=
    Prod.ext (hnext written hok) hok
  have hlayout := hwritten.layout
  have hwrittenNext : written.next = [] := hlayout.next h.next
  have hlow : frameHdlen + 1 ≤ bufs.offset := h.offset.ge
  have hpos : written.head.pos = frameHdlen + 1 + lead.length := by
    rw [hlayout.pos_head]
    simp only [Bufs.head, h.prior, List.headD_nil]
    exact hleft.pos
  obtain ⟨bufs₂, hprepend, hlaid₂, hnext₂, hpayloads, hprefix, hchunk₂, hmax₂, hoffset₂⟩ :=
    exists_prependHead (hlayout.laid _ hlow hleft.laid) hpos
  have hchunk : bufs₂.chunkLength = bufs.chunkLength := hchunk₂.trans hlayout.chunkLength
  obtain ⟨bufs', payload, payloads, hshared, heq, hcontents, hkept⟩ := exists_packHeadersShared
    (show bufs₂.Laid frameHdlen from
      fun buf hbuf => ⟨(hlaid₂ buf hbuf).1, Nat.le_of_succ_le (hlaid₂ buf hbuf).2⟩)
    (hnext₂.trans hwrittenNext) hd
  refine ⟨deflater', bufs', _, written, payload, payloads, ?_, hleft.ready, hleft.contents,
    hdeflate, hcontents, ?_, ?_, ?_, ?_⟩
  · simp only [packHeaderBlock, hleft.leave, hdeflate, hprepend, Option.bind_some, hshared]
  · rw [← heq, hpayloads, Bufs.flatten_payloads hwrittenNext]
  · exact hprefix payload (by rw [heq]; rfl)
  · rw [← heq]
    exact length_payload_le hlaid₂ (hchunk.trans h.chunkLength)
  · exact ⟨hkept.chunkLength.trans hchunk, hkept.maxChunk.trans (hmax₂.trans hlayout.maxChunk),
      hkept.offset.trans (hoffset₂.trans hlayout.offset), hkept.laid⟩

end KituraHTTP2.Nghttp2
