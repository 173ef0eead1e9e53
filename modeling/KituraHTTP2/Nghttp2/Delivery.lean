import KituraHTTP2.Nghttp2.HeadersRead

/-!
# Header blocks on their way from session to session

One session packs HEADERS and PUSH_PROMISE frames one after the other into the buffers that it keeps
for that, and the network cuts their bytes anywhere.  On the other side a session reads them with as
many calls of `nghttp2_session_mem_recv` as there are pieces.  The two sides share nothing but the
bytes: the encoder and the decoder each keep a dynamic table of their own, and a field that is sent
as an index of that table is understood only if all the blocks before it were decoded, in their
order, and none of them twice.

What the application of the receiving side makes of a block is left open (`Handlers`); it may refuse
the stream, or stop the block in the middle.  The fields that it is offered, and the frame that it
is told of when the block is complete, are those that were sent (`Received`).

* `leads_packBlocks` — the session reads the frames that were sent, all of them and in their order,
  and decoder and encoder are in sync after each.
* **`memRecvAll_packBlocks`** — the same of any calls of `nghttp2_session_mem_recv` that bring the
  bytes, as long as the session wants to read.
-/

namespace KituraHTTP2.Nghttp2

variable {τ : Type} {handlers : Handlers τ}

/-! ## What is sent -/

/-- A frame with a header block. -/
inductive BlockSent where
  | headers (frame : Headers)
  | pushPromise (hd : FrameHd) (promisedStreamId : StreamId) (nva : List Nv)

namespace BlockSent

def hd : BlockSent → FrameHd
  | headers frame => frame.hd
  | pushPromise hd _ _ => hd

def nva : BlockSent → List Nv
  | headers frame => frame.nva
  | pushPromise _ _ nva => nva

/-- The part of `session_prep_frame` that packs the frame. -/
def pack (bufs : Bufs) (deflater : HdDeflater) : BlockSent → HdDeflater × Except PackError Bufs
  | headers frame => packHeaders bufs frame deflater
  | pushPromise hd promisedStreamId nva => packPushPromise bufs hd promisedStreamId nva deflater

/-- What the frame has besides its fields. -/
def Formed : BlockSent → Prop
  | headers frame => frame.hd.type = FrameType.headers.toUInt8 ∧ IsHeadersFlags frame.hd.flags ∧
      frame.priSpec.Packable
  | pushPromise hd promisedStreamId _ => hd.type = FrameType.pushPromise.toUInt8 ∧
      IsPushPromiseFlags hd.flags ∧ IsStreamId promisedStreamId

/-- A frame without padding that the session agrees to send. -/
structure Sendable (block : BlockSent) : Prop where
  formed : block.Formed
  flag : block.hd.flags &&& flagEndHeaders ≠ 0
  streamId : IsStreamId block.hd.streamId
  fits : Fits block.nva

/-- The frame that is received, with the header `first`. -/
def received (first : FrameHd) : BlockSent → BlockFrame
  | headers frame => .headers first (Inbound.headersPriority frame.hd.flags frame.priSpec)
  | pushPromise _ promisedStreamId _ => .pushPromise first promisedStreamId

end BlockSent

/-- Frames that are packed one after the other: the encoder, and the bytes that are sent.  The
buffers are reset after each (`active_outbound_item_reset`). -/
def packBlocks (bufs : Bufs) (deflater : HdDeflater) : List BlockSent → Option (HdDeflater × Bytes)
  | [] => some (deflater, [])
  | block :: blocks =>
    match block.pack bufs deflater with
    | (_, .error _) => none
    | (deflater', .ok bufs') =>
      bufs'.reset.bind fun bufs'' =>
        (packBlocks bufs'' deflater' blocks).map fun next => (next.1, bufs'.contents ++ next.2)

/-! ## What is received -/

/-- What a session makes of these bytes, which are frames one after the other, and how it ends: the
block of each came to lie in some payloads, it is taken up with the header of the first of its
frames, and completed with the header that was sent, whose length is that of all of them. -/
inductive Received (handlers : Handlers τ) : τ → List BlockSent → Bytes → τ → Prop
  | nil (upper : τ) : Received handlers upper [] [] upper
  | cons {upper upper' : τ} {block : BlockSent} {blocks : List BlockSent} {bytes : Bytes}
      (payload : Bytes) (payloads : List Bytes)
      (hrest : Received handlers (Inbound.receivedBlock handlers upper
        (block.received (firstHd block.hd payload payloads))
        (block.received (lastHd block.hd (payload :: payloads))) (block.nva.map Nv.decoded))
        blocks bytes upper') :
      Received handlers upper (block :: blocks)
        (wire (headerFrames block.hd payload payloads) ++ bytes) upper'

section Delivery

variable {s s' : Inbound τ} {bufs : Bufs} {deflater : HdDeflater} {inflater : HdInflater}

/-- One frame. -/
lemma delivers_pack (h : handlers.Steady) (hbufs : bufs.Clear) {block : BlockSent}
    (hblock : block.Sendable) (hstate : s.state = .readHead [])
    (hinflater : s.inflater = some inflater) (hsync : HdSync deflater inflater) :
    ∃ deflater' bufs' s' inflater' payload payloads,
      block.pack bufs deflater = (deflater', .ok bufs') ∧ Bufs.Kept bufs bufs' ∧
      bufs'.contents = wire (headerFrames block.hd payload payloads) ∧
      s'.inflater = some inflater' ∧ HdSync deflater' inflater' ∧
      Delivers handlers s s' (fun hd => block.received hd) block.hd payload payloads
        (block.nva.map Nv.decoded) := by
  cases block with
  | headers frame =>
    obtain ⟨htype, hflags, hpriSpec⟩ := hblock.formed
    exact delivers_packHeaders h hbufs htype hflags hblock.flag hblock.streamId hpriSpec hblock.fits
      hstate hinflater hsync
  | pushPromise hd promisedStreamId nva =>
    obtain ⟨htype, hflags, hpromised⟩ := hblock.formed
    exact delivers_packPushPromise h hbufs htype hflags hblock.flag hblock.streamId hpromised
      hblock.fits hstate hinflater hsync

/-- The frames come as they were sent. -/
lemma leads_packBlocks (h : handlers.Steady) (hbufs : bufs.Clear) {blocks : List BlockSent}
    (hblocks : ∀ block ∈ blocks, block.Sendable) (hstate : s.state = .readHead [])
    (hinflater : s.inflater = some inflater) (hsync : HdSync deflater inflater) :
    ∃ deflater' bytes s' inflater', packBlocks bufs deflater blocks = some (deflater', bytes) ∧
      Inbound.Leads handlers (s, bytes, false) (s', [], false) ∧ s'.state = .readHead [] ∧
      s'.inflater = some inflater' ∧ HdSync deflater' inflater' ∧
      Received handlers s.upper blocks bytes s'.upper := by
  induction blocks generalizing bufs deflater s inflater with
  | nil => exact ⟨deflater, [], s, inflater, rfl, .refl, hstate, hinflater, hsync, .nil _⟩
  | cons block blocks ih =>
    obtain ⟨deflater₁, bufs₁, s₁, inflater₁, payload, payloads, hpack, hkept, hcontents, hinflater₁,
      hsync₁, hdelivers⟩ :=
      delivers_pack h hbufs (hblocks block List.mem_cons_self) hstate hinflater hsync
    obtain ⟨bufs₂, hreset, hclear⟩ := hbufs.reset hkept
    obtain ⟨deflater', bytes, s', inflater', hrest, hleads, hstate', hinflater', hsync', hreceived⟩ :=
      ih hclear (fun block' hblock' => hblocks block' (List.mem_cons_of_mem _ hblock'))
        hdelivers.state hinflater₁ hsync₁
    refine ⟨deflater', bufs₁.contents ++ bytes, s', inflater', ?_, ?_, hstate', hinflater', hsync', ?_⟩
    · rw [packBlocks, hpack]
      simp only [hreset, Option.bind_some, hrest, Option.map_some]
    · rw [hcontents]
      exact (hdelivers.leads bytes).trans hleads
    · rw [hcontents]
      rw [hdelivers.upper] at hreceived
      exact .cons payload payloads hreceived

/-- **What one session sends another one receives**: all the frames are packed, and however their
bytes are cut, if only the other session still wants to read, the frames come to it one after the
other, each with all its fields, and its decoder is in sync with the encoder at the end.  No DATA is
read on the way, so that nothing has to be asked of how the session takes it. -/
theorem memRecvAll_packBlocks (h : handlers.Steady) (hbufs : bufs.Clear) {blocks : List BlockSent}
    (hblocks : ∀ block ∈ blocks, block.Sendable) (hs : s.Ok) (hstate : s.state = .readHead [])
    (hinflater : s.inflater = some inflater) (hsync : HdSync deflater inflater) :
    ∃ deflater' bytes s' inflater', packBlocks bufs deflater blocks = some (deflater', bytes) ∧
      (∀ pieces : List Bytes, (∀ p ∈ pieces, p ≠ []) → pieces.flatten = bytes →
        WantsAll handlers s pieces → memRecvAll handlers s pieces = .ok s') ∧
      s'.state = .readHead [] ∧ s'.inflater = some inflater' ∧ HdSync deflater' inflater' ∧
      Received handlers s.upper blocks bytes s'.upper := by
  obtain ⟨deflater', bytes, s', inflater', hpack, hleads, hrest⟩ :=
    leads_packBlocks h hbufs hblocks hstate hinflater hsync
  refine ⟨deflater', bytes, s', inflater', hpack, fun pieces hpieces hbytes hwants => ?_, hrest⟩
  subst hbytes
  rw [memRecvAll_eq hs hpieces hwants hleads.joinsAll, hleads.feed, Inbound.feed_nil]

/-- `GET`, in a HEADERS frame of stream 1, which promises stream 2. -/
def getBlocks : List BlockSent :=
  [.headers (frameHeadersInit (flagEndStream ||| flagEndHeaders) 1 none
      [⟨utf8Encode ":method", utf8Encode "GET", false⟩]),
    .pushPromise ⟨0, FrameType.pushPromise.toUInt8, flagEndHeaders, 1⟩ 2
      [⟨utf8Encode ":path", utf8Encode "/", false⟩]]

lemma sendable_getBlocks : ∀ block ∈ getBlocks, block.Sendable := by
  simp only [getBlocks, List.mem_cons, List.not_mem_nil, or_false, forall_eq_or_imp, forall_eq]
  refine ⟨⟨⟨rfl, rfl, ⟨⟨by decide, by decide⟩, by decide, by decide⟩⟩, by decide,
    ⟨by decide, by decide⟩, ?_⟩, ⟨⟨rfl, rfl, ⟨by decide, by decide⟩⟩, by decide,
    ⟨by decide, by decide⟩, ?_⟩⟩ <;> rw [Fits] <;> decide

/-- A session that waits for a frame. -/
lemma ok_readHead (upper : τ) : Inbound.Ok { Inbound.sessionNew true upper with state := .readHead [] } :=
  have hdecodes := (ok_sessionNew true upper).decodes
  ⟨show (0 : ℕ) < frameHdlen by decide, hdecodes.valid, hdecodes.inflight⟩

theorem memRecvAll_packBlocks_get :
    ∃ deflater' bytes s' inflater',
      packBlocks (framebufs .zero) (hdDeflateInit2 4096) getBlocks = some (deflater', bytes) ∧
      (∀ pieces : List Bytes, (∀ p ∈ pieces, p ≠ []) → pieces.flatten = bytes →
        WantsAll .keepFields { Inbound.sessionNew true [] with state := .readHead [] } pieces →
        memRecvAll .keepFields { Inbound.sessionNew true [] with state := .readHead [] } pieces =
          .ok s') ∧
      s'.state = .readHead [] ∧ s'.inflater = some inflater' ∧ HdSync deflater' inflater' ∧
      Received .keepFields [] getBlocks bytes s'.upper :=
  memRecvAll_packBlocks steady_keepFields (clear_framebufs _) sendable_getBlocks
    (ok_readHead []) rfl rfl (hdSync_init 4096)

end Delivery

end KituraHTTP2.Nghttp2
