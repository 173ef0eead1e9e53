import KituraHTTP2.Nghttp2.HeadersFrame
import KituraHTTP2.Nghttp2.InboundCuts
import KituraHTTP2.Nghttp2.Hd.Sync

/-!
# A header block is received

What `nghttp2_session_mem_recv` makes of the frames of a header block: HEADERS or PUSH_PROMISE, and
the CONTINUATIONs after it.

A block that is too large for one frame goes on in CONTINUATIONs, and where it is cut says nothing
about the fields: a field may begin in one frame and end in the next.  The decoder is given the
payloads one after the other, and keeps what it has read of a field.  Meanwhile the application may
have had enough of the block, or the session may have refused it from the start.  The fields are
decoded all the same, since the decoder would lose its place in the dynamic table otherwise, but
they are offered to nobody (`offered`).

All this is said with `Leads`: the rounds of the loop lead from one session, and the input that it
is given, to another one with the rest.  In none of these rounds is DATA read.

* **`leads_pieces`** — the payloads are decoded as one block, wherever the frames cut it, also when
  the block is ignored or the application stops it in the middle.
* `leads_headers`, `leads_pushPromise` — what comes before the block.
* **`extendAll_firstHd`** — the frame at the end of its block is the one that was packed.
* **`delivers_packHeaders`**, **`delivers_packPushPromise`** — the fields of a frame that one
  session packs are those that another one gets, and its decoder stays in sync with the encoder.
-/

namespace KituraHTTP2.Nghttp2

open Incremental

variable {τ : Type} {handlers : Handlers τ}

/-! ## Fields for the application -/

section Offer

variable {σ β : Type*} {f : σ → β → σ × Bool}

lemma offer_append (s : σ) (xs ys : List β) :
    Reader.offer f s (xs ++ ys) =
      if (Reader.offer f s xs).2 then Reader.offer f (Reader.offer f s xs).1 ys
      else Reader.offer f s xs := by
  induction xs generalizing s with
  | nil => rfl
  | cons x xs ih =>
    simp only [List.cons_append, Reader.offer]
    split
    · exact ih _
    · simp

end Offer

lemma offer_ignore (frame : BlockFrame) (upper : τ) (nvs : List HdNv) :
    Reader.offer (visitor handlers frame true) upper nvs = (upper, true) := by
  induction nvs generalizing upper with
  | nil => rfl
  | cons nv nvs ih =>
    rw [Reader.offer, visitor, if_pos rfl, if_pos rfl]
    exact ih upper

/-! ## A piece of a header block -/

lemma readSbuf_full {σ β ε : Type*} {mark : ℕ} {bytes : Bytes} (h : bytes.length = mark)
    {wait : Bytes → σ} {full : Bytes → Except ε (σ × Bool)} {s : σ} {busy : Bool}
    (hfull : full bytes = .ok (s, busy)) (rest : Bytes) :
    readSbuf (β := β) mark [] (bytes ++ rest) wait full = .next s rest busy := by
  have hmin : min (bytes ++ rest).length (mark - ([] : Bytes).length) = bytes.length := by
    rw [List.length_append, List.length_nil]
    omega
  simp only [readSbuf, hmin, List.nil_append, List.take_left, List.drop_left]
  rw [if_neg (by omega), hfull]

namespace Inbound

variable (s : Inbound τ) {frame : BlockFrame} {ignore : Bool} {inflater inflater' : HdInflater}
  {upper upper' : τ} {p rest : Bytes} {nvs : List HdNv}

/-- In the middle of a block without padding: `payloadleft` bytes of the frame are left. -/
def inBlock (frame : BlockFrame) (payloadleft : ℕ) (ignore : Bool) (inflater : HdInflater)
    (upper : τ) : Inbound τ :=
  { s with
    state := .readHeaderBlock ⟨frame, payloadleft, 0, ignore⟩
    inflater := some inflater
    upper := upper }

/-- The decoder at the end of a frame. -/
def atEnd (frame : BlockFrame) (inflater : HdInflater) : HdInflater :=
  if frame.endHeaders then hdInflateEndHeaders inflater else inflater

lemma recvPiece_some (h : inflater.Valid) (input : Bytes) (final : Bool) :
    recvPiece handlers frame ignore upper (some inflater) input final =
      recvHeaderBlock handlers frame ignore upper inflater input final := by
  rw [recvPiece.eq_def]
  split
  · rfl
  · rename_i hnone
    obtain ⟨rfl, rfl⟩ : input = [] ∧ final = false := by simpa using hnone
    exact (recvHeaderBlock_nil handlers frame ignore upper h).symm

/-- The turn for a block whose frame has come as a whole. -/
lemma turn_inBlock (h : inflater.Valid) (rest : Bytes) :
    (s.inBlock frame p.length ignore inflater upper).turn handlers (p ++ rest) =
      (s.inBlock frame p.length ignore inflater upper).afterBlock handlers
        ⟨frame, p.length, 0, ignore⟩ (p ++ rest) p.length
        (recvHeaderBlock handlers frame ignore upper inflater p frame.endHeaders) := by
  have htrail : trail ⟨frame, p.length, 0, ignore⟩ = 0 := rfl
  have hmin : min (p ++ rest).length p.length = p.length := by
    rw [List.length_append]
    omega
  have hle : p.length ≤ (p ++ rest).length := by
    rw [List.length_append]
    exact Nat.le_add_right _ _
  have hturn := turnHeaderBlock_data handlers (s.inBlock frame p.length ignore inflater upper)
    ⟨frame, p.length, 0, ignore⟩ (show p.length = p.length + _ by rw [htrail]; rfl) (p ++ rest)
  rw [hmin, piece, List.take_left, decide_eq_true hle, Bool.and_true] at hturn
  rw [← recvPiece_some h]
  exact hturn

/-- The whole frame has been decoded. -/
lemma leads_ended (h : inflater.Valid)
    (hvisit : hdReader.visit (visitor handlers frame ignore) upper inflater p false =
      .ended upper' inflater') (hend : frame.endHeaders = true → inflater'.AtEnd = true)
    (rest : Bytes) :
    Leads handlers (s.inBlock frame p.length ignore inflater upper, p ++ rest, true)
      ({ s with inflater := some (atEnd frame inflater'), upper := upper' }.endPiece handlers frame
        ignore, rest, false) := by
  have hmin : min (p ++ rest).length p.length = p.length := by
    rw [List.length_append]
    omega
  have hdone : endVisit handlers frame ignore frame.endHeaders (.ended upper' inflater') =
      .done (some (atEnd frame inflater')) upper' := by
    unfold endVisit atEnd
    cases hflag : frame.endHeaders with
    | false => rfl
    | true => simp [hend hflag]
  refine leads_turn trivial (Or.inr rfl) ?_
  rw [turn_inBlock s h, recvHeaderBlock_eq_visit handlers frame ignore upper h, hvisit, hdone]
  simp only [afterBlock, hmin, Nat.sub_self, List.drop_left, afterPiece, ne_eq, not_true_eq_false,
    if_false]
  unfold endPiece
  split <;> rfl

/-- A block that is ignored is decoded all the same. -/
lemma leads_ignored (h : inflater.Valid)
    (hfeed : hdReader.feed inflater p false = (nvs, .ok inflater'))
    (hend : frame.endHeaders = true → inflater'.AtEnd = true) (rest : Bytes) :
    Leads handlers (s.inBlock frame p.length true inflater upper, p ++ rest, true)
      ({ s with inflater := some (atEnd frame inflater'), upper := upper }.endPiece handlers frame
        true, rest, false) := by
  have hvisit := Reader.visit_feed (r := hdReader) (visitor handlers frame true) upper inflater p
    false
  rw [hfeed, offer_ignore] at hvisit
  cases hresult : hdReader.visit (visitor handlers frame true) upper inflater p false with
  | ended upper' inflater'' =>
    rw [hresult] at hvisit
    obtain ⟨hupper, hinflater⟩ := hvisit
    cases hupper
    cases hinflater
    exact leads_ended s h hresult hend rest
  | stopped upper' inflater'' left =>
    rw [hresult] at hvisit
    cases hvisit.1
  | failed upper' error =>
    rw [hresult] at hvisit
    cases hvisit.2

/-- What the application makes of the fields of a block, and whether it is ignored from there. -/
def offered (handlers : Handlers τ) (frame : BlockFrame) (ignore : Bool) (upper : τ)
    (nvs : List HdNv) : τ × Bool :=
  let next := Reader.offer (visitor handlers frame ignore) upper nvs
  (next.1, ignore || !next.2)

/-- **A piece of a header block is decoded**, and the application gets its fields, until it stops
the block. -/
lemma leads_piece (h : inflater.Valid)
    (hfeed : hdReader.feed inflater p false = (nvs, .ok inflater'))
    (hend : frame.endHeaders = true → inflater'.AtEnd = true) (rest : Bytes) :
    Leads handlers (s.inBlock frame p.length ignore inflater upper, p ++ rest, true)
      ({ s with
          inflater := some (atEnd frame inflater')
          upper := (offered handlers frame ignore upper nvs).1 }.endPiece handlers frame
        (offered handlers frame ignore upper nvs).2, rest, false) := by
  cases ignore with
  | true =>
    rw [offered, offer_ignore]
    exact leads_ignored s h hfeed hend rest
  | false =>
    have hvisit := Reader.visit_feed (r := hdReader) (visitor handlers frame false) upper inflater p
      false
    have hvalid := Reader.visit_preserves (r := hdReader) (visitor handlers frame false) h p
      false (by simp) upper
    rw [hfeed] at hvisit
    cases hresult : hdReader.visit (visitor handlers frame false) upper inflater p false with
    | ended upper' inflater'' =>
      rw [hresult] at hvisit
      obtain ⟨hoffer, hinflater⟩ := hvisit
      cases hinflater
      rw [offered, hoffer]
      exact leads_ended s h hresult hend rest
    | stopped upper' inflater'' left =>
      rw [hresult] at hvisit hvalid
      obtain ⟨hoffer, hinflater⟩ := hvisit
      -- the rest of the payload is read again, as a block that is ignored
      obtain ⟨q, rfl⟩ := suffix_visit_hdReader hresult
      have hstopped : Leads handlers
          (s.inBlock frame (q ++ left).length false inflater upper, q ++ left ++ rest, true)
          (s.inBlock frame left.length true inflater'' upper', left ++ rest, true) := by
        refine leads_turn trivial (Or.inr rfl) ?_
        have hproclen : (q ++ left).length - left.length = q.length := by
          rw [List.length_append]
          omega
        rw [turn_inBlock s h, recvHeaderBlock_eq_visit handlers frame false upper h, hresult]
        simp only [endVisit, afterBlock, hproclen]
        rw [List.append_assoc, List.drop_left]
        congr 1
        simp only [inBlock, List.length_append, Nat.add_sub_cancel_left]
      have hfeed' : hdReader.feed inflater'' left false =
          ((hdReader.feed inflater'' left false).1, .ok inflater') := Prod.ext rfl hinflater.symm
      rw [offered, hoffer]
      exact hstopped.trans (leads_ignored s hvalid hfeed' hend rest)
    | failed upper' error =>
      rw [hresult] at hvisit
      cases hvisit.2

end Inbound

/-! ## Several frames -/

/-- What is not changed by the length and the flag `END_HEADERS` of a frame, and the size of frames
that are read. -/
structure Handlers.Steady (handlers : Handlers τ) : Prop where
  maxFrameSize : ∀ upper, maxPayloadlen ≤ handlers.maxFrameSize upper
  onHeader : ∀ upper frame contHd nv,
    handlers.onHeader upper (frame.extend contHd) nv = handlers.onHeader upper frame nv

lemma steady_keepFields : Handlers.keepFields.Steady :=
  ⟨fun _ => Nat.le_refl _, fun _ _ _ _ => rfl⟩

lemma forall_uint8 {P : UInt8 → Prop} (h : ∀ n < 256, P (UInt8.ofNat n)) (b : UInt8) : P b := by
  simpa using h b.toNat b.toNat_lt

/-- The header of the first of some CONTINUATIONs. -/
def contHd (streamId : StreamId) (payload : Bytes) (payloads : List Bytes) : FrameHd :=
  ⟨payload.length, FrameType.continuation.toUInt8,
    if payloads = [] then flagEndHeaders else flagNone, streamId⟩

lemma continuations_cons (streamId : StreamId) (payload : Bytes) (payloads : List Bytes) :
    continuations streamId (payload :: payloads) =
      (contHd streamId payload payloads, payload) :: continuations streamId payloads := by
  cases payloads <;> rfl

lemma endHeaders_extend {frame : BlockFrame} (h : frame.endHeaders = false) (streamId : StreamId)
    (payload : Bytes) (payloads : List Bytes) :
    (frame.extend (contHd streamId payload payloads)).endHeaders = decide (payloads = []) := by
  have hnone : ∀ flags : UInt8, flags ||| (flagNone &&& flagEndHeaders) = flags := by
    refine forall_uint8 ?_
    decide +kernel
  have hend : ∀ flags : UInt8, (flags ||| flagEndHeaders) &&& flagEndHeaders ≠ 0 := by
    refine forall_uint8 ?_
    decide +kernel
  have hhd : (frame.extend (contHd streamId payload payloads)).hd.flags =
      frame.hd.flags ||| ((contHd streamId payload payloads).flags &&& flagEndHeaders) := by
    cases frame <;> rfl
  rw [BlockFrame.endHeaders, hhd, contHd]
  by_cases hlast : payloads = []
  · simpa [hlast] using hend frame.hd.flags
  · simp only [hlast, if_false, hnone, decide_false]
    exact h

lemma streamId_extend (frame : BlockFrame) (contHd : FrameHd) :
    (frame.extend contHd).hd.streamId = frame.hd.streamId := by
  cases frame <;> rfl

/-- The frame after its CONTINUATIONs. -/
def BlockFrame.extendAll (frame : BlockFrame) (frames : List (FrameHd × Bytes)) : BlockFrame :=
  frames.foldl (fun frame cont => frame.extend cont.1) frame

namespace Inbound

variable {s : Inbound τ} {frame : BlockFrame} {ignore : Bool} {inflater inflater' : HdInflater}
  {upper upper' : τ} {p rest : Bytes} {nvs : List HdNv}

/-- A header of a frame is read. -/
lemma turn_expectContinuation {contHd : FrameHd} (hcont : contHd.Packable) (rest : Bytes)
    (hstate : s.state = .expectContinuation frame ignore []) :
    s.turn handlers (packFrameHd contHd ++ rest) =
      .next (s.receiveContinuation handlers frame ignore contHd).1 rest
        (s.receiveContinuation handlers frame ignore contHd).2 := by
  have hunpack := unpackFrameHd_packFrameHd hcont []
  rw [List.append_nil] at hunpack
  simp only [turn, hstate]
  exact readSbuf_full (length_packFrameHd contHd) (by rw [withHead, hunpack]) rest

/-- A CONTINUATION that continues the block. -/
lemma leads_continuation {payload : Bytes} {payloads : List Bytes}
    (hlength : payload.length < 2 ^ 24) (hstreamId : IsStreamId frame.hd.streamId) (rest : Bytes) :
    Leads handlers ({ s with
        state := .expectContinuation frame ignore []
        inflater := some inflater
        upper := upper }, packFrameHd (contHd frame.hd.streamId payload payloads) ++ rest, false)
      (s.inBlock (frame.extend (contHd frame.hd.streamId payload payloads)) payload.length ignore
        inflater upper, rest, true) := by
  refine leads_turn trivial (Or.inl (by simp [packFrameHd])) ?_
  have hcont : (contHd frame.hd.streamId payload payloads).Packable := ⟨hlength, hstreamId⟩
  rw [turn_expectContinuation hcont rest rfl]
  rw [receiveContinuation, if_neg (by simp [contHd])]
  rfl

/-- What the session has made of a header block at its end: `frame` is the frame that it came in,
and `last` this frame after its CONTINUATIONs. -/
def received (handlers : Handlers τ) (frame last : BlockFrame) (ignore : Bool) (upper : τ)
    (nvs : List HdNv) : τ :=
  let next := offered handlers frame ignore upper nvs
  if next.2 then next.1 else handlers.afterHeaderBlock next.1 last

lemma offered_append (frame : BlockFrame) (ignore : Bool) (upper : τ) (xs ys : List HdNv) :
    offered handlers frame ignore upper (xs ++ ys) =
      offered handlers frame (offered handlers frame ignore upper xs).2
        (offered handlers frame ignore upper xs).1 ys := by
  cases ignore with
  | true => simp only [offered, offer_ignore, Bool.true_or]
  | false =>
    simp only [offered, Bool.false_or, offer_append]
    cases hgo : (Reader.offer (visitor handlers frame false) upper xs).2 with
    | true => simp
    | false => simp [hgo, offer_ignore]

lemma visitor_extend (h : handlers.Steady) (frame : BlockFrame) (contHd : FrameHd) (ignore : Bool) :
    visitor handlers (frame.extend contHd) ignore = visitor handlers frame ignore := by
  funext upper nv
  simp only [visitor, h.onHeader]

/-- A CONTINUATION goes on with what the frames before it have offered. -/
lemma received_append (h : handlers.Steady) (frame last : BlockFrame) (contHd : FrameHd)
    (ignore : Bool) (upper : τ) (xs ys : List HdNv) :
    received handlers (frame.extend contHd) last (offered handlers frame ignore upper xs).2
        (offered handlers frame ignore upper xs).1 ys =
      received handlers frame last ignore upper (xs ++ ys) := by
  rw [received, received, offered_append]
  simp only [offered, visitor_extend h]
  rfl

/-- **The frames of a header block are decoded** as one. -/
theorem leads_pieces (h : handlers.Steady) {pieces : List Bytes} (hvalid : inflater.Valid)
    (hfeed : hdReader.feed inflater (p ++ pieces.flatten) false = (nvs, .ok inflater'))
    (hend : inflater'.AtEnd = true) (hflag : frame.endHeaders = decide (pieces = []))
    (hpieces : ∀ piece ∈ pieces, piece.length < 2 ^ 24) (hstreamId : IsStreamId frame.hd.streamId)
    (rest : Bytes) :
    Leads handlers
      (s.inBlock frame p.length ignore inflater upper,
        p ++ (wire (continuations frame.hd.streamId pieces) ++ rest), true)
      ({ s with
        state := .readHead []
        inflater := some (hdInflateEndHeaders inflater')
        upper := received handlers frame (frame.extendAll (continuations frame.hd.streamId pieces))
          ignore upper nvs }, rest, false) := by
  induction pieces generalizing frame ignore inflater upper p nvs with
  | nil =>
    rw [List.flatten_nil, List.append_nil] at hfeed
    have hlast : frame.endHeaders = true := hflag
    refine (leads_piece s hvalid hfeed (fun _ => hend) _).trans ?_
    rw [endPiece, if_pos hlast, atEnd, if_pos hlast]
    exact .refl
  | cons piece pieces ih =>
    have hmore : frame.endHeaders = false := hflag
    have hpreserves := Reader.feed_preserves (r := hdReader) (fun _ => True)
      (fun _ _ _ _ _ _ => trivial) hvalid p false (by simp)
    rw [cuts_hdReader.feed_append hvalid (by simp)] at hfeed
    rcases hfirst : hdReader.feed inflater p false with ⟨nvs₁, error | inflater₁⟩
    · rw [hfirst] at hfeed
      cases hfeed
    · rw [hfirst] at hfeed hpreserves
      obtain ⟨nvs₂, hrest, rfl⟩ : ∃ nvs₂,
          hdReader.feed inflater₁ (piece ++ pieces.flatten) false = (nvs₂, .ok inflater') ∧
            nvs₁ ++ nvs₂ = nvs := by
        have hsplit := Prod.ext_iff.1 hfeed
        exact ⟨_, Prod.ext rfl hsplit.2, hsplit.1⟩
      have hpayload := hpieces piece List.mem_cons_self
      rw [continuations_cons, wire, List.flatMap_cons, List.append_assoc, List.append_assoc]
      have hstreamId' := streamId_extend frame (contHd frame.hd.streamId piece pieces)
      have hnext := @ih (frame.extend (contHd frame.hd.streamId piece pieces))
        (offered handlers frame ignore upper nvs₁).2 inflater₁
        (offered handlers frame ignore upper nvs₁).1 piece nvs₂ hpreserves hrest
        (endHeaders_extend hmore _ _ _) (fun q hq => hpieces q (List.mem_cons_of_mem _ hq))
        (hstreamId' ▸ hstreamId)
      rw [hstreamId', wire, received_append h] at hnext
      refine (leads_piece s hvalid hfirst (by simp [hmore]) _).trans ?_
      simp only [endPiece, atEnd, hmore, Bool.false_eq_true, if_false]
      exact (leads_continuation hpayload hstreamId _).trans hnext

end Inbound

/-! ## What comes before the block -/

/-- The flags of a HEADERS frame without padding. -/
def IsHeadersFlags (flags : UInt8) : Prop :=
  flags &&& (flagEndStream ||| flagEndHeaders ||| flagPriority) = flags

/-- The flags of a PUSH_PROMISE frame without padding. -/
def IsPushPromiseFlags (flags : UInt8) : Prop := flags &&& flagEndHeaders = flags

lemma IsHeadersFlags.keep {flags : UInt8} (h : IsHeadersFlags flags) :
    flags &&& (flagEndStream ||| flagEndHeaders ||| flagPadded ||| flagPriority) = flags ∧
      flags &&& flagPadded = 0 := by
  have hall : ∀ flags : UInt8, flags &&& (flagEndStream ||| flagEndHeaders ||| flagPriority) = flags →
      flags &&& (flagEndStream ||| flagEndHeaders ||| flagPadded ||| flagPriority) = flags ∧
        flags &&& flagPadded = 0 := by
    refine forall_uint8 ?_
    decide +kernel
  exact hall flags h

lemma IsPushPromiseFlags.keep {flags : UInt8} (h : IsPushPromiseFlags flags) :
    flags &&& (flagEndHeaders ||| flagPadded) = flags ∧ flags &&& flagPadded = 0 := by
  have hall : ∀ flags : UInt8, flags &&& flagEndHeaders = flags →
      flags &&& (flagEndHeaders ||| flagPadded) = flags ∧ flags &&& flagPadded = 0 := by
    refine forall_uint8 ?_
    decide +kernel
  exact hall flags h

lemma handlePad_of_not_padded {hd : FrameHd} (h : hd.flags &&& flagPadded = 0) :
    handlePad hd = some false := by
  rw [handlePad, if_neg (by simp [h])]

namespace Inbound

variable {s : Inbound τ} {hd : FrameHd}

lemma leads_readHead (hhd : hd.Packable) (hstate : s.state = .readHead []) (rest : Bytes) :
    Leads handlers (s, packFrameHd hd ++ rest, false)
      ((s.receiveHead handlers hd).1, rest, (s.receiveHead handlers hd).2) := by
  have hunpack := unpackFrameHd_packFrameHd hhd []
  rw [List.append_nil] at hunpack
  refine leads_turn (by rw [Joins, hstate]; trivial) (Or.inl (by simp [packFrameHd])) ?_
  simp only [turn, hstate]
  exact readSbuf_full (length_packFrameHd hd) (by rw [withHead, hunpack]) rest

/-- What comes before the block of a HEADERS frame: the priority, if there is one. -/
def headersLead (flags : UInt8) (priSpec : PrioritySpec) : Bytes :=
  if flags &&& flagPriority ≠ 0 then packPrioritySpec priSpec else []

/-- The priority of a HEADERS frame that is received. -/
def headersPriority (flags : UInt8) (priSpec : PrioritySpec) : PrioritySpec :=
  if flags &&& flagPriority ≠ 0 then priSpec else prioritySpecDefaultInit

@[simp]
lemma length_headersLead (flags : UInt8) (priSpec : PrioritySpec) :
    (headersLead flags priSpec).length = framePriorityLen flags := by
  unfold headersLead framePriorityLen
  split
  · exact length_packPrioritySpec priSpec
  · rfl

lemma headersLead_congr {flags flags' : UInt8}
    (h : flags &&& flagPriority = flags' &&& flagPriority) (priSpec : PrioritySpec) :
    headersLead flags priSpec = headersLead flags' priSpec := by
  rw [headersLead, headersLead, h]

lemma headersPriority_congr {flags flags' : UInt8}
    (h : flags &&& flagPriority = flags' &&& flagPriority) (priSpec : PrioritySpec) :
    headersPriority flags priSpec = headersPriority flags' priSpec := by
  rw [headersPriority, headersPriority, h]

/-- **The beginning of a HEADERS frame.** -/
lemma leads_headers (hhd : hd.Packable) (hstate : s.state = .readHead [])
    (htype : hd.type = FrameType.headers.toUInt8) (hflags : IsHeadersFlags hd.flags)
    (hsize : hd.length ≤ handlers.maxFrameSize s.upper) {priSpec : PrioritySpec}
    (hpriSpec : priSpec.Packable) (payloadleft : ℕ)
    (hlength : hd.length = (headersLead hd.flags priSpec).length + payloadleft) (rest : Bytes) :
    Leads handlers (s, packFrameHd hd ++ (headersLead hd.flags priSpec ++ rest), false)
      ((s.beginBlock handlers (.headers hd (headersPriority hd.flags priSpec)) payloadleft 0).1, rest,
        true) := by
  obtain ⟨hkeep, hpad⟩ := hflags.keep
  have hreceive : s.receiveHead handlers hd = s.readPriority handlers hd hd.length 0 := by
    rw [receiveHead, if_neg (Nat.not_lt.2 hsize), if_neg (by rw [htype]; decide), if_pos htype,
      receiveHeaders]
    simp only [hkeep, handlePad_of_not_padded hpad]
  refine (leads_readHead hhd hstate _).trans ?_
  rw [hreceive]
  rw [length_headersLead] at hlength
  simp only [readPriority]
  by_cases hpriority : hd.flags &&& flagPriority ≠ 0
  · have hlead : headersLead hd.flags priSpec = packPrioritySpec priSpec := if_pos hpriority
    have hunpack := unpackPrioritySpec_packPrioritySpec hpriSpec []
    rw [List.append_nil] at hunpack
    have hlen : framePriorityLen hd.flags = prioritySpecLen := if_pos hpriority
    rw [hlen] at hlength ⊢
    have hleft : hd.length - prioritySpecLen = payloadleft := by omega
    rw [if_pos (by decide), if_neg (by omega), hlead, headersPriority, if_pos hpriority]
    refine leads_turn trivial (Or.inl (by simp [packPrioritySpec])) ?_
    simp only [turn]
    refine readSbuf_full (length_packPrioritySpec priSpec) ?_ rest
    rw [receiveNbyte.eq_def, if_neg (by simp [hpad]), if_neg (by simp [hpad]), if_pos htype, hunpack, hleft]
    rfl
  · have hlead : headersLead hd.flags priSpec = [] := if_neg hpriority
    have hlen : framePriorityLen hd.flags = 0 := if_neg hpriority
    rw [hlen, Nat.zero_add] at hlength
    rw [hlen, if_neg (by decide), hlead, List.nil_append, headersPriority, if_neg hpriority, hlength]
    exact .refl

/-- **The beginning of a PUSH_PROMISE frame.** -/
lemma leads_pushPromise (hhd : hd.Packable) (hstate : s.state = .readHead [])
    (htype : hd.type = FrameType.pushPromise.toUInt8) (hflags : IsPushPromiseFlags hd.flags)
    (hsize : hd.length ≤ handlers.maxFrameSize s.upper) {promisedStreamId : StreamId}
    (hpromised : IsStreamId promisedStreamId) {payloadleft : ℕ}
    (hlength : hd.length = 4 + payloadleft) (rest : Bytes) :
    Leads handlers (s, packFrameHd hd ++ (putUint32be (uint32 promisedStreamId) ++ rest), false)
      ((s.beginBlock handlers (.pushPromise hd promisedStreamId) payloadleft 0).1, rest, true) := by
  obtain ⟨hkeep, hpad⟩ := hflags.keep
  have hpush : s.receiveHead handlers hd = s.receivePushPromise handlers hd := by
    rw [receiveHead, if_neg (Nat.not_lt.2 hsize)]
    simp [htype, FrameType.toUInt8]
  have hreceive : s.receiveHead handlers hd = s.readPromised hd hd.length 0 := by
    rw [hpush, receivePushPromise]
    simp only [hkeep, handlePad_of_not_padded hpad]
  have hleft : hd.length - 4 = payloadleft := by omega
  refine (leads_readHead hhd hstate _).trans ?_
  rw [hreceive, readPromised, if_neg (by omega)]
  refine leads_turn trivial (Or.inl (by simp [putUint32be])) ?_
  simp only [turn]
  refine readSbuf_full (length_putUint32be _) ?_ rest
  rw [receiveNbyte.eq_def, if_neg (by simp [hpad]), if_neg (by simp [hpad]),
    if_neg (by rw [htype]; decide), if_pos htype, hleft]
  simp only [putUint32be, getUint32_put (uint32_lt _), uint32_of_isStreamId hpromised]
  rfl

end Inbound

/-! ## From one session to another -/

/-- The header of the first frame of a block. -/
def firstHd (hd : FrameHd) (payload : Bytes) (payloads : List Bytes) : FrameHd :=
  { hd with
    length := payload.length
    flags := if payloads = [] then hd.flags else hd.flags &&& ~~~flagEndHeaders }

lemma headerFrames_eq (hd : FrameHd) (payload : Bytes) (payloads : List Bytes) :
    headerFrames hd payload payloads =
      (firstHd hd payload payloads, payload) :: continuations hd.streamId payloads := by
  cases payloads <;> rfl

lemma flags_firstHd (hd : FrameHd) (payload : Bytes) (payloads : List Bytes)
    (h : hd.flags &&& flagEndHeaders ≠ 0) :
    ((firstHd hd payload payloads).flags &&& flagEndHeaders ≠ 0 ↔ payloads = []) ∧
      (firstHd hd payload payloads).flags &&& flagPriority = hd.flags &&& flagPriority ∧
      (IsHeadersFlags hd.flags → IsHeadersFlags (firstHd hd payload payloads).flags) ∧
      (IsPushPromiseFlags hd.flags → IsPushPromiseFlags (firstHd hd payload payloads).flags) := by
  have hall : ∀ flags : UInt8, flags &&& ~~~flagEndHeaders &&& flagEndHeaders = 0 ∧
      flags &&& ~~~flagEndHeaders &&& flagPriority = flags &&& flagPriority ∧
      (flags &&& (flagEndStream ||| flagEndHeaders ||| flagPriority) = flags →
        flags &&& ~~~flagEndHeaders &&& (flagEndStream ||| flagEndHeaders ||| flagPriority) =
          flags &&& ~~~flagEndHeaders) ∧
      (flags &&& flagEndHeaders = flags →
        flags &&& ~~~flagEndHeaders &&& flagEndHeaders = flags &&& ~~~flagEndHeaders) := by
    refine forall_uint8 ?_
    decide +kernel
  obtain ⟨hnone, hpriority, hheaders, hpush⟩ := hall hd.flags
  simp only [firstHd]
  split
  · rename_i hnil
    exact ⟨⟨fun _ => hnil, fun _ => h⟩, rfl, id, id⟩
  · rename_i hne
    exact ⟨⟨fun hflag => absurd hnone hflag, fun hnil => absurd hnil hne⟩, hpriority, hheaders,
      hpush⟩

/-- The header of a frame whose block is complete: it is that of the frame that was packed, but for
the length, which is that of all its parts. -/
def lastHd (hd : FrameHd) (payloads : List Bytes) : FrameHd :=
  { hd with length := payloads.flatten.length }

/-- What CONTINUATIONs make of the header of a frame. -/
lemma extendAll_continuations {make : FrameHd → BlockFrame}
    (hmake : ∀ hd contHd, (make hd).extend contHd = make (BlockFrame.extend.extendHd contHd hd))
    (streamId : StreamId) (hd : FrameHd) {payloads : List Bytes} (hne : payloads ≠ []) :
    (make hd).extendAll (continuations streamId payloads) =
      make { hd with
        flags := hd.flags ||| flagEndHeaders
        length := hd.length + payloads.flatten.length } := by
  have hnone : ∀ flags : UInt8, flags ||| (flagNone &&& flagEndHeaders) = flags := by
    refine forall_uint8 ?_
    decide +kernel
  induction payloads generalizing hd with
  | nil => exact absurd rfl hne
  | cons payload payloads ih =>
    rw [continuations_cons, BlockFrame.extendAll, List.foldl_cons, hmake]
    by_cases hlast : payloads = []
    · subst hlast
      simp [continuations, BlockFrame.extend.extendHd, contHd]
    · have hrest := ih (BlockFrame.extend.extendHd (contHd streamId payload payloads) hd) hlast
      rw [BlockFrame.extendAll] at hrest
      rw [hrest]
      simp only [BlockFrame.extend.extendHd, contHd, if_neg hlast, hnone, List.flatten_cons,
        List.length_append, Nat.add_assoc]

/-- **The frame at the end of its block** is the one that was packed. -/
lemma extendAll_firstHd {make : FrameHd → BlockFrame}
    (hmake : ∀ hd contHd, (make hd).extend contHd = make (BlockFrame.extend.extendHd contHd hd))
    {hd : FrameHd} (hflag : hd.flags &&& flagEndHeaders ≠ 0) (payload : Bytes)
    (payloads : List Bytes) :
    (make (firstHd hd payload payloads)).extendAll (continuations hd.streamId payloads) =
      make (lastHd hd (payload :: payloads)) := by
  have hall : ∀ flags : UInt8, flags &&& flagEndHeaders ≠ 0 →
      flags &&& ~~~flagEndHeaders ||| flagEndHeaders = flags := by
    refine forall_uint8 ?_
    decide +kernel
  by_cases hlast : payloads = []
  · subst hlast
    simp [continuations, BlockFrame.extendAll, firstHd, lastHd]
  · rw [extendAll_continuations hmake hd.streamId _ hlast, firstHd, lastHd]
    simp only [if_neg hlast, hall hd.flags hflag, List.flatten_cons, List.length_append]

namespace Inbound

variable {s : Inbound τ} {inflater inflater' : HdInflater} {nvs : List HdNv}

/-- What the session makes of a header block with the fields `nvs`: `frame` is the frame in which
the block begins, and `last` the one that is complete. -/
def receivedBlock (handlers : Handlers τ) (upper : τ) (frame last : BlockFrame)
    (nvs : List HdNv) : τ :=
  received handlers frame last (!(handlers.processBlock upper frame).2)
    (handlers.processBlock upper frame).1 nvs

/-- The frames of a block, whose first one begins with `lead`. -/
lemma leads_frames (h : handlers.Steady) (hinflater : s.inflater = some inflater)
    (hvalid : inflater.Valid) (frame : BlockFrame) (lead : Bytes) {p : Bytes} {pieces : List Bytes}
    (hbegin : ∀ rest, Leads handlers (s, packFrameHd frame.hd ++ (lead ++ rest), false)
      ((s.beginBlock handlers frame p.length 0).1, rest, true))
    (hfeed : hdReader.feed inflater (p ++ pieces.flatten) false = (nvs, .ok inflater'))
    (hend : inflater'.AtEnd = true) (hflag : frame.endHeaders = decide (pieces = []))
    (hpieces : ∀ piece ∈ pieces, piece.length < 2 ^ 24) (hstreamId : IsStreamId frame.hd.streamId)
    (rest : Bytes) :
    Leads handlers
      (s, wire ((frame.hd, lead ++ p) :: continuations frame.hd.streamId pieces) ++ rest, false)
      ({ s with
        state := .readHead []
        inflater := some (hdInflateEndHeaders inflater')
        upper := receivedBlock handlers s.upper frame
          (frame.extendAll (continuations frame.hd.streamId pieces)) nvs }, rest, false) := by
  have hblock : (s.beginBlock handlers frame p.length 0).1 =
      s.inBlock frame p.length (!(handlers.processBlock s.upper frame).2) inflater
        (handlers.processBlock s.upper frame).1 := by
    rw [beginBlock, inBlock, hinflater]
  have hbytes : wire ((frame.hd, lead ++ p) :: continuations frame.hd.streamId pieces) ++ rest =
      packFrameHd frame.hd ++
        (lead ++ (p ++ (wire (continuations frame.hd.streamId pieces) ++ rest))) := by
    simp only [wire, List.flatMap_cons, List.append_assoc]
  rw [hbytes]
  have hfirst := hbegin (p ++ (wire (continuations frame.hd.streamId pieces) ++ rest))
  rw [hblock] at hfirst
  exact hfirst.trans (leads_pieces h hvalid hfeed hend hflag hpieces hstreamId rest)

end Inbound

/-- What one session does with a frame that another one has packed with the header `hd` and a block
that came to lie in these payloads: the fields are decoded as `nvs`, and `make` is the frame. -/
structure Delivers (handlers : Handlers τ) (s s' : Inbound τ) (make : FrameHd → BlockFrame)
    (hd : FrameHd) (payload : Bytes) (payloads : List Bytes) (nvs : List HdNv) : Prop where
  leads : ∀ rest, Inbound.Leads handlers
    (s, wire (headerFrames hd payload payloads) ++ rest, false) (s', rest, false)
  state : s'.state = .readHead []
  inflight : s'.inflight = s.inflight
  upper : s'.upper = Inbound.receivedBlock handlers s.upper (make (firstHd hd payload payloads))
    (make (lastHd hd (payload :: payloads))) nvs

section Deliver

variable {bufs : Bufs} {deflater : HdDeflater} {inflater : HdInflater} {s : Inbound τ}

/-- A block that is packed is received; `make` is its frame, of which the beginning is read. -/
lemma exists_delivers (h : handlers.Steady) (hbufs : bufs.Clear) {hd : FrameHd}
    (hflag : hd.flags &&& flagEndHeaders ≠ 0) (hstreamId : IsStreamId hd.streamId) {nva : List Nv}
    (hfits : Fits nva) (lead : Bytes) (hlead : lead.length ≤ prioritySpecLen)
    (hinflater : s.inflater = some inflater) (hsync : HdSync deflater inflater)
    (make : FrameHd → BlockFrame) (hhd : ∀ hd, (make hd).hd = hd)
    (hmake : ∀ hd contHd, (make hd).extend contHd = make (BlockFrame.extend.extendHd contHd hd))
    (hbegin : ∀ payloads p rest, (lead ++ p).length ≤ maxPayloadlen →
      Inbound.Leads handlers
        (s, packFrameHd (firstHd hd (lead ++ p) payloads) ++ (lead ++ rest), false)
        ((s.beginBlock handlers (make (firstHd hd (lead ++ p) payloads)) p.length 0).1, rest, true)) :
    ∃ deflater' bufs' s' inflater' payload payloads,
      packHeaderBlock bufs hd nva lead deflater = (deflater', .ok bufs') ∧ Bufs.Kept bufs bufs' ∧
      bufs'.contents = wire (headerFrames hd payload payloads) ∧
      s'.inflater = some inflater' ∧ HdSync deflater' inflater' ∧
      Delivers handlers s s' make hd payload payloads (nva.map Nv.decoded) := by
  obtain ⟨deflater', bufs', empty, written, payload, payloads, hpack, hready, hempty, hdeflate,
    hpacked⟩ := packed_packHeaderBlock hbufs hd hfits hlead hsync.encoder hsync.good
  obtain ⟨inflater', hfeed, hend, hsync'⟩ :=
    feed_block hfits.sized hfits.short hready hempty hdeflate hsync
  obtain ⟨p, rfl⟩ := hpacked.first
  have hblock : p ++ payloads.flatten = written.contents := by
    have hflatten := hpacked.flatten
    rw [List.flatten_cons, List.append_assoc] at hflatten
    exact List.append_cancel_left hflatten
  rw [← hblock] at hfeed
  have hframe := hhd (firstHd hd (lead ++ p) payloads)
  obtain ⟨hlast, -⟩ := flags_firstHd hd (lead ++ p) payloads hflag
  have hendHeaders : (make (firstHd hd (lead ++ p) payloads)).endHeaders = decide (payloads = []) := by
    rw [BlockFrame.endHeaders, hframe]
    exact decide_eq_decide.2 hlast
  have hpieces : ∀ piece ∈ payloads, piece.length < 2 ^ 24 := by
    intro piece hpiece
    have hle := hpacked.length_le piece (List.mem_cons_of_mem _ hpiece)
    rw [maxPayloadlen] at hle
    omega
  have hbegin' : ∀ rest, Inbound.Leads handlers
      (s, packFrameHd (make (firstHd hd (lead ++ p) payloads)).hd ++ (lead ++ rest), false)
      ((s.beginBlock handlers (make (firstHd hd (lead ++ p) payloads)) p.length 0).1, rest, true) := by
    rw [hframe]
    exact fun rest => hbegin payloads p rest (hpacked.length_le _ List.mem_cons_self)
  have hframes := Inbound.leads_frames h hinflater hsync.decoder
    (make (firstHd hd (lead ++ p) payloads)) lead hbegin' hfeed hend hendHeaders hpieces
    (by rw [hframe]; exact hstreamId)
  rw [hframe, show (firstHd hd (lead ++ p) payloads).streamId = hd.streamId from rfl,
    extendAll_firstHd hmake hflag] at hframes
  refine ⟨deflater', bufs', { s with
      state := .readHead []
      inflater := some (hdInflateEndHeaders inflater')
      upper := Inbound.receivedBlock handlers s.upper (make (firstHd hd (lead ++ p) payloads))
        (make (lastHd hd ((lead ++ p) :: payloads))) (nva.map Nv.decoded) },
    hdInflateEndHeaders inflater', lead ++ p, payloads, hpack, hpacked.kept, hpacked.contents, rfl,
    hsync', fun rest => ?_, rfl, rfl, rfl⟩
  rw [headerFrames_eq]
  exact hframes rest

lemma packable_firstHd {hd : FrameHd} (hstreamId : IsStreamId hd.streamId) {payload : Bytes}
    (hpayload : payload.length ≤ maxPayloadlen) (payloads : List Bytes) :
    (firstHd hd payload payloads).Packable := by
  rw [maxPayloadlen] at hpayload
  exact ⟨show payload.length < 2 ^ 24 by omega, hstreamId⟩

/-- **A HEADERS frame** that one session packs is received by another one: the block is never too
large, its fields come to the application, which sees the frame that was packed, and the decoder
stays in sync with the encoder. -/
theorem delivers_packHeaders (h : handlers.Steady) (hbufs : bufs.Clear) {frame : Headers}
    (htype : frame.hd.type = FrameType.headers.toUInt8) (hflags : IsHeadersFlags frame.hd.flags)
    (hflag : frame.hd.flags &&& flagEndHeaders ≠ 0) (hstreamId : IsStreamId frame.hd.streamId)
    (hpriSpec : frame.priSpec.Packable) (hfits : Fits frame.nva)
    (hstate : s.state = .readHead []) (hinflater : s.inflater = some inflater)
    (hsync : HdSync deflater inflater) :
    ∃ deflater' bufs' s' inflater' payload payloads,
      packHeaders bufs frame deflater = (deflater', .ok bufs') ∧ Bufs.Kept bufs bufs' ∧
      bufs'.contents = wire (headerFrames frame.hd payload payloads) ∧
      s'.inflater = some inflater' ∧ HdSync deflater' inflater' ∧
      Delivers handlers s s'
        (fun hd => .headers hd (Inbound.headersPriority frame.hd.flags frame.priSpec)) frame.hd
        payload payloads (frame.nva.map Nv.decoded) := by
  have hlead : (Inbound.headersLead frame.hd.flags frame.priSpec).length ≤ prioritySpecLen := by
    rw [Inbound.length_headersLead, framePriorityLen]
    split
    · exact Nat.le_refl _
    · exact Nat.zero_le _
  refine exists_delivers h hbufs hflag hstreamId hfits _ hlead hinflater hsync
    (fun hd => .headers hd (Inbound.headersPriority frame.hd.flags frame.priSpec))
    (fun hd => rfl) (fun hd contHd => rfl) fun payloads p rest hpayload => ?_
  obtain ⟨-, hpriority, hheaders, -⟩ := flags_firstHd frame.hd
    (Inbound.headersLead frame.hd.flags frame.priSpec ++ p) payloads hflag
  have hfirst := Inbound.leads_headers
    (packable_firstHd hstreamId hpayload payloads) hstate htype (hheaders hflags)
    (hpayload.trans (h.maxFrameSize _)) hpriSpec p.length
  rw [Inbound.headersLead_congr hpriority, Inbound.headersPriority_congr hpriority] at hfirst
  exact hfirst List.length_append rest

/-- **A PUSH_PROMISE frame** that one session packs is received by another one. -/
theorem delivers_packPushPromise (h : handlers.Steady) (hbufs : bufs.Clear) {hd : FrameHd}
    (htype : hd.type = FrameType.pushPromise.toUInt8) (hflags : IsPushPromiseFlags hd.flags)
    (hflag : hd.flags &&& flagEndHeaders ≠ 0) (hstreamId : IsStreamId hd.streamId)
    {promisedStreamId : StreamId} (hpromised : IsStreamId promisedStreamId) {nva : List Nv}
    (hfits : Fits nva) (hstate : s.state = .readHead []) (hinflater : s.inflater = some inflater)
    (hsync : HdSync deflater inflater) :
    ∃ deflater' bufs' s' inflater' payload payloads,
      packPushPromise bufs hd promisedStreamId nva deflater = (deflater', .ok bufs') ∧
      Bufs.Kept bufs bufs' ∧ bufs'.contents = wire (headerFrames hd payload payloads) ∧
      s'.inflater = some inflater' ∧ HdSync deflater' inflater' ∧
      Delivers handlers s s' (fun hd => .pushPromise hd promisedStreamId) hd payload payloads
        (nva.map Nv.decoded) := by
  refine exists_delivers h hbufs hflag hstreamId hfits (putUint32be (uint32 promisedStreamId))
    (show 4 ≤ 5 by decide) hinflater hsync (fun hd => .pushPromise hd promisedStreamId)
    (fun hd => rfl) (fun hd contHd => rfl) fun payloads p rest hpayload => ?_
  obtain ⟨-, -, -, hpush⟩ := flags_firstHd hd (putUint32be (uint32 promisedStreamId) ++ p) payloads
    hflag
  exact Inbound.leads_pushPromise (packable_firstHd hstreamId hpayload payloads) hstate htype
    (hpush hflags) (hpayload.trans (h.maxFrameSize _)) hpromised List.length_append rest

end Deliver

end KituraHTTP2.Nghttp2
