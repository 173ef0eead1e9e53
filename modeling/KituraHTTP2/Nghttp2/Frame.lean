import KituraHTTP2.Nghttp2.Session
import KituraHTTP2.Nghttp2.Buf

/-!
# Frames

`nghttp2_frame.c`: the header of a frame, and the frames that have a fixed form.  Each function that
packs a frame writes its header before the place where the buffers begin, and its payload after it;
each function that unpacks one gets the payload alone, because the session reads the header first.

**Numbers.**  Identifiers of streams are `int32_t` in the program and go through the unsigned
numbers that are written; the bit above them is reserved, and is ignored where it is read.  In a
priority that same bit says that the dependency is exclusive, so that two fields share a number and
have to be taken apart again.  The weight is written as one less than it is, since it may be 256.
What an `init` function is given may be anything that its C type holds, but not all of it can be
read again as it was written: `Packable` says which values the protocol can carry, and only the
theorem about reading asks for it.

**Buffers.**  The session keeps one chain of buffers for all that it sends (`framebufs`), whose
first buffer begins ten bytes behind the beginning of its memory: nine for the header of a frame and
one for the length of a padding.  Between two frames the chain is `Clear`; a frame that was packed
leaves it so that it can be cleared again (`Kept`, `Bufs.Clear.reset`).  Nothing is checked where a
payload is written to the first buffer, except for SETTINGS; that all of them fit is a fact about
the size of the buffers.  GOAWAY writes its additional data with a slow write, and may need further
buffers.

**The session above** chooses the frames.  The functions here neither know which stream is open nor
what a flag means; the types of the frames that carry a header block are packed in `HeadersFrame`.

* **`unpackFrameHd_packFrameHd`** — the header is read as it was written.
* `unpackPrioritySpec_packPrioritySpec` — and so is a priority.
* **`packed_packFrame`**, **`unpackPayload_bytes`** — what is written for a frame is its header and
  its payload, and the payload is read as what it was made of.
-/

namespace KituraHTTP2.Nghttp2

/-! ## Numbers in network byte order -/

/-- `nghttp2_put_uint16be` -/
def putUint16be (n : ℕ) : Bytes := [UInt8.ofNat (n / 2 ^ 8), UInt8.ofNat n]

/-- `nghttp2_put_uint32be` -/
def putUint32be (n : ℕ) : Bytes :=
  [UInt8.ofNat (n / 2 ^ 24), UInt8.ofNat (n / 2 ^ 16), UInt8.ofNat (n / 2 ^ 8), UInt8.ofNat n]

/-- `nghttp2_get_uint16` -/
def getUint16 (b₀ b₁ : UInt8) : ℕ := b₀.toNat * 2 ^ 8 + b₁.toNat

/-- `nghttp2_get_uint32` -/
def getUint32 (b₀ b₁ b₂ b₃ : UInt8) : ℕ :=
  b₀.toNat * 2 ^ 24 + b₁.toNat * 2 ^ 16 + b₂.toNat * 2 ^ 8 + b₃.toNat

/-- `(uint32_t)n` for an `int32_t`: a negative number becomes a large one. -/
def uint32 (n : ℤ) : ℕ := (n % 2 ^ 32).toNat

@[simp]
lemma length_putUint32be (n : ℕ) : (putUint32be n).length = 4 := rfl

lemma getUint16_put {n : ℕ} (h : n < 2 ^ 16) :
    getUint16 (UInt8.ofNat (n / 2 ^ 8)) (UInt8.ofNat n) = n := by
  simp only [getUint16, UInt8.toNat_ofNat']
  omega

lemma getUint32_put {n : ℕ} (h : n < 2 ^ 32) :
    getUint32 (UInt8.ofNat (n / 2 ^ 24)) (UInt8.ofNat (n / 2 ^ 16)) (UInt8.ofNat (n / 2 ^ 8))
      (UInt8.ofNat n) = n := by
  simp only [getUint32, UInt8.toNat_ofNat']
  omega

/-! ## The header of a frame -/

/-- `NGHTTP2_STREAM_ID_MASK`, which leaves out the reserved bit. -/
def streamIdMask : ℕ := 2 ^ 31 - 1

/-- `nghttp2_frame_type` -/
inductive FrameType where
  | data | headers | priority | rstStream | settings | pushPromise | ping | goaway | windowUpdate
  | continuation
deriving DecidableEq, Repr

/-- The number of a frame type. -/
def FrameType.toUInt8 : FrameType → UInt8
  | data => 0
  | headers => 1
  | priority => 2
  | rstStream => 3
  | settings => 4
  | pushPromise => 5
  | ping => 6
  | goaway => 7
  | windowUpdate => 8
  | continuation => 9

/-- `NGHTTP2_FLAG_NONE` -/
def flagNone : UInt8 := 0

/-- `NGHTTP2_FLAG_END_STREAM` -/
def flagEndStream : UInt8 := 0x01

/-- `NGHTTP2_FLAG_ACK` -/
def flagAck : UInt8 := 0x01

/-- `NGHTTP2_FLAG_END_HEADERS` -/
def flagEndHeaders : UInt8 := 0x04

/-- `NGHTTP2_FLAG_PADDED` -/
def flagPadded : UInt8 := 0x08

/-- `NGHTTP2_FLAG_PRIORITY` -/
def flagPriority : UInt8 := 0x20

/-- `nghttp2_frame_hd`; the reserved bit is never written, and is 0 where a header was read. -/
structure FrameHd where
  length : ℕ
  type : UInt8
  flags : UInt8
  streamId : StreamId
deriving DecidableEq, Repr

/-- `NGHTTP2_FRAME_HDLEN` -/
def frameHdlen : ℕ := 9

/-- `nghttp2_frame_pack_frame_hd`.  The length is written as a number of four bytes, shifted by one;
the type is written over the last of them. -/
def packFrameHd (hd : FrameHd) : Bytes :=
  (putUint32be (hd.length * 2 ^ 8)).take 3 ++ [hd.type, hd.flags] ++
    putUint32be (uint32 hd.streamId)

/-- `nghttp2_frame_unpack_frame_hd`; `none` where there are not enough bytes. -/
def unpackFrameHd : Bytes → Option FrameHd
  | b₀ :: b₁ :: b₂ :: b₃ :: b₄ :: b₅ :: b₆ :: b₇ :: b₈ :: _ =>
    some { length := getUint32 b₀ b₁ b₂ b₃ / 2 ^ 8
           type := b₃
           flags := b₄
           streamId := (getUint32 b₅ b₆ b₇ b₈ &&& streamIdMask : ℕ) }
  | _ => none

@[simp]
lemma length_packFrameHd (hd : FrameHd) : (packFrameHd hd).length = frameHdlen := rfl

/-- An identifier of a stream that the protocol can carry.  The window size increments have the same
31 bits. -/
def IsStreamId (streamId : ℤ) : Prop := 0 ≤ streamId ∧ streamId < 2 ^ 31

lemma uint32_of_isStreamId {streamId : ℤ} (h : IsStreamId streamId) :
    ((uint32 streamId &&& streamIdMask : ℕ) : ℤ) = streamId := by
  obtain ⟨hpos, hlt⟩ := h
  rw [streamIdMask, Nat.and_two_pow_sub_one_eq_mod, uint32]
  omega

lemma uint32_lt (n : ℤ) : uint32 n < 2 ^ 32 := by
  rw [uint32]
  omega

/-- What a header has to be so that it can be read again. -/
structure FrameHd.Packable (hd : FrameHd) : Prop where
  length_lt : hd.length < 2 ^ 24
  streamId : IsStreamId hd.streamId

/-- **A header that was packed is unpacked**, whatever comes after it.  The length is read as four
bytes again, of which the last is the type, and is shifted back. -/
theorem unpackFrameHd_packFrameHd {hd : FrameHd} (h : hd.Packable) (rest : Bytes) :
    unpackFrameHd (packFrameHd hd ++ rest) = some hd := by
  have hlength := h.length_lt
  have hstreamId := uint32_of_isStreamId h.streamId
  have hsize : getUint32 (UInt8.ofNat (hd.length * 2 ^ 8 / 2 ^ 24))
      (UInt8.ofNat (hd.length * 2 ^ 8 / 2 ^ 16)) (UInt8.ofNat (hd.length * 2 ^ 8 / 2 ^ 8)) hd.type /
        2 ^ 8 = hd.length := by
    have htype := hd.type.toNat_lt
    simp only [getUint32, UInt8.toNat_ofNat']
    omega
  change some (FrameHd.mk _ _ _ _) = _
  rw [hsize, getUint32_put (uint32_lt _), hstreamId]

/-! ## Priorities -/

/-- `nghttp2_priority_spec` -/
structure PrioritySpec where
  streamId : StreamId
  weight : ℤ
  exclusive : Bool
deriving DecidableEq, Repr

/-- `nghttp2_priority_spec_default_init` -/
def prioritySpecDefaultInit : PrioritySpec := ⟨0, 16, false⟩

/-- `nghttp2_frame_pack_priority_spec`.  The bit of an exclusive dependency is set in the first byte
when the identifier was written. -/
def packPrioritySpec (priSpec : PrioritySpec) : Bytes :=
  (putUint32be (uint32 priSpec.streamId)).modifyHead
      (fun b => if priSpec.exclusive then b ||| 0x80 else b) ++
    [UInt8.ofInt (priSpec.weight - 1)]

/-- `nghttp2_frame_unpack_priority_spec`; `none` where there are not enough bytes. -/
def unpackPrioritySpec : Bytes → Option PrioritySpec
  | b₀ :: b₁ :: b₂ :: b₃ :: b₄ :: _ =>
    some { streamId := (getUint32 b₀ b₁ b₂ b₃ &&& streamIdMask : ℕ)
           weight := b₄.toNat + 1
           exclusive := decide (0 < b₀ &&& 0x80) }
  | _ => none

@[simp]
lemma length_packPrioritySpec (priSpec : PrioritySpec) :
    (packPrioritySpec priSpec).length = prioritySpecLen := by
  simp [packPrioritySpec, prioritySpecLen]

/-- `nghttp2_frame_priority_len`: only HEADERS with the flag `PRIORITY` have the fields of a
priority. -/
def framePriorityLen (flags : UInt8) : ℕ := if flags &&& flagPriority ≠ 0 then prioritySpecLen else 0

/-- The values that a priority can have in the protocol. -/
structure PrioritySpec.Packable (priSpec : PrioritySpec) : Prop where
  streamId : IsStreamId priSpec.streamId
  weight_pos : 1 ≤ priSpec.weight
  weight_le : priSpec.weight ≤ 256

/-- The highest bit of a byte below 128, set or not: it changes nothing else in the byte, and can be
told from it. -/
lemma toNat_exclusive (exclusive : Bool) {b : UInt8} (h : b.toNat < 128) :
    (if exclusive then b ||| 0x80 else b).toNat = b.toNat + (if exclusive then 128 else 0) ∧
      decide (0 < (if exclusive then b ||| 0x80 else b) &&& 0x80) = exclusive := by
  have hbytes : ∀ n < 128, ∀ exclusive : Bool,
      (if exclusive then UInt8.ofNat n ||| 0x80 else UInt8.ofNat n).toNat =
        n + (if exclusive then 128 else 0) ∧
      decide (0 < (if exclusive then UInt8.ofNat n ||| 0x80 else UInt8.ofNat n) &&& 0x80) =
        exclusive := by decide +kernel
  simpa using hbytes b.toNat h exclusive

/-- **A priority that was packed is unpacked.**  The bit of an exclusive dependency is set in the
first byte of the identifier, and the mask of the identifier takes it away again. -/
theorem unpackPrioritySpec_packPrioritySpec {priSpec : PrioritySpec} (h : priSpec.Packable)
    (rest : Bytes) : unpackPrioritySpec (packPrioritySpec priSpec ++ rest) = some priSpec := by
  obtain ⟨streamId, weight, exclusive⟩ := priSpec
  obtain ⟨⟨hpos, hlt⟩, hweight, hweight'⟩ := h
  simp only at hpos hlt hweight hweight'
  obtain ⟨n, rfl⟩ := Int.eq_ofNat_of_zero_le hpos
  have hn : n < 2 ^ 31 := by omega
  have huint : uint32 (n : ℤ) = n := by
    rw [uint32]
    omega
  have hfirst : (UInt8.ofNat (n / 2 ^ 24)).toNat < 128 := by
    rw [UInt8.toNat_ofNat']
    omega
  obtain ⟨htoNat, hexclusive⟩ := toNat_exclusive exclusive hfirst
  have hstreamId : getUint32
      (if exclusive then UInt8.ofNat (n / 2 ^ 24) ||| 0x80 else UInt8.ofNat (n / 2 ^ 24))
      (UInt8.ofNat (n / 2 ^ 16)) (UInt8.ofNat (n / 2 ^ 8)) (UInt8.ofNat n) &&& streamIdMask = n := by
    rw [streamIdMask, Nat.and_two_pow_sub_one_eq_mod, getUint32, htoNat]
    simp only [UInt8.toNat_ofNat']
    cases exclusive <;> simp only [Bool.false_eq_true, if_false, if_true] <;> omega
  have hbyte : ((UInt8.ofInt (weight - 1)).toNat : ℤ) + 1 = weight := by
    rw [UInt8.ofInt, UInt8.toNat_ofNat']
    omega
  have hpack : packPrioritySpec ⟨n, weight, exclusive⟩ ++ rest =
      (if exclusive then UInt8.ofNat (n / 2 ^ 24) ||| 0x80 else UInt8.ofNat (n / 2 ^ 24)) ::
        UInt8.ofNat (n / 2 ^ 16) :: UInt8.ofNat (n / 2 ^ 8) :: UInt8.ofNat n ::
        UInt8.ofInt (weight - 1) :: rest := by
    simp [packPrioritySpec, putUint32be, huint]
  rw [hpack, unpackPrioritySpec, hstreamId, hexclusive, hbyte]

/-! ## Frames of a fixed form -/

/-- What a frame of a fixed form carries. -/
inductive Payload where
  | priority (priSpec : PrioritySpec)
  | rstStream (errorCode : ℕ)
  | settings (iv : List SettingsEntry)
  | ping (opaqueData : Bytes)
  | goaway (lastStreamId : StreamId) (errorCode : ℕ) (opaqueData : Bytes)
  | windowUpdate (windowSizeIncrement : ℤ)
deriving DecidableEq, Repr

/-- `nghttp2_frame`, for the frames that have neither a header block nor DATA. -/
structure Frame where
  hd : FrameHd
  payload : Payload
deriving DecidableEq, Repr

/-- `NGHTTP2_FRAME_SETTINGS_ENTRY_LENGTH` -/
def frameSettingsEntryLength : ℕ := 6

/-- `nghttp2_frame_priority_init` -/
def framePriorityInit (streamId : StreamId) (priSpec : PrioritySpec) : Frame :=
  ⟨⟨prioritySpecLen, FrameType.priority.toUInt8, flagNone, streamId⟩, .priority priSpec⟩

/-- `nghttp2_frame_rst_stream_init` -/
def frameRstStreamInit (streamId : StreamId) (errorCode : ℕ) : Frame :=
  ⟨⟨4, FrameType.rstStream.toUInt8, flagNone, streamId⟩, .rstStream errorCode⟩

/-- `nghttp2_frame_settings_init` -/
def frameSettingsInit (flags : UInt8) (iv : List SettingsEntry) : Frame :=
  ⟨⟨iv.length * frameSettingsEntryLength, FrameType.settings.toUInt8, flags, 0⟩, .settings iv⟩

/-- `nghttp2_frame_ping_init`.  A PING without data of its own carries eight zeros. -/
def framePingInit (flags : UInt8) (opaqueData : Option Bytes) : Frame :=
  ⟨⟨8, FrameType.ping.toUInt8, flags, 0⟩, .ping (opaqueData.getD (List.replicate 8 0))⟩

/-- `nghttp2_frame_goaway_init` -/
def frameGoawayInit (lastStreamId : StreamId) (errorCode : ℕ) (opaqueData : Bytes) : Frame :=
  ⟨⟨8 + opaqueData.length, FrameType.goaway.toUInt8, flagNone, 0⟩,
    .goaway lastStreamId errorCode opaqueData⟩

/-- `nghttp2_frame_window_update_init` -/
def frameWindowUpdateInit (flags : UInt8) (streamId : StreamId) (windowSizeIncrement : ℤ) : Frame :=
  ⟨⟨4, FrameType.windowUpdate.toUInt8, flags, streamId⟩, .windowUpdate windowSizeIncrement⟩

/-- A frame that one of the `init` functions makes; the data of a PING are eight bytes. -/
inductive Frame.Made : Frame → Prop
  | priority (streamId : StreamId) (priSpec : PrioritySpec) :
      Made (framePriorityInit streamId priSpec)
  | rstStream (streamId : StreamId) (errorCode : ℕ) : Made (frameRstStreamInit streamId errorCode)
  | settings (flags : UInt8) (iv : List SettingsEntry) : Made (frameSettingsInit flags iv)
  | ping {opaqueData : Option Bytes} (flags : UInt8) (h : ∀ data ∈ opaqueData, data.length = 8) :
      Made (framePingInit flags opaqueData)
  | goaway (lastStreamId : StreamId) (errorCode : ℕ) (opaqueData : Bytes) :
      Made (frameGoawayInit lastStreamId errorCode opaqueData)
  | windowUpdate (flags : UInt8) (streamId : StreamId) (windowSizeIncrement : ℤ) :
      Made (frameWindowUpdateInit flags streamId windowSizeIncrement)

/-- The numbers of a payload lie in the ranges of their fields: they can be read again as they were
written. -/
def Payload.Packable : Payload → Prop
  | .priority priSpec => priSpec.Packable
  | .rstStream errorCode => errorCode < 2 ^ 32
  | .settings iv => ∀ entry ∈ iv, entry.settingsId < 2 ^ 16 ∧ entry.value < 2 ^ 32
  | .ping _ => True
  | .goaway lastStreamId errorCode _ => IsStreamId lastStreamId ∧ errorCode < 2 ^ 32
  | .windowUpdate windowSizeIncrement => IsStreamId windowSizeIncrement

/-! ## Packing -/

/-- What goes wrong when a frame is packed: `NGHTTP2_ERR_FRAME_SIZE_ERROR`,
`NGHTTP2_ERR_HEADER_COMP`, or a write outside of a buffer. -/
inductive PackError where
  | frameSizeError | headerComp | invalidWrite
deriving DecidableEq, Repr

/-- `pos -= length`, and `data` is written there; `none` is a place before the beginning of the
memory. -/
def Buf.prepend (buf : Buf) (data : Bytes) : Option Buf :=
  if h : data.length ≤ buf.pos then
    some { mem := buf.mem.take (buf.pos - data.length) ++ data ++ buf.mem.drop buf.pos
           pos := buf.pos - data.length
           last := buf.last
           pos_le := Nat.le_trans (Nat.sub_le _ _) buf.pos_le
           last_le := by
             have hpos := buf.pos_le
             have hlast := buf.last_le
             simp only [List.length_append, List.length_take, List.length_drop]
             omega }
  else none

/-- The header goes before the place where the buffer begins, and the payload to its end. -/
def packFixed (bufs : Bufs) (hd : FrameHd) (payload : Bytes) : Except PackError Bufs :=
  match bufs.cur.prepend (packFrameHd hd) with
  | none => .error .invalidWrite
  | some cur =>
    if h : payload.length ≤ cur.avail then .ok { bufs with cur := cur.copy payload h }
    else .error .invalidWrite

/-- `nghttp2_frame_pack_priority` -/
def packPriority (bufs : Bufs) (hd : FrameHd) (priSpec : PrioritySpec) : Except PackError Bufs :=
  packFixed bufs hd (packPrioritySpec priSpec)

/-- `nghttp2_frame_pack_rst_stream` -/
def packRstStream (bufs : Bufs) (hd : FrameHd) (errorCode : ℕ) : Except PackError Bufs :=
  packFixed bufs hd (putUint32be errorCode)

/-- `nghttp2_frame_pack_settings_payload` -/
def packSettingsPayload (iv : List SettingsEntry) : Bytes :=
  iv.flatMap fun entry => putUint16be entry.settingsId ++ putUint32be entry.value

/-- `nghttp2_frame_pack_settings`, the only one of these functions that looks for room. -/
def packSettings (bufs : Bufs) (hd : FrameHd) (iv : List SettingsEntry) : Except PackError Bufs :=
  if bufs.cur.avail < hd.length then .error .frameSizeError
  else packFixed bufs hd (packSettingsPayload iv)

/-- `nghttp2_frame_pack_ping` -/
def packPing (bufs : Bufs) (hd : FrameHd) (opaqueData : Bytes) : Except PackError Bufs :=
  packFixed bufs hd opaqueData

/-- `nghttp2_frame_pack_goaway`.  The additional data is written with a slow write. -/
def packGoaway (bufs : Bufs) (hd : FrameHd) (lastStreamId : StreamId) (errorCode : ℕ)
    (opaqueData : Bytes) : Except PackError Bufs :=
  (packFixed bufs hd (putUint32be (uint32 lastStreamId) ++ putUint32be errorCode)).bind fun bufs =>
    match bufs.add opaqueData with
    | .ok bufs => .ok bufs
    | .error .bufferError => .error .frameSizeError
    | .error .invalidWrite => .error .invalidWrite

/-- `nghttp2_frame_pack_window_update` -/
def packWindowUpdate (bufs : Bufs) (hd : FrameHd) (windowSizeIncrement : ℤ) :
    Except PackError Bufs :=
  packFixed bufs hd (putUint32be (uint32 windowSizeIncrement))

/-- The part of `session_prep_frame` that packs a frame.  No two of the functions can be mixed up,
since the payload says which one it is. -/
def packFrame (bufs : Bufs) (frame : Frame) : Except PackError Bufs :=
  match frame.payload with
  | .priority priSpec => packPriority bufs frame.hd priSpec
  | .rstStream errorCode => packRstStream bufs frame.hd errorCode
  | .settings iv => packSettings bufs frame.hd iv
  | .ping opaqueData => packPing bufs frame.hd opaqueData
  | .goaway lastStreamId errorCode opaqueData =>
    packGoaway bufs frame.hd lastStreamId errorCode opaqueData
  | .windowUpdate windowSizeIncrement => packWindowUpdate bufs frame.hd windowSizeIncrement

/-! ## Unpacking -/

/-- `nghttp2_frame_unpack_rst_stream_payload` -/
def unpackRstStreamPayload : Bytes → Option Payload
  | [b₀, b₁, b₂, b₃] => some (.rstStream (getUint32 b₀ b₁ b₂ b₃))
  | _ => none

/-- `nghttp2_frame_unpack_ping_payload` -/
def unpackPingPayload (payload : Bytes) : Option Payload :=
  if payload.length = 8 then some (.ping payload) else none

/-- `nghttp2_frame_unpack_goaway_payload` -/
def unpackGoawayPayload : Bytes → Option Payload
  | b₀ :: b₁ :: b₂ :: b₃ :: c₀ :: c₁ :: c₂ :: c₃ :: opaqueData =>
    some (.goaway (getUint32 b₀ b₁ b₂ b₃ &&& streamIdMask : ℕ) (getUint32 c₀ c₁ c₂ c₃) opaqueData)
  | _ => none

/-- `nghttp2_frame_unpack_window_update_payload`; `NGHTTP2_WINDOW_SIZE_INCREMENT_MASK` is
`NGHTTP2_STREAM_ID_MASK`. -/
def unpackWindowUpdatePayload : Bytes → Option Payload
  | [b₀, b₁, b₂, b₃] => some (.windowUpdate (getUint32 b₀ b₁ b₂ b₃ &&& streamIdMask : ℕ))
  | _ => none

/-- The payload of a frame of a fixed form, by the type of the frame; `none` where the type is
another one, or the payload has not the length that the session checks first. -/
def unpackPayload (type : UInt8) (payload : Bytes) : Option Payload :=
  if type = FrameType.priority.toUInt8 then
    if payload.length = prioritySpecLen then (unpackPrioritySpec payload).map .priority else none
  else if type = FrameType.rstStream.toUInt8 then unpackRstStreamPayload payload
  else if type = FrameType.settings.toUInt8 then
    if payload.length % frameSettingsEntryLength = 0 then
      some (.settings (Session.unpackSettingsPayload payload))
    else none
  else if type = FrameType.ping.toUInt8 then unpackPingPayload payload
  else if type = FrameType.goaway.toUInt8 then unpackGoawayPayload payload
  else if type = FrameType.windowUpdate.toUInt8 then unpackWindowUpdatePayload payload
  else none

/-! ## The buffers of a session -/

/-- `NGHTTP2_MAX_PAYLOADLEN` -/
def maxPayloadlen : ℕ := 16384

/-- `NGHTTP2_FRAMEBUF_CHUNKLEN` -/
def framebufChunklen : ℕ := frameHdlen + 1 + maxPayloadlen

/-- The number of the buffers in `session_new`: as many as the longest header block needs. -/
def nbuffer : ℕ := (maxSendHeaderBlockLength + framebufChunklen - 1) / framebufChunklen

/-- `aob.framebufs` of `session_new`, the only buffers for what is sent. -/
def framebufs (mem : Mem) : Bufs :=
  Bufs.init framebufChunklen nbuffer (frameHdlen + 1) mem (by decide) (by decide)

/-- `nghttp2_bufs_reset`, for a chain that keeps one buffer: `nghttp2_buf_reset` and
`nghttp2_buf_shift_right` of the first buffer, and the others are freed.  `none` is a place beyond
the end of the buffer. -/
def Bufs.reset (bufs : Bufs) : Option Bufs :=
  if h : bufs.offset ≤ bufs.head.mem.length then
    some { bufs with
      prior := []
      cur := ⟨bufs.head.mem, bufs.offset, bufs.offset, Nat.le_refl _, h⟩
      next := []
      used_le := Nat.le_trans (by simp only [List.length_nil]; omega) bufs.used_le }
  else none

/-- The buffers of a session between two frames: there is one, and it has room for a header before
the place where it begins. -/
structure Bufs.Clear (bufs : Bufs) : Prop where
  prior : bufs.prior = []
  next : bufs.next = []
  pos : bufs.cur.pos = frameHdlen + 1
  last : bufs.cur.last = frameHdlen + 1
  length : bufs.cur.mem.length = framebufChunklen
  chunkLength : bufs.chunkLength = framebufChunklen
  maxChunk : bufs.maxChunk = nbuffer
  offset : bufs.offset = frameHdlen + 1

/-- What `reset` needs: the sizes are those of `bufs`.  The places in the buffers do not matter,
since they are set anew. -/
structure Bufs.Kept (bufs bufs' : Bufs) : Prop where
  chunkLength : bufs'.chunkLength = bufs.chunkLength
  maxChunk : bufs'.maxChunk = bufs.maxChunk
  offset : bufs'.offset = bufs.offset
  laid : bufs'.Laid 0

lemma Bufs.mem_head (bufs : Bufs) : bufs.head ∈ bufs.prior ++ bufs.cur :: bufs.next := by
  rw [Bufs.head]
  cases bufs.prior with
  | nil => simp
  | cons buf prior => simp

lemma Bufs.Kept.written {bufs bufs' bufs'' : Bufs} {data : Bytes} (h : Kept bufs bufs')
    (hwritten : Written bufs' data bufs'') : Kept bufs bufs'' where
  chunkLength := hwritten.layout.chunkLength.trans h.chunkLength
  maxChunk := hwritten.layout.maxChunk.trans h.maxChunk
  offset := hwritten.layout.offset.trans h.offset
  laid := hwritten.layout.laid 0 (Nat.zero_le _) h.laid

lemma clear_framebufs (mem : Mem) : (framebufs mem).Clear :=
  ⟨rfl, rfl, rfl, rfl, mem.length_malloc _, rfl, rfl, rfl⟩

namespace Bufs.Clear

variable {bufs : Bufs}

lemma ready (h : bufs.Clear) : bufs.Ready where
  empty buf hbuf := by
    rw [h.next] at hbuf
    cases hbuf
  avail buf hbuf := by
    rw [h.next] at hbuf
    cases hbuf
  fresh := by
    rw [h.offset, h.chunkLength]
    decide

lemma laid (h : bufs.Clear) : bufs.Laid (frameHdlen + 1) := by
  intro buf hbuf
  rw [h.prior, h.next, List.nil_append, List.mem_singleton] at hbuf
  subst hbuf
  exact ⟨h.length.trans h.chunkLength.symm, h.pos.ge⟩

lemma contents_cur (h : bufs.Clear) : bufs.cur.contents = [] := by
  rw [Buf.contents, h.pos, h.last]
  exact List.drop_eq_nil_of_le (List.length_take_le _ _)

lemma contents (h : bufs.Clear) : bufs.contents = [] := by
  rw [Bufs.contents, h.prior, h.next, List.nil_append, List.flatMap_singleton, h.contents_cur]

lemma avail (h : bufs.Clear) : bufs.cur.avail = maxPayloadlen := by
  rw [Buf.avail, h.length, h.last]
  rfl

/-- After a frame was sent the buffers are clear again. -/
lemma reset {bufs' : Bufs} (h : bufs.Clear) (hkept : Kept bufs bufs') :
    ∃ bufs'', bufs'.reset = some bufs'' ∧ bufs''.Clear := by
  have hoffset := hkept.offset.trans h.offset
  have hchunk := hkept.chunkLength.trans h.chunkLength
  have hhead := (hkept.laid _ bufs'.mem_head).1.trans hchunk
  have hle : bufs'.offset ≤ bufs'.head.mem.length := by
    rw [hoffset, hhead]
    decide
  rw [Bufs.reset, dif_pos hle]
  exact ⟨_, rfl, rfl, rfl, hoffset, hoffset, hhead, hchunk, hkept.maxChunk.trans h.maxChunk,
    hoffset⟩

end Bufs.Clear

/-! ## What is packed -/

/-- The bytes of a payload, as the protocol has them. -/
def Payload.bytes : Payload → Bytes
  | .priority priSpec => packPrioritySpec priSpec
  | .rstStream errorCode => putUint32be errorCode
  | .settings iv => packSettingsPayload iv
  | .ping opaqueData => opaqueData
  | .goaway lastStreamId errorCode opaqueData =>
    putUint32be (uint32 lastStreamId) ++ putUint32be errorCode ++ opaqueData
  | .windowUpdate windowSizeIncrement => putUint32be (uint32 windowSizeIncrement)

lemma length_packSettingsPayload (iv : List SettingsEntry) :
    (packSettingsPayload iv).length = iv.length * frameSettingsEntryLength := by
  induction iv with
  | nil => rfl
  | cons entry iv ih =>
    simp only [packSettingsPayload, frameSettingsEntryLength, List.flatMap_cons, List.length_append,
      List.length_cons, putUint16be, putUint32be, List.length_nil] at ih ⊢
    omega

/-- The header of a frame that was made is the one of its payload. -/
lemma Frame.Made.hd {frame : Frame} (h : frame.Made) :
    frame.hd.length = frame.payload.bytes.length := by
  cases h with
  | priority streamId priSpec => exact (length_packPrioritySpec _).symm
  | rstStream streamId errorCode => rfl
  | settings flags iv => exact (length_packSettingsPayload _).symm
  | @ping opaqueData flags h =>
    cases opaqueData with
    | none => rfl
    | some data => exact (h data rfl).symm
  | goaway lastStreamId errorCode opaqueData =>
    simp only [frameGoawayInit, Payload.bytes, List.length_append, length_putUint32be]
  | windowUpdate flags streamId windowSizeIncrement => rfl

lemma unpackSettingsPayload_pack {iv : List SettingsEntry}
    (h : ∀ entry ∈ iv, entry.settingsId < 2 ^ 16 ∧ entry.value < 2 ^ 32) :
    Session.unpackSettingsPayload (packSettingsPayload iv) = iv := by
  induction iv with
  | nil => rfl
  | cons entry iv ih =>
    obtain ⟨hid, hvalue⟩ := h entry List.mem_cons_self
    have hrest := ih fun entry' hentry' => h entry' (List.mem_cons_of_mem entry hentry')
    change SettingsEntry.mk (getUint16 _ _) (getUint32 _ _ _ _) ::
      Session.unpackSettingsPayload (packSettingsPayload iv) = _
    rw [hrest, getUint16_put hid, getUint32_put hvalue]

/-- **The payload of a frame is read as what it was made of**, where its numbers lie in the ranges
of their fields.  The reserved bit of an identifier and the bit of an exclusive dependency lie
beside each other in one number, and are taken apart again. -/
theorem unpackPayload_bytes {frame : Frame} (h : frame.Made) (hpackable : frame.payload.Packable) :
    unpackPayload frame.hd.type frame.payload.bytes = some frame.payload := by
  cases h with
  | priority streamId priSpec =>
    have hpriSpec : priSpec.Packable := hpackable
    have hpack := unpackPrioritySpec_packPrioritySpec hpriSpec []
    rw [List.append_nil] at hpack
    simp [unpackPayload, framePriorityInit, Payload.bytes, hpack]
  | rstStream streamId errorCode =>
    change some (Payload.rstStream (getUint32 _ _ _ _)) = _
    rw [getUint32_put hpackable]
    rfl
  | settings flags iv =>
    have hlength := length_packSettingsPayload iv
    simp [unpackPayload, frameSettingsInit, Payload.bytes, FrameType.toUInt8,
      unpackSettingsPayload_pack hpackable, hlength]
  | @ping opaqueData flags h =>
    have hlength : (framePingInit flags opaqueData).payload.bytes.length = 8 := by
      cases opaqueData with
      | none => rfl
      | some data => exact h data rfl
    change unpackPingPayload _ = _
    rw [unpackPingPayload, if_pos hlength]
    rfl
  | goaway lastStreamId errorCode opaqueData =>
    obtain ⟨hstreamId, herrorCode⟩ : IsStreamId lastStreamId ∧ errorCode < 2 ^ 32 := hpackable
    change some (Payload.goaway (getUint32 _ _ _ _ &&& streamIdMask : ℕ) (getUint32 _ _ _ _) _) = _
    rw [getUint32_put (uint32_lt _), getUint32_put herrorCode, uint32_of_isStreamId hstreamId]
    rfl
  | windowUpdate flags streamId windowSizeIncrement =>
    have hincrement : IsStreamId windowSizeIncrement := hpackable
    change some (Payload.windowUpdate (getUint32 _ _ _ _ &&& streamIdMask : ℕ)) = _
    rw [getUint32_put (uint32_lt _), uint32_of_isStreamId hincrement]
    rfl

theorem unpackPayload_bytes_ping :
    unpackPayload FrameType.ping.toUInt8 (List.replicate 8 0) =
      some (framePingInit flagNone none).payload :=
  unpackPayload_bytes (show (framePingInit flagNone none).Made from .ping flagNone (by simp)) trivial

@[simp]
lemma avail_prepend {buf buf' : Buf} {data : Bytes} (h : buf.prepend data = some buf') :
    buf'.avail = buf.avail := by
  unfold Buf.prepend at h
  split at h
  · rename_i hpos
    cases h
    have hlast := buf.last_le
    have hle := buf.pos_le
    simp only [Buf.avail, List.length_append, List.length_take, List.length_drop]
    omega
  · cases h

/-- What was in the buffer comes after what is written before it. -/
lemma contents_prepend {buf buf' : Buf} {data : Bytes} (h : buf.prepend data = some buf') :
    buf'.contents = data ++ buf.contents := by
  unfold Buf.prepend at h
  split at h
  · rename_i hpos
    cases h
    have hlast := buf.last_le
    have hle := buf.pos_le
    have hlength : (buf.mem.take (buf.pos - data.length)).length = buf.pos - data.length := by
      rw [List.length_take]
      omega
    simp only [Buf.contents, List.drop_take, List.append_assoc]
    rw [List.drop_append_of_le_length hlength.ge, List.drop_of_length_le hlength.le,
      List.nil_append, List.take_append, List.take_of_length_le (by omega)]
    congr 2
    omega
  · cases h

lemma exists_prepend {buf : Buf} {data : Bytes} (h : data.length ≤ buf.pos) :
    ∃ buf', buf.prepend data = some buf' := ⟨_, by rw [Buf.prepend, dif_pos h]⟩

lemma length_prepend {buf buf' : Buf} {data : Bytes} (h : buf.prepend data = some buf') :
    buf'.mem.length = buf.mem.length := by
  unfold Buf.prepend at h
  split at h
  · rename_i hpos
    cases h
    have hlast := buf.last_le
    have hle := buf.pos_le
    simp only [List.length_append, List.length_take, List.length_drop]
    omega
  · cases h

/-- A frame of a fixed form fits into the first buffer, and what is left of it is known: GOAWAY
writes on there. -/
lemma exists_packFixed {bufs : Bufs} (h : bufs.Clear) (hd : FrameHd) (payload : Bytes)
    (hpayload : payload.length ≤ maxPayloadlen) :
    ∃ bufs', packFixed bufs hd payload = .ok bufs' ∧
      bufs'.contents = packFrameHd hd ++ payload ∧ bufs'.Ready ∧ Bufs.Kept bufs bufs' ∧
      bufs'.cur.avail = maxPayloadlen - payload.length ∧ bufs'.prior = [] := by
  obtain ⟨cur, hcur⟩ : ∃ cur, bufs.cur.prepend (packFrameHd hd) = some cur :=
    exists_prepend (by rw [h.pos, length_packFrameHd]; decide)
  have havail : cur.avail = maxPayloadlen := (avail_prepend hcur).trans h.avail
  have hfits : payload.length ≤ cur.avail := hpayload.trans havail.ge
  have hlength : (cur.copy payload hfits).mem.length = bufs.chunkLength := by
    rw [Buf.length_copy, length_prepend hcur, h.length, h.chunkLength]
  simp only [packFixed, hcur, dif_pos hfits]
  refine ⟨_, rfl, ?_, ⟨h.ready.empty, h.ready.avail, h.ready.fresh⟩, ⟨rfl, rfl, rfl, ?_⟩, ?_,
    h.prior⟩
  · simp [Bufs.contents, h.prior, h.next, contents_prepend hcur, h.contents_cur]
  · intro buf hbuf
    simp only [h.prior, h.next, List.nil_append, List.mem_singleton] at hbuf
    subst hbuf
    exact ⟨hlength, Nat.zero_le _⟩
  · simp only [Buf.avail_copy, havail]

/-- The frame that is written to the buffers. -/
structure Packed (bufs bufs' : Bufs) (hd : FrameHd) (payload : Bytes) : Prop where
  contents : bufs'.contents = packFrameHd hd ++ payload
  kept : Bufs.Kept bufs bufs'

lemma packed_packFixed {bufs : Bufs} (h : bufs.Clear) (hd : FrameHd) {payload : Bytes}
    (hpayload : payload.length ≤ maxPayloadlen) :
    ∃ bufs', packFixed bufs hd payload = .ok bufs' ∧ Packed bufs bufs' hd payload := by
  obtain ⟨bufs', hok, hcontents, -, hkept, -⟩ := exists_packFixed h hd _ hpayload
  exact ⟨bufs', hok, hcontents, hkept⟩

/-- The additional data of a GOAWAY fits after its two numbers, as a slow write with room for all of
it. -/
lemma packed_packGoaway {bufs : Bufs} (h : bufs.Clear) (hd : FrameHd) (lastStreamId : StreamId)
    (errorCode : ℕ) {opaqueData : Bytes} (hdata : 8 + opaqueData.length ≤ maxPayloadlen) :
    ∃ bufs', packGoaway bufs hd lastStreamId errorCode opaqueData = .ok bufs' ∧
      Packed bufs bufs' hd
        (putUint32be (uint32 lastStreamId) ++ putUint32be errorCode ++ opaqueData) := by
  have hlength : (putUint32be (uint32 lastStreamId) ++ putUint32be errorCode).length = 8 := rfl
  obtain ⟨bufs', hok, hcontents, hready, hkept, havail, hprior⟩ :=
    exists_packFixed h hd (putUint32be (uint32 lastStreamId) ++ putUint32be errorCode)
      (by omega)
  have hwrites := Bufs.writes_add hready opaqueData
  have hroom := bufs'.avail_le_room
  rw [Bufs.Writes, if_pos (by omega)] at hwrites
  obtain ⟨bufs'', hadd, hwritten⟩ := hwrites
  refine ⟨bufs'', ?_, ?_, hkept.written hwritten⟩
  · rw [packGoaway, hok]
    simp only [Except.bind, hadd]
  · rw [hwritten.contents, hcontents, List.append_assoc]

/-- **A frame of a fixed form is packed** as its header and its payload, whatever its numbers are:
the buffers of a session begin behind the place for a header, and the first of them has room for the
largest payload. -/
theorem packed_packFrame {frame : Frame} (h : frame.Made) {bufs : Bufs} (hbufs : bufs.Clear)
    (hlength : frame.hd.length ≤ maxPayloadlen) :
    ∃ bufs', packFrame bufs frame = .ok bufs' ∧
      Packed bufs bufs' frame.hd frame.payload.bytes := by
  have hpayload : frame.payload.bytes.length ≤ maxPayloadlen := h.hd ▸ hlength
  cases h with
  | priority streamId priSpec => exact packed_packFixed hbufs _ hpayload
  | rstStream streamId errorCode => exact packed_packFixed hbufs _ hpayload
  | settings flags iv =>
    have hnot : ¬ bufs.cur.avail < (frameSettingsInit flags iv).hd.length := by
      rw [hbufs.avail]
      exact Nat.not_lt.2 hlength
    have hpack : packFrame bufs (frameSettingsInit flags iv) =
        packFixed bufs (frameSettingsInit flags iv).hd (packSettingsPayload iv) := if_neg hnot
    rw [hpack]
    exact packed_packFixed hbufs _ hpayload
  | ping flags h => exact packed_packFixed hbufs _ hpayload
  | goaway lastStreamId errorCode opaqueData => exact packed_packGoaway hbufs _ _ _ hlength
  | windowUpdate flags streamId windowSizeIncrement => exact packed_packFixed hbufs _ hpayload

/-- New memory is zero. -/
def Mem.zero : Mem := ⟨fun size => List.replicate size 0, fun _ => List.length_replicate⟩

theorem packed_packFrame_ping :
    ∃ bufs', packFrame (framebufs .zero) (framePingInit flagNone none) = .ok bufs' ∧
      Packed (framebufs .zero) bufs' (framePingInit flagNone none).hd (List.replicate 8 0) :=
  packed_packFrame (.ping flagNone (by simp)) (clear_framebufs _) (by decide)

end KituraHTTP2.Nghttp2
