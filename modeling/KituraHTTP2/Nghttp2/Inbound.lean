import KituraHTTP2.Nghttp2.Frame
import KituraHTTP2.Nghttp2.Settings
import KituraHTTP2.Nghttp2.Hd.InflateRun

/-!
# Receiving frames

`nghttp2_session_mem_recv` reads what the peer sends, in pieces of any length: the client magic, and
frames, of which it first reads the header and then, as the type of the frame requires, fields of a
fixed length, a header block, entries of SETTINGS, or just so many bytes.  `Inbound.turn` is one
round of its loop.  A round that has too little input collects what there is and waits; the others
come to the next state, and say whether another round is to be made even if no input is left.

What the session and the application make of a frame is `Handlers`, functions of a state of any
type.  They decide whether a header block is read or ignored, and which DATA is refused; an ignored
block is decoded too, because the next one may refer to it.  Whether the session wants to read at
all when a call begins is theirs too, and so are the windows: they are asked for each chunk of DATA,
for the byte that holds the length of the padding, and for what is ignored of a frame.  A queue of
too many acknowledgements of PING or SETTINGS makes the session give up (`InboundError.flooded`).

The functions are those of a session without user callbacks for padding and for extension frames,
and callbacks that neither pause nor fail.  Streams that are idle or closed and kept for the
priorities of others are not part of the state that is read here.  What is left of a decoder whose
`bad` is set is not kept: it fails at once, and the session has already queued the GOAWAY that ends
it.
-/

namespace KituraHTTP2.Nghttp2

open Incremental

/-! ## Frames that carry a header block -/

/-- HEADERS or PUSH_PROMISE, without the header block. -/
inductive BlockFrame where
  | headers (hd : FrameHd) (priSpec : PrioritySpec)
  | pushPromise (hd : FrameHd) (promisedStreamId : StreamId)
deriving DecidableEq, Repr

namespace BlockFrame

def hd : BlockFrame → FrameHd
  | headers hd _ => hd
  | pushPromise hd _ => hd

/-- What a CONTINUATION changes in the frame that it continues. -/
def extend (contHd : FrameHd) : BlockFrame → BlockFrame
  | headers hd priSpec => headers (extendHd hd) priSpec
  | pushPromise hd promisedStreamId => pushPromise (extendHd hd) promisedStreamId
where
  extendHd (hd : FrameHd) : FrameHd :=
    { hd with
      flags := hd.flags ||| (contHd.flags &&& flagEndHeaders)
      length := hd.length + contHd.length }

/-- The header block ends with this frame. -/
def endHeaders (frame : BlockFrame) : Bool := frame.hd.flags &&& flagEndHeaders ≠ 0

end BlockFrame

/-! ## The session above -/

/-- What the session and the application do with what was received, on a state of type `τ`.  Where
the result has a `Bool` it says whether the payload is read or ignored. -/
structure Handlers (τ : Type) where
  /-- `nghttp2_session_want_read` -/
  wantRead : τ → Bool
  /-- `local_settings.max_frame_size` -/
  maxFrameSize : τ → ℕ
  /-- `session_process_headers_frame` and `session_process_push_promise_frame` -/
  processBlock : τ → BlockFrame → τ × Bool
  /-- a field of a header block: `nghttp2_http_on_header` and `on_header_callback`; with `false` the
  stream was reset -/
  onHeader : τ → BlockFrame → HdNv → τ × Bool
  /-- the block cannot be decoded: RST_STREAM if the block was not ignored, and GOAWAY -/
  headerComp : τ → BlockFrame → Bool → τ
  /-- `session_after_header_block_received` -/
  afterHeaderBlock : τ → BlockFrame → τ
  /-- `session_on_data_received_fail_fast` -/
  dataAllowed : τ → FrameHd → τ × Bool
  /-- the windows, for the byte with the length of the padding of DATA and what is left after it -/
  onPadLength : τ → FrameHd → ℕ → τ
  /-- `nghttp2_session_get_stream` finds the stream of a DATA frame -/
  hasStream : τ → FrameHd → Bool
  /-- bytes of DATA: what is left after them, how many they are, and the data among them.  The
  windows, `nghttp2_http_on_data_chunk` and `on_data_chunk_recv_callback`; with `false` the stream
  was reset -/
  onData : τ → FrameHd → ℕ → ℕ → Bytes → τ × Bool
  /-- the window of the connection, for so many bytes of a DATA frame that is ignored -/
  onIgnoredData : τ → ℕ → τ
  /-- `session_process_data_frame` -/
  processData : τ → FrameHd → τ
  /-- the functions that process frames of a fixed form; `none` is `NGHTTP2_ERR_FLOODED` -/
  processFrame : τ → Frame → Option τ
  /-- `nghttp2_session_on_settings_received`, for SETTINGS without `ACK`; `none` is
  `NGHTTP2_ERR_FLOODED` -/
  onSettings : τ → FrameHd → List SettingsEntry → Option τ
  /-- what `nghttp2_session_update_local_settings` does apart from the decoder -/
  updateLocalSettings : τ → List SettingsEntry → τ
  /-- `nghttp2_session_terminate_session_with_reason` -/
  terminate : τ → ℕ → Option String → τ
  /-- what is in memory that was allocated for the entries of SETTINGS -/
  junk : ℕ → SettingsEntry

/-- An application that keeps the fields that come. -/
def Handlers.keepFields : Handlers (List HdNv) where
  wantRead _ := true
  maxFrameSize _ := maxPayloadlen
  processBlock nvs _ := (nvs, true)
  onHeader nvs _ nv := (nvs ++ [nv], true)
  headerComp nvs _ _ := nvs
  afterHeaderBlock nvs _ := nvs
  dataAllowed nvs _ := (nvs, true)
  onPadLength nvs _ _ := nvs
  hasStream _ _ := true
  onData nvs _ _ _ _ := (nvs, true)
  onIgnoredData nvs _ := nvs
  processData nvs _ := nvs
  processFrame nvs _ := some nvs
  onSettings nvs _ _ := some nvs
  updateLocalSettings nvs _ := nvs
  terminate nvs _ _ := nvs
  junk _ := ⟨0, 0⟩

/-- `NGHTTP2_PROTOCOL_ERROR` -/
def protocolError : ℕ := 1

/-- `NGHTTP2_INTERNAL_ERROR` -/
def internalError : ℕ := 2

/-- `NGHTTP2_FRAME_SIZE_ERROR` -/
def frameSizeErrorCode : ℕ := 6

/-! ## The state -/

/-- A header block that is read, or ignored: the frame, what is left of its payload, and the length
of its padding with the field that says so. -/
structure Block where
  frame : BlockFrame
  payloadleft : ℕ
  padlen : ℕ
  ignore : Bool

/-- `nghttp2_inbound_state`, with the parts of `nghttp2_inbound_frame` that are in use.  `sbuf` is
what is in `sbuf`, and `mark` how much of it there should be. -/
inductive InboundState where
  | readClientMagic (payloadleft : ℕ)
  | readFirstSettings (sbuf : Bytes)
  | readHead (sbuf : Bytes)
  | readNbyte (hd : FrameHd) (payloadleft padlen mark : ℕ) (sbuf : Bytes)
  /-- `NGHTTP2_IB_READ_HEADER_BLOCK` and `NGHTTP2_IB_IGN_HEADER_BLOCK` -/
  | readHeaderBlock (block : Block)
  /-- `NGHTTP2_IB_EXPECT_CONTINUATION` and `NGHTTP2_IB_IGN_CONTINUATION` -/
  | expectContinuation (frame : BlockFrame) (ignore : Bool) (sbuf : Bytes)
  | ignPayload (type : UInt8) (payloadleft : ℕ)
  | frameSizeError (type : UInt8) (payloadleft : ℕ)
  | readSettings (hd : FrameHd) (inbound : Option InboundSettings) (payloadleft mark : ℕ)
      (sbuf : Bytes)
  /-- `lbuf` begins with the two numbers of GOAWAY here -/
  | readGoawayDebug (hd : FrameHd) (payloadleft : ℕ) (lbuf : Bytes)
  | readPadData (hd : FrameHd) (payloadleft : ℕ) (sbuf : Bytes)
  | readData (hd : FrameHd) (payloadleft padlen : ℕ)
  | ignData (payloadleft : ℕ)
  | ignAll

/-- The part of the session that receives. -/
structure Inbound (τ : Type) where
  state : InboundState
  /-- `hd_inflater`; `none` if its `bad` is set -/
  inflater : Option HdInflater
  /-- the entries in `inflight_settings_head`: SETTINGS that the peer has not acknowledged -/
  inflight : List (List SettingsEntry)
  upper : τ

/-- The receiving part of `session_new`: a server expects the client magic first, a client SETTINGS.
-/
def Inbound.sessionNew {τ : Type} (server : Bool) (upper : τ) : Inbound τ where
  state := if server then .readClientMagic 24 else .readFirstSettings []
  inflater := some hdInflateInit
  inflight := []
  upper := upper

/-- The errors that `nghttp2_session_mem_recv` returns: `NGHTTP2_ERR_BAD_CLIENT_MAGIC` and
`NGHTTP2_ERR_FLOODED`; and a write beyond the end of the array for the entries of SETTINGS, or a
read beyond the end of `sbuf`. -/
inductive InboundError where
  | badClientMagic | flooded | invalidAccess
deriving DecidableEq, Repr

/-- `NGHTTP2_CLIENT_MAGIC` -/
def clientMagic : Bytes := utf8Encode "PRI * HTTP/2.0\r\n\r\nSM\r\n\r\n"

/-! ## Reading so many bytes -/

/-- `inbound_frame_buf_read`, and what comes after it: `wait` if there are less than `mark` bytes,
and `full` with all of them. -/
def readSbuf {σ β ε : Type*} (mark : ℕ) (sbuf input : Bytes) (wait : Bytes → σ)
    (full : Bytes → Except ε (σ × Bool)) : Turn σ UInt8 β ε :=
  let readlen := min input.length (mark - sbuf.length)
  let sbuf := sbuf ++ input.take readlen
  if sbuf.length < mark then .wait (wait sbuf) (input.drop readlen)
  else
    match full sbuf with
    | .ok (s, busy) => .next s (input.drop readlen) busy
    | .error error => .fail error

/-- `inbound_frame_payload_readlen`, and what comes after it: `part` if more bytes are to come, and
`done` with the last of them. -/
def readPayload {σ β ε : Type*} (payloadleft : ℕ) (input : Bytes) (part : Bytes → σ)
    (done : Bytes → Except ε (σ × Bool)) : Turn σ UInt8 β ε :=
  let readlen := min input.length payloadleft
  if payloadleft - readlen ≠ 0 then .wait (part (input.take readlen)) (input.drop readlen)
  else
    match done (input.take readlen) with
    | .ok (s, busy) => .next s (input.drop readlen) busy
    | .error error => .fail error

/-! ## Padding -/

/-- `inbound_frame_handle_pad`: whether the frame has a field with the length of its padding; `none`
where there is no room for it. -/
def handlePad (hd : FrameHd) : Option Bool :=
  if hd.flags &&& flagPadded ≠ 0 then (if hd.length < 1 then none else some true) else some false

/-- `inbound_frame_compute_pad` -/
def computePad (payloadleft : ℕ) (padByte : UInt8) : Option ℕ :=
  let padlen := padByte.toNat + 1
  if payloadleft < padlen - 1 then none else some padlen

/-- `nghttp2_frame_trail_padlen` -/
def frameTrailPadlen (flags : UInt8) (padlen : ℕ) : ℕ :=
  if padlen = 0 then 0 else padlen - (if flags &&& flagPadded ≠ 0 then 1 else 0)

/-- `inbound_frame_effective_readlen`, for the trailing padding `trailPadlen`; `none` is -1. -/
def effectiveReadlen (trailPadlen payloadleft readlen : ℕ) : Option ℕ :=
  if payloadleft < trailPadlen then
    if readlen < trailPadlen - payloadleft then none
    else some (readlen - (trailPadlen - payloadleft))
  else some readlen

/-! ## A header block -/

/-- The end of `inflate_header_block`: 0, `NGHTTP2_ERR_TEMPORAL_CALLBACK_FAILURE` with what it has
left of the input, or `NGHTTP2_ERR_HEADER_COMP`. -/
inductive BlockResult (τ : Type) where
  | done (inflater : Option HdInflater) (upper : τ)
  | stopped (inflater : HdInflater) (upper : τ) (rest : Bytes)
  | comp (upper : τ)

variable {τ : Type} (handlers : Handlers τ)

/-- What becomes of a field: the fields of an ignored block are dropped. -/
def visitor (frame : BlockFrame) (ignore : Bool) (upper : τ) (nv : HdNv) : τ × Bool :=
  if ignore then (upper, true) else handlers.onHeader upper frame nv

/-- What becomes of the result of a call of the decoder. -/
def visitField (frame : BlockFrame) (ignore : Bool) (upper : τ) : Option HdNv → τ × Bool
  | none => (upper, true)
  | some nv => visitor handlers frame ignore upper nv

/-- `inflate_header_block` -/
def recvHeaderBlock (frame : BlockFrame) (ignore : Bool) (upper : τ) (inflater : HdInflater)
    (input : Bytes) (final : Bool) : BlockResult τ :=
  match h : hdInflateHdNv inflater input final with
  | (_, .error _) => .comp (handlers.headerComp upper frame ignore)
  | (inflater', .ok r) =>
    let next := visitField handlers frame ignore upper r.nv
    if !next.2 then .stopped inflater' next.1 r.rest
    else if r.final then .done (some (hdInflateEndHeaders inflater')) next.1
    else if hstop : r.nv = none ∧ r.rest = [] then .done (some inflater') next.1
    else recvHeaderBlock frame ignore next.1 inflater' r.rest final
termination_by inflater.cost input
decreasing_by
  rw [hdInflateHdNv] at h
  split at h
  · cases h
  · have hprogress := hdInflateLoop_progress final inflater input false h
    cases hnv : r.nv with
    | none =>
      rw [hnv] at hprogress
      exact absurd ⟨hnv, hprogress⟩ hstop
    | some nv =>
      rw [hnv] at hprogress
      exact hprogress

/-- A piece of a header block is decoded, if there is something to decode or it is the last one. -/
def recvPiece (frame : BlockFrame) (ignore : Bool) (upper : τ) (inflater : Option HdInflater)
    (input : Bytes) (final : Bool) : BlockResult τ :=
  if 0 < input.length ∨ final then
    match inflater with
    | none => .comp (handlers.headerComp upper frame ignore)
    | some inflater => recvHeaderBlock handlers frame ignore upper inflater input final
  else .done inflater upper

/-! ## The steps -/

namespace Inbound

/-- `session_inbound_frame_reset` -/
def reset (s : Inbound τ) : Inbound τ := { s with state := .readHead [] }

/-- `nghttp2_session_terminate_session_with_reason` -/
def terminate (s : Inbound τ) (errorCode : ℕ) (reason : Option String) : Inbound τ :=
  { s with upper := handlers.terminate s.upper errorCode reason }

/-- The session has an error, and the rest of the payload is ignored. -/
def refuse (s : Inbound τ) (errorCode : ℕ) (reason : String) (type : UInt8) (payloadleft : ℕ) :
    Inbound τ :=
  { s.terminate handlers errorCode (some reason) with state := .ignPayload type payloadleft }

/-- A frame with a header block begins. -/
def beginBlock (s : Inbound τ) (frame : BlockFrame) (payloadleft padlen : ℕ) : Inbound τ × Bool :=
  let next := handlers.processBlock s.upper frame
  ({ s with
      upper := next.1
      state := .readHeaderBlock ⟨frame, payloadleft, padlen, !next.2⟩ }, true)

/-- What comes before the header block of HEADERS, when the length of the padding is known. -/
def readPriority (s : Inbound τ) (hd : FrameHd) (payloadleft padlen : ℕ) : Inbound τ × Bool :=
  let priFieldlen := framePriorityLen hd.flags
  if 0 < priFieldlen then
    if payloadleft < priFieldlen then
      ({ s with state := .frameSizeError hd.type payloadleft }, true)
    else ({ s with state := .readNbyte hd payloadleft padlen priFieldlen [] }, false)
  else s.beginBlock handlers (.headers hd prioritySpecDefaultInit) payloadleft padlen

/-- What comes before the header block of PUSH_PROMISE, when the length of the padding is known. -/
def readPromised (s : Inbound τ) (hd : FrameHd) (payloadleft padlen : ℕ) : Inbound τ × Bool :=
  if payloadleft < 4 then ({ s with state := .frameSizeError hd.type payloadleft }, true)
  else ({ s with state := .readNbyte hd payloadleft padlen 4 [] }, false)

/-- A frame of a fixed form, whose payload has `size` bytes. -/
def readFixed (s : Inbound τ) (hd : FrameHd) (size : ℕ) : Inbound τ × Bool :=
  if hd.length ≠ size then ({ s with state := .frameSizeError hd.type hd.length }, true)
  else ({ s with state := .readNbyte hd hd.length 0 size [] }, false)

/-- The header of a DATA frame was read. -/
def receiveData (s : Inbound τ) (hd : FrameHd) : Inbound τ × Bool :=
  let hd := { hd with flags := hd.flags &&& (flagEndStream ||| flagPadded) }
  let next := handlers.dataAllowed s.upper hd
  let s := { s with upper := next.1 }
  if next.2 then
    match handlePad hd with
    | none =>
      ({ s.terminate handlers protocolError (some "DATA: insufficient padding space") with
          state := .ignData hd.length }, true)
    | some true => ({ s with state := .readPadData hd hd.length [] }, true)
    | some false => ({ s with state := .readData hd hd.length 0 }, true)
  else ({ s with state := .ignData hd.length }, true)

/-- The header of a HEADERS frame was read. -/
def receiveHeaders (s : Inbound τ) (hd : FrameHd) : Inbound τ × Bool :=
  let hd := { hd with
    flags := hd.flags &&& (flagEndStream ||| flagEndHeaders ||| flagPadded ||| flagPriority) }
  match handlePad hd with
  | none =>
    (s.refuse handlers protocolError "HEADERS: insufficient padding space" hd.type hd.length, true)
  | some true => ({ s with state := .readNbyte hd hd.length 0 1 [] }, false)
  | some false => s.readPriority handlers hd hd.length 0

/-- The header of a PUSH_PROMISE frame was read. -/
def receivePushPromise (s : Inbound τ) (hd : FrameHd) : Inbound τ × Bool :=
  let hd := { hd with flags := hd.flags &&& (flagEndHeaders ||| flagPadded) }
  match handlePad hd with
  | none =>
    (s.refuse handlers protocolError "PUSH_PROMISE: insufficient padding space" hd.type hd.length,
      true)
  | some true => ({ s with state := .readNbyte hd hd.length 0 1 [] }, false)
  | some false => s.readPromised hd hd.length 0

/-- The header of a SETTINGS frame was read. -/
def receiveSettings (s : Inbound τ) (hd : FrameHd) : Inbound τ × Bool :=
  let hd := { hd with flags := hd.flags &&& flagAck }
  if hd.length % frameSettingsEntryLength ≠ 0 ∨ (hd.flags &&& flagAck ≠ 0 ∧ 0 < hd.length) then
    ({ s with state := .frameSizeError hd.type hd.length }, true)
  else if hd.length ≠ 0 then
    let inbound := InboundSettings.alloc handlers.junk (hd.length / frameSettingsEntryLength)
    ({ s with
        state := .readSettings hd (some inbound) hd.length frameSettingsEntryLength [] }, false)
  else ({ s with state := .readSettings hd none 0 0 [] }, true)

/-- The header of a frame was read, in `NGHTTP2_IB_READ_HEAD`. -/
def receiveHead (s : Inbound τ) (hd : FrameHd) : Inbound τ × Bool :=
  if handlers.maxFrameSize s.upper < hd.length then
    (s.refuse handlers frameSizeErrorCode "too large frame size" hd.type hd.length, true)
  else if hd.type = FrameType.data.toUInt8 then s.receiveData handlers hd
  else if hd.type = FrameType.headers.toUInt8 then s.receiveHeaders handlers hd
  else if hd.type = FrameType.priority.toUInt8 then
    s.readFixed { hd with flags := flagNone } prioritySpecLen
  else if hd.type = FrameType.rstStream.toUInt8 ∨ hd.type = FrameType.windowUpdate.toUInt8 then
    s.readFixed { hd with flags := flagNone } 4
  else if hd.type = FrameType.settings.toUInt8 then s.receiveSettings handlers hd
  else if hd.type = FrameType.pushPromise.toUInt8 then s.receivePushPromise handlers hd
  else if hd.type = FrameType.ping.toUInt8 then
    s.readFixed { hd with flags := hd.flags &&& flagAck } 8
  else if hd.type = FrameType.goaway.toUInt8 then
    let hd := { hd with flags := flagNone }
    if hd.length < 8 then ({ s with state := .frameSizeError hd.type hd.length }, true)
    else ({ s with state := .readNbyte hd hd.length 0 8 [] }, false)
  else if hd.type = FrameType.continuation.toUInt8 then
    (s.refuse handlers protocolError "CONTINUATION: unexpected" hd.type hd.length, true)
  else ({ s with state := .ignPayload hd.type hd.length }, true)

/-- A frame of a fixed form is processed, and complete. -/
def processFrame (s : Inbound τ) (frame : Frame) : Except InboundError (Inbound τ × Bool) :=
  match handlers.processFrame s.upper frame with
  | none => .error .flooded
  | some upper => .ok ({ s with upper := upper }.reset, false)

/-- What `NGHTTP2_IB_READ_NBYTE` does with its bytes, of which `payloadleft` bytes of payload are
left. -/
def receiveNbyte (s : Inbound τ) (hd : FrameHd) (payloadleft padlen : ℕ) (sbuf : Bytes) :
    Except InboundError (Inbound τ × Bool) :=
  if padlen = 0 ∧ hd.flags &&& flagPadded ≠ 0 ∧ hd.type = FrameType.headers.toUInt8 then
    match sbuf with
    | [] => .error .invalidAccess
    | padByte :: _ =>
      match computePad payloadleft padByte with
      | none =>
        .ok (s.refuse handlers protocolError "HEADERS: invalid padding" hd.type payloadleft, true)
      | some padlen => .ok (s.readPriority handlers hd payloadleft padlen)
  else if padlen = 0 ∧ hd.flags &&& flagPadded ≠ 0 ∧ hd.type = FrameType.pushPromise.toUInt8 then
    match sbuf with
    | [] => .error .invalidAccess
    | padByte :: _ =>
      match computePad payloadleft padByte with
      | none =>
        .ok (s.refuse handlers protocolError "PUSH_PROMISE: invalid padding" hd.type payloadleft,
          true)
      | some padlen => .ok (s.readPromised hd payloadleft padlen)
  else if hd.type = FrameType.headers.toUInt8 then
    match unpackPrioritySpec sbuf with
    | none => .error .invalidAccess
    | some priSpec => .ok (s.beginBlock handlers (.headers hd priSpec) payloadleft padlen)
  else if hd.type = FrameType.pushPromise.toUInt8 then
    match sbuf with
    | b₀ :: b₁ :: b₂ :: b₃ :: _ =>
      .ok (s.beginBlock handlers
        (.pushPromise hd (getUint32 b₀ b₁ b₂ b₃ &&& streamIdMask : ℕ)) payloadleft padlen)
    | _ => .error .invalidAccess
  else if hd.type = FrameType.goaway.toUInt8 then
    .ok ({ s with state := .readGoawayDebug hd payloadleft sbuf }, true)
  else
    match unpackPayload hd.type sbuf with
    | none => .error .invalidAccess
    | some payload => s.processFrame handlers ⟨hd, payload⟩

/-- The part of `nghttp2_session_update_local_settings` about the decoder, and the rest of it.  A
decoder that is `bad` has ended the session already. -/
def updateLocalSettings (s : Inbound τ) (iv : List SettingsEntry) : Inbound τ :=
  match s.inflater.bind fun inflater => updateLocalTableSize inflater (tableSizes iv) with
  | some inflater =>
    { s with inflater := some inflater, upper := handlers.updateLocalSettings s.upper iv }
  | none => s.terminate handlers internalError none

/-- `nghttp2_session_on_settings_received`; `none` is `NGHTTP2_ERR_FLOODED`. -/
def onSettingsReceived (s : Inbound τ) (hd : FrameHd) (iv : List SettingsEntry) :
    Option (Inbound τ) :=
  if hd.streamId ≠ 0 then s.terminate handlers protocolError (some "SETTINGS: stream_id != 0")
  else if hd.flags &&& flagAck ≠ 0 then
    if iv ≠ [] then
      s.terminate handlers frameSizeErrorCode (some "SETTINGS: ACK and payload != 0")
    else
      match s.inflight with
      | [] => s.terminate handlers protocolError (some "SETTINGS: unexpected ACK")
      | iv :: inflight => { s with inflight := inflight }.updateLocalSettings handlers iv
  else (handlers.onSettings s.upper hd iv).map fun upper => { s with upper := upper }

/-- The entries of SETTINGS are processed, and the frame is complete. -/
def endSettings (s : Inbound τ) (hd : FrameHd) (iv : List SettingsEntry) :
    Except InboundError (Inbound τ × Bool) :=
  match s.onSettingsReceived handlers hd iv with
  | none => .error .flooded
  | some s => .ok (s.reset, false)

/-- `session_process_settings_frame` -/
def processSettings (s : Inbound τ) (hd : FrameHd) (inbound : Option InboundSettings) :
    Except InboundError (Inbound τ × Bool) :=
  match inbound with
  | none => s.endSettings handlers hd []
  | some inbound =>
    match inbound.processSettings with
    | none => .error .invalidAccess
    | some iv => s.endSettings handlers hd iv

/-- `nghttp2_frame_unpack_settings_entry` and `inbound_frame_set_settings_entry` -/
def setEntry (inbound : Option InboundSettings) (sbuf : Bytes) : Option InboundSettings :=
  match Session.unpackSettingsPayload sbuf with
  | entry :: _ => inbound.bind fun inbound => inbound.setSettingsEntry entry
  | [] => none

/-- What `NGHTTP2_IB_READ_SETTINGS` does with an entry, if there is one. -/
def receiveEntry (s : Inbound τ) (hd : FrameHd) (inbound : Option InboundSettings)
    (payloadleft mark : ℕ) (sbuf : Bytes) : Except InboundError (Inbound τ × Bool) :=
  if mark = 0 then s.processSettings handlers hd inbound
  else
    match setEntry inbound sbuf with
    | none => .error .invalidAccess
    | some inbound =>
      if payloadleft - mark ≠ 0 then
        .ok ({ s with
                state := .readSettings hd (some inbound) (payloadleft - mark)
                  frameSettingsEntryLength [] }, false)
      else s.processSettings handlers hd (some inbound)

/-- What `NGHTTP2_IB_EXPECT_CONTINUATION` does with the header of a frame. -/
def receiveContinuation (s : Inbound τ) (frame : BlockFrame) (ignore : Bool) (contHd : FrameHd) :
    Inbound τ × Bool :=
  if contHd.type ≠ FrameType.continuation.toUInt8 ∨ contHd.streamId ≠ frame.hd.streamId then
    (s.refuse handlers protocolError "unexpected non-CONTINUATION frame or stream_id is invalid"
      frame.hd.type contHd.length, true)
  else ({ s with
    state := .readHeaderBlock ⟨frame.extend contHd, contHd.length, 0, ignore⟩ }, true)

/-- What `NGHTTP2_IB_READ_PAD_DATA` does with the length of the padding. -/
def receivePadData (s : Inbound τ) (hd : FrameHd) (payloadleft : ℕ) (sbuf : Bytes) :
    Except InboundError (Inbound τ × Bool) :=
  match sbuf with
  | [] => .error .invalidAccess
  | padByte :: _ =>
    let s := { s with upper := handlers.onPadLength s.upper hd (payloadleft - 1) }
    match computePad (payloadleft - 1) padByte with
    | none =>
      .ok ({ s.terminate handlers protocolError (some "DATA: invalid padding") with
              state := .ignData (payloadleft - 1) }, true)
    | some padlen => .ok ({ s with state := .readData hd (payloadleft - 1) padlen }, true)

/-- The data among the bytes of a payload, of which `payloadleft` bytes are left after them. -/
def effectiveData (trailPadlen payloadleft : ℕ) (bytes : Bytes) : Bytes :=
  match effectiveReadlen trailPadlen payloadleft bytes.length with
  | none => []
  | some dataReadlen => bytes.take dataReadlen

/-- Bytes of a payload are given to the session, of which `left` bytes are left after them; with
`false` it ignores the rest of the frame. -/
def receiveBytes (upper : τ) (hd : FrameHd) (left padlen : ℕ) (bytes : Bytes) : τ × Bool :=
  if bytes = [] then (upper, true)
  else handlers.onData upper hd left bytes.length
    (effectiveData (frameTrailPadlen hd.flags padlen) left bytes)

/-- So many bytes of a payload are ignored. -/
def ignoreBytes (upper : τ) (n : ℕ) : τ := if n = 0 then upper else handlers.onIgnoredData upper n

/-- A frame with a part of a header block is complete. -/
def endPiece (s : Inbound τ) (frame : BlockFrame) (ignore : Bool) : Inbound τ :=
  if frame.endHeaders then
    { s with upper := if ignore then s.upper else handlers.afterHeaderBlock s.upper frame }.reset
  else { s with state := .expectContinuation frame ignore [] }

/-- `payloadleft` bytes are left after a piece of a header block. -/
def afterPiece (s : Inbound τ) (block : Block) (payloadleft : ℕ) (rest : Bytes) :
    Turn (Inbound τ) UInt8 Empty InboundError :=
  if payloadleft ≠ 0 then
    .wait { s with state := .readHeaderBlock { block with payloadleft := payloadleft } } rest
  else .next (s.endPiece handlers block.frame block.ignore) rest false

/-- What comes after `inflate_header_block`, which was given `dataReadlen` bytes of the input. -/
def afterBlock (s : Inbound τ) (block : Block) (input : Bytes) (dataReadlen : ℕ) :
    BlockResult τ → Turn (Inbound τ) UInt8 Empty InboundError
  | .done inflater upper =>
    let readlen := min input.length block.payloadleft
    { s with inflater := inflater, upper := upper }.afterPiece handlers block
      (block.payloadleft - readlen) (input.drop readlen)
  | .stopped inflater upper rest =>
    -- the block is decoded from where the callback failed, but its fields are dropped
    let proclen := dataReadlen - rest.length
    .next { s with
      inflater := some inflater
      upper := upper
      state := .readHeaderBlock { block with
        payloadleft := block.payloadleft - proclen
        ignore := true } } (input.drop proclen) true
  | .comp upper =>
    let readlen := min input.length block.payloadleft
    let s := { s with inflater := none, upper := upper }
    if block.payloadleft - readlen = 0 then .next s.reset (input.drop readlen) false
    else
      -- the program makes one more turn, in which there is nothing to ignore yet
      .wait { s with
        state := .ignPayload block.frame.hd.type (block.payloadleft - readlen) } (input.drop readlen)

/-- `NGHTTP2_IB_READ_HEADER_BLOCK` and `NGHTTP2_IB_IGN_HEADER_BLOCK` -/
def turnHeaderBlock (s : Inbound τ) (block : Block) (input : Bytes) :
    Turn (Inbound τ) UInt8 Empty InboundError :=
  let readlen := min input.length block.payloadleft
  let payloadleft := block.payloadleft - readlen
  let trailPadlen := frameTrailPadlen block.frame.hd.flags block.padlen
  match effectiveReadlen trailPadlen payloadleft readlen with
  | none => s.afterPiece handlers block payloadleft (input.drop readlen)
  | some dataReadlen =>
    let final := block.frame.endHeaders && (block.payloadleft - dataReadlen == trailPadlen)
    s.afterBlock handlers block input dataReadlen
      (recvPiece handlers block.frame block.ignore s.upper s.inflater (input.take dataReadlen) final)

/-- `NGHTTP2_IB_READ_CLIENT_MAGIC` -/
def turnClientMagic (s : Inbound τ) (payloadleft : ℕ) (input : Bytes) :
    Turn (Inbound τ) UInt8 Empty InboundError :=
  let readlen := min input.length payloadleft
  if (clientMagic.drop (clientMagic.length - payloadleft)).take readlen ≠ input.take readlen then
    .fail .badClientMagic
  else if payloadleft - readlen ≠ 0 then
    .wait { s with state := .readClientMagic (payloadleft - readlen) } (input.drop readlen)
  else .next { s with state := .readFirstSettings [] } (input.drop readlen) false

/-- What `NGHTTP2_IB_READ_FIRST_SETTINGS` does with the header of the first frame; if that is one of
SETTINGS it goes on as `NGHTTP2_IB_READ_HEAD`. -/
def receiveFirstSettings (s : Inbound τ) (hd : FrameHd) : Inbound τ × Bool :=
  if hd.type ≠ FrameType.settings.toUInt8 ∨ hd.flags &&& flagAck ≠ 0 then
    ({ s.terminate handlers protocolError (some "SETTINGS expected") with state := .ignAll }, true)
  else s.receiveHead handlers hd

/-- A header of a frame was read. -/
def withHead (sbuf : Bytes) (receive : FrameHd → Inbound τ × Bool) :
    Except InboundError (Inbound τ × Bool) :=
  match unpackFrameHd sbuf with
  | none => .error .invalidAccess
  | some hd => .ok (receive hd)

/-- At the end of an ignored payload a decoder that has missed a header block is marked as bad. -/
def endIgnore (s : Inbound τ) (type : UInt8) : Inbound τ :=
  if type = FrameType.headers.toUInt8 ∨ type = FrameType.pushPromise.toUInt8 ∨
      type = FrameType.continuation.toUInt8 then { s with inflater := none }.reset
  else s.reset

/-- `session_process_goaway_frame` -/
def processGoaway (s : Inbound τ) (hd : FrameHd) (lbuf : Bytes) :
    Except InboundError (Inbound τ × Bool) :=
  match unpackGoawayPayload lbuf with
  | none => .error .invalidAccess
  | some payload => s.processFrame handlers ⟨hd, payload⟩

/-- `NGHTTP2_IB_READ_DATA` -/
def turnData (s : Inbound τ) (hd : FrameHd) (payloadleft padlen : ℕ) (input : Bytes) :
    Turn (Inbound τ) UInt8 Empty InboundError :=
  if handlers.hasStream s.upper hd then
    let readlen := min input.length payloadleft
    let left := payloadleft - readlen
    let rest := input.drop readlen
    let next := receiveBytes handlers s.upper hd left padlen (input.take readlen)
    if left ≠ 0 then
      .wait { s with
        upper := next.1
        state := if next.2 then .readData hd left padlen else .ignData left } rest
    else if next.2 then .next { s with upper := handlers.processData next.1 hd }.reset rest false
    -- the program makes one more turn, in which there is nothing to ignore
    else .next { s with upper := next.1 }.reset rest false
  else .next { s with state := .ignData payloadleft } input true

/-- A round of the loop of `nghttp2_session_mem_recv`. -/
def turn (s : Inbound τ) (input : Bytes) : Turn (Inbound τ) UInt8 Empty InboundError :=
  match s.state with
  | .readClientMagic payloadleft => s.turnClientMagic payloadleft input
  | .readFirstSettings sbuf =>
    readSbuf frameHdlen sbuf input (fun sbuf => { s with state := .readFirstSettings sbuf })
      fun sbuf => withHead sbuf (s.receiveFirstSettings handlers)
  | .readHead sbuf =>
    readSbuf frameHdlen sbuf input (fun sbuf => { s with state := .readHead sbuf })
      fun sbuf => withHead sbuf (s.receiveHead handlers)
  | .readNbyte hd payloadleft padlen mark sbuf =>
    readSbuf mark sbuf input
      (fun sbuf => { s with state := .readNbyte hd payloadleft padlen mark sbuf })
      (s.receiveNbyte handlers hd (payloadleft - mark) padlen)
  | .readHeaderBlock block => s.turnHeaderBlock handlers block input
  | .expectContinuation frame ignore sbuf =>
    readSbuf frameHdlen sbuf input
      (fun sbuf => { s with state := .expectContinuation frame ignore sbuf })
      fun sbuf => withHead sbuf (s.receiveContinuation handlers frame ignore)
  | .ignPayload type payloadleft =>
    readPayload payloadleft input
      (fun bytes => { s with state := .ignPayload type (payloadleft - bytes.length) })
      fun _ => .ok (s.endIgnore type, false)
  | .frameSizeError type payloadleft =>
    .next { s.terminate handlers frameSizeErrorCode none with state := .ignPayload type payloadleft }
      input true
  | .readSettings hd inbound payloadleft mark sbuf =>
    readSbuf mark sbuf input
      (fun sbuf => { s with state := .readSettings hd inbound payloadleft mark sbuf })
      (s.receiveEntry handlers hd inbound payloadleft mark)
  | .readGoawayDebug hd payloadleft lbuf =>
    readPayload payloadleft input
      (fun bytes =>
        { s with state := .readGoawayDebug hd (payloadleft - bytes.length) (lbuf ++ bytes) })
      fun bytes => s.processGoaway handlers hd (lbuf ++ bytes)
  | .readPadData hd payloadleft sbuf =>
    readSbuf 1 sbuf input (fun sbuf => { s with state := .readPadData hd payloadleft sbuf })
      (s.receivePadData handlers hd payloadleft)
  | .readData hd payloadleft padlen => s.turnData handlers hd payloadleft padlen input
  | .ignData payloadleft =>
    readPayload payloadleft input
      (fun bytes => { s with
        upper := ignoreBytes handlers s.upper bytes.length
        state := .ignData (payloadleft - bytes.length) })
      fun bytes =>
        .ok ({ s with upper := ignoreBytes handlers s.upper bytes.length }.reset, false)
  | .ignAll => .wait s []

end Inbound

end KituraHTTP2.Nghttp2
