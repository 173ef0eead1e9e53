import KituraHTTP2.HTTP2Session

/-!
# nghttp2: what a server session may send

nghttp2 decides when the frames of a response go out.  `Session` is what it decides by: the streams
it knows, with their states, windows and attached DATA items, the HEADERS that wait in `ob_reg`, the
settings of the peer and the window of the connection.  A stream that was closed is one that is not
in the table any more.

**The way of a response.**  A submission puts HEADERS into the queue, with the data source of the
response (`submitResponse`).  It looks at nothing but the sign of the stream identifier; whether the
stream can be answered is seen when the HEADERS are taken from the queue, and if it cannot they are
dropped and nobody is told (`sendHeaders`).  If they are sent the source becomes the DATA item of
the stream.  Then DATA is asked for as long as the windows of the stream and of the connection last,
and where that of the stream is used up the item is deferred, until a WINDOW_UPDATE or a SETTINGS
frame opens it again.  A stream has one item: if it has one already, the source of a second response
is dropped, and its HEADERS have been sent.

**The order.**  HEADERS go before DATA.  Which stream with DATA comes first depends on the
priorities that the client has given to the streams, on their dependencies and on what was sent
before.  All this is left open: `nextItem` allows each stream that has something to send.  A
statement about every run of the model is then one about every order, that of nghttp2 among them,
and a statement about one frame must name the stream.

The functions are those of `nghttp2_session.c` on a server, under their names, for a program that
pushes nothing, sets no padding or read-length callback, and whose allocations succeed.  Control
frames wait in queues that are not modelled; what queuing a RST_STREAM or a terminating GOAWAY does
to the state at once is (`addRstStream`, `terminateSession`).

`σ` is the type of the data sources that the application attaches to its responses.
-/

namespace KituraHTTP2.Nghttp2

/-- The error codes of the modelled functions. -/
inductive Error where
  | proto | invalidArgument | frameSizeError | streamClosed | streamShutWr | streamClosing
  | invalidStreamId | invalidStreamState | sessionClosing
deriving DecidableEq, Repr

/-- `NGHTTP2_MAX_WINDOW_SIZE` -/
def maxWindowSize : ℤ := 2 ^ 31 - 1

/-- `NGHTTP2_MAX_FRAME_SIZE_MIN` -/
def maxFrameSizeMin : ℕ := 2 ^ 14

/-- `NGHTTP2_MAX_FRAME_SIZE_MAX` -/
def maxFrameSizeMax : ℕ := 2 ^ 24 - 1

/-- `NGHTTP2_DATA_PAYLOADLEN` -/
def dataPayloadLen : ℕ := maxFrameSizeMin

/-- `max_send_header_block_length`, which the session leaves at its default. -/
def maxSendHeaderBlockLength : ℕ := 65536

/-- `NGHTTP2_PRIORITY_SPECLEN` -/
def prioritySpecLen : ℕ := 5

/-! ## Streams and the session -/

/-- `nghttp2_stream_state`, for a stream that the client opened. -/
inductive StreamState where
  | opening | opened | closing
deriving DecidableEq, Repr

/-- A stream.  Only a stream with an item can be deferred. -/
structure Stream (σ : Type) where
  state : StreamState
  /-- `NGHTTP2_SHUT_RD` -/
  shutRd : Bool
  /-- `NGHTTP2_SHUT_WR` -/
  shutWr : Bool
  /-- the data source of the attached DATA item -/
  item : Option σ
  /-- `NGHTTP2_STREAM_FLAG_DEFERRED_FLOW_CONTROL` -/
  deferred : Bool
  remoteWindowSize : ℤ
  deferred_item : deferred = true → item.isSome = true
deriving DecidableEq, Repr

/-- The HEADERS of a response that was submitted and not sent. -/
structure QueuedHeaders (σ : Type) where
  streamId : StreamId
  nva : List (Bytes × Bytes)
  dataPrd : σ
deriving DecidableEq, Repr

/-- `remote_settings`.  A maximal frame size below the minimum of the protocol is never accepted. -/
structure RemoteSettings where
  headerTableSize : ℕ := 4096
  enablePush : ℕ := 1
  maxConcurrentStreams : ℕ := 2 ^ 32 - 1
  initialWindowSize : ℕ := 65535
  maxFrameSize : ℕ := maxFrameSizeMin
  maxHeaderListSize : ℕ := 2 ^ 32 - 1
  maxFrameSize_ge : maxFrameSizeMin ≤ maxFrameSize := by decide
deriving DecidableEq, Repr

structure Session (σ : Type) where
  /-- `nghttp2_session_get_stream` -/
  streams : StreamId → Option (Stream σ)
  /-- the HEADERS in `ob_reg` -/
  obReg : List (QueuedHeaders σ)
  remoteSettings : RemoteSettings
  remoteWindowSize : ℤ
  lastRecvStreamId : StreamId
  /-- `NGHTTP2_GOAWAY_TERM_ON_SEND` -/
  termOnSend : Bool

/-- A session from `nghttp2_session_server_new`.  Until the peer says otherwise it takes 100
streams. -/
def Session.serverNew (σ : Type) : Session σ where
  streams := fun _ => none
  obReg := []
  remoteSettings := { maxConcurrentStreams := 100 }
  remoteWindowSize := 65535
  lastRecvStreamId := 0
  termOnSend := false

/-- `nghttp2_session_is_my_stream_id` -/
def isMyStreamId (streamId : StreamId) : Bool := streamId ≠ 0 ∧ streamId % 2 = 0

namespace Session

variable {σ : Type}

def setStream (session : Session σ) (streamId : StreamId) (stream : Option (Stream σ)) :
    Session σ :=
  { session with streams := Function.update session.streams streamId stream }

/-- `nghttp2_session_open_stream` in the state `NGHTTP2_STREAM_OPENING` -/
def openStream (session : Session σ) (streamId : StreamId) : Session σ :=
  session.setStream streamId (some
    { state := .opening, shutRd := false, shutWr := false, item := none, deferred := false
      remoteWindowSize := session.remoteSettings.initialWindowSize
      deferred_item := fun hdeferred => nomatch hdeferred })

/-- The part of `nghttp2_session_on_request_headers_received` that opens the stream; `none` where
the stream identifier is not a new one of the client, or new streams are not allowed. -/
def onRequestHeadersReceived (session : Session σ) (streamId : StreamId) : Option (Session σ) :=
  if streamId = 0 ∨ isMyStreamId streamId ∨ streamId ≤ session.lastRecvStreamId ∨
      session.termOnSend ∨ (session.streams streamId).isSome then none
  else some { session.openStream streamId with lastRecvStreamId := streamId }

/-- `nghttp2_session_close_stream`, which also frees an attached item. -/
def closeStream (session : Session σ) (streamId : StreamId) : Session σ :=
  session.setStream streamId none

/-- `nghttp2_session_add_rst_stream` -/
def addRstStream (session : Session σ) (streamId : StreamId) : Session σ :=
  session.setStream streamId
    ((session.streams streamId).map fun stream => { stream with state := .closing })

/-- `nghttp2_session_terminate_session` -/
def terminateSession (session : Session σ) : Session σ := { session with termOnSend := true }

/-- `session_is_closing`, for a session that has a stream. -/
def isClosing (session : Session σ) : Bool := session.termOnSend

/-- `nghttp2_stream_shutdown` for reading, and the closing of a stream that is shut both ways. -/
def shutdownRead (session : Session σ) (streamId : StreamId) : Session σ :=
  session.setStream streamId ((session.streams streamId).bind fun stream =>
    if stream.shutWr then none else some { stream with shutRd := true })

end Session

/-! ## Settings and windows of the peer -/

section FlowControl

variable {σ : Type}

/-- `nghttp2_stream_resume_deferred_item`, where the window has become positive. -/
def Stream.resumeDeferredByFlowControl (stream : Stream σ) : Stream σ :=
  if 0 < stream.remoteWindowSize ∧ stream.item.isSome ∧ stream.deferred then
    { stream with deferred := false, deferred_item := fun hdeferred => nomatch hdeferred }
  else stream

/-- `update_remote_initial_window_size_func`: a window that leaves its range resets the stream. -/
def Stream.updateRemoteInitialWindowSize (stream : Stream σ) (newWindowSize oldWindowSize : ℤ) :
    Stream σ :=
  let windowSize := stream.remoteWindowSize + newWindowSize - oldWindowSize
  if windowSize < -2 ^ 31 ∨ maxWindowSize < windowSize then { stream with state := .closing }
  else { stream with remoteWindowSize := windowSize }.resumeDeferredByFlowControl

/-- `nghttp2_settings_entry` -/
structure SettingsEntry where
  settingsId : ℕ
  value : ℕ
deriving DecidableEq, Repr

namespace Session

/-- One round of the loop of `nghttp2_session_on_settings_received`; `none` where it ends in
`session_handle_invalid_connection`. -/
def onSettingsEntry (session : Session σ) (entry : SettingsEntry) : Option (Session σ) :=
  let settings := session.remoteSettings
  match entry.settingsId with
  | 1 => some { session with remoteSettings := { settings with headerTableSize := entry.value } }
  | 2 =>
    if entry.value ≠ 0 ∧ entry.value ≠ 1 then none
    else some { session with remoteSettings := { settings with enablePush := entry.value } }
  | 3 => some { session with
      remoteSettings := { settings with maxConcurrentStreams := entry.value } }
  | 4 =>
    if maxWindowSize < entry.value then none
    else some { session with
      streams := fun streamId => (session.streams streamId).map fun stream =>
        stream.updateRemoteInitialWindowSize entry.value settings.initialWindowSize
      remoteSettings := { settings with initialWindowSize := entry.value } }
  | 5 =>
    if h : entry.value < maxFrameSizeMin ∨ maxFrameSizeMax < entry.value then none
    else some { session with remoteSettings := { settings with
      maxFrameSize := entry.value
      maxFrameSize_ge := Nat.le_of_not_lt (not_or.1 h).1 } }
  | 6 => some { session with remoteSettings := { settings with maxHeaderListSize := entry.value } }
  | _ => some session

/-- `nghttp2_session_on_settings_received`, for SETTINGS without the ACK flag: the entries before an
invalid one stay in effect. -/
def onSettingsReceived (session : Session σ) : List SettingsEntry → Session σ
  | [] => session
  | entry :: iv =>
    match session.onSettingsEntry entry with
    | some session => session.onSettingsReceived iv
    | none => session.terminateSession

/-- `session_detect_idle_stream`, for a server that never opened a stream. -/
def detectIdleStream (session : Session σ) (streamId : StreamId) : Bool :=
  if isMyStreamId streamId then 0 < streamId
  else streamId ≠ 0 ∧ session.lastRecvStreamId < streamId

/-- `nghttp2_session_on_window_update_received` -/
def onWindowUpdateReceived (session : Session σ) (streamId : StreamId)
    (windowSizeIncrement : ℕ) : Session σ :=
  if streamId = 0 then
    if windowSizeIncrement = 0 ∨ maxWindowSize - windowSizeIncrement < session.remoteWindowSize
    then session.terminateSession
    else { session with remoteWindowSize := session.remoteWindowSize + windowSizeIncrement }
  else if session.detectIdleStream streamId then session.terminateSession
  else
    match session.streams streamId with
    | none => session
    | some stream =>
      if windowSizeIncrement = 0 then session.terminateSession
      else if maxWindowSize - windowSizeIncrement < stream.remoteWindowSize then
        session.addRstStream streamId
      else session.setStream streamId (some { stream with
        remoteWindowSize := stream.remoteWindowSize + windowSizeIncrement
        }.resumeDeferredByFlowControl)

end Session

end FlowControl

/-! ## The item of a stream -/

section Item

variable {σ : Type}

/-- `nghttp2_submit_data`, whose result is not looked at: a stream that has a DATA item keeps it. -/
def Stream.attachItem (stream : Stream σ) (dataPrd : σ) : Stream σ :=
  { stream with item := some (stream.item.getD dataPrd), deferred_item := fun _ => rfl }

/-- `nghttp2_stream_detach_item` -/
def Stream.detachItem (stream : Stream σ) : Stream σ :=
  { stream with
    item := none
    deferred := false
    deferred_item := fun hdeferred => nomatch hdeferred }

/-- `nghttp2_stream_defer_item`, which asserts that there is an item. -/
def Stream.deferItem (stream : Stream σ) : Stream σ :=
  { stream with deferred := stream.item.isSome, deferred_item := id }

end Item

/-! ## Sending HEADERS -/

namespace Session

variable {σ : Type}

/-- `session_predicate_for_stream_send`; `none` is the return value `0`, in all the predicates. -/
def predicateForStreamSend (session : Session σ) : Option (Stream σ) → Option Error
  | none => some .streamClosed
  | some stream =>
    if session.isClosing then some .sessionClosing
    else if stream.shutWr then some .streamShutWr
    else none

/-- `session_predicate_response_headers_send` -/
def predicateResponseHeadersSend (session : Session σ) (streamId : StreamId) : Option Error :=
  match session.predicateForStreamSend (session.streams streamId), session.streams streamId with
  | none, some stream =>
    if isMyStreamId streamId then some .invalidStreamId
    else match stream.state with
      | .opening => none
      | .closing => some .streamClosing
      | .opened => some .invalidStreamState
  | error, _ => error

/-- `session_predicate_headers_send` and `nghttp2_session_predicate_data_send`, which agree on
streams that are not reserved. -/
def predicateDataSend (session : Session σ) (streamId : StreamId) : Option Error :=
  match session.predicateForStreamSend (session.streams streamId), session.streams streamId with
  | none, some stream =>
    if isMyStreamId streamId then
      if stream.state = .closing then some .streamClosing else none
    else match stream.state with
      | .opened => none
      | .closing => some .streamClosing
      | .opening => some .invalidStreamState
  | error, _ => error

/-- `nghttp2_hd_deflate_bound` -/
def deflateBound (nva : List (Bytes × Bytes)) : ℕ :=
  12 + 6 * 2 * nva.length + (nva.map fun nv => nv.1.length + nv.2.length).sum

/-- `nghttp2_submit_response`, with a data provider. -/
def submitResponse (session : Session σ) (streamId : StreamId) (nva : List (Bytes × Bytes))
    (dataPrd : σ) : Except Error (Session σ) :=
  if streamId ≤ 0 then .error .invalidArgument
  else .ok { session with obReg := session.obReg ++ [⟨streamId, nva, dataPrd⟩] }

/-- `session_prep_frame` for the HEADERS of a response: their category. -/
def prepHeaders (session : Session σ) (item : QueuedHeaders σ) : Except Error HeadersCategory :=
  if maxSendHeaderBlockLength < deflateBound item.nva + prioritySpecLen then
    .error .frameSizeError
  else
    match session.predicateResponseHeadersSend item.streamId with
    | none => .ok .response
    | some _ =>
      match session.predicateDataSend item.streamId with
      | none => .ok .headers
      | some error => .error error

/-- `session_after_frame_sent1` for the HEADERS of a response. -/
def afterHeadersSent (session : Session σ) (item : QueuedHeaders σ) (cat : HeadersCategory) :
    Session σ :=
  session.setStream item.streamId ((session.streams item.streamId).map fun stream =>
    let stream := if cat = .response then { stream with state := .opened } else stream
    stream.attachItem item.dataPrd)

/-- The first HEADERS of `ob_reg` are sent, or dropped where they cannot be sent. -/
def sendHeaders (session : Session σ) : Option (Session σ) :=
  match session.obReg with
  | [] => none
  | item :: obReg =>
    let session := { session with obReg := obReg }
    match session.prepHeaders item with
    | .ok cat => some (session.afterHeadersSent item cat)
    | .error _ => some session

/-! ## Sending DATA -/

/-- The stream has an item that `nghttp2_session_pop_next_ob_item` can return: DATA goes out when no
HEADERS wait and the connection has window.  Which stream comes first is a matter of priorities. -/
def nextItem (session : Session σ) (streamId : StreamId) : Option (Stream σ × σ) :=
  if session.obReg = [] ∧ 0 < session.remoteWindowSize then
    (session.streams streamId).bind fun stream =>
      if stream.deferred then none else stream.item.map fun dataPrd => (stream, dataPrd)
  else none

/-- `nghttp2_stream_detach_item` -/
def detachItem (session : Session σ) (streamId : StreamId) : Session σ :=
  session.setStream streamId ((session.streams streamId).map Stream.detachItem)

/-- `nghttp2_session_next_data_read` -/
def nextDataRead (session : Session σ) (stream : Stream σ) : ℕ :=
  (min (min (min (dataPayloadLen : ℤ) stream.remoteWindowSize) session.remoteWindowSize)
    session.remoteSettings.maxFrameSize).toNat

/-- What `session_prep_frame` does with a DATA item before it calls the read callback. -/
inductive PrepData (σ : Type) where
  /-- the frame cannot be sent: the item is detached -/
  | dropped (session : Session σ)
  /-- no window: the item waits for a WINDOW_UPDATE or SETTINGS -/
  | deferred (session : Session σ)
  /-- the callback is asked for up to `readmax` bytes -/
  | read (dataPrd : σ) (readmax : ℕ)

/-- `session_prep_frame` for the next DATA frame of a stream, up to the read callback. -/
def prepData (session : Session σ) (streamId : StreamId) : Option (PrepData σ) :=
  (session.nextItem streamId).map fun (stream, dataPrd) =>
    if (session.predicateDataSend streamId).isSome then .dropped (session.detachItem streamId)
    else if session.nextDataRead stream = 0 then
      .deferred (session.setStream streamId (some stream.deferItem))
    else .read dataPrd (session.nextDataRead stream)

/-- `session_after_frame_sent1` and `session_after_frame_sent2` for a DATA frame of `length` bytes,
read from a source that is `dataPrd` now.  Nothing has changed since `prepData` found that the
stream may send DATA, so the second look at that finds it again. -/
def afterDataSent (session : Session σ) (streamId : StreamId) (dataPrd : σ) (length : ℕ)
    (eof : Bool) : Session σ :=
  let session := { session with remoteWindowSize := session.remoteWindowSize - length }
  match session.streams streamId with
  | none => session
  | some stream =>
    let stream := { stream with remoteWindowSize := stream.remoteWindowSize - length }
    if eof then
      if stream.shutRd then session.closeStream streamId
      else session.setStream streamId (some { stream.detachItem with shutWr := true })
    else session.setStream streamId
      (some { stream with item := some dataPrd, deferred_item := fun _ => rfl })

/-- Nothing is left that `nghttp2_session_send` would send: no HEADERS wait, and no stream has an
item that can go out.  The streams a client has opened are among those up to
`last_recv_stream_id`. -/
def isDrained (session : Session σ) : Bool :=
  session.obReg.isEmpty &&
    (List.range (session.lastRecvStreamId.toNat + 1)).all fun streamId =>
      (session.nextItem streamId).isNone

/-! ## The upgrade from HTTP/1 -/

/-- `nghttp2_frame_unpack_settings_payload2` -/
def unpackSettingsPayload : Bytes → List SettingsEntry
  | b₀ :: b₁ :: b₂ :: b₃ :: b₄ :: b₅ :: payload =>
    { settingsId := b₀.toNat * 2 ^ 8 + b₁.toNat
      value := b₂.toNat * 2 ^ 24 + b₃.toNat * 2 ^ 16 + b₄.toNat * 2 ^ 8 + b₅.toNat } ::
      unpackSettingsPayload payload
  | _ => []

/-- `nghttp2_session_upgrade2`: the settings of the payload come into effect, and stream 1 is opened
for the request that was sent in HTTP/1. -/
def upgrade2 (session : Session σ) (settingsPayload : Bytes) : Except Error (Session σ) :=
  if 1 ≤ session.lastRecvStreamId then .error .proto
  else if settingsPayload.length % 6 ≠ 0 then .error .invalidArgument
  else
    let session := session.onSettingsReceived (unpackSettingsPayload settingsPayload)
    .ok { (session.openStream 1).shutdownRead 1 with lastRecvStreamId := 1 }

end Session

end KituraHTTP2.Nghttp2
