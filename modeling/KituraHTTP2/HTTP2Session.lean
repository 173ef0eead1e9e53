import KituraHTTP2.Messages
import KituraHTTP2.Lib.Store
import Mathlib.Logic.Function.Basic

/-!
# The HTTP/2 session and its nghttp2 callbacks

`HTTP2Session` is the Swift object together with what its callbacks can reach: the objects that the
stream table refers to, nghttp2's per-stream user data, and the two places where the session talks
to the outside, the delegate (`handled`) and `nghttp2_submit_response` (`submitted`).

Classes are references.  A `StreamData` is a struct, so a callback that reads it gets a copy, but
the copy shares the headers container, the request and the response with the table; these live in
stores and the struct holds `Ref`s.

Every callback is one function under its name.  `on_frame_recv` is partial because it assigns
`URLComponents.port`, which stops the process at a negative port.  `SessionEvent` and `step` put
the callbacks and `sendData` together.
-/

namespace KituraHTTP2

variable {P : Platform}

/-! ## Frames -/

/-- The frame types that `on_frame_recv` tells apart. -/
inductive FrameType where
  | data | headers | priority | rstStream | settings | ping | goaway | windowUpdate
  | other (type : UInt8)
deriving DecidableEq, Repr

/-- `frame.headers.cat` -/
inductive HeadersCategory where
  | request | response | pushResponse | headers
deriving DecidableEq, Repr

/-- What the callbacks read of a received frame. -/
structure Frame where
  type : FrameType
  flags : UInt8
  streamId : StreamId
  cat : HeadersCategory := .headers
deriving DecidableEq, Repr

/-- `flags & NGHTTP2_FLAG_END_STREAM != 0` -/
def Frame.endStream (frame : Frame) : Bool := frame.flags &&& 0x1 != 0

/-- `flags & NGHTTP2_FLAG_END_HEADERS != 0` -/
def Frame.endHeaders (frame : Frame) : Bool := frame.flags &&& 0x4 != 0

/-! ## The session -/

/-- An entry of `dataInfo`: the length of the data at a pointer, and the offset of the part that
was not handed out yet.  The offset never passes the length. -/
structure DataInfo where
  length : ℕ
  offset : ℕ
  offset_le : offset ≤ length

/-- What a call of the data source's read callback hands to nghttp2. -/
structure ReadResult where
  /-- the bytes are those from this offset of the source on -/
  offset : ℕ
  copyLength : ℕ
  /-- `NGHTTP2_DATA_FLAG_EOF` was set -/
  eof : Bool
deriving DecidableEq, Repr

/-- The read callback on one `dataInfo` entry and a buffer of `length` bytes. -/
def DataInfo.read (dataInfo : DataInfo) (length : ℕ) : ReadResult :=
  let dataLengthRemained := dataInfo.length - dataInfo.offset
  let copyLength := min dataLengthRemained length
  { offset := dataInfo.offset, copyLength := copyLength, eof := copyLength = dataLengthRemained }

/-- The entry with `copyLength` more bytes handed out. -/
def DataInfo.advance (dataInfo : DataInfo) (length : ℕ) : DataInfo where
  length := dataInfo.length
  offset := dataInfo.offset + min (dataInfo.length - dataInfo.offset) length
  offset_le := by
    have := dataInfo.offset_le
    omega

/-- The metadata of one stream. -/
structure StreamData where
  streamId : StreamId
  /-- from a data pointer to the length of the data and the offset for the next submission -/
  dataInfo : Addr → Option DataInfo
  headers : Ref
  requestPath : Option String
  method : Option String
  scheme : Option String
  authority : Option String
  request : Option Ref
  response : Option Ref

/-- `StreamData(streamId:)`, whose `HeadersContainer()` was allocated at `headers`. -/
def StreamData.new (streamId : StreamId) (headers : Ref) : StreamData where
  streamId := streamId
  dataInfo := fun _ => none
  headers := headers
  requestPath := none
  method := none
  scheme := none
  authority := none
  request := none
  response := none

/-- One call of `HTTP2.delegate?.handle(request:response:)`, with the objects as they were. -/
structure HandleCall (P : Platform) where
  request : HTTP2ServerRequest P
  response : HTTP2ServerResponse P

/-- One call of `sendData(streamId:data:headers:)`: `data` is copied to the array `mutData`, which
the allocator puts at `ptr`, and `accepted` says whether `nghttp2_submit_response` returned `0`. -/
structure Submission where
  streamId : StreamId
  data : Bytes
  headers : List (Bytes × Bytes)
  ptr : Addr
  accepted : Bool
deriving DecidableEq, Repr

/-- The objects that `StreamData` values refer to. -/
structure Heap (P : Platform) where
  containers : Store P.HeadersContainer
  requests : Store (HTTP2ServerRequest P)
  responses : Store (HTTP2ServerResponse P)

/-- The session object, the objects its stream table refers to, the user data nghttp2 keeps for
its streams, and the calls made so far to the delegate and to `nghttp2_submit_response`. -/
structure HTTP2Session (P : Platform) where
  streamsData : StreamId → Option StreamData
  remoteAddress : Option String
  /-- the request that the connection was upgraded with -/
  initialRequest : Option (HTTP2ServerRequest P) := none
  heap : Heap P
  /-- `nghttp2_session_get_stream_user_data(session, streamId) != nil` -/
  streamUserData : StreamId → Bool
  /-- `HTTP2.delegate != nil` -/
  delegate : Bool
  handled : List (HandleCall P)
  submitted : List Submission

namespace HTTP2Session

/-- A session right after its creation. -/
def new (P : Platform) (remoteAddress : Option String) (delegate : Bool) : HTTP2Session P where
  streamsData := fun _ => none
  remoteAddress := remoteAddress
  heap := ⟨Store.empty, Store.empty, Store.empty⟩
  streamUserData := fun _ => false
  delegate := delegate
  handled := []
  submitted := []

/-- `streamsData[streamId] = streamData` -/
def setStream (session : HTTP2Session P) (streamId : StreamId) (streamData : Option StreamData) :
    HTTP2Session P :=
  { session with streamsData := Function.update session.streamsData streamId streamData }

/-- `HTTP2.delegate?.handle(request: request, response: response)` -/
def handle (session : HTTP2Session P) (request response : Ref) : HTTP2Session P :=
  match session.delegate, session.heap.requests.get? request,
      session.heap.responses.get? response with
  | true, some request, some response =>
    { session with handled := session.handled ++ [⟨request, response⟩] }
  | _, _, _ => session

/-! ## on_begin_headers, on_header -/

/-- `on_begin_headers_callback`; `nghttp2_session_set_stream_user_data` is its last call. -/
def onBeginHeadersCallback (session : HTTP2Session P) (frame : Frame) : HTTP2Session P :=
  if frame.type ≠ .headers ∨ frame.cat ≠ .request then session
  else
    let streamData := StreamData.new frame.streamId session.heap.containers.fresh
    { session.setStream frame.streamId (some streamData) with
      heap.containers := session.heap.containers.alloc P.emptyHeaders
      streamUserData := Function.update session.streamUserData frame.streamId true }

/-- The `switch nameStr` of `on_header_callback` on the copied stream data and the container it
shares with the table. -/
def receiveHeader (P : Platform) (nameStr valueStr : String) (streamData : StreamData)
    (containers : Store P.HeadersContainer) : StreamData × Store P.HeadersContainer :=
  if nameStr = ":path" then ({ streamData with requestPath := some valueStr }, containers)
  else if nameStr = ":method" then ({ streamData with method := some valueStr }, containers)
  else if nameStr = ":scheme" then ({ streamData with scheme := some valueStr }, containers)
  else if nameStr = ":authority" then ({ streamData with authority := some valueStr }, containers)
  else (streamData, containers.update streamData.headers (P.append · nameStr [valueStr]))

/-- `on_header_callback`: the stream data is copied out, changed, and written back. -/
def onHeaderCallback (session : HTTP2Session P) (frame : Frame) (name value : Bytes) :
    HTTP2Session P :=
  if frame.type ≠ .headers ∨ frame.cat ≠ .request then session
  else
    match utf8Decode name, utf8Decode value, session.streamsData frame.streamId with
    | some nameStr, some valueStr, some streamData =>
      let received := receiveHeader P nameStr valueStr streamData session.heap.containers
      { session.setStream frame.streamId (some received.1) with heap.containers := received.2 }
    | _, _, _ => session

/-! ## on_frame_recv -/

/-- The `URLComponents` that `on_frame_recv` builds for the stream; `none` where the assignment of
the port stops the process. -/
def requestComponents (requestPath : String) (scheme authority : Option String) :
    Option URLComponents :=
  let components : URLComponents := { path := requestPath, scheme := scheme }
  match authority with
  | some authority =>
    let authorityArr := componentsSeparatedBy ':' authority
    let components := { components with host := authorityArr.head? }
    components.setPort (authorityArr[1]?.bind swiftInt)
  | none => some components

/-- The request that `on_frame_recv` builds from the collected stream data. -/
def buildRequest (requestPath : String) (method : Option String) (requestUrl : P.URL)
    (remoteAddress : Option String) (headers : P.HeadersContainer) : HTTP2ServerRequest P :=
  let request := HTTP2ServerRequest.new (utf8Encode requestPath) requestUrl
    (remoteAddress.getD "")
  { request with
    method := method.getD "GET"
    headers := P.appendAll request.headers headers }

/-- The allocation of a new request and response. -/
def allocMessages (session : HTTP2Session P) (request : HTTP2ServerRequest P)
    (response : HTTP2ServerResponse P) : HTTP2Session P :=
  { session with
    heap.requests := session.heap.requests.alloc request
    heap.responses := session.heap.responses.alloc response }

/-- The end of the HEADERS branch: the new request and response go to the delegate, or to the
stream table where the frame does not end the stream. -/
def dispatchRequest (session : HTTP2Session P) (frame : Frame) (request : HTTP2ServerRequest P)
    (date : String) : HTTP2Session P :=
  let requestRef := session.heap.requests.fresh
  let responseRef := session.heap.responses.fresh
  let response := HTTP2ServerResponse.new P frame.streamId date
  let session := session.allocMessages request response
  if frame.endStream then
    session.handle requestRef responseRef
  else
    session.setStream frame.streamId ((session.streamsData frame.streamId).map fun streamData =>
      { streamData with request := some requestRef, response := some responseRef })

/-- The HEADERS branch of `on_frame_recv_callback`. -/
def onHeadersFrameRecv (session : HTTP2Session P) (frame : Frame) (date : String) :
    Option (HTTP2Session P) :=
  if frame.endHeaders = false ∨ session.streamUserData frame.streamId = false then some session
  else
    match session.streamsData frame.streamId with
    | some sData =>
      match sData.requestPath with
      | some requestPath =>
        (requestComponents requestPath sData.scheme sData.authority).map fun components =>
          match P.url components, session.heap.containers.get? sData.headers with
          | some requestUrl, some headers =>
            session.dispatchRequest frame (buildRequest requestPath sData.method requestUrl
              session.remoteAddress headers) date
          | _, _ => session
      | none => some session
    | none => some session

/-- The DATA branch of `on_frame_recv_callback`. -/
def onDataFrameRecv (session : HTTP2Session P) (frame : Frame) : HTTP2Session P :=
  if frame.endStream = false ∨ session.streamUserData frame.streamId = false then session
  else
    match session.streamsData frame.streamId with
    | some sData =>
      match sData.request, sData.response with
      | some request, some response => session.handle request response
      | _, _ => session
    | none => session

/-- `on_frame_recv_callback`.  The other frame types are only logged. -/
def onFrameRecvCallback (session : HTTP2Session P) (frame : Frame) (date : String) :
    Option (HTTP2Session P) :=
  match frame.type with
  | .data => some (session.onDataFrameRecv frame)
  | .headers => session.onHeadersFrameRecv frame date
  | _ => some session

/-! ## on_data_chunk_recv, on_stream_close -/

/-- `on_data_chunk_recv_callback` -/
def onDataChunkRecvCallback (session : HTTP2Session P) (streamId : StreamId) (data : Bytes) :
    HTTP2Session P :=
  match (session.streamsData streamId).bind StreamData.request with
  | some request =>
    { session with heap.requests := session.heap.requests.update request (·.appendReqData data) }
  | none => session

/-- `on_stream_close_callback`, after which nghttp2 forgets the stream and its user data. -/
def onStreamCloseCallback (session : HTTP2Session P) (streamId : StreamId) : HTTP2Session P :=
  { session.setStream streamId none with
    streamUserData := Function.update session.streamUserData streamId false }

/-! ## Sending -/

/-- The read callback of `sendData`'s data provider; `none` is the return value `-1`.  The offset is
not written back on the call that sets the EOF flag. -/
def readCallback (session : HTTP2Session P) (streamId : StreamId) (ptr : Addr) (length : ℕ) :
    HTTP2Session P × Option ReadResult :=
  match session.streamsData streamId with
  | none => (session, none)
  | some streamInfo =>
    match streamInfo.dataInfo ptr with
    | none => (session, none)
    | some dataInfo =>
      let result := dataInfo.read length
      if result.eof then (session, some result)
      else
        (session.setStream streamId (some { streamInfo with
          dataInfo := Function.update streamInfo.dataInfo ptr (some (dataInfo.advance length)) }),
          some result)

/-- `sendData` up to and with `nghttp2_submit_response`: the stream gets a new `StreamData` whose
only entry is the pointer to the copied data.  The `sessionSend()` that follows an accepted
submission is nghttp2 calling back. -/
def sendData (session : HTTP2Session P) (call : Submission) : HTTP2Session P :=
  let streamData := StreamData.new call.streamId session.heap.containers.fresh
  let streamData := { streamData with
    dataInfo := Function.update streamData.dataInfo call.ptr
      (some ⟨call.data.length, 0, Nat.zero_le _⟩) }
  { session.setStream call.streamId (some streamData) with
    heap.containers := session.heap.containers.alloc P.emptyHeaders
    submitted := session.submitted ++ [call] }

end HTTP2Session

/-! ## The session as a machine -/

/-- Everything that can happen to the session: a callback by nghttp2, or a call of `sendData`.
The date of a received frame is what the clock shows when its response object is built. -/
inductive SessionEvent where
  | beginHeaders (frame : Frame)
  | header (frame : Frame) (name value : Bytes)
  | frameRecv (frame : Frame) (date : String)
  | dataChunk (streamId : StreamId) (data : Bytes)
  | streamClose (streamId : StreamId)
  | readCallback (streamId : StreamId) (ptr : Addr) (length : ℕ)
  | sendData (call : Submission)
deriving DecidableEq, Repr

/-- The stream an event belongs to. -/
def SessionEvent.streamId : SessionEvent → StreamId
  | .beginHeaders frame => frame.streamId
  | .header frame _ _ => frame.streamId
  | .frameRecv frame _ => frame.streamId
  | .dataChunk streamId _ => streamId
  | .streamClose streamId => streamId
  | .readCallback streamId _ _ => streamId
  | .sendData call => call.streamId

/-- One event; `none` where the process stops. -/
def HTTP2Session.step (session : HTTP2Session P) : SessionEvent → Option (HTTP2Session P)
  | .beginHeaders frame => some (session.onBeginHeadersCallback frame)
  | .header frame name value => some (session.onHeaderCallback frame name value)
  | .frameRecv frame date => session.onFrameRecvCallback frame date
  | .dataChunk streamId data => some (session.onDataChunkRecvCallback streamId data)
  | .streamClose streamId => some (session.onStreamCloseCallback streamId)
  | .readCallback streamId ptr length => some (session.readCallback streamId ptr length).1
  | .sendData call => some (session.sendData call)

end KituraHTTP2
