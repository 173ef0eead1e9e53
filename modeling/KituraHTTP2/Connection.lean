import KituraHTTP2.Nghttp2.Attached

/-!
# A connection

The session object, the nghttp2 session it drives, and the memory the data sources point into, as
one machine.  `sendData` copies the data of a response to the array `mutData` and gives nghttp2 the
address of that array; the array is alive until `sendData` returns, and the address is free for
anybody afterwards.  nghttp2 calls the read callback when the client's windows allow it to: inside
that call of `sendData`, or in the flush of a later `processIncomingData`.

A call of `sendData` is therefore two events, `sendData` and `sendDataReturn`, with the sending of
single frames in between.  Nothing is received while it runs; a frame that ends a stream, and any
other reason nghttp2 has to close one, is possible at any time.
-/

namespace KituraHTTP2

variable {P : Platform}

/-- The data source of a response.  The program knows `ptr`; which data was submitted and how much
of it was handed out is recorded to speak about it. -/
structure DataSource where
  ptr : Addr
  body : Bytes
  handedOut : ℕ
deriving DecidableEq, Repr

/-- A call of `sendData` that has not returned. -/
structure SendCall where
  streamId : StreamId
  /-- the address of `mutData` -/
  ptr : Addr
  /-- `sessionSend()` has failed -/
  failed : Bool
deriving DecidableEq, Repr

/-- What one call of the read callback copied: from `offset` of the source on, whose response has
the data `body`, it took `count` bytes and found `bytes` there, `none` where it read from an address
that is not live. -/
structure Copied where
  streamId : StreamId
  body : Bytes
  offset : ℕ
  count : ℕ
  bytes : Option Bytes
deriving DecidableEq, Repr

structure Connection (P : Platform) where
  session : HTTP2Session P
  nghttp2 : Nghttp2.Session DataSource
  /-- the live buffers, by address -/
  memory : Addr → Option Bytes
  sending : Option SendCall
  copied : List Copied
  /-- how many calls of the read callback have returned `-1` -/
  callbackFailures : ℕ

/-- The arguments of `init(settingsPayload:with:)`. -/
structure Upgrade (P : Platform) where
  settingsPayload : Bytes
  serverRequest : Option (ServerRequest P)

/-- What can happen on a connection. -/
inductive ConnectionEvent where
  /-- a callback for received data that changes nothing in nghttp2's state of the stream -/
  | callback (event : SessionEvent)
  /-- the request HEADERS of a new stream begin -/
  | requestHeaders (frame : Frame)
  /-- END_STREAM was received -/
  | endStream (streamId : StreamId)
  | closeStream (streamId : StreamId)
  | resetStream (streamId : StreamId)
  | terminateSession
  | windowUpdate (streamId : StreamId) (windowSizeIncrement : ℕ)
  | settings (iv : List Nghttp2.SettingsEntry)
  /-- `sendData` is called, and `mutData` is put at `ptr` -/
  | sendData (streamId : StreamId) (data : Bytes) (headers : List (Bytes × Bytes)) (ptr : Addr)
  /-- nghttp2 sends the next HEADERS -/
  | sendHeaders
  /-- nghttp2 sends, drops or defers the next DATA frame, of this stream -/
  | sendDataFrame (streamId : StreamId)
  | sendDataReturn
  /-- the rest of the process allocates, writes or frees a buffer of its own -/
  | store (ptr : Addr) (buffer : Option Bytes)
deriving DecidableEq, Repr

/-- A callback for received data that is not the begin of a request. -/
def SessionEvent.isReceive : SessionEvent → Bool
  | .header .. | .frameRecv .. | .dataChunk .. => true
  | _ => false

namespace Connection

/-- The nghttp2 session after one of the two initializers; `init(settingsPayload:with:)` does not
look at the result of `nghttp2_session_upgrade2`. -/
def initSession (settingsPayload : Option Bytes) : Nghttp2.Session DataSource :=
  let session := Nghttp2.Session.serverNew DataSource
  match settingsPayload.map session.upgrade2 with
  | some (.ok session) => session
  | _ => session

/-- A connection right after the session was created: by `init()`, or by
`init(settingsPayload:with:)` with the arguments `upgrade`. -/
def new (P : Platform) (remoteAddress : Option String) (delegate : Bool)
    (upgrade : Option (Upgrade P)) : Connection P where
  session := { HTTP2Session.new P remoteAddress delegate with
    initialRequest := (upgrade.bind Upgrade.serverRequest).map HTTP2ServerRequest.ofServerRequest }
  nghttp2 := initSession (upgrade.map Upgrade.settingsPayload)
  memory := fun _ => none
  sending := none
  copied := []
  callbackFailures := 0

/-- `toBuffer.initialize(from: dataPtr.advanced(by: offset), count: count)` -/
def readMemory (memory : Addr → Option Bytes) (ptr : Addr) (offset count : ℕ) : Option Bytes :=
  if count = 0 then some []
  else (memory ptr).bind fun buffer =>
    if offset + count ≤ buffer.length then some ((buffer.drop offset).take count) else none

/-- nghttp2 goes on to `nghttp2`; if it closed the stream on the way, it called
`on_stream_close_callback`. -/
def advance (connection : Connection P) (streamId : StreamId)
    (nghttp2 : Nghttp2.Session DataSource) : Connection P :=
  { connection with
    nghttp2 := nghttp2
    session :=
      if (connection.nghttp2.streams streamId).isSome ∧ (nghttp2.streams streamId).isNone then
        connection.session.onStreamCloseCallback streamId
      else connection.session }

/-- The call of `sendData` up to its `sessionSend()`.  Where nghttp2 refuses the submission, the
call returns at once. -/
def sendData (connection : Connection P) (streamId : StreamId) (data : Bytes)
    (headers : List (Bytes × Bytes)) (ptr : Addr) : Connection P :=
  match connection.nghttp2.submitResponse streamId headers ⟨ptr, data, 0⟩ with
  | .ok nghttp2 =>
    { connection with
      session := connection.session.sendData ⟨streamId, data, headers, ptr, true⟩
      nghttp2 := nghttp2
      memory := Function.update connection.memory ptr (some data)
      sending := some ⟨streamId, ptr, false⟩ }
  | .error _ =>
    { connection with
      session := connection.session.sendData ⟨streamId, data, headers, ptr, false⟩ }

/-- The read callback has handed out `result` and left the session as `session`; nghttp2 sends what
it got. -/
def dataRead (connection : Connection P) (streamId : StreamId) (source : DataSource)
    (session : HTTP2Session P) (result : ReadResult) : Connection P :=
  let copied : Copied := ⟨streamId, source.body, result.offset, result.copyLength,
    readMemory connection.memory source.ptr result.offset result.copyLength⟩
  let nghttp2 := connection.nghttp2.afterDataSent streamId
    { source with handedOut := source.handedOut + result.copyLength } result.copyLength result.eof
  { connection with
    session := session
    copied := connection.copied ++ [copied] }.advance streamId nghttp2

/-- nghttp2 calls the read callback for up to `readmax` bytes. -/
def readData (connection : Connection P) (streamId : StreamId) (source : DataSource)
    (readmax : ℕ) : Connection P :=
  match connection.session.readCallback streamId source.ptr readmax with
  | (session, some result) => connection.dataRead streamId source session result
  | (session, none) =>
    { connection with
      session := session
      nghttp2 := connection.nghttp2.detachItem streamId
      sending := connection.sending.map fun call => { call with failed := true }
      callbackFailures := connection.callbackFailures + 1 }

/-- The next DATA frame of a stream. -/
def sendDataFrame (connection : Connection P) (streamId : StreamId) : Option (Connection P) :=
  (connection.nghttp2.prepData streamId).map fun
    | .dropped nghttp2 => { connection with nghttp2 := nghttp2 }
    | .deferred nghttp2 => { connection with nghttp2 := nghttp2 }
    | .read source readmax => connection.readData streamId source readmax

/-- A `sessionSend()` that runs has not failed. -/
def maySend (connection : Connection P) : Bool := !connection.sending.any SendCall.failed

/-- One event; `none` where it is not possible. -/
def step (connection : Connection P) : ConnectionEvent → Option (Connection P)
  | .callback event =>
    if connection.sending.isSome ∨ event.isReceive = false then none
    else (connection.session.step event).map fun session => { connection with session := session }
  | .requestHeaders frame =>
    if connection.sending.isSome ∨ frame.type ≠ .headers ∨ frame.cat ≠ .request then none
    else (connection.nghttp2.onRequestHeadersReceived frame.streamId).map fun nghttp2 =>
      { connection with
        nghttp2 := nghttp2
        session := connection.session.onBeginHeadersCallback frame }
  | .endStream streamId =>
    if connection.sending.isSome then none
    else some (connection.advance streamId (connection.nghttp2.shutdownRead streamId))
  | .closeStream streamId =>
    some (connection.advance streamId (connection.nghttp2.closeStream streamId))
  | .resetStream streamId =>
    if connection.sending.isSome then none
    else some { connection with nghttp2 := connection.nghttp2.addRstStream streamId }
  | .terminateSession =>
    if connection.sending.isSome then none
    else some { connection with nghttp2 := connection.nghttp2.terminateSession }
  | .windowUpdate streamId windowSizeIncrement =>
    if connection.sending.isSome then none
    else some { connection with
      nghttp2 := connection.nghttp2.onWindowUpdateReceived streamId windowSizeIncrement }
  | .settings iv =>
    if connection.sending.isSome then none
    else some { connection with nghttp2 := connection.nghttp2.onSettingsReceived iv }
  | .sendData streamId data headers ptr =>
    if connection.sending.isSome ∨ (connection.memory ptr).isSome then none
    else some (connection.sendData streamId data headers ptr)
  | .sendHeaders =>
    if connection.maySend then
      connection.nghttp2.sendHeaders.map fun nghttp2 => { connection with nghttp2 := nghttp2 }
    else none
  | .sendDataFrame streamId =>
    if connection.maySend then connection.sendDataFrame streamId else none
  | .sendDataReturn =>
    match connection.sending with
    | some call =>
      if call.failed ∨ connection.nghttp2.isDrained then
        some { connection with
          sending := none
          memory := Function.update connection.memory call.ptr none }
      else none
    | none => none
  | .store ptr buffer =>
    if connection.sending.any (·.ptr = ptr) then none
    else some { connection with memory := Function.update connection.memory ptr buffer }

/-! ## What one event does -/

variable {connection connection' : Connection P}

/-- The cases of `step`.  Frames that move only windows and states of streams are one case. -/
inductive Step (connection : Connection P) : ConnectionEvent → Connection P → Prop where
  | callback {event : SessionEvent} {session : HTTP2Session P} (idle : connection.sending = none)
      (receive : event.isReceive = true) (hstep : connection.session.step event = some session) :
      Step connection (.callback event) { connection with session := session }
  | requestHeaders {frame : Frame} {nghttp2 : Nghttp2.Session DataSource}
      (idle : connection.sending = none)
      (hopen : connection.nghttp2.onRequestHeadersReceived frame.streamId = some nghttp2) :
      Step connection (.requestHeaders frame) { connection with
        nghttp2 := nghttp2
        session := connection.session.onBeginHeadersCallback frame }
  | endStream {streamId : StreamId} (idle : connection.sending = none) :
      Step connection (.endStream streamId)
        (connection.advance streamId (connection.nghttp2.shutdownRead streamId))
  | closeStream {streamId : StreamId} :
      Step connection (.closeStream streamId)
        (connection.advance streamId (connection.nghttp2.closeStream streamId))
  | sameItems {event : ConnectionEvent} {nghttp2 : Nghttp2.Session DataSource}
      (idle : connection.sending = none)
      (hsame : Nghttp2.Session.SameItems connection.nghttp2 nghttp2) :
      Step connection event { connection with nghttp2 := nghttp2 }
  | sendData {streamId : StreamId} {data : Bytes} {headers : List (Bytes × Bytes)} {ptr : Addr}
      (idle : connection.sending = none) (hptr : connection.memory ptr = none) :
      Step connection (.sendData streamId data headers ptr)
        (connection.sendData streamId data headers ptr)
  | sendHeaders {nghttp2 : Nghttp2.Session DataSource}
      (hsend : connection.nghttp2.sendHeaders = some nghttp2) :
      Step connection .sendHeaders { connection with nghttp2 := nghttp2 }
  | sendDataFrame {streamId : StreamId} {connection' : Connection P}
      (hframe : connection.sendDataFrame streamId = some connection') :
      Step connection (.sendDataFrame streamId) connection'
  | sendDataReturn {call : SendCall} (hcall : connection.sending = some call)
      (hdone : call.failed = true ∨ connection.nghttp2.isDrained = true) :
      Step connection .sendDataReturn { connection with
        sending := none
        memory := Function.update connection.memory call.ptr none }
  | store {ptr : Addr} {buffer : Option Bytes}
      (hptr : ∀ call, connection.sending = some call → call.ptr ≠ ptr) :
      Step connection (.store ptr buffer)
        { connection with memory := Function.update connection.memory ptr buffer }

/-- `step` takes one of the cases. -/
theorem Step.of_step {event : ConnectionEvent} (hstep : connection.step event = some connection') :
    Step connection event connection' := by
  cases event with
  | callback event =>
    obtain ⟨hcan, hsome⟩ := Option.ite_none_left_eq_some.1 hstep
    obtain ⟨session, hsession, rfl⟩ := Option.map_eq_some_iff.1 hsome
    rw [not_or, Bool.not_eq_false, Option.not_isSome_iff_eq_none] at hcan
    exact .callback hcan.1 hcan.2 hsession
  | requestHeaders frame =>
    obtain ⟨hcan, hsome⟩ := Option.ite_none_left_eq_some.1 hstep
    obtain ⟨nghttp2, hopen, rfl⟩ := Option.map_eq_some_iff.1 hsome
    rw [not_or, Option.not_isSome_iff_eq_none] at hcan
    exact .requestHeaders hcan.1 hopen
  | endStream streamId =>
    obtain ⟨hcan, hsome⟩ := Option.ite_none_left_eq_some.1 hstep
    cases hsome
    exact .endStream (Option.not_isSome_iff_eq_none.1 hcan)
  | closeStream streamId =>
    cases hstep
    exact .closeStream
  | resetStream streamId =>
    obtain ⟨hcan, hsome⟩ := Option.ite_none_left_eq_some.1 hstep
    cases hsome
    exact .sameItems (Option.not_isSome_iff_eq_none.1 hcan) (.addRstStream ..)
  | terminateSession =>
    obtain ⟨hcan, hsome⟩ := Option.ite_none_left_eq_some.1 hstep
    cases hsome
    exact .sameItems (Option.not_isSome_iff_eq_none.1 hcan) (.terminateSession _)
  | windowUpdate streamId windowSizeIncrement =>
    obtain ⟨hcan, hsome⟩ := Option.ite_none_left_eq_some.1 hstep
    cases hsome
    exact .sameItems (Option.not_isSome_iff_eq_none.1 hcan) (.onWindowUpdateReceived ..)
  | settings iv =>
    obtain ⟨hcan, hsome⟩ := Option.ite_none_left_eq_some.1 hstep
    cases hsome
    exact .sameItems (Option.not_isSome_iff_eq_none.1 hcan) (.onSettingsReceived ..)
  | sendData streamId data headers ptr =>
    obtain ⟨hcan, hsome⟩ := Option.ite_none_left_eq_some.1 hstep
    cases hsome
    rw [not_or, Option.not_isSome_iff_eq_none, Option.not_isSome_iff_eq_none] at hcan
    exact .sendData hcan.1 hcan.2
  | sendHeaders =>
    obtain ⟨-, hsome⟩ := Option.ite_none_right_eq_some.1 hstep
    obtain ⟨nghttp2, hsend, rfl⟩ := Option.map_eq_some_iff.1 hsome
    exact .sendHeaders hsend
  | sendDataFrame streamId => exact .sendDataFrame (Option.ite_none_right_eq_some.1 hstep).2
  | sendDataReturn =>
    simp only [step] at hstep
    cases hsending : connection.sending with
    | none =>
      rw [hsending] at hstep
      cases hstep
    | some call =>
      rw [hsending] at hstep
      obtain ⟨hdone, hsome⟩ := Option.ite_none_right_eq_some.1 hstep
      cases hsome
      exact .sendDataReturn hsending hdone
  | store ptr buffer =>
    obtain ⟨hcan, hsome⟩ := Option.ite_none_left_eq_some.1 hstep
    cases hsome
    refine .store ?_
    rintro call hcall rfl
    rw [hcall] at hcan
    simp at hcan

end Connection

end KituraHTTP2
