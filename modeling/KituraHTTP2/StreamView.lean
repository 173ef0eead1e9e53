import KituraHTTP2.HTTP2Session

/-!
# One stream on its own

The session keeps all streams in one table of structs that share objects by reference.  What it is
meant to be is simpler: every stream has its own request data, and the callbacks for a stream read
and change nothing else.

`StreamView` is that meaning.  It holds what belongs to one stream by value, with no references, and
`StreamView.step` says what each event does to it.  `HTTP2Session.view` reads the view of a stream
out of a session.  That the session really moves its views this way is the subject of
`Separation.lean`; the facts about single streams are then proved here, on values.
-/

namespace KituraHTTP2

variable {P : Platform}

/-- A `StreamData` with the objects in place of the references to them. -/
structure StreamValue (P : Platform) where
  streamId : StreamId
  dataInfo : Addr → Option DataInfo
  headers : P.HeadersContainer
  requestPath : Option String
  method : Option String
  scheme : Option String
  authority : Option String
  request : Option (HTTP2ServerRequest P)
  response : Option (HTTP2ServerResponse P)

/-- What belongs to one stream, with what the session as a whole never changes. -/
structure StreamView (P : Platform) where
  streamData : Option (StreamValue P)
  userData : Bool
  handled : List (HandleCall P)
  submitted : List Submission
  remoteAddress : Option String
  delegate : Bool

namespace StreamValue

/-- The value of a `StreamData(streamId:)`. -/
def new (P : Platform) (streamId : StreamId) : StreamValue P where
  streamId := streamId
  dataInfo := fun _ => none
  headers := P.emptyHeaders
  requestPath := none
  method := none
  scheme := none
  authority := none
  request := none
  response := none

/-- A received header field goes to the pseudo-header it names or to the container. -/
def receiveHeader (value : StreamValue P) (nameStr valueStr : String) : StreamValue P :=
  if nameStr = ":path" then { value with requestPath := some valueStr }
  else if nameStr = ":method" then { value with method := some valueStr }
  else if nameStr = ":scheme" then { value with scheme := some valueStr }
  else if nameStr = ":authority" then { value with authority := some valueStr }
  else { value with headers := P.append value.headers nameStr [valueStr] }

/-- The stream value with a source of `length` bytes at `ptr` and nothing else. -/
def withSource (P : Platform) (streamId : StreamId) (ptr : Addr) (length : ℕ) : StreamValue P :=
  { new P streamId with
    dataInfo := Function.update (fun _ => none) ptr (some ⟨length, 0, Nat.zero_le _⟩) }

end StreamValue

namespace StreamView

/-- A call of the delegate. -/
def handle (view : StreamView P) (request : HTTP2ServerRequest P)
    (response : HTTP2ServerResponse P) : StreamView P :=
  if view.delegate then { view with handled := view.handled ++ [⟨request, response⟩] } else view

/-- A new request opens the stream. -/
def beginHeaders (view : StreamView P) (frame : Frame) : StreamView P :=
  if frame.type ≠ .headers ∨ frame.cat ≠ .request then view
  else { view with streamData := some (StreamValue.new P frame.streamId), userData := true }

/-- A header field of the request. -/
def header (view : StreamView P) (frame : Frame) (name value : Bytes) : StreamView P :=
  if frame.type ≠ .headers ∨ frame.cat ≠ .request then view
  else
    match utf8Decode name, utf8Decode value with
    | some nameStr, some valueStr =>
      { view with streamData := view.streamData.map (·.receiveHeader nameStr valueStr) }
    | _, _ => view

/-- A request built from a HEADERS frame is handed over or kept. -/
def dispatchRequest (view : StreamView P) (frame : Frame) (request : HTTP2ServerRequest P)
    (date : String) : StreamView P :=
  let response := HTTP2ServerResponse.new P frame.streamId date
  if frame.endStream then view.handle request response
  else { view with streamData := view.streamData.map fun value =>
    { value with request := some request, response := some response } }

/-- The request that a HEADERS frame of the stream gives rise to: `none` where the process stops,
`some none` where there is no path or no URL. -/
def requestOf (view : StreamView P) (value : StreamValue P) :
    Option (Option (HTTP2ServerRequest P)) :=
  match value.requestPath with
  | some requestPath =>
    (HTTP2Session.requestComponents requestPath value.scheme value.authority).map fun components =>
      (P.url components).map fun requestUrl =>
        HTTP2Session.buildRequest requestPath value.method requestUrl view.remoteAddress
          value.headers
  | none => some none

/-- A HEADERS frame was received in full. -/
def headersFrameRecv (view : StreamView P) (frame : Frame) (date : String) :
    Option (StreamView P) :=
  if frame.endHeaders = false ∨ view.userData = false then some view
  else
    match view.streamData with
    | some value => (view.requestOf value).map fun
      | some request => view.dispatchRequest frame request date
      | none => view
    | none => some view

/-- A DATA frame was received in full. -/
def dataFrameRecv (view : StreamView P) (frame : Frame) : StreamView P :=
  if frame.endStream = false ∨ view.userData = false then view
  else
    match view.streamData with
    | some value =>
      match value.request, value.response with
      | some request, some response => view.handle request response
      | _, _ => view
    | none => view

/-- A frame was received in full. -/
def frameRecv (view : StreamView P) (frame : Frame) (date : String) : Option (StreamView P) :=
  match frame.type with
  | .data => some (view.dataFrameRecv frame)
  | .headers => view.headersFrameRecv frame date
  | _ => some view

/-- A part of a DATA frame was received. -/
def dataChunk (view : StreamView P) (data : Bytes) : StreamView P :=
  { view with streamData := view.streamData.map fun value =>
    { value with request := value.request.map (·.appendReqData data) } }

/-- The stream is closed and forgotten. -/
def streamClose (view : StreamView P) : StreamView P :=
  { view with streamData := none, userData := false }

/-- nghttp2 asks for up to `length` bytes of a source. -/
def readCallback (view : StreamView P) (ptr : Addr) (length : ℕ) : StreamView P :=
  { view with streamData := view.streamData.map fun value =>
    { value with dataInfo := match value.dataInfo ptr with
        | some dataInfo =>
          if (dataInfo.read length).eof then value.dataInfo
          else Function.update value.dataInfo ptr (some (dataInfo.advance length))
        | none => value.dataInfo } }

/-- A response is submitted. -/
def sendData (view : StreamView P) (call : Submission) : StreamView P :=
  { view with
    streamData := some (StreamValue.withSource P call.streamId call.ptr call.data.length)
    submitted := view.submitted ++ [call] }

/-- What an event of the stream does to it. -/
def step (view : StreamView P) : SessionEvent → Option (StreamView P)
  | .beginHeaders frame => some (view.beginHeaders frame)
  | .header frame name value => some (view.header frame name value)
  | .frameRecv frame date => view.frameRecv frame date
  | .dataChunk _ data => some (view.dataChunk data)
  | .streamClose _ => some view.streamClose
  | .readCallback _ ptr length => some (view.readCallback ptr length)
  | .sendData call => some (view.sendData call)

/-- The view of a stream that nothing has happened to. -/
def initial (P : Platform) (remoteAddress : Option String) (delegate : Bool) : StreamView P where
  streamData := none
  userData := false
  handled := []
  submitted := []
  remoteAddress := remoteAddress
  delegate := delegate

end StreamView

/-! ## What a received frame does, case by case -/

namespace StreamView

variable {view view' : StreamView P} {frame : Frame} {date : String}

lemma handle_handled (view : StreamView P) (request : HTTP2ServerRequest P)
    (response : HTTP2ServerResponse P) :
    (view.handle request response).handled = view.handled ∨
      (view.handle request response).handled = view.handled ++ [⟨request, response⟩] := by
  unfold handle
  split_ifs
  · exact Or.inr rfl
  · exact Or.inl rfl

@[simp]
lemma handle_delegate (view : StreamView P) (request : HTTP2ServerRequest P)
    (response : HTTP2ServerResponse P) :
    (view.handle request response).delegate = view.delegate := by
  unfold handle
  split_ifs <;> rfl

@[simp]
lemma handle_submitted (view : StreamView P) (request : HTTP2ServerRequest P)
    (response : HTTP2ServerResponse P) :
    (view.handle request response).submitted = view.submitted := by
  unfold handle
  split_ifs <;> rfl

lemma handle_of_delegate (hdelegate : view.delegate = true) (request : HTTP2ServerRequest P)
    (response : HTTP2ServerResponse P) :
    (view.handle request response).handled = view.handled ++ [⟨request, response⟩] := by
  unfold handle
  rw [if_pos hdelegate]

lemma dispatchRequest_of_endStream (hend : frame.endStream = true)
    (request : HTTP2ServerRequest P) : view.dispatchRequest frame request date =
      view.handle request (HTTP2ServerResponse.new P frame.streamId date) := if_pos hend

lemma dispatchRequest_of_not_endStream (hend : frame.endStream = false)
    (request : HTTP2ServerRequest P) : view.dispatchRequest frame request date =
      { view with streamData := view.streamData.map fun value => { value with
          request := some request
          response := some (HTTP2ServerResponse.new P frame.streamId date) } } := by
  unfold dispatchRequest
  rw [if_neg (by simp [hend])]

/-- A HEADERS frame changes nothing, or its request is built and dispatched. -/
lemma headersFrameRecv_cases (hstep : view.headersFrameRecv frame date = some view') :
    view' = view ∨ ∃ value request, view.streamData = some value ∧
      view.requestOf value = some (some request) ∧
      view' = view.dispatchRequest frame request date := by
  unfold headersFrameRecv at hstep
  split at hstep
  · cases hstep
    exact Or.inl rfl
  · split at hstep
    · next value hvalue =>
      obtain ⟨request, hrequest, rfl⟩ := Option.map_eq_some_iff.1 hstep
      cases request with
      | none => exact Or.inl rfl
      | some request => exact Or.inr ⟨value, request, hvalue, hrequest, rfl⟩
    · cases hstep
      exact Or.inl rfl

/-- A DATA frame changes nothing, or it ends the stream and the kept request is handed over. -/
lemma dataFrameRecv_cases (view : StreamView P) (frame : Frame) :
    view.dataFrameRecv frame = view ∨ ∃ value request response, frame.endStream = true ∧
      view.streamData = some value ∧ value.request = some request ∧
      value.response = some response ∧ view.dataFrameRecv frame = view.handle request response := by
  unfold dataFrameRecv
  split
  · exact Or.inl rfl
  · next hcond =>
    have hend : frame.endStream = true := by
      by_contra h
      exact hcond (Or.inl (Bool.not_eq_true _ ▸ h))
    split
    · next value hvalue =>
      split
      · next request response hrequest hresponse =>
        exact Or.inr ⟨value, request, response, hend, hvalue, hrequest, hresponse, rfl⟩
      · exact Or.inl rfl
    · exact Or.inl rfl

/-- The frames of the other types change nothing. -/
lemma step_of_other (hdata : frame.type ≠ .data) (hheaders : frame.type ≠ .headers)
    (hstep : view.step (.frameRecv frame date) = some view') : view' = view := by
  rw [show view.step _ = view.frameRecv frame date from rfl, frameRecv] at hstep
  split at hstep
  · next h => exact absurd h hdata
  · next h => exact absurd h hheaders
  · exact (Option.some.inj hstep).symm

lemma step_of_data (hdata : frame.type = .data)
    (hstep : view.step (.frameRecv frame date) = some view') :
    view' = view.dataFrameRecv frame := by
  rw [show view.step _ = view.frameRecv frame date from rfl, frameRecv, hdata] at hstep
  exact (Option.some.inj hstep).symm

lemma step_of_headers (hheaders : frame.type = .headers)
    (hstep : view.step (.frameRecv frame date) = some view') :
    view.headersFrameRecv frame date = some view' := by
  rw [show view.step _ = view.frameRecv frame date from rfl, frameRecv, hheaders] at hstep
  exact hstep

lemma beginHeaders_of_request (hheaders : frame.type = .headers) (hcat : frame.cat = .request) :
    view.beginHeaders frame = { view with
      streamData := some (StreamValue.new P frame.streamId), userData := true } :=
  if_neg (by simp [hheaders, hcat])

/-- Trailers leave the entry as it is, and so do their fields. -/
lemma beginHeaders_of_trailers (hcat : frame.cat = .headers) : view.beginHeaders frame = view :=
  if_pos (by simp [hcat])

lemma header_of_trailers (hcat : frame.cat = .headers) (name value : Bytes) :
    view.header frame name value = view :=
  if_pos (by simp [hcat])

/-- A field of the request goes to the entry, unless it is not UTF-8. -/
lemma header_of_request (hheaders : frame.type = .headers) (hcat : frame.cat = .request)
    (name value : Bytes) :
    (∃ nameStr valueStr, utf8Decode name = some nameStr ∧ utf8Decode value = some valueStr ∧
      view.header frame name value =
        { view with streamData := view.streamData.map (·.receiveHeader nameStr valueStr) }) ∨
    (utf8Decode name = none ∨ utf8Decode value = none) ∧ view.header frame name value = view := by
  rw [header, if_neg (by simp [hheaders, hcat])]
  rcases utf8Decode name with _ | nameStr
  · exact Or.inr ⟨Or.inl rfl, rfl⟩
  · rcases utf8Decode value with _ | valueStr
    · exact Or.inr ⟨Or.inr rfl, rfl⟩
    · exact Or.inl ⟨nameStr, valueStr, rfl, rfl, rfl⟩

/-- No event sets the delegate, and only `sendData` submits something. -/
lemma step_delegate_submitted {event : SessionEvent} (hstep : view.step event = some view') :
    view'.delegate = view.delegate ∧
      ((∀ call, event ≠ .sendData call) → view'.submitted = view.submitted) := by
  cases event with
  | beginHeaders frame =>
    cases hstep
    unfold beginHeaders
    split_ifs <;> exact ⟨rfl, fun _ => rfl⟩
  | header frame name value =>
    cases hstep
    unfold header
    split_ifs
    · exact ⟨rfl, fun _ => rfl⟩
    · split <;> exact ⟨rfl, fun _ => rfl⟩
  | frameRecv frame date =>
    by_cases hdata : frame.type = .data
    · rw [step_of_data hdata hstep]
      rcases dataFrameRecv_cases view frame with h | ⟨_, request, response, -, -, -, -, h⟩
      · rw [h]
        exact ⟨rfl, fun _ => rfl⟩
      · rw [h, handle_delegate, handle_submitted]
        exact ⟨rfl, fun _ => rfl⟩
    · by_cases hheaders : frame.type = .headers
      · rcases headersFrameRecv_cases (step_of_headers hheaders hstep) with
          rfl | ⟨_, request, -, -, rfl⟩
        · exact ⟨rfl, fun _ => rfl⟩
        · cases hend : frame.endStream with
          | false =>
            rw [dispatchRequest_of_not_endStream hend]
            exact ⟨rfl, fun _ => rfl⟩
          | true =>
            rw [dispatchRequest_of_endStream hend, handle_delegate, handle_submitted]
            exact ⟨rfl, fun _ => rfl⟩
      · rw [step_of_other hdata hheaders hstep]
        exact ⟨rfl, fun _ => rfl⟩
  | dataChunk streamId data => cases hstep; exact ⟨rfl, fun _ => rfl⟩
  | streamClose streamId => cases hstep; exact ⟨rfl, fun _ => rfl⟩
  | readCallback streamId ptr length => cases hstep; exact ⟨rfl, fun _ => rfl⟩
  | sendData call => cases hstep; exact ⟨rfl, fun hne => absurd rfl (hne call)⟩

/-- A request built from a HEADERS frame has no data yet. -/
lemma requestOf_body {value : StreamValue P} {request : HTTP2ServerRequest P}
    (hrequest : view.requestOf value = some (some request)) : request.body = [] := by
  unfold requestOf at hrequest
  split at hrequest
  · obtain ⟨components, -, hbuild⟩ := Option.map_eq_some_iff.1 hrequest
    obtain ⟨requestUrl, -, rfl⟩ := Option.map_eq_some_iff.1 hbuild
    rfl
  · cases hrequest

end StreamView

/-- A header field touches neither the request nor the response of its stream. -/
lemma StreamValue.receiveHeader_request (value : StreamValue P) (nameStr valueStr : String) :
    (value.receiveHeader nameStr valueStr).request = value.request := by
  unfold receiveHeader
  split_ifs <;> rfl

lemma StreamValue.receiveHeader_response (value : StreamValue P) (nameStr valueStr : String) :
    (value.receiveHeader nameStr valueStr).response = value.response := by
  unfold receiveHeader
  split_ifs <;> rfl

/-! ## Reading a view out of a session -/

/-- A `StreamData` with its references followed. -/
def Heap.resolve (heap : Heap P) (streamData : StreamData) : Option (StreamValue P) :=
  (heap.containers.get? streamData.headers).map fun headers =>
    { streamId := streamData.streamId
      dataInfo := streamData.dataInfo
      headers := headers
      requestPath := streamData.requestPath
      method := streamData.method
      scheme := streamData.scheme
      authority := streamData.authority
      request := streamData.request.bind heap.requests.get?
      response := streamData.response.bind heap.responses.get? }

namespace HTTP2Session

/-- What belongs to the stream `streamId`. -/
def view (session : HTTP2Session P) (streamId : StreamId) : StreamView P where
  streamData := (session.streamsData streamId).bind session.heap.resolve
  userData := session.streamUserData streamId
  handled := session.handled.filter fun call => call.response.stream = streamId
  submitted := session.submitted.filter fun call => call.streamId = streamId
  remoteAddress := session.remoteAddress
  delegate := session.delegate

end HTTP2Session

end KituraHTTP2
