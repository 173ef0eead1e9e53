import KituraHTTP2.Separation
import KituraHTTP2.StreamView
import KituraHTTP2.Lib.Keyed

/-!
# A session is its streams

While the streams are separated, an event does to the view of its own stream what
`StreamView.step` says (`step_view`), and nothing to any other view (`step_view_other`).
So the session is a machine whose events each belong to one key (`keyedMachine`), and the rules of
such machines apply:

* **`run_view`** — after a run, the view of a stream is what `StreamView.step` makes of the
  events of that stream, so a fact about one stream alone is a fact about every session;
* **`concurrent_requests_do_not_mix`** — the delegate gets the same requests for a stream whatever
  the other streams do in between.
-/

namespace KituraHTTP2

open Machine Keyed

variable {P : Platform} {session session' : HTTP2Session P}

namespace HTTP2Session

/-! ## What an event does to the view of its own stream -/

/-- A call of the delegate shows in the view of the stream of its response, and nowhere else. -/
lemma handle_view {request response : Ref} {requestValue : HTTP2ServerRequest P}
    {responseValue : HTTP2ServerResponse P}
    (hreq : session.heap.requests.get? request = some requestValue)
    (hresp : session.heap.responses.get? response = some responseValue) (s : StreamId) :
    (session.handle request response).view s =
      if responseValue.stream = s then (session.view s).handle requestValue responseValue
      else session.view s := by
  unfold HTTP2Session.handle StreamView.handle
  rw [hreq, hresp]
  cases hdel : session.delegate with
  | true => by_cases hs : responseValue.stream = s <;> simp [view, hdel, hs, List.filter_append]
  | false => simp [view, hdel]

lemma onBeginHeadersCallback_view (session : HTTP2Session P) (frame : Frame) :
    (session.onBeginHeadersCallback frame).view frame.streamId =
      (session.view frame.streamId).beginHeaders frame := by
  unfold onBeginHeadersCallback StreamView.beginHeaders
  split_ifs
  · rfl
  · simp [view, setStream, Heap.resolve, StreamData.new, StreamValue.new]

/-- Receiving a header field commutes with following the references. -/
lemma resolve_receiveHeader (heap : Heap P) (nameStr valueStr : String) (d : StreamData) :
    ({ heap with containers := (receiveHeader P nameStr valueStr d heap.containers).2 }).resolve
        (receiveHeader P nameStr valueStr d heap.containers).1 =
      (heap.resolve d).map (·.receiveHeader nameStr valueStr) := by
  unfold receiveHeader Heap.resolve StreamValue.receiveHeader
  split_ifs <;> simp [Function.comp_def]

lemma onHeaderCallback_view (session : HTTP2Session P) (frame : Frame) (name value : Bytes) :
    (session.onHeaderCallback frame name value).view frame.streamId =
      (session.view frame.streamId).header frame name value := by
  unfold onHeaderCallback StreamView.header
  split_ifs
  · rfl
  · cases utf8Decode name with
    | none => rfl
    | some nameStr =>
      cases utf8Decode value with
      | none => rfl
      | some valueStr =>
        cases hd : session.streamsData frame.streamId with
        | none => simp [view, hd]
        | some d =>
          have hres := resolve_receiveHeader session.heap nameStr valueStr d
          simp only [view, setStream, Function.update_self, hd, Option.bind_some, hres]

/-- New requests and responses leave every resolved entry as it was. -/
lemma Separated.resolve_allocMessages (h : Separated session) {s : StreamId} {d : StreamData}
    (hd : session.streamsData s = some d) (request : HTTP2ServerRequest P)
    (response : HTTP2ServerResponse P) :
    (session.allocMessages request response).heap.resolve d = session.heap.resolve d := by
  have hreq : d.request.bind (session.heap.requests.alloc request).get? =
      d.request.bind session.heap.requests.get? := by
    cases hr : d.request with
    | none => rfl
    | some r => exact Store.get?_alloc_of_valid (h.request_valid hd hr) _
  have hresp : d.response.bind (session.heap.responses.alloc response).get? =
      d.response.bind session.heap.responses.get? := by
    cases hr : d.response with
    | none => rfl
    | some r =>
      obtain ⟨_, hget, _⟩ := h.response_own hd hr
      exact Store.get?_alloc_of_valid (Store.valid_of_get? hget) _
  simp only [Heap.resolve, allocMessages, hreq, hresp]

/-- New requests and responses do not show in any view. -/
lemma Separated.allocMessages_view (h : Separated session) (request : HTTP2ServerRequest P)
    (response : HTTP2ServerResponse P) (s : StreamId) :
    (session.allocMessages request response).view s = session.view s := by
  have hstreams : (session.allocMessages request response).streamsData s =
      session.streamsData s := rfl
  cases hd : session.streamsData s with
  | none => simp only [view, hstreams, hd, Option.bind_none]; rfl
  | some d =>
    simp only [view, hstreams, hd, Option.bind_some, h.resolve_allocMessages hd]
    rfl

lemma Separated.dispatchRequest_view (h : Separated session) (frame : Frame)
    (request : HTTP2ServerRequest P) (date : String) :
    (session.dispatchRequest frame request date).view frame.streamId =
      (session.view frame.streamId).dispatchRequest frame request date := by
  unfold HTTP2Session.dispatchRequest StreamView.dispatchRequest
  dsimp only
  split_ifs
  · rw [handle_view (Store.get?_alloc_fresh ..) (Store.get?_alloc_fresh ..),
      h.allocMessages_view, if_pos (HTTP2ServerResponse.stream_new ..)]
  · cases hd : session.streamsData frame.streamId with
    | none => simp [view, HTTP2Session.setStream, allocMessages, hd]
    | some d =>
      obtain ⟨headers, hget⟩ := (h.headers_valid hd).exists_get?
      simp [view, HTTP2Session.setStream, allocMessages, hd, Heap.resolve, hget]

/-- The entry of a stream and its value agree field by field. -/
lemma Separated.exists_resolve (h : Separated session) {s : StreamId} {d : StreamData}
    (hd : session.streamsData s = some d) :
    ∃ headers, session.heap.containers.get? d.headers = some headers ∧
      (session.view s).streamData = some
        { streamId := d.streamId, dataInfo := d.dataInfo, headers := headers
          requestPath := d.requestPath, method := d.method, scheme := d.scheme
          authority := d.authority
          request := d.request.bind session.heap.requests.get?
          response := d.response.bind session.heap.responses.get? } := by
  obtain ⟨headers, hget⟩ := (h.headers_valid hd).exists_get?
  exact ⟨headers, hget, by simp [view, hd, Heap.resolve, hget]⟩

lemma view_streamData_of_none {s : StreamId} (hd : session.streamsData s = none) :
    (session.view s).streamData = none := by
  simp only [view, hd, Option.bind_none]

lemma Separated.onHeadersFrameRecv_view (h : Separated session) (frame : Frame) (date : String) :
    (session.onHeadersFrameRecv frame date).map (·.view frame.streamId) =
      (session.view frame.streamId).headersFrameRecv frame date := by
  unfold HTTP2Session.onHeadersFrameRecv StreamView.headersFrameRecv
  have huser : (session.view frame.streamId).userData = session.streamUserData frame.streamId := rfl
  rw [huser]
  split_ifs
  · rfl
  · cases hd : session.streamsData frame.streamId with
    | none => rw [view_streamData_of_none hd]; rfl
    | some d =>
      obtain ⟨headers, hget, hvalue⟩ := h.exists_resolve hd
      simp only [hvalue, StreamView.requestOf]
      cases d.requestPath with
      | none => rfl
      | some requestPath =>
        cases hcomponents : requestComponents requestPath d.scheme d.authority with
        | none => simp only [hcomponents, Option.map_none]
        | some components =>
          cases hurl : P.url components with
          | none => simp only [hcomponents, hurl, Option.map_some, Option.map_none]
          | some requestUrl =>
            simp only [hcomponents, hurl, hget, Option.map_some]
            exact congrArg some (h.dispatchRequest_view ..)

lemma Separated.onDataFrameRecv_view (h : Separated session) (frame : Frame) :
    (session.onDataFrameRecv frame).view frame.streamId =
      (session.view frame.streamId).dataFrameRecv frame := by
  unfold HTTP2Session.onDataFrameRecv StreamView.dataFrameRecv
  have huser : (session.view frame.streamId).userData = session.streamUserData frame.streamId := rfl
  rw [huser]
  split_ifs
  · rfl
  · cases hd : session.streamsData frame.streamId with
    | none => rw [view_streamData_of_none hd]
    | some d =>
      obtain ⟨headers, hget, hvalue⟩ := h.exists_resolve hd
      simp only [hvalue]
      cases hreq : d.request with
      | none => simp only [Option.bind_none]
      | some request =>
        obtain ⟨requestValue, hrequest⟩ := (h.request_valid hd hreq).exists_get?
        cases hresp : d.response with
        | none => simp only [Option.bind_some, Option.bind_none, hrequest]
        | some response =>
          obtain ⟨responseValue, hresponse, hstream⟩ := h.response_own hd hresp
          simp only [Option.bind_some, hrequest, hresponse]
          rw [handle_view hrequest hresponse, if_pos hstream]

lemma Separated.onDataChunkRecvCallback_view (h : Separated session) (streamId : StreamId)
    (data : Bytes) : (session.onDataChunkRecvCallback streamId data).view streamId =
      (session.view streamId).dataChunk data := by
  unfold HTTP2Session.onDataChunkRecvCallback StreamView.dataChunk
  cases hd : session.streamsData streamId with
  | none => simp [view, hd]
  | some d =>
    obtain ⟨headers, hget, hvalue⟩ := h.exists_resolve hd
    cases hreq : d.request with
    | none => simp [view, hd, Heap.resolve, hget, hreq]
    | some request => simp [view, hd, Heap.resolve, hget, hreq]

lemma onStreamCloseCallback_view (session : HTTP2Session P) (streamId : StreamId) :
    (session.onStreamCloseCallback streamId).view streamId =
      (session.view streamId).streamClose := by
  simp [onStreamCloseCallback, StreamView.streamClose, view, setStream]

lemma readCallback_view (session : HTTP2Session P) (streamId : StreamId) (ptr : Addr)
    (length : ℕ) : (session.readCallback streamId ptr length).1.view streamId =
      (session.view streamId).readCallback ptr length := by
  unfold readCallback StreamView.readCallback
  cases hd : session.streamsData streamId with
  | none => simp [view, hd]
  | some d =>
    cases hinfo : d.dataInfo ptr with
    | none => simp [view, hd, Heap.resolve, hinfo, Function.comp_def]
    | some dataInfo =>
      simp only [hinfo]
      split_ifs with heof
      · simp [view, hd, Heap.resolve, hinfo, heof, Function.comp_def]
      · simp [view, hd, setStream, Heap.resolve, hinfo, heof, Function.comp_def]

lemma sendData_view (session : HTTP2Session P) (call : Submission) :
    (session.sendData call).view call.streamId = (session.view call.streamId).sendData call := by
  simp [sendData, StreamView.sendData, view, setStream, Heap.resolve, StreamData.new,
    StreamValue.withSource, StreamValue.new, List.filter_append]

/-- **An event does to its own stream what it would do to the stream alone.** -/
theorem Separated.step_view (h : Separated session) (event : SessionEvent) :
    (session.step event).map (·.view event.streamId) =
      (session.view event.streamId).step event := by
  cases event with
  | beginHeaders frame => exact congrArg some (onBeginHeadersCallback_view session frame)
  | header frame name value => exact congrArg some (onHeaderCallback_view session frame name value)
  | frameRecv frame date =>
    simp only [HTTP2Session.step, StreamView.step, SessionEvent.streamId, onFrameRecvCallback,
      StreamView.frameRecv]
    cases frame.type with
    | data => exact congrArg some (h.onDataFrameRecv_view frame)
    | headers => exact h.onHeadersFrameRecv_view frame date
    | _ => rfl
  | dataChunk streamId data => exact congrArg some (h.onDataChunkRecvCallback_view streamId data)
  | streamClose streamId => exact congrArg some (onStreamCloseCallback_view session streamId)
  | readCallback streamId ptr length =>
    exact congrArg some (readCallback_view session streamId ptr length)
  | sendData call => exact congrArg some (sendData_view session call)

/-! ## What an event does to the other streams: nothing

An event of the stream `s` sets the entry of `s`, adds objects, changes objects that the entry of
`s` refers to, and appends calls for `s` to the two logs.  None of it shows in another view.
-/

/-- Two sessions that agree on the entry of `t`, on the objects it refers to, and on the rest of
what belongs to `t` have the same view of it. -/
lemma view_congr {t : StreamId} (hstreams : session'.streamsData t = session.streamsData t)
    (hobjects : ∀ d, session.streamsData t = some d →
      session'.heap.resolve d = session.heap.resolve d)
    (huser : session'.streamUserData t = session.streamUserData t)
    (hhandled : session'.handled.filter (fun call => call.response.stream = t) =
      session.handled.filter fun call => call.response.stream = t)
    (hsubmitted : session'.submitted.filter (fun call => call.streamId = t) =
      session.submitted.filter fun call => call.streamId = t)
    (hremote : session'.remoteAddress = session.remoteAddress)
    (hdelegate : session'.delegate = session.delegate) : session'.view t = session.view t := by
  unfold view
  rw [hstreams, huser, hhandled, hsubmitted, hremote, hdelegate]
  cases hd : session.streamsData t with
  | none => simp only [Option.bind_none]
  | some d => simp only [Option.bind_some, hobjects d hd]

/-- Setting the entry of a stream does not show in the view of another. -/
lemma setStream_view_other {s t : StreamId} (hst : s ≠ t) (streamData : Option StreamData) :
    (session.setStream s streamData).view t = session.view t :=
  view_congr (Function.update_of_ne hst.symm ..) (fun _ _ => rfl) rfl rfl rfl rfl rfl

/-- The containers of the table are not the one that the next allocation gives, and a new container
leaves them as they were. -/
lemma Separated.resolve_alloc (h : Separated session) {t : StreamId} {d : StreamData}
    (hd : session.streamsData t = some d) (headers : P.HeadersContainer) :
    ({ session.heap with containers := session.heap.containers.alloc headers }).resolve d =
      session.heap.resolve d := by
  unfold Heap.resolve
  rw [Store.get?_alloc_of_valid (h.headers_valid hd)]

lemma Separated.onBeginHeadersCallback_view_other (h : Separated session) {frame : Frame}
    {t : StreamId} (hst : frame.streamId ≠ t) :
    (session.onBeginHeadersCallback frame).view t = session.view t := by
  unfold HTTP2Session.onBeginHeadersCallback
  split_ifs
  · rfl
  · exact view_congr (Function.update_of_ne hst.symm ..) (fun d hd => h.resolve_alloc hd _)
      (Function.update_of_ne hst.symm ..) rfl rfl rfl rfl

lemma Separated.sendData_view_other (h : Separated session) {call : Submission} {t : StreamId}
    (hst : call.streamId ≠ t) : (session.sendData call).view t = session.view t := by
  refine view_congr (Function.update_of_ne hst.symm ..) (fun d hd => h.resolve_alloc hd _)
    rfl rfl ?_ rfl rfl
  simp [HTTP2Session.sendData, List.filter_append, hst]

/-- A header field of the stream `s` goes to a container that no other entry refers to. -/
lemma Separated.resolve_receiveHeader_other (h : Separated session) {s t : StreamId}
    {d d' : StreamData} (hst : s ≠ t) (hd : session.streamsData s = some d)
    (hd' : session.streamsData t = some d') (nameStr valueStr : String) :
    ({ session.heap with
        containers := (receiveHeader P nameStr valueStr d session.heap.containers).2 }).resolve d' =
      session.heap.resolve d' := by
  have hne : d.headers ≠ d'.headers := fun heq => hst (h.headers_inj hd hd' heq)
  have hget : (receiveHeader P nameStr valueStr d session.heap.containers).2.get? d'.headers =
      session.heap.containers.get? d'.headers := by
    unfold receiveHeader
    split_ifs <;> first | rfl | exact Store.get?_update_of_ne hne _
  simp only [Heap.resolve, hget]

lemma Separated.onHeaderCallback_view_other (h : Separated session) {frame : Frame}
    {t : StreamId} (hst : frame.streamId ≠ t) (name value : Bytes) :
    (session.onHeaderCallback frame name value).view t = session.view t := by
  unfold HTTP2Session.onHeaderCallback
  split
  · rfl
  · split
    · next hold =>
      exact view_congr (Function.update_of_ne hst.symm ..)
        (fun d' hd' => h.resolve_receiveHeader_other hst hold hd' ..) rfl rfl rfl rfl rfl
    · rfl

lemma Separated.dispatchRequest_view_other (h : Separated session) {frame : Frame}
    {t : StreamId} (hst : frame.streamId ≠ t) (request : HTTP2ServerRequest P) (date : String) :
    (session.dispatchRequest frame request date).view t = session.view t := by
  unfold HTTP2Session.dispatchRequest
  dsimp only
  split_ifs
  · rw [handle_view (Store.get?_alloc_fresh ..) (Store.get?_alloc_fresh ..),
      HTTP2ServerResponse.stream_new, if_neg hst, h.allocMessages_view]
  · rw [setStream_view_other hst, h.allocMessages_view]

/-- A stored response that is handed over is one for the stream of the frame. -/
lemma Separated.onFrameRecvCallback_view_other (h : Separated session) {frame : Frame}
    {date : String} {t : StreamId} (hst : frame.streamId ≠ t)
    (hstep : session.onFrameRecvCallback frame date = some session') :
    session'.view t = session.view t := by
  cases FrameRecv.of_onFrameRecvCallback hstep with
  | nothing => rfl
  | handed hd hreq hresp =>
    obtain ⟨requestValue, hrequest⟩ := (h.request_valid hd hreq).exists_get?
    obtain ⟨responseValue, hresponse, hstream⟩ := h.response_own hd hresp
    rw [handle_view hrequest hresponse, hstream, if_neg hst]
  | built => exact h.dispatchRequest_view_other hst ..

lemma Separated.onDataChunkRecvCallback_view_other (h : Separated session) {s t : StreamId}
    (hst : s ≠ t) (data : Bytes) :
    (session.onDataChunkRecvCallback s data).view t = session.view t := by
  unfold HTTP2Session.onDataChunkRecvCallback
  split
  · next request hreq =>
    obtain ⟨d, hd, hr⟩ := Option.bind_eq_some_iff.1 hreq
    refine view_congr rfl (fun d' hd' => ?_) rfl rfl rfl rfl rfl
    -- the request of `s` is not the one of `t`
    have hbind :
        d'.request.bind (session.heap.requests.update request (·.appendReqData data)).get? =
          d'.request.bind session.heap.requests.get? := by
      cases hr' : d'.request with
      | none => rfl
      | some request' =>
        refine Store.get?_update_of_ne (fun heq => hst ?_) _
        exact h.request_inj hd hd' hr (heq ▸ hr')
    simp only [Heap.resolve, hbind]
  · rfl

lemma onStreamCloseCallback_view_other {s t : StreamId} (hst : s ≠ t) :
    (session.onStreamCloseCallback s).view t = session.view t :=
  view_congr (Function.update_of_ne hst.symm ..) (fun _ _ => rfl)
    (Function.update_of_ne hst.symm ..) rfl rfl rfl rfl

lemma readCallback_view_other {s t : StreamId} (hst : s ≠ t) (ptr : Addr) (length : ℕ) :
    (session.readCallback s ptr length).1.view t = session.view t := by
  rcases session.readCallback_cases s ptr length with hsame | ⟨streamInfo, dataInfo, -, hread⟩
  · rw [hsame]
  · rw [hread]
    exact setStream_view_other hst _

/-- **An event leaves every other stream alone.** -/
theorem Separated.step_view_other (h : Separated session) {event : SessionEvent} {t : StreamId}
    (hstep : session.step event = some session') (hst : event.streamId ≠ t) :
    session'.view t = session.view t := by
  cases event with
  | beginHeaders frame =>
    cases hstep
    exact h.onBeginHeadersCallback_view_other hst
  | header frame name value =>
    cases hstep
    exact h.onHeaderCallback_view_other hst name value
  | frameRecv frame date => exact h.onFrameRecvCallback_view_other hst hstep
  | dataChunk streamId data =>
    cases hstep
    exact h.onDataChunkRecvCallback_view_other hst data
  | streamClose streamId =>
    cases hstep
    exact onStreamCloseCallback_view_other hst
  | readCallback streamId ptr length =>
    cases hstep
    exact readCallback_view_other hst ptr length
  | sendData call =>
    cases hstep
    exact h.sendData_view_other hst

/-! ## Runs -/

/-- The session is a machine whose events each belong to one stream. -/
theorem keyedMachine (P : Platform) :
    KeyedMachine (@HTTP2Session.step P) SessionEvent.streamId HTTP2Session.view
      StreamView.step Separated where
  good_step := fun h hstep => h.step hstep
  own := fun h => h.step_view _
  frame := fun h hstep hst => h.step_view_other hstep hst

/-- The events of one stream. -/
abbrev streamEvents (s : StreamId) (events : List SessionEvent) : List SessionEvent :=
  eventsOf SessionEvent.streamId s events

lemma streamEvents_append (s : StreamId) (before after : List SessionEvent) :
    streamEvents s (before ++ after) = streamEvents s before ++ streamEvents s after :=
  eventsOf_append ..

lemma streamEvents_cons_own {s : StreamId} {event : SessionEvent} (h : event.streamId = s)
    (events : List SessionEvent) :
    streamEvents s (event :: events) = event :: streamEvents s events :=
  h ▸ eventsOf_cons_own ..

/-- What belongs to a stream after a run is what its own events make of it. -/
theorem run_view {remoteAddress : Option String} {delegate : Bool} {events : List SessionEvent}
    (hrun : run HTTP2Session.step (HTTP2Session.new P remoteAddress delegate) events =
      some session) (s : StreamId) :
    run StreamView.step (StreamView.initial P remoteAddress delegate) (streamEvents s events) =
      some (session.view s) :=
  (keyedMachine P).run_view (separated_new remoteAddress delegate) hrun s

/-- The calls of the delegate for the stream `s`, in their order. -/
def handledFor (session : HTTP2Session P) (s : StreamId) : List (HandleCall P) :=
  session.handled.filter fun call => call.response.stream = s

/-- `streamsData[s]`, with the objects it refers to. -/
def streamValue (session : HTTP2Session P) (s : StreamId) : Option (StreamValue P) :=
  (session.streamsData s).bind session.heap.resolve

/-- **Concurrent requests do not mix.**  After any run, the delegate was called for the stream `s`
with the same requests, and the entry of `s` is the same, as after the run that keeps only the
events of `s`; and every other interleaving of the same events per stream is a run that agrees with
it on every stream. -/
theorem concurrent_requests_do_not_mix {remoteAddress : Option String} {delegate : Bool}
    {events : List SessionEvent}
    (hrun : run HTTP2Session.step (HTTP2Session.new P remoteAddress delegate) events =
      some session) :
    (∀ s, ∃ alone, run HTTP2Session.step (HTTP2Session.new P remoteAddress delegate)
        (streamEvents s events) = some alone ∧
      alone.handledFor s = session.handledFor s ∧ alone.streamValue s = session.streamValue s) ∧
    ∀ events', (∀ s, streamEvents s events' = streamEvents s events) →
      ∃ session', run HTTP2Session.step (HTTP2Session.new P remoteAddress delegate) events' =
        some session' ∧
        ∀ s, session'.handledFor s = session.handledFor s ∧
          session'.streamValue s = session.streamValue s := by
  have hnew : Separated (HTTP2Session.new P remoteAddress delegate) := separated_new ..
  have hmachine := keyedMachine P
  constructor
  · intro s
    obtain ⟨alone, halone, hview⟩ := hmachine.run_filter hnew hrun s
    exact ⟨alone, halone, congrArg StreamView.handled hview, congrArg StreamView.streamData hview⟩
  · intro events' hsame
    obtain ⟨session', hrun', hview⟩ := hmachine.run_interleaving hnew hrun hsame
    exact ⟨session', hrun', fun s =>
      ⟨congrArg StreamView.handled (hview s), congrArg StreamView.streamData (hview s)⟩⟩

/-- Two requests whose frames arrive interleaved, the second one with a body. -/
def interleavedRequests : List SessionEvent :=
  [.beginHeaders ⟨.headers, 0x5, 1, .request⟩,
   .header ⟨.headers, 0x5, 1, .request⟩ (utf8Encode ":method") (utf8Encode "GET"),
   .header ⟨.headers, 0x5, 1, .request⟩ (utf8Encode ":path") (utf8Encode "/a"),
   .beginHeaders ⟨.headers, 0x4, 3, .request⟩,
   .header ⟨.headers, 0x4, 3, .request⟩ (utf8Encode ":path") (utf8Encode "/b"),
   .frameRecv ⟨.headers, 0x5, 1, .request⟩ "today",
   .frameRecv ⟨.headers, 0x4, 3, .request⟩ "today",
   .sendData ⟨1, [0x68, 0x69], [], 64, true⟩,
   .dataChunk 3 [0x78],
   .frameRecv ⟨.data, 0x1, 3, .headers⟩ "today"]

theorem concurrent_requests_do_not_mix_interleaved : ∃ session,
    run HTTP2Session.step (HTTP2Session.new Platform.basic none true) interleavedRequests =
      some session ∧
    ∀ s, ∃ alone, run HTTP2Session.step (HTTP2Session.new Platform.basic none true)
        (streamEvents s interleavedRequests) = some alone ∧
      alone.handledFor s = session.handledFor s ∧
      alone.streamValue s = session.streamValue s := by
  have hsome : (run HTTP2Session.step (HTTP2Session.new Platform.basic none true)
      interleavedRequests).isSome := by decide
  obtain ⟨session, hrun⟩ := Option.isSome_iff_exists.1 hsome
  exact ⟨session, hrun, (concurrent_requests_do_not_mix hrun).1⟩

end HTTP2Session

end KituraHTTP2
