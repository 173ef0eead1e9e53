import KituraHTTP2.DroppedRequest

/-!
# What a request is built from

`on_header` fills the stream's entry field by field, and `on_frame_recv` builds the request from the
entry: at its HEADERS frame, or again at its trailers.  Over a whole run, what the delegate is
handed is therefore a function of the fields that were received on the stream.

* `BuiltInv` — the entry holds what was received so far, and every request built up to now was built
  from that.
* **`handled_built`** — every request that the delegate is handed was built from the fields received
  on its stream.
-/

namespace KituraHTTP2

open Machine Keyed HTTP2Session

variable {P : Platform}

/-! ## The address of the peer

It is set by whoever creates the session, and read when a request is built.
-/

namespace HTTP2Session

variable {session session' : HTTP2Session P}

/-- Every request object has the address that the session has. -/
def Addressed (session : HTTP2Session P) : Prop :=
  session.heap.requests.All fun request => request.remoteAddress = session.remoteAddress.getD ""

/-- Between two states of a session the address and the initial request stay, and what is handed
over has the address. -/
structure KeepsAddress (session session' : HTTP2Session P) : Prop where
  remoteAddress : session'.remoteAddress = session.remoteAddress
  initialRequest : session'.initialRequest = session.initialRequest
  addressed : session.Addressed → session'.Addressed
  handled : ∃ calls, session'.handled = session.handled ++ calls ∧
    (session.Addressed → ∀ call ∈ calls,
      call.request.remoteAddress = session.remoteAddress.getD "")

lemma KeepsAddress.of_same (haddress : session'.remoteAddress = session.remoteAddress)
    (hinitial : session'.initialRequest = session.initialRequest)
    (hrequests : session'.heap.requests = session.heap.requests)
    (hhandled : session'.handled = session.handled) : KeepsAddress session session' := by
  refine ⟨haddress, hinitial, ?_, [], ?_, ?_⟩
  · intro h
    rw [Addressed, hrequests, haddress]
    exact h
  · rw [hhandled, List.append_nil]
  · intro _ call hcall
    exact absurd hcall List.not_mem_nil

lemma KeepsAddress.handle (session : HTTP2Session P) (request response : Ref) :
    KeepsAddress session (session.handle request response) := by
  simp only [HTTP2Session.handle]
  split
  · next hdelegate hrequest hresponse =>
    refine ⟨rfl, rfl, id, _, rfl, ?_⟩
    intro h call hcall
    rw [List.mem_singleton] at hcall
    subst hcall
    exact h _ _ hrequest
  · exact .of_same rfl rfl rfl rfl

lemma KeepsAddress.trans {session'' : HTTP2Session P} (h : KeepsAddress session session')
    (h' : KeepsAddress session' session'') : KeepsAddress session session'' := by
  rcases h.handled with ⟨calls, hcalls, haddress⟩
  rcases h'.handled with ⟨calls', hcalls', haddress'⟩
  refine ⟨h'.remoteAddress.trans h.remoteAddress, h'.initialRequest.trans h.initialRequest,
    h'.addressed ∘ h.addressed, calls ++ calls', ?_, ?_⟩
  · rw [hcalls', hcalls, List.append_assoc]
  · intro haddressed call hcall
    rcases List.mem_append.1 hcall with hcall | hcall
    · exact haddress haddressed call hcall
    · rw [← h.remoteAddress]
      exact haddress' (h.addressed haddressed) call hcall

/-- A request that is built gets the address. -/
lemma KeepsAddress.allocMessages {request : HTTP2ServerRequest P}
    (hrequest : request.remoteAddress = session.remoteAddress.getD "")
    (response : HTTP2ServerResponse P) :
    KeepsAddress session (session.allocMessages request response) :=
  ⟨rfl, rfl, fun h => h.alloc hrequest, [], (List.append_nil _).symm,
    fun _ _ hcall => absurd hcall List.not_mem_nil⟩

lemma KeepsAddress.dispatchRequest {request : HTTP2ServerRequest P}
    (hrequest : request.remoteAddress = session.remoteAddress.getD "") (frame : Frame)
    (date : String) : KeepsAddress session (session.dispatchRequest frame request date) := by
  have halloc : KeepsAddress session (session.allocMessages request
      (HTTP2ServerResponse.new P frame.streamId date)) := .allocMessages hrequest _
  simp only [HTTP2Session.dispatchRequest]
  split_ifs
  · exact halloc.trans (.handle _ _ _)
  · exact halloc.trans (.of_same rfl rfl rfl rfl)

/-- **No event sets the address, and every request that is handed over has it.** -/
theorem KeepsAddress.step {event : SessionEvent} (hstep : session.step event = some session') :
    KeepsAddress session session' := by
  cases event with
  | beginHeaders frame =>
    cases hstep
    simp only [HTTP2Session.onBeginHeadersCallback]
    split_ifs <;> exact .of_same rfl rfl rfl rfl
  | header frame name value =>
    cases hstep
    simp only [HTTP2Session.onHeaderCallback]
    split_ifs
    · exact .of_same rfl rfl rfl rfl
    · split <;> exact .of_same rfl rfl rfl rfl
  | frameRecv frame date =>
    cases FrameRecv.of_onFrameRecvCallback hstep with
    | nothing => exact .of_same rfl rfl rfl rfl
    | handed => exact .handle session _ _
    | built => exact .dispatchRequest rfl frame date
  | dataChunk streamId data =>
    cases hstep
    simp only [HTTP2Session.onDataChunkRecvCallback]
    split
    · next request _ =>
      refine ⟨rfl, rfl, fun h => ?_, [], (List.append_nil _).symm,
        fun _ _ hcall => absurd hcall List.not_mem_nil⟩
      show (session.heap.requests.update request (·.appendReqData data)).All _
      refine Store.All.update h ?_ request
      intro request haddress
      exact haddress
    · exact .of_same rfl rfl rfl rfl
  | streamClose streamId =>
    cases hstep
    exact .of_same rfl rfl rfl rfl
  | readCallback streamId ptr length =>
    cases hstep
    rcases session.readCallback_cases streamId ptr length with
      hsame | ⟨streamInfo, dataInfo, -, hread⟩
    · rw [hsame]
      exact .of_same rfl rfl rfl rfl
    · rw [hread]
      exact .of_same rfl rfl rfl rfl
  | sendData call =>
    cases hstep
    exact .of_same rfl rfl rfl rfl

end HTTP2Session

/-! ## The headers that are collected -/

/-- The pseudo-headers of the `switch` in `on_header_callback`. -/
def pseudoHeaders : List String := [":path", ":method", ":scheme", ":authority"]

/-- The fields that go to the container: those that are UTF-8 and no pseudo-header. -/
def containerFields (fields : List (Bytes × Bytes)) : List (String × String) :=
  (fields.filterMap decodeField).filter fun field => field.1 ∉ pseudoHeaders

/-- The container that `on_header` fills. -/
def collected (P : Platform) (fields : List (Bytes × Bytes)) : P.HeadersContainer :=
  (containerFields fields).foldl (fun headers field => P.append headers field.1 [field.2])
    P.emptyHeaders

lemma collected_concat (fields : List (Bytes × Bytes)) (field : Bytes × Bytes) :
    collected P (fields ++ [field]) = match decodeField field with
      | some (nameStr, valueStr) =>
        if nameStr ∈ pseudoHeaders then collected P fields
        else P.append (collected P fields) nameStr [valueStr]
      | none => collected P fields := by
  simp only [collected, containerFields, List.filterMap_append, List.filter_append,
    List.foldl_append]
  rcases hdecode : decodeField field with _ | ⟨nameStr, valueStr⟩
  · simp [hdecode]
  · by_cases hpseudo : nameStr ∈ pseudoHeaders
    · simp [hdecode, hpseudo]
    · simp [hdecode, hpseudo]

/-- The entry holds the received fields: the pseudo-headers, and the others in the container. -/
structure StreamValue.Collects (value : StreamValue P) (fields : List (Bytes × Bytes)) :
    Prop extends value.HasFields fields where
  method : value.method = fieldValue fields ":method"
  headers : value.headers = collected P fields

lemma StreamValue.Collects.receiveHeader {value : StreamValue P} {fields : List (Bytes × Bytes)}
    (h : value.Collects fields) {field : Bytes × Bytes} {nameStr valueStr : String}
    (hdecode : decodeField field = some (nameStr, valueStr)) :
    (value.receiveHeader nameStr valueStr).Collects (fields ++ [field]) := by
  refine ⟨h.toHasFields.receiveHeader hdecode, ?_, ?_⟩
  · simp only [fieldValue_concat, hdecode, ← h.method]
    simp only [StreamValue.receiveHeader]
    split_ifs <;> simp_all
  · simp only [collected_concat, hdecode, ← h.headers]
    simp only [StreamValue.receiveHeader, pseudoHeaders]
    split_ifs <;> simp_all

lemma StreamValue.Collects.skip {value : StreamValue P} {fields : List (Bytes × Bytes)}
    (h : value.Collects fields) {field : Bytes × Bytes} (hdecode : decodeField field = none) :
    value.Collects (fields ++ [field]) := by
  refine ⟨h.toHasFields.skip hdecode, ?_, ?_⟩
  · rw [fieldValue_concat, hdecode]
    exact h.method
  · rw [collected_concat, hdecode]
    exact h.headers

/-! ## The requests that are built -/

/-- The request is what `on_frame_recv` builds from the fields, but for the data received since. -/
def Built (remoteAddress : Option String) (fields : List (Bytes × Bytes))
    (request : HTTP2ServerRequest P) : Prop :=
  ∃ path components url, fieldValue fields ":path" = some path ∧
    requestComponents path (fieldValue fields ":scheme") (fieldValue fields ":authority") =
      some components ∧
    P.url components = some url ∧
    { request with reqData := none } =
      buildRequest path (fieldValue fields ":method") url remoteAddress (collected P fields)

lemma Built.appendReqData {remoteAddress : Option String} {fields : List (Bytes × Bytes)}
    {request : HTTP2ServerRequest P} (h : Built remoteAddress fields request) (data : Bytes) :
    Built remoteAddress fields (request.appendReqData data) := h

/-- What `on_frame_recv` builds from an entry that holds the fields. -/
lemma StreamValue.Collects.built {value : StreamValue P} {fields : List (Bytes × Bytes)}
    (h : value.Collects fields) {view : StreamView P} {request : HTTP2ServerRequest P}
    (hrequest : view.requestOf value = some (some request)) :
    Built view.remoteAddress fields request := by
  simp only [StreamView.requestOf, h.path, h.scheme, h.authority, h.method, h.headers] at hrequest
  rcases hpath : fieldValue fields ":path" with _ | path
  · rw [hpath] at hrequest
    exact absurd (Option.some.inj hrequest).symm (Option.some_ne_none _)
  · rw [hpath] at hrequest
    rcases Option.map_eq_some_iff.1 hrequest with ⟨components, hcomponents, hbuild⟩
    rcases Option.map_eq_some_iff.1 hbuild with ⟨url, hurl, rfl⟩
    exact ⟨path, components, url, hpath, hcomponents, hurl, rfl⟩

/-- The requests of a stream are built from its fields: the one kept in the entry while the request
arrives, and those that were handed over. -/
structure BuiltInv (events : List SessionEvent) (phase : RecvPhase) (view : StreamView P) :
    Prop where
  no_fields : phase = .idle → requestFields events = []
  entry : phase ≠ .idle → ¬ phase.Over → ∃ value, view.streamData = some value ∧
    view.userData = true ∧ value.Collects (requestFields events) ∧
    ∀ request, value.request = some request → phase ≠ .requestHeaders ∧
      Built view.remoteAddress (requestFields events) request
  handled : ∀ call ∈ view.handled, Built view.remoteAddress (requestFields events) call.request

section Step

variable {events : List SessionEvent} {phase phase' : RecvPhase} {view view' : StreamView P}
  {event : SessionEvent}

/-- What brings no field, starts no entry and hands nothing over. -/
lemma BuiltInv.of_view (h : BuiltInv events phase view) (hfield : event.requestField = none)
    (hidle : phase' = .idle → phase = .idle) (haddress : view'.remoteAddress = view.remoteAddress)
    (hhandled : view'.handled = view.handled)
    (hentry : phase' ≠ .idle → ¬ phase'.Over → phase ≠ .idle ∧ ¬ phase.Over ∧
      (phase' = .requestHeaders → phase = .requestHeaders) ∧ view'.userData = view.userData ∧
      ∀ value, view.streamData = some value → ∃ value', view'.streamData = some value' ∧
        (∀ fields, value.Collects fields → value'.Collects fields) ∧
        ∀ request', value'.request = some request' → ∃ request, value.request = some request ∧
          { request' with reqData := none } = { request with reqData := none }) :
    BuiltInv (events ++ [event]) phase' view' := by
  have hfields : requestFields (events ++ [event]) = requestFields events :=
    requestFields_of_none hfield
  constructor
  · intro hphase
    rw [hfields]
    exact h.no_fields (hidle hphase)
  · intro hphase hover
    rcases hentry hphase hover with ⟨hne, hnot, hheaders, huser, hvalue⟩
    rcases h.entry hne hnot with ⟨value, hget, hdata, hcollects, hkept⟩
    rcases hvalue value hget with ⟨value', hget', hsame, hrequest⟩
    rw [hfields, huser, haddress]
    refine ⟨value', hget', hdata, hsame _ hcollects, ?_⟩
    intro request' hrequest'
    rcases hrequest request' hrequest' with ⟨request, hrequest, heq⟩
    rcases hkept request hrequest with ⟨hlater, path, components, url, hpath, hcomp, hurl, hbuild⟩
    exact ⟨mt hheaders hlater, path, components, url, hpath, hcomp, hurl, heq.trans hbuild⟩
  · rw [hfields, haddress, hhandled]
    exact h.handled

/-- What leaves the whole view as it was. -/
lemma BuiltInv.of_same (h : BuiltInv events phase view) (hfield : event.requestField = none) :
    BuiltInv (events ++ [event]) phase view := by
  refine h.of_view hfield id rfl rfl ?_
  intro hne hover
  exact ⟨hne, hover, id, rfl, fun value hvalue =>
    ⟨value, hvalue, fun _ => id, fun request hrequest => ⟨request, hrequest, rfl⟩⟩⟩

/-- The end of a request, where it may be handed over. -/
lemma BuiltInv.handle (h : BuiltInv events phase view) (hfield : event.requestField = none)
    (hover : phase'.Over) {request : HTTP2ServerRequest P} (response : HTTP2ServerResponse P)
    (hbuilt : Built view.remoteAddress (requestFields events) request) :
    BuiltInv (events ++ [event]) phase' (view.handle request response) := by
  have hfields : requestFields (events ++ [event]) = requestFields events :=
    requestFields_of_none hfield
  have haddress : (view.handle request response).remoteAddress = view.remoteAddress := by
    simp only [StreamView.handle]
    split_ifs <;> rfl
  constructor
  · rintro rfl
    simp [RecvPhase.Over] at hover
  · intro _ hnot
    exact absurd hover hnot
  · intro call hcall
    rw [hfields, haddress]
    rcases StreamView.handle_handled view request response with hsame | hmore
    · exact h.handled call (hsame ▸ hcall)
    · rw [hmore, List.mem_append, List.mem_singleton] at hcall
      rcases hcall with hcall | rfl
      · exact h.handled call hcall
      · exact hbuilt

/-- A complete HEADERS frame of the request, or its trailers: the request is built from the entry,
and handed over or kept. -/
lemma BuiltInv.headersFrame {frame : Frame} {date : String} (h : BuiltInv events phase view)
    (hidle : phase ≠ .idle) (hover : ¬ phase.Over) (hend : frame.endHeaders = true)
    (hstep : view.headersFrameRecv frame date = some view') :
    BuiltInv (events ++ [.frameRecv frame date])
      (if frame.endStream then .remoteEnded else .body) view' := by
  rcases h.entry hidle hover with ⟨value, hvalue, huser, hcollects, hkept⟩
  rcases headersFrameRecv_of_entry hend huser hvalue hstep with ⟨request, hrequest, rfl⟩
  rcases request with _ | request
  · refine h.of_view rfl ?_ rfl rfl ?_
    · intro hphase
      split_ifs at hphase
    · intro _ _
      refine ⟨hidle, hover, ?_, rfl, fun value hvalue => ⟨value, hvalue, fun _ => id,
        fun request hrequest => ⟨request, hrequest, rfl⟩⟩⟩
      intro hphase
      split_ifs at hphase
  · have hbuilt := hcollects.built hrequest
    rcases hlast : frame.endStream with _ | _
    · have hfields : requestFields (events ++ [.frameRecv frame date]) = requestFields events :=
        requestFields_of_none rfl
      show BuiltInv _ (if false = true then .remoteEnded else .body) (view.dispatchRequest _ _ _)
      rw [StreamView.dispatchRequest_of_not_endStream hlast, if_neg Bool.false_ne_true, hvalue]
      constructor
      · intro hphase
        exact absurd hphase (by decide)
      · intro _ _
        rw [hfields]
        refine ⟨_, rfl, huser, ⟨⟨hcollects.path, hcollects.scheme, hcollects.authority⟩,
          hcollects.method, hcollects.headers⟩, ?_⟩
        rintro request' ⟨⟩
        exact ⟨by decide, hbuilt⟩
      · rw [hfields]
        exact h.handled
    · show BuiltInv _ (if true = true then .remoteEnded else .body) (view.dispatchRequest _ _ _)
      rw [StreamView.dispatchRequest_of_endStream hlast, if_pos rfl]
      exact h.handle rfl (Or.inl rfl) _ hbuilt

/-- A new request has no fields yet. -/
lemma BuiltInv.beginRequest {frame : Frame} (h : BuiltInv events .idle view)
    (htype : frame.type = .headers) (hcat : frame.cat = .request) :
    BuiltInv (events ++ [.beginHeaders frame]) .requestHeaders (view.beginHeaders frame) := by
  have hfields : requestFields (events ++ [.beginHeaders frame]) = requestFields events :=
    requestFields_of_none rfl
  rw [StreamView.beginHeaders_of_request htype hcat]
  refine ⟨fun hidle => absurd hidle (by decide), fun _ _ => ⟨_, rfl, rfl, ?_, ?_⟩, ?_⟩
  · rw [hfields, h.no_fields rfl]
    exact ⟨⟨rfl, rfl, rfl⟩, rfl, rfl⟩
  · intro request hrequest
    exact absurd hrequest.symm (Option.some_ne_none _)
  · rw [hfields]
    exact h.handled

/-- A field of the request is collected, and no request was built so far. -/
lemma BuiltInv.requestField {frame : Frame} (h : BuiltInv events .requestHeaders view)
    (hearly : view.handled = []) (htype : frame.type = .headers) (hcat : frame.cat = .request)
    (name data : Bytes) :
    BuiltInv (events ++ [.header frame name data]) .requestHeaders
      (view.header frame name data) := by
  rcases h.entry (by decide) (by simp [RecvPhase.Over]) with
    ⟨value, hvalue, huser, hcollects, hkept⟩
  have hnone : ∀ request, value.request ≠ some request := by
    intro request hrequest
    exact absurd rfl (hkept request hrequest).1
  have hno : ∀ call ∈ view.handled, Built view.remoteAddress
      (requestFields events ++ [(name, data)]) call.request := by
    rw [hearly]
    exact List.forall_mem_nil _
  rcases view.header_of_request htype hcat name data with
    ⟨nameStr, valueStr, hname, hdata, hheader⟩ | ⟨hfails, hheader⟩
  · rw [hheader]
    refine ⟨fun hidle => absurd hidle (by decide), fun _ _ => ?_, ?_⟩
    · rw [requestFields_header hcat]
      refine ⟨value.receiveHeader nameStr valueStr, ?_, huser,
        hcollects.receiveHeader (decodeField_of_some hname hdata), ?_⟩
      · show view.streamData.map _ = _
        rw [hvalue, Option.map_some]
      · intro request hrequest
        rw [StreamValue.receiveHeader_request] at hrequest
        exact absurd hrequest (hnone request)
    · rw [requestFields_header hcat]
      exact hno
  · rw [hheader]
    refine ⟨fun hidle => absurd hidle (by decide), fun _ _ => ?_, ?_⟩
    · rw [requestFields_header hcat]
      exact ⟨value, hvalue, huser, hcollects.skip (decodeField_of_none hfails),
        fun request hrequest => absurd hrequest (hnone request)⟩
    · rw [requestFields_header hcat]
      exact hno

/-- The end of a DATA frame changes nothing, or hands over the request that was kept. -/
lemma BuiltInv.dataFrame (h : BuiltInv events .body view) (frame : Frame) (date : String) :
    BuiltInv (events ++ [.frameRecv frame date]) (if frame.endStream then .remoteEnded else .body)
      (view.dataFrameRecv frame) := by
  rcases StreamView.dataFrameRecv_cases view frame with hsame |
    ⟨value, request, response, hlast, hvalue, hrequest, -, hhandle⟩
  · rw [hsame]
    refine h.of_view rfl ?_ rfl rfl ?_
    · intro hidle
      split_ifs at hidle
    · intro _ _
      refine ⟨by decide, by simp [RecvPhase.Over], ?_, rfl, fun value hvalue => ⟨value, hvalue,
        fun _ => id, fun request hrequest => ⟨request, hrequest, rfl⟩⟩⟩
      intro hheaders
      split_ifs at hheaders
  · rcases h.entry (by decide) (by simp [RecvPhase.Over]) with ⟨value', hvalue', -, -, hkept⟩
    rw [hvalue, Option.some.injEq] at hvalue'
    subst hvalue'
    rw [hhandle, if_pos hlast]
    exact h.handle rfl (Or.inl rfl) response (hkept request hrequest).2

/-- Every callback in its place preserves the invariant, and so does a response that is sent when
the request is over. -/
lemma BuiltInv.step (h : BuiltInv events phase view)
    (hearly : ¬ phase.Over → view.handled = [])
    (hsend : ∀ call, event = .sendData call → phase.Over)
    (hphase : phase.step event = some phase') (hview : view.step event = some view') :
    BuiltInv (events ++ [event]) phase' view' := by
  cases RecvStep.of_step hphase with
  | beginRequest htype hcat =>
    cases hview
    exact h.beginRequest htype hcat
  | requestField htype hcat =>
    cases hview
    exact h.requestField (hearly (by simp [RecvPhase.Over])) htype hcat _ _
  | request htype hcat hend =>
    exact h.headersFrame (by decide) (by simp [RecvPhase.Over]) hend
      (StreamView.step_of_headers htype hview)
  | chunk =>
    cases hview
    refine h.of_view rfl id rfl rfl ?_
    intro hne hover
    refine ⟨hne, hover, id, rfl, ?_⟩
    intro value hvalue
    simp only [StreamView.dataChunk, hvalue]
    refine ⟨_, rfl, fun fields hcollects => ⟨⟨hcollects.path, hcollects.scheme,
      hcollects.authority⟩, hcollects.method, hcollects.headers⟩, ?_⟩
    intro request' hrequest'
    rcases Option.map_eq_some_iff.1 hrequest' with ⟨request, hrequest, rfl⟩
    exact ⟨request, hrequest, rfl⟩
  | data htype =>
    rw [StreamView.step_of_data htype hview]
    exact h.dataFrame _ _
  | beginTrailers htype hcat =>
    cases hview
    rw [StreamView.beginHeaders_of_trailers hcat]
    refine h.of_view rfl (fun hidle => absurd hidle (by decide)) rfl rfl ?_
    intro _ _
    exact ⟨by decide, by simp [RecvPhase.Over], fun hphase => absurd hphase (by decide), rfl,
      fun value hvalue => ⟨value, hvalue, fun _ => id, fun request hrequest =>
        ⟨request, hrequest, rfl⟩⟩⟩
  | @trailerField frame name data htype hcat =>
    cases hview
    rw [StreamView.header_of_trailers hcat]
    exact h.of_same (by simp [SessionEvent.requestField, hcat])
  | trailers htype hcat hend hlast =>
    have htrailers := h.headersFrame (by decide) (by simp [RecvPhase.Over]) hend
      (StreamView.step_of_headers htype hview)
    rw [if_pos hlast] at htrailers
    exact htrailers
  | otherFrame hdata hheaders =>
    rw [StreamView.step_of_other hdata hheaders hview]
    exact h.of_same rfl
  | close =>
    cases hview
    refine h.of_view rfl (fun hidle => absurd hidle (by decide)) rfl rfl ?_
    intro _ hover
    exact absurd (Or.inr rfl) hover
  | read =>
    cases hview
    refine h.of_view rfl id rfl rfl ?_
    intro hne hover
    refine ⟨hne, hover, id, rfl, ?_⟩
    intro value hvalue
    simp only [StreamView.readCallback, hvalue]
    exact ⟨_, rfl, fun fields hcollects => ⟨⟨hcollects.path, hcollects.scheme,
      hcollects.authority⟩, hcollects.method, hcollects.headers⟩, fun request hrequest =>
        ⟨request, hrequest, rfl⟩⟩
  | @send _ call =>
    cases hview
    refine h.of_view rfl id rfl rfl ?_
    intro _ hover
    exact absurd (hsend call rfl) hover

end Step

/-! ## The session -/

section Session

variable {remoteAddress : Option String} {delegate upgraded : Bool} {events : List SessionEvent}
  {session : HTTP2Session P}

lemma builtInv_initial (s : StreamId) : BuiltInv [] (RecvPhase.start upgraded s)
    (StreamView.initial P remoteAddress delegate) := by
  refine ⟨fun _ => rfl, ?_, fun call hcall => absurd hcall List.not_mem_nil⟩
  intro hidle hover
  simp only [RecvPhase.start] at hidle hover
  split_ifs at hidle hover
  · exact absurd (Or.inl rfl) hover
  · exact absurd rfl hidle

/-- The requests of every stream are built from its fields. -/
lemma builtInv_of_run
    (hrun : run HTTP2Session.step (HTTP2Session.new P remoteAddress delegate) events = some session)
    (hanswers : Along HTTP2Session.step (AnswersHandled upgraded)
      (HTTP2Session.new P remoteAddress delegate) events) {s : StreamId} {phase : RecvPhase}
    (hphase : run RecvPhase.step (RecvPhase.start upgraded s) (streamEvents s events) =
      some phase) : BuiltInv (streamEvents s events) phase (session.view s) := by
  have hkeyed := (keyedMachine P).view_history (i := s)
    (I := fun events view => ∀ phase, run RecvPhase.step (RecvPhase.start upgraded s) events =
      some phase → BuiltInv events phase view)
    (separated_new remoteAddress delegate) ?_ ?_ hrun hanswers
  · exact hkeyed phase hphase
  · rintro phase ⟨⟩
    exact builtInv_initial s
  · intro before mid event view hmid hanswer hs hinv hview phase hphase
    rcases run_concat_eq_some.1 hphase with ⟨midPhase, hmidPhase, hphaseStep⟩
    have hhandled := handled_inv hmidPhase (run_view hmid s)
    refine (hinv midPhase hmidPhase).step hhandled.not_over ?_ hphaseStep hview
    rintro call rfl
    exact hanswer.over hmid hs hmidPhase

/-- **What the delegate is handed.**  In every run of the callbacks that nghttp2 can make, with
responses sent by the handlers, each request that was handed over was built from the fields that
were received on its stream. -/
theorem handled_built (hadm : Admissible upgraded events)
    (hrun : run HTTP2Session.step (HTTP2Session.new P remoteAddress delegate) events = some session)
    (hanswers : Along HTTP2Session.step (AnswersHandled upgraded)
      (HTTP2Session.new P remoteAddress delegate) events) (s : StreamId) :
    ∀ call ∈ session.handledFor s,
      Built remoteAddress (requestFields (streamEvents s events)) call.request := by
  rcases hadm s with ⟨phase, hphase⟩
  have hinv := builtInv_of_run hrun hanswers hphase
  have haddress : session.remoteAddress = remoteAddress := by
    have hstep : ∀ (mid : HTTP2Session P) (event : SessionEvent) (mid' : HTTP2Session P),
        mid.remoteAddress = remoteAddress → mid.step event = some mid' →
        mid'.remoteAddress = remoteAddress := by
      intro mid event mid' h hstep
      exact (KeepsAddress.step hstep).remoteAddress.trans h
    exact run_preserves hstep rfl hrun
  rw [← haddress]
  exact hinv.handled

end Session

end KituraHTTP2
