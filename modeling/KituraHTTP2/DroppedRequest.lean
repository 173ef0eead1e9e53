import KituraHTTP2.Dispatch
import KituraHTTP2.Nghttp2.Http

/-!
# Which requests are dropped

A request reaches the delegate through a chain of optional values: a `:path` that decodes as UTF-8,
an entry in the stream table, the `url` of the components, and for a request with a body the kept
request and response.  Where one of them is missing, `on_frame_recv` returns without a word, and the
stream stays open.

Over any run, all but two of these links hold by themselves (`TargetInv`): the entry is there, it
has the fields that were received, and the request was kept if it could be built.  So

* **`request_answered_iff`** — when the frame that ends a request was received, the delegate was
  called for its stream or a response was submitted, exactly when a `:path` was received that
  decodes, and Foundation makes a URL of it;
* **`dropped_request_kinds`** — of the requests that nghttp2 accepts, those that are dropped are
  the CONNECT requests, the ones whose path is not UTF-8, and the ones without a URL;
* `connect_request_is_dropped` — a CONNECT request as browsers send it to a proxy.
-/

namespace KituraHTTP2

open Machine Keyed HTTP2Session

variable {P : Platform}

/-! ## The fields of a request -/

/-- The request header field that comes with an event. -/
def SessionEvent.requestField : SessionEvent → Option (Bytes × Bytes)
  | .header frame name value => if frame.cat = .request then some (name, value) else none
  | _ => none

/-- The request header fields that `on_header` received of a stream, in order of arrival. -/
def requestFields (events : List SessionEvent) : List (Bytes × Bytes) :=
  events.filterMap SessionEvent.requestField

lemma requestFields_concat (events : List SessionEvent) (event : SessionEvent) :
    requestFields (events ++ [event]) = requestFields events ++ event.requestField.toList := by
  unfold requestFields
  rw [List.filterMap_append]
  cases h : event.requestField <;> simp [h]

lemma requestFields_of_none {events : List SessionEvent} {event : SessionEvent}
    (hfield : event.requestField = none) :
    requestFields (events ++ [event]) = requestFields events := by
  rw [requestFields_concat, hfield]
  exact List.append_nil _

lemma requestFields_header {events : List SessionEvent} {frame : Frame}
    (hcat : frame.cat = .request) (name data : Bytes) :
    requestFields (events ++ [.header frame name data]) =
      requestFields events ++ [(name, data)] := by
  rw [requestFields_concat]
  simp [SessionEvent.requestField, hcat]

/-- A field whose name and value are both UTF-8. -/
def decodeField (field : Bytes × Bytes) : Option (String × String) :=
  match utf8Decode field.1, utf8Decode field.2 with
  | some name, some value => some (name, value)
  | _, _ => none

lemma decodeField_of_some {name data : Bytes} {nameStr valueStr : String}
    (hname : utf8Decode name = some nameStr) (hdata : utf8Decode data = some valueStr) :
    decodeField (name, data) = some (nameStr, valueStr) := by
  simp [decodeField, hname, hdata]

lemma decodeField_of_none {name data : Bytes}
    (h : utf8Decode name = none ∨ utf8Decode data = none) : decodeField (name, data) = none := by
  rcases h with h | h
  · simp [decodeField, h]
  · cases hname : utf8Decode name <;> simp [decodeField, hname, h]

/-- The value of the last field called `name` among those that are UTF-8. -/
def fieldValue (fields : List (Bytes × Bytes)) (name : String) : Option String :=
  (fields.reverse.filterMap decodeField).lookup name

lemma fieldValue_concat (fields : List (Bytes × Bytes)) (field : Bytes × Bytes) (name : String) :
    fieldValue (fields ++ [field]) name = match decodeField field with
      | some (nameStr, valueStr) =>
        if nameStr = name then some valueStr else fieldValue fields name
      | none => fieldValue fields name := by
  unfold fieldValue
  rw [List.reverse_append, List.reverse_singleton, List.singleton_append, List.filterMap_cons]
  cases decodeField field with
  | none => rfl
  | some decoded =>
    obtain ⟨nameStr, valueStr⟩ := decoded
    by_cases h : nameStr = name
    · simp only [h, List.lookup_cons_self, if_true]
    · simp only [h, List.lookup_cons, beq_false_of_ne (Ne.symm h), if_false]

/-- The URL that `on_frame_recv` can make of the received fields, if any. -/
def requestUrl (P : Platform) (fields : List (Bytes × Bytes)) : Option P.URL :=
  (fieldValue fields ":path").bind fun path =>
    (requestComponents path (fieldValue fields ":scheme") (fieldValue fields ":authority")).bind
      P.url

/-! ## One stream

The invariant is about runs without `sendData` for the stream: a response can only be sent once the
request was handed over, and then the request half is over.
-/

/-- The pseudo-headers of the entry are those of the received fields. -/
structure StreamValue.HasFields (value : StreamValue P) (fields : List (Bytes × Bytes)) : Prop where
  path : value.requestPath = fieldValue fields ":path"
  scheme : value.scheme = fieldValue fields ":scheme"
  authority : value.authority = fieldValue fields ":authority"

/-- A request and a response are kept in the entry, or neither of them. -/
structure StreamValue.Kept (value : StreamValue P) (kept : Bool) : Prop where
  request : value.request.isSome = kept
  response : value.response.isSome = kept

/-- A request with a URL is kept from the end of its headers on. -/
def RecvPhase.keeps (P : Platform) (phase : RecvPhase) (fields : List (Bytes × Bytes)) : Bool :=
  if phase = .requestHeaders then false else (requestUrl P fields).isSome

/-- A received field goes to the pseudo-header it names, and nowhere else. -/
lemma StreamValue.HasFields.receiveHeader {value : StreamValue P} {fields : List (Bytes × Bytes)}
    (h : value.HasFields fields) {field : Bytes × Bytes} {nameStr valueStr : String}
    (hdecode : decodeField field = some (nameStr, valueStr)) :
    (value.receiveHeader nameStr valueStr).HasFields (fields ++ [field]) := by
  refine ⟨?_, ?_, ?_⟩ <;>
    · simp only [fieldValue_concat, hdecode, ← h.path, ← h.scheme, ← h.authority]
      unfold StreamValue.receiveHeader
      split_ifs <;> simp_all

/-- A field that is not UTF-8 goes nowhere. -/
lemma StreamValue.HasFields.skip {value : StreamValue P} {fields : List (Bytes × Bytes)}
    (h : value.HasFields fields) {field : Bytes × Bytes} (hdecode : decodeField field = none) :
    value.HasFields (fields ++ [field]) := by
  refine ⟨?_, ?_, ?_⟩ <;> rw [fieldValue_concat, hdecode]
  · exact h.path
  · exact h.scheme
  · exact h.authority

/-- A HEADERS frame gives rise to a request exactly where the received fields have a URL. -/
lemma StreamValue.HasFields.requestOf {value : StreamValue P} {fields : List (Bytes × Bytes)}
    (h : value.HasFields fields) {view : StreamView P} {request : Option (HTTP2ServerRequest P)}
    (hrequest : view.requestOf value = some request) :
    request.isSome = (requestUrl P fields).isSome := by
  unfold StreamView.requestOf at hrequest
  unfold requestUrl
  rw [h.path, h.scheme, h.authority] at hrequest
  cases hpath : fieldValue fields ":path" with
  | none =>
    rw [hpath] at hrequest
    cases hrequest
    rfl
  | some path =>
    rw [hpath] at hrequest
    obtain ⟨components, hcomponents, rfl⟩ := Option.map_eq_some_iff.1 hrequest
    simp [hcomponents]

/-- While the request of a stream arrives, its entry is in the table, with the fields received so
far, and after the request headers the request and the response are there if there is a URL. -/
structure TargetInv (events : List SessionEvent) (phase : RecvPhase) (view : StreamView P) :
    Prop where
  no_fields : phase = .idle → requestFields events = []
  entry : phase ≠ .idle → ¬ phase.Over → view.userData = true ∧ ∃ value,
    view.streamData = some value ∧ value.HasFields (requestFields events) ∧
      value.Kept (phase.keeps P (requestFields events))

section Step

variable {events : List SessionEvent} {phase phase' : RecvPhase} {view view' : StreamView P}
  {event : SessionEvent}

/-- A complete HEADERS frame on a stream that is in the table. -/
lemma headersFrameRecv_of_entry {frame : Frame} {date : String} {value : StreamValue P}
    (hend : frame.endHeaders = true) (huser : view.userData = true)
    (hvalue : view.streamData = some value)
    (hstep : view.headersFrameRecv frame date = some view') :
    ∃ request, view.requestOf value = some request ∧ view' = match request with
      | some request => view.dispatchRequest frame request date
      | none => view := by
  unfold StreamView.headersFrameRecv at hstep
  rw [if_neg (by simp [hend, huser]), hvalue] at hstep
  obtain ⟨request, hrequest, rfl⟩ := Option.map_eq_some_iff.1 hstep
  refine ⟨request, hrequest, ?_⟩
  cases request <;> rfl

/-- Events that bring no field and leave the entry as it was, up to the contents of the request. -/
lemma TargetInv.of_view (h : TargetInv events phase view) (hfield : event.requestField = none)
    (hidle : phase' = .idle → phase = .idle)
    (hentry : phase' ≠ .idle → ¬ phase'.Over → phase ≠ .idle ∧ ¬ phase.Over ∧
      (phase' = .requestHeaders ↔ phase = .requestHeaders) ∧ view'.userData = view.userData ∧
      ∀ value, view.streamData = some value → ∃ value', view'.streamData = some value' ∧
        value'.requestPath = value.requestPath ∧ value'.scheme = value.scheme ∧
        value'.authority = value.authority ∧ value'.request.isSome = value.request.isSome ∧
        value'.response.isSome = value.response.isSome) :
    TargetInv (events ++ [event]) phase' view' := by
  have hfields : requestFields (events ++ [event]) = requestFields events :=
    requestFields_of_none hfield
  refine ⟨fun hphase => ?_, fun hphase hover => ?_⟩
  · rw [hfields]
    exact h.no_fields (hidle hphase)
  · obtain ⟨hne, hnot, hheaders, huser, hvalue⟩ := hentry hphase hover
    obtain ⟨hdata, value, hget, hhas, hkept⟩ := h.entry hne hnot
    obtain ⟨value', hget', hpath, hscheme, hauthority, hrequest, hresponse⟩ := hvalue value hget
    have hkeeps : phase'.keeps P (requestFields events) = phase.keeps P (requestFields events) := by
      simp only [RecvPhase.keeps, hheaders]
    rw [hfields, hkeeps]
    exact ⟨huser.trans hdata, value', hget', ⟨hpath.trans hhas.path, hscheme.trans hhas.scheme,
      hauthority.trans hhas.authority⟩, ⟨hrequest.trans hkept.request,
      hresponse.trans hkept.response⟩⟩

/-- What leaves the whole view as it was. -/
lemma TargetInv.of_same (h : TargetInv events phase view) (hfield : event.requestField = none) :
    TargetInv (events ++ [event]) phase view :=
  h.of_view hfield id fun hne hover => ⟨hne, hover, Iff.rfl, rfl, fun value hvalue =>
    ⟨value, hvalue, rfl, rfl, rfl, rfl, rfl⟩⟩

/-- Nothing is asked of the entry once the request half is over. -/
lemma TargetInv.of_over (h : TargetInv events phase view) (hfield : event.requestField = none)
    (hover : phase'.Over) : TargetInv (events ++ [event]) phase' view' := by
  refine h.of_view hfield ?_ fun _ hnot => absurd hover hnot
  rintro rfl
  simp [RecvPhase.Over] at hover

/-- The request HEADERS frame keeps a request for the DATA to come, if the fields have a URL. -/
lemma TargetInv.request {frame : Frame} {date : String}
    (h : TargetInv events .requestHeaders view) (hend : frame.endHeaders = true)
    (hstep : view.headersFrameRecv frame date = some view') :
    TargetInv (events ++ [.frameRecv frame date])
      (if frame.endStream then .remoteEnded else .body) view' := by
  have hfields : requestFields (events ++ [.frameRecv frame date]) = requestFields events :=
    requestFields_of_none rfl
  obtain ⟨huser, value, hvalue, hhas, hkept⟩ := h.entry (by simp) (by simp [RecvPhase.Over])
  obtain ⟨request, hrequest, rfl⟩ := headersFrameRecv_of_entry hend huser hvalue hstep
  refine ⟨fun hphase => ?_, fun hphase hover => ?_⟩
  · split_ifs at hphase
  · have hmore : frame.endStream = false := by
      by_contra hlast
      exact hover (Or.inl (if_pos (by simpa using hlast)))
    have hurl := hhas.requestOf hrequest
    rw [hfields, hmore, RecvPhase.keeps, if_neg (by simp), ← hurl]
    cases request with
    | none => exact ⟨huser, value, hvalue, hhas, ⟨hkept.request, hkept.response⟩⟩
    | some request =>
      dsimp only
      rw [StreamView.dispatchRequest_of_not_endStream hmore, hvalue]
      exact ⟨huser, _, rfl, ⟨hhas.path, hhas.scheme, hhas.authority⟩, ⟨rfl, rfl⟩⟩

/-- Every callback in its place preserves the invariant. -/
lemma TargetInv.step (h : TargetInv events phase view) (hsend : ∀ call, event ≠ .sendData call)
    (hphase : phase.step event = some phase') (hview : view.step event = some view') :
    TargetInv (events ++ [event]) phase' view' := by
  cases RecvStep.of_step hphase with
  | @beginRequest frame htype hcat =>
    cases hview
    have hnil : requestFields (events ++ [.beginHeaders frame]) = [] :=
      (requestFields_of_none rfl).trans (h.no_fields rfl)
    rw [StreamView.beginHeaders_of_request htype hcat]
    refine ⟨fun hidle => absurd hidle (by decide), fun _ _ => ⟨rfl, _, rfl, ?_, ⟨rfl, rfl⟩⟩⟩
    rw [hnil]
    exact ⟨rfl, rfl, rfl⟩
  | @requestField frame name data htype hcat =>
    cases hview
    obtain ⟨huser, value, hvalue, hhas, hkept⟩ := h.entry (by simp) (by simp [RecvPhase.Over])
    refine ⟨fun hidle => absurd hidle (by decide), fun _ _ => ?_⟩
    rw [requestFields_header hcat]
    rcases view.header_of_request htype hcat name data with
      ⟨nameStr, valueStr, hname, hdata, hheader⟩ | ⟨hfails, hheader⟩
    · rw [hheader]
      refine ⟨huser, value.receiveHeader nameStr valueStr, ?_,
        hhas.receiveHeader (decodeField_of_some hname hdata), ?_⟩
      · simp only [hvalue, Option.map_some]
      · constructor
        · rw [StreamValue.receiveHeader_request]
          exact hkept.request
        · rw [StreamValue.receiveHeader_response]
          exact hkept.response
    · rw [hheader]
      exact ⟨huser, value, hvalue, hhas.skip (decodeField_of_none hfails), hkept⟩
  | request htype hcat hend =>
    exact h.request hend (StreamView.step_of_headers htype hview)
  | chunk =>
    cases hview
    refine h.of_view rfl id fun hne hover => ⟨hne, hover, Iff.rfl, rfl, fun value hvalue => ?_⟩
    simp only [StreamView.dataChunk, hvalue]
    exact ⟨_, rfl, rfl, rfl, rfl, Option.isSome_map, rfl⟩
  | @data frame date htype =>
    rw [StreamView.step_of_data htype hview]
    cases hend : frame.endStream with
    | false =>
      unfold StreamView.dataFrameRecv
      rw [if_pos (Or.inl hend)]
      exact h.of_same rfl
    | true =>
      exact h.of_over rfl (Or.inl rfl)
  | beginTrailers htype hcat =>
    cases hview
    rw [StreamView.beginHeaders_of_trailers hcat]
    refine h.of_view rfl (fun hidle => absurd hidle (by decide)) fun _ _ =>
      ⟨by simp, by simp [RecvPhase.Over], by simp, rfl, fun value hvalue => ?_⟩
    exact ⟨value, hvalue, rfl, rfl, rfl, rfl, rfl⟩
  | @trailerField frame name data htype hcat =>
    cases hview
    rw [StreamView.header_of_trailers hcat]
    exact h.of_same (by simp [SessionEvent.requestField, hcat])
  | trailers htype hcat hend hlast =>
    exact h.of_over rfl (Or.inl rfl)
  | otherFrame hdata hheaders =>
    rw [StreamView.step_of_other hdata hheaders hview]
    exact h.of_same rfl
  | close =>
    cases hview
    exact h.of_over rfl (Or.inr rfl)
  | read =>
    cases hview
    refine h.of_view rfl id fun hne hover => ⟨hne, hover, Iff.rfl, rfl, fun value hvalue => ?_⟩
    simp only [StreamView.readCallback, hvalue]
    exact ⟨_, rfl, rfl, rfl, rfl, rfl, rfl⟩
  | send => exact absurd rfl (hsend _)

/-- **When the end of a request calls the delegate.** -/
lemma TargetInv.handled_iff (h : TargetInv events phase view) (hdelegate : view.delegate = true)
    (hhandled : view.handled = []) {frame : Frame} {date : String} (hframe : frame.EndsRequest)
    (hphase : phase.step (.frameRecv frame date) = some phase')
    (hview : view.step (.frameRecv frame date) = some view') :
    view'.handled ≠ [] ↔ (requestUrl P (requestFields events)).isSome = true := by
  have hheaders : ∀ {phase : RecvPhase}, frame.type = .headers → frame.endHeaders = true →
      TargetInv events phase view → phase ≠ .idle → ¬ phase.Over →
      (view'.handled ≠ [] ↔ (requestUrl P (requestFields events)).isSome = true) := by
    intro phase htype hend h hidle hover
    obtain ⟨huser, value, hvalue, hhas, -⟩ := h.entry hidle hover
    obtain ⟨request, hrequest, rfl⟩ :=
      headersFrameRecv_of_entry hend huser hvalue (StreamView.step_of_headers htype hview)
    rw [← hhas.requestOf hrequest]
    cases request with
    | none => simp [hhandled]
    | some request =>
      dsimp only
      rw [StreamView.dispatchRequest_of_endStream hframe.2,
        StreamView.handle_of_delegate hdelegate]
      simp
  cases RecvStep.of_step hphase with
  | request htype hcat hend => exact hheaders htype hend h (by simp) (by simp [RecvPhase.Over])
  | trailers htype hcat hend => exact hheaders htype hend h (by simp) (by simp [RecvPhase.Over])
  | data htype =>
    obtain ⟨huser, value, hvalue, -, hkept⟩ := h.entry (by simp) (by simp [RecvPhase.Over])
    have hurl : RecvPhase.body.keeps P (requestFields events) =
        (requestUrl P (requestFields events)).isSome := by simp [RecvPhase.keeps]
    rw [← hurl, StreamView.step_of_data htype hview, StreamView.dataFrameRecv,
      if_neg (by simp [hframe.2, huser])]
    simp only [hvalue]
    have hrequest := hkept.request
    have hresponse := hkept.response
    cases hreq : value.request with
    | none =>
      rw [hreq] at hrequest
      simp [← hrequest, hhandled]
    | some request =>
      rw [hreq] at hrequest
      cases hresp : value.response with
      | none =>
        rw [hresp, ← hrequest] at hresponse
        cases hresponse
      | some response =>
        rw [← hrequest, StreamView.handle_of_delegate hdelegate]
        simp
  | otherFrame hdata hheaders => exact absurd hframe.1 (not_or.2 ⟨hdata, hheaders⟩)

end Step

lemma targetInv_initial (remoteAddress : Option String) (delegate upgraded : Bool) (s : StreamId) :
    TargetInv [] (RecvPhase.start upgraded s) (StreamView.initial P remoteAddress delegate) := by
  refine ⟨fun _ => rfl, fun hidle hover => ?_⟩
  unfold RecvPhase.start at hidle hover
  split_ifs at hidle hover
  · exact absurd (Or.inl rfl) hover
  · exact absurd rfl hidle

/-! ## The session -/

section Session

variable {remoteAddress : Option String} {upgraded : Bool} {s : StreamId}

/-- What the invariant says of a stream on which nothing was sent. -/
lemma targetInv_of_run {events : List SessionEvent} {phase : RecvPhase} {view : StreamView P}
    (hphase : run RecvPhase.step (RecvPhase.start upgraded s) events = some phase)
    (hview : run StreamView.step (StreamView.initial P remoteAddress true) events = some view)
    (hsend : ∀ call, SessionEvent.sendData call ∉ events) :
    TargetInv events phase view ∧ view.delegate = true ∧ view.submitted = [] := by
  refine run_history (fun events phase view => (∀ call, SessionEvent.sendData call ∉ events) →
    TargetInv events phase view ∧ view.delegate = true ∧ view.submitted = []) ?_ ?_ hphase hview
    hsend
  · exact fun _ => ⟨targetInv_initial remoteAddress true upgraded s, rfl, rfl⟩
  · intro events phase view event phase' view' h hphase hview hnone
    obtain ⟨hinv, hdelegate, hsubmitted⟩ := h fun call hmem =>
      hnone call (List.mem_append_left _ hmem)
    have hevent : ∀ call, event ≠ .sendData call := fun call heq =>
      hnone call (heq ▸ List.mem_append_right _ List.mem_cons_self)
    obtain ⟨hsame, hsub⟩ := StreamView.step_delegate_submitted hview
    exact ⟨hinv.step hevent hphase hview, hsame.trans hdelegate, (hsub hevent).trans hsubmitted⟩

/-- A response is sent by the handler of its request, so after the request was handed over; the one
for the upgrade request goes to stream 1. -/
def AnswersHandled (upgraded : Bool) (session : HTTP2Session P) (event : SessionEvent) : Prop :=
  ∀ call, event = .sendData call →
    session.handledFor call.streamId ≠ [] ∨ upgraded = true ∧ call.streamId = 1

/-- When a response is sent, the request half of its stream is over. -/
lemma AnswersHandled.over {delegate : Bool} {before : List SessionEvent} {mid : HTTP2Session P}
    {call : Submission} {phase : RecvPhase} (h : AnswersHandled upgraded mid (.sendData call))
    (hmid : run HTTP2Session.step (HTTP2Session.new P remoteAddress delegate) before = some mid)
    (hs : call.streamId = s) (hphase : run RecvPhase.step (RecvPhase.start upgraded s)
      (streamEvents s before) = some phase) : phase.Over := by
  subst hs
  rcases h call rfl with hhandled | ⟨rfl, hfirst⟩
  · by_contra hnot
    exact hhandled ((handled_inv hphase (run_view hmid _)).not_over hnot)
  · have hstart : RecvPhase.start true call.streamId = .remoteEnded := if_pos ⟨rfl, hfirst⟩
    rw [hstart] at hphase
    exact RecvPhase.over_of_run (Or.inl rfl) hphase

/-- Nothing is sent on a stream before the frame that ends its request. -/
lemma no_sendData_before {delegate : Bool} {events : List SessionEvent} {session : HTTP2Session P}
    (hadm : Admissible upgraded events)
    (hrun : run HTTP2Session.step (HTTP2Session.new P remoteAddress delegate) events = some session)
    (hanswers : Along HTTP2Session.step (AnswersHandled upgraded)
      (HTTP2Session.new P remoteAddress delegate) events) {phase : RecvPhase}
    (hphase : run RecvPhase.step (RecvPhase.start upgraded s) (streamEvents s events) = some phase)
    (hover : ¬ phase.Over) (call : Submission) :
    SessionEvent.sendData call ∉ streamEvents s events := by
  intro hmem
  obtain ⟨hmem, hstream⟩ := mem_eventsOf.1 hmem
  obtain ⟨before, after, rfl⟩ := List.append_of_mem hmem
  obtain ⟨mid, hmid, -⟩ := run_append_eq_some.1 hrun
  rw [streamEvents_append, run_append_eq_some] at hphase
  obtain ⟨midPhase, hmidPhase, hrest⟩ := hphase
  -- the request half was over when the response was sent, so it is over still
  refine hover (RecvPhase.over_of_run ?_ hrest)
  exact ((along_append.1 hanswers).2 mid hmid).1.over hmid hstream hmidPhase

/-- **When a request is answered.**  Take any run of the callbacks, with the delegate set and
responses sent by the handlers, and the frame that ends the request of a stream.  When
`on_frame_recv` returns, the delegate was called for the stream or a response was submitted for it,
exactly when a `:path` was received that is UTF-8 and `URLComponents` has a URL. -/
theorem request_answered_iff {events : List SessionEvent} {frame : Frame} {date : String}
    {session session' : HTTP2Session P}
    (hadm : Admissible upgraded (events ++ [.frameRecv frame date]))
    (hrun : run HTTP2Session.step (HTTP2Session.new P remoteAddress true) events = some session)
    (hanswers : Along HTTP2Session.step (AnswersHandled upgraded)
      (HTTP2Session.new P remoteAddress true) events)
    (hframe : frame.EndsRequest)
    (hstep : session.step (.frameRecv frame date) = some session') :
    (session'.handledFor frame.streamId ≠ [] ∨
        ∃ call ∈ session'.submitted, call.streamId = frame.streamId) ↔
      (requestUrl P (requestFields (streamEvents frame.streamId events))).isSome = true := by
  set s := frame.streamId with hs
  obtain ⟨phase', hphase'⟩ := hadm s
  rw [streamEvents_append, streamEvents_cons_own (show SessionEvent.streamId _ = s from rfl)]
    at hphase'
  obtain ⟨phase, hphase, hrest⟩ := run_append_eq_some.1 hphase'
  obtain ⟨_, hphaseStep, -⟩ := run_cons_eq_some.1 hrest
  have hover : ¬ phase.Over := ((RecvStep.of_step hphaseStep).endsRequest hframe).1
  have hview := run_view hrun s
  have hviewStep : (session.view s).step (.frameRecv frame date) = some (session'.view s) :=
    (keyedMachine P).lstep_view ((keyedMachine P).good_run (separated_new ..) hrun) hstep
  have hsend := no_sendData_before hadm.before hrun hanswers hphase hover
  obtain ⟨hinv, hdelegate, hsubmitted⟩ := targetInv_of_run hphase hview hsend
  have hhandled : (session.view s).handled = [] := (handled_inv hphase hview).not_over hover
  have hnone : ¬ ∃ call ∈ session'.submitted, call.streamId = s := by
    rintro ⟨call, hmem, hcall⟩
    have hsame := (StreamView.step_delegate_submitted hviewStep).2 (fun _ h => nomatch h)
    have hin : call ∈ (session'.view s).submitted :=
      List.mem_filter.2 ⟨hmem, decide_eq_true hcall⟩
    rw [hsame, hsubmitted] at hin
    cases hin
  rw [or_iff_left hnone]
  exact hinv.handled_iff hdelegate hhandled hframe hphaseStep hviewStep

end Session

/-- The HEADERS frame of a request without a body. -/
def requestFrame : Frame := ⟨.headers, 0x5, 1, .request⟩

/-- Nothing is sent while such a request arrives. -/
lemma answersHandled_request (fields : List (Bytes × Bytes)) (date : String)
    (session : HTTP2Session P) : Along HTTP2Session.step (AnswersHandled false) session
      (fieldEvents requestFrame fields ++ [.frameRecv requestFrame date]) := by
  refine along_of_forall ?_ session
  intro event hmem session call heq
  subst heq
  simp [fieldEvents] at hmem

def getFields : List (Bytes × Bytes) :=
  [(utf8Encode ":method", utf8Encode "GET"), (utf8Encode ":scheme", utf8Encode "https"),
   (utf8Encode ":path", utf8Encode "/"), (utf8Encode ":authority", utf8Encode "kitura.io")]

theorem request_answered_get : ∃ session' : HTTP2Session Platform.basic,
    run HTTP2Session.step (HTTP2Session.new Platform.basic none true)
      (fieldEvents requestFrame getFields ++ [.frameRecv requestFrame "today"]) = some session' ∧
    (session'.handledFor 1 ≠ [] ∨ ∃ call ∈ session'.submitted, call.streamId = 1) := by
  have hadm : Admissible false
      (fieldEvents requestFrame getFields ++ [.frameRecv requestFrame "today"]) := by decide
  have hsome : (run HTTP2Session.step (HTTP2Session.new Platform.basic none true)
      (fieldEvents requestFrame getFields ++ [.frameRecv requestFrame "today"])).isSome := by decide
  have hanswers : Along HTTP2Session.step (AnswersHandled false)
      (HTTP2Session.new Platform.basic none true) (fieldEvents requestFrame getFields) := by
    refine along_of_forall (fun event hmem session call heq => ?_) _
    subst heq
    simp [fieldEvents] at hmem
  obtain ⟨session', hrun'⟩ := Option.isSome_iff_exists.1 hsome
  obtain ⟨session, hrun, hstep⟩ := run_concat_eq_some.1 hrun'
  exact ⟨session', hrun', (request_answered_iff hadm hrun hanswers ⟨Or.inr rfl, rfl⟩ hstep).2
    (by decide)⟩

/-! ## Which requests have no URL -/

/-- A field that is UTF-8 gives a value to its name. -/
lemma fieldValue_isSome {fields : List (Bytes × Bytes)} {name valueStr : String} {value : Bytes}
    (hmem : (utf8Encode name, value) ∈ fields) (hvalue : utf8Decode value = some valueStr) :
    ∃ found, fieldValue fields name = some found := by
  have hdecode : decodeField (utf8Encode name, value) = some (name, valueStr) := by
    simp [decodeField, hvalue]
  have hdecoded : (name, valueStr) ∈ fields.reverse.filterMap decodeField :=
    List.mem_filterMap.2 ⟨_, List.mem_reverse.2 hmem, hdecode⟩
  cases hfound : fieldValue fields name with
  | none => simpa using List.lookup_eq_none_iff.1 hfound _ hdecoded
  | some found => exact ⟨found, rfl⟩

/-- **The kinds of requests that are dropped.**  A request that nghttp2 accepts and that has no URL
is a CONNECT request, or has a path that is not UTF-8, or has a path of which Foundation makes no
URL with the received scheme and authority. -/
theorem dropped_request_kinds {fields emitted : List (Bytes × Bytes)}
    (haccept : Nghttp2.acceptRequest fields = some emitted)
    (hdropped : requestUrl P emitted = none) :
    (utf8Encode ":method", utf8Encode "CONNECT") ∈ emitted ∨
      (∃ value, (utf8Encode ":path", value) ∈ emitted ∧ utf8Decode value = none) ∨
      ∃ path, fieldValue emitted ":path" = some path ∧
        (requestComponents path (fieldValue emitted ":scheme")
          (fieldValue emitted ":authority")).bind P.url = none := by
  rcases Nghttp2.acceptRequest_path haccept with hconnect | ⟨value, hmem⟩
  · exact Or.inl hconnect
  · refine Or.inr ?_
    cases hvalue : utf8Decode value with
    | none => exact Or.inl ⟨value, hmem, hvalue⟩
    | some valueStr =>
      obtain ⟨path, hpath⟩ := fieldValue_isSome hmem hvalue
      refine Or.inr ⟨path, hpath, ?_⟩
      simpa [requestUrl, hpath] using hdropped

/-! ## A dropped request -/

/-- A request for a tunnel, as a browser sends it to a proxy. -/
def connectFields : List (Bytes × Bytes) :=
  [(utf8Encode ":method", utf8Encode "CONNECT"), (utf8Encode ":authority", utf8Encode "kitura.io")]

/-- **A CONNECT request is dropped.**  nghttp2 accepts it and reports its frame, which ends the
request; nothing was handed over and nothing submitted when `on_frame_recv` returns. -/
theorem connect_request_is_dropped :
    Nghttp2.acceptRequest connectFields = some connectFields ∧
    Admissible false
      (fieldEvents requestFrame connectFields ++ [.frameRecv requestFrame "today"]) ∧
    ∃ session, run HTTP2Session.step (HTTP2Session.new Platform.basic none true)
        (fieldEvents requestFrame connectFields ++ [.frameRecv requestFrame "today"]) =
          some session ∧
      session.handledFor 1 = [] ∧ session.submitted = [] := by
  have hlengths : (run HTTP2Session.step (HTTP2Session.new Platform.basic none true)
      (fieldEvents requestFrame connectFields ++ [.frameRecv requestFrame "today"])).map
        (fun session => ((session.handledFor 1).length, session.submitted)) = some (0, []) := by
    decide
  obtain ⟨session, hrun, hnone⟩ := Option.map_eq_some_iff.1 hlengths
  rw [Prod.mk.injEq, List.length_eq_zero_iff] at hnone
  exact ⟨by decide, by decide, session, hrun, hnone⟩

end KituraHTTP2
