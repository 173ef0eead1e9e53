import KituraHTTP2.Dispatch
import KituraHTTP2.Nghttp2.Http

/-!
# What the delegate sees of a request body

The chunks of a body are appended to the request that was kept in the stream table when its headers
came, and a DATA frame with END_STREAM hands that request to the delegate.  A body may also be
followed by trailing HEADERS, and then these carry END_STREAM.  The HEADERS branch of
`on_frame_recv` does not look at the category of the frame: it builds a new request from the
stream's headers and dispatches it, and the kept one, with the body, is never used.

* `BodyInv` ties the kept request to the chunks received so far, over any order of the callbacks.
* **`delegate_sees_whole_body_iff`** — the delegate sees the whole body exactly when the request did
  not end with trailing HEADERS, or had no body.
* `trailers_lose_the_body` — a request with one chunk and trailers, handed over without it.
-/

namespace KituraHTTP2

open Machine Keyed HTTP2Session

variable {P : Platform}

/-- The part of a request body that comes with an event. -/
def SessionEvent.chunk : SessionEvent → Bytes
  | .dataChunk _ data => data
  | _ => []

/-- The chunks that `on_data_chunk_recv` received of a stream, in order of arrival. -/
def receivedBody (events : List SessionEvent) : Bytes := events.flatMap SessionEvent.chunk

lemma receivedBody_concat (events : List SessionEvent) (event : SessionEvent) :
    receivedBody (events ++ [event]) = receivedBody events ++ event.chunk := by
  simp [receivedBody]

/-- Trailing HEADERS that carry the END_STREAM flag. -/
def SessionEvent.isTrailers : SessionEvent → Bool
  | .frameRecv frame _ => frame.type = .headers ∧ frame.cat = .headers ∧ frame.endStream = true
  | _ => false

/-- The END_STREAM flag came on trailing HEADERS. -/
def endedByTrailers (events : List SessionEvent) : Bool := events.any SessionEvent.isTrailers

lemma endedByTrailers_concat (events : List SessionEvent) (event : SessionEvent) :
    endedByTrailers (events ++ [event]) = (endedByTrailers events || event.isTrailers) := by
  simp [endedByTrailers]

/-- Where in a request the chunks of its body cannot have begun. -/
def RecvPhase.BeforeBody (phase : RecvPhase) : Prop := phase = .idle ∨ phase = .requestHeaders

/-- Where in a request its headers are kept in the stream table. -/
def RecvPhase.InBody (phase : RecvPhase) : Prop := phase = .body ∨ phase = .trailers

/-! ## One stream -/

/-- The kept request holds what was received so far, and a request that was handed over held it all,
unless trailers ended it: then it held nothing. -/
structure BodyInv (events : List SessionEvent) (phase : RecvPhase) (view : StreamView P) :
    Prop where
  no_chunks : phase.BeforeBody → receivedBody events = []
  no_request : phase.BeforeBody → ∀ value, view.streamData = some value → value.request = none
  kept : phase.InBody → ∀ value request, view.streamData = some value →
    value.request = some request → request.body = receivedBody events
  not_handled : ¬ phase.Over → view.handled = []
  not_trailers : ¬ phase.Over → endedByTrailers events = false
  handled : ∀ call ∈ view.handled,
    call.request.body = if endedByTrailers events then [] else receivedBody events

section Step

variable {events : List SessionEvent} {phase phase' : RecvPhase} {view view' : StreamView P}
  {event : SessionEvent}

/-- An event that brings no chunk and is no trailers adds nothing to the history. -/
lemma BodyInv.of_view (h : BodyInv events phase view) (hchunk : event.chunk = [])
    (htrailers : event.isTrailers = false) (hover : phase.Over → phase'.Over)
    (hbefore : phase'.BeforeBody → phase.BeforeBody) (hin : phase'.InBody → phase.InBody)
    (hhandled : view'.handled = view.handled)
    (hrequest : ∀ value', view'.streamData = some value' → value'.request = none ∨
      ∃ value, view.streamData = some value ∧ value'.request = value.request) :
    BodyInv (events ++ [event]) phase' view' := by
  have hbody : receivedBody (events ++ [event]) = receivedBody events := by
    rw [receivedBody_concat, hchunk, List.append_nil]
  have htrail : endedByTrailers (events ++ [event]) = endedByTrailers events := by
    rw [endedByTrailers_concat, htrailers, Bool.or_false]
  refine ⟨?_, ?_, ?_, ?_, ?_, ?_⟩
  · intro hphase
    rw [hbody]
    exact h.no_chunks (hbefore hphase)
  · intro hphase value' hvalue'
    rcases hrequest value' hvalue' with hnone | ⟨value, hvalue, hsame⟩
    · exact hnone
    · rw [hsame]
      exact h.no_request (hbefore hphase) value hvalue
  · intro hphase value' request hvalue' hreq
    rw [hbody]
    rcases hrequest value' hvalue' with hnone | ⟨value, hvalue, hsame⟩
    · cases hnone.symm.trans hreq
    · exact h.kept (hin hphase) value request hvalue (hsame.symm.trans hreq)
  · intro hphase
    rw [hhandled]
    exact h.not_handled (mt hover hphase)
  · intro hphase
    rw [htrail]
    exact h.not_trailers (mt hover hphase)
  · rw [hhandled, hbody, htrail]
    exact h.handled

/-- The request HEADERS frame: a request that is kept or handed over here has no body yet. -/
lemma BodyInv.request {frame : Frame} {date : String}
    (h : BodyInv events .requestHeaders view) (hcat : frame.cat = .request)
    (hstep : view.headersFrameRecv frame date = some view') :
    BodyInv (events ++ [.frameRecv frame date])
      (if frame.endStream then .remoteEnded else .body) view' := by
  have hnil : receivedBody events = [] := h.no_chunks (Or.inr rfl)
  have hbody : receivedBody (events ++ [.frameRecv frame date]) = [] := by
    rw [receivedBody_concat, hnil]
    rfl
  have htrail : endedByTrailers (events ++ [.frameRecv frame date]) = false := by
    rw [endedByTrailers_concat, h.not_trailers (by simp [RecvPhase.Over])]
    simp [SessionEvent.isTrailers, hcat]
  have hhandled : view.handled = [] := h.not_handled (by simp [RecvPhase.Over])
  -- the request that the frame gives rise to, if any, is new and empty
  have hview' : (view'.handled = [] ∧ ∀ value request, view'.streamData = some value →
      value.request = some request → request.body = []) ∨ (frame.endStream = true ∧
      ∀ call ∈ view'.handled, call.request.body = []) := by
    rcases StreamView.headersFrameRecv_cases hstep with rfl | ⟨old, request, hold, hreq, rfl⟩
    · refine Or.inl ⟨hhandled, fun value request hvalue hrequest => ?_⟩
      cases (h.no_request (Or.inr rfl) value hvalue).symm.trans hrequest
    · have hempty := StreamView.requestOf_body hreq
      cases hend : frame.endStream with
      | false =>
        rw [StreamView.dispatchRequest_of_not_endStream hend]
        refine Or.inl ⟨hhandled, fun value request' hvalue hrequest => ?_⟩
        simp only [hold, Option.map_some, Option.some.injEq] at hvalue
        subst hvalue
        cases hrequest
        exact hempty
      | true =>
        rw [StreamView.dispatchRequest_of_endStream hend]
        refine Or.inr ⟨rfl, fun call hcall => ?_⟩
        rcases StreamView.handle_handled view request _ with hsame | hnew
        · rw [hsame, hhandled] at hcall
          cases hcall
        · rw [hnew, hhandled, List.nil_append, List.mem_singleton] at hcall
          exact hcall ▸ hempty
  refine ⟨?_, ?_, ?_, ?_, fun _ => htrail, ?_⟩
  · intro hphase
    split_ifs at hphase <;> simp [RecvPhase.BeforeBody] at hphase
  · intro hphase
    split_ifs at hphase <;> simp [RecvPhase.BeforeBody] at hphase
  · intro hphase value request hvalue hreq
    rw [hbody]
    rcases hview' with ⟨-, hkept⟩ | ⟨hend, -⟩
    · exact hkept value request hvalue hreq
    · simp [hend, RecvPhase.InBody] at hphase
  · intro hphase
    rcases hview' with ⟨hnone, -⟩ | ⟨hend, -⟩
    · exact hnone
    · simp [hend, RecvPhase.Over] at hphase
  · intro call hcall
    rw [hbody, ite_self]
    rcases hview' with ⟨hnone, -⟩ | ⟨-, hall⟩
    · rw [hnone] at hcall
      cases hcall
    · exact hall call hcall

/-- A part of the body arrives and goes to the kept request. -/
lemma BodyInv.chunk {streamId : StreamId} {data : Bytes} (h : BodyInv events .body view) :
    BodyInv (events ++ [.dataChunk streamId data]) .body (view.dataChunk data) := by
  have hbody : receivedBody (events ++ [.dataChunk streamId data]) = receivedBody events ++ data :=
    receivedBody_concat events _
  have htrail : endedByTrailers (events ++ [.dataChunk streamId data]) = false := by
    rw [endedByTrailers_concat, h.not_trailers (by simp [RecvPhase.Over])]
    rfl
  have hhandled : view.handled = [] := h.not_handled (by simp [RecvPhase.Over])
  refine ⟨?_, ?_, ?_, fun _ => hhandled, fun _ => htrail, ?_⟩
  · intro hphase
    simp [RecvPhase.BeforeBody] at hphase
  · intro hphase
    simp [RecvPhase.BeforeBody] at hphase
  · intro _ value request hvalue hreq
    obtain ⟨old, hold, rfl⟩ := Option.map_eq_some_iff.1 hvalue
    obtain ⟨oldRequest, holdRequest, rfl⟩ := Option.map_eq_some_iff.1 hreq
    rw [hbody, HTTP2ServerRequest.body_appendReqData,
      h.kept (Or.inl rfl) old oldRequest hold holdRequest]
  · intro call hcall
    change call ∈ view.handled at hcall
    rw [hhandled] at hcall
    cases hcall

/-- The DATA frame with END_STREAM hands over the kept request. -/
lemma BodyInv.data {frame : Frame} {date : String} (h : BodyInv events .body view)
    (htype : frame.type = .data) :
    BodyInv (events ++ [.frameRecv frame date])
      (if frame.endStream then .remoteEnded else .body) (view.dataFrameRecv frame) := by
  have hnot : SessionEvent.isTrailers (.frameRecv frame date) = false := by
    simp [SessionEvent.isTrailers, htype]
  rcases StreamView.dataFrameRecv_cases view frame with
    hsame | ⟨value, request, response, hend, hvalue, hreq, -, hhandle⟩
  · rw [hsame]
    refine h.of_view rfl hnot ?_ ?_ ?_ rfl fun value hvalue => Or.inr ⟨value, hvalue, rfl⟩
    · intro hover
      simp [RecvPhase.Over] at hover
    · intro hphase
      split_ifs at hphase <;> simp [RecvPhase.BeforeBody] at hphase
    · exact fun _ => Or.inl rfl
  · rw [hhandle, if_pos hend]
    have hbody : receivedBody (events ++ [.frameRecv frame date]) = receivedBody events := by
      rw [receivedBody_concat]
      exact List.append_nil _
    have htrail : endedByTrailers (events ++ [.frameRecv frame date]) = false := by
      rw [endedByTrailers_concat, h.not_trailers (by simp [RecvPhase.Over]), hnot]
      rfl
    refine ⟨fun hphase => ?_, fun hphase => ?_, fun hphase => ?_, fun hphase => ?_,
      fun _ => htrail, fun call hcall => ?_⟩
    · simp [RecvPhase.BeforeBody] at hphase
    · simp [RecvPhase.BeforeBody] at hphase
    · simp [RecvPhase.InBody] at hphase
    · simp [RecvPhase.Over] at hphase
    · rw [htrail, hbody, if_neg Bool.false_ne_true]
      have hhandled : view.handled = [] := h.not_handled (by simp [RecvPhase.Over])
      rcases StreamView.handle_handled view request response with hsame | hnew
      · rw [hsame, hhandled] at hcall
        cases hcall
      · rw [hnew, hhandled, List.nil_append, List.mem_singleton] at hcall
        rw [hcall]
        exact h.kept (Or.inl rfl) value request hvalue hreq

/-- Trailing HEADERS hand over a new request, with no body. -/
lemma BodyInv.trailers {frame : Frame} {date : String} (h : BodyInv events .trailers view)
    (htype : frame.type = .headers) (hcat : frame.cat = .headers)
    (hlast : frame.endStream = true)
    (hstep : view.headersFrameRecv frame date = some view') :
    BodyInv (events ++ [.frameRecv frame date]) .remoteEnded view' := by
  have htrail : endedByTrailers (events ++ [.frameRecv frame date]) = true := by
    rw [endedByTrailers_concat]
    simp [SessionEvent.isTrailers, htype, hcat, hlast]
  have hhandled : view.handled = [] := h.not_handled (by simp [RecvPhase.Over])
  refine ⟨fun hphase => ?_, fun hphase => ?_, fun hphase => ?_, fun hphase => ?_,
    fun hphase => ?_, fun call hcall => ?_⟩
  · simp [RecvPhase.BeforeBody] at hphase
  · simp [RecvPhase.BeforeBody] at hphase
  · simp [RecvPhase.InBody] at hphase
  · simp [RecvPhase.Over] at hphase
  · simp [RecvPhase.Over] at hphase
  · rw [htrail, if_pos rfl]
    rcases StreamView.headersFrameRecv_cases hstep with rfl | ⟨_, request, -, hreq, rfl⟩
    · rw [hhandled] at hcall
      cases hcall
    · rw [StreamView.dispatchRequest_of_endStream hlast] at hcall
      rcases StreamView.handle_handled view request _ with hsame | hnew
      · rw [hsame, hhandled] at hcall
        cases hcall
      · rw [hnew, hhandled, List.nil_append, List.mem_singleton] at hcall
        exact hcall ▸ StreamView.requestOf_body hreq

/-- Every callback in its place preserves the invariant. -/
lemma BodyInv.step (h : BodyInv events phase view) (hphase : phase.step event = some phase')
    (hview : view.step event = some view') : BodyInv (events ++ [event]) phase' view' := by
  have hsame : ∀ value, view.streamData = some value → value.request = none ∨
      ∃ old, view.streamData = some old ∧ value.request = old.request :=
    fun value hvalue => Or.inr ⟨value, hvalue, rfl⟩
  cases RecvStep.of_step hphase with
  | beginRequest htype hcat =>
    cases hview
    refine h.of_view rfl rfl (fun hover => by simp [RecvPhase.Over] at hover)
      (fun _ => Or.inl rfl) (fun hin => by simp [RecvPhase.InBody] at hin) ?_ ?_
    · rw [StreamView.beginHeaders_of_request htype hcat]
    · rw [StreamView.beginHeaders_of_request htype hcat]
      intro value hvalue
      cases hvalue
      exact Or.inl rfl
  | @requestField frame name value htype hcat =>
    cases hview
    rcases view.header_of_request htype hcat name value with ⟨_, _, -, -, hheader⟩ | ⟨-, hheader⟩
    · rw [hheader]
      refine h.of_view rfl rfl id id id rfl fun value hvalue => ?_
      obtain ⟨old, hold, rfl⟩ := Option.map_eq_some_iff.1 hvalue
      exact Or.inr ⟨old, hold, StreamValue.receiveHeader_request ..⟩
    · rw [hheader]
      exact h.of_view rfl rfl id id id rfl hsame
  | request htype hcat =>
    exact h.request hcat (StreamView.step_of_headers htype hview)
  | chunk =>
    cases hview
    exact h.chunk
  | data htype =>
    rw [StreamView.step_of_data htype hview]
    exact h.data htype
  | beginTrailers htype hcat =>
    cases hview
    rw [StreamView.beginHeaders_of_trailers hcat]
    exact h.of_view rfl rfl (fun hover => by simp [RecvPhase.Over] at hover)
      (fun hbefore => by simp [RecvPhase.BeforeBody] at hbefore) (fun _ => Or.inl rfl) rfl hsame
  | trailerField htype hcat =>
    cases hview
    rw [StreamView.header_of_trailers hcat]
    exact h.of_view rfl rfl id id id rfl hsame
  | trailers htype hcat hend hlast =>
    exact h.trailers htype hcat hlast (StreamView.step_of_headers htype hview)
  | otherFrame hdata hheaders =>
    rw [StreamView.step_of_other hdata hheaders hview]
    exact h.of_view rfl (by simp [SessionEvent.isTrailers, hheaders]) id id id rfl hsame
  | close =>
    cases hview
    exact h.of_view rfl rfl (fun _ => Or.inr rfl)
      (fun hbefore => by simp [RecvPhase.BeforeBody] at hbefore)
      (fun hin => by simp [RecvPhase.InBody] at hin) rfl
      (fun _ hvalue => absurd hvalue.symm (Option.some_ne_none _))
  | read =>
    cases hview
    refine h.of_view rfl rfl id id id rfl fun value hvalue => ?_
    obtain ⟨old, hold, rfl⟩ := Option.map_eq_some_iff.1 hvalue
    exact Or.inr ⟨old, hold, rfl⟩
  | send =>
    cases hview
    refine h.of_view rfl rfl id id id rfl fun value hvalue => ?_
    cases hvalue
    exact Or.inl rfl

end Step

lemma bodyInv_initial (remoteAddress : Option String) (delegate : Bool) (phase : RecvPhase) :
    BodyInv [] phase (StreamView.initial P remoteAddress delegate) :=
  ⟨fun _ => rfl, fun _ _ h => (nomatch h), fun _ _ _ h => (nomatch h), fun _ => rfl, fun _ => rfl,
    fun _ h => (nomatch h)⟩

/-! ## The session -/

/-- **When the delegate sees the whole body.**  In every run of the callbacks, the body of a request
handed over for the stream `s` is what was received for `s` exactly when the request did not end
with trailing HEADERS, or came without a body. -/
theorem delegate_sees_whole_body_iff {remoteAddress : Option String} {delegate upgraded : Bool}
    {events : List SessionEvent} {session : HTTP2Session P} (hadm : Admissible upgraded events)
    (hrun : run HTTP2Session.step (HTTP2Session.new P remoteAddress delegate) events =
      some session) {s : StreamId} {call : HandleCall P} (hcall : call ∈ session.handledFor s) :
    call.request.body = receivedBody (streamEvents s events) ↔
      endedByTrailers (streamEvents s events) = false ∨
        receivedBody (streamEvents s events) = [] := by
  obtain ⟨phase, hphase⟩ := hadm s
  have hinv : BodyInv (streamEvents s events) phase (session.view s) :=
    run_history BodyInv (bodyInv_initial ..) (fun _ _ _ _ _ _ h => h.step) hphase (run_view hrun s)
  rw [hinv.handled call hcall]
  cases endedByTrailers (streamEvents s events) with
  | false => simp
  | true => simp [eq_comm]

/-- The fields of the requests below. -/
def postFields : List (Bytes × Bytes) :=
  [(utf8Encode ":method", utf8Encode "POST"), (utf8Encode ":scheme", utf8Encode "https"),
   (utf8Encode ":path", utf8Encode "/upload"), (utf8Encode ":authority", utf8Encode "kitura.io")]

/-- The callbacks for the HEADERS of the POST, whose body is to come. -/
def postHeaders : List SessionEvent :=
  let frame : Frame := ⟨.headers, 0x4, 1, .request⟩
  fieldEvents frame postFields ++ [.frameRecv frame "today"]

/-- The POST with the body `hi` in one DATA frame, which ends the request. -/
def postWithData : List SessionEvent :=
  postHeaders ++ [.dataChunk 1 [0x68, 0x69], .frameRecv ⟨.data, 0x1, 1, .headers⟩ "today"]

/-- The same POST, ended by trailing HEADERS after the DATA frame. -/
def postWithTrailers : List SessionEvent :=
  postHeaders ++
    [.dataChunk 1 [0x68, 0x69], .frameRecv ⟨.data, 0x0, 1, .headers⟩ "today",
     .beginHeaders ⟨.headers, 0x5, 1, .headers⟩,
     .header ⟨.headers, 0x5, 1, .headers⟩ (utf8Encode "x-checksum") (utf8Encode "1"),
     .frameRecv ⟨.headers, 0x5, 1, .headers⟩ "today"]

theorem delegate_sees_whole_body_of_post : ∃ session, ∃ call : HandleCall Platform.basic,
    run HTTP2Session.step (HTTP2Session.new Platform.basic none true) postWithData =
      some session ∧
    call ∈ session.handledFor 1 ∧ call.request.body = [0x68, 0x69] := by
  have hadm : Admissible false postWithData := by decide
  have hlength : (run HTTP2Session.step (HTTP2Session.new Platform.basic none true)
      postWithData).map (fun session => (session.handledFor 1).length) = some 1 := by decide
  obtain ⟨session, hrun, hone⟩ := Option.map_eq_some_iff.1 hlength
  obtain ⟨call, hcall⟩ := List.length_eq_one_iff.1 hone
  have hmem : call ∈ session.handledFor 1 := hcall ▸ List.mem_cons_self
  exact ⟨session, call, hrun, hmem,
    (delegate_sees_whole_body_iff hadm hrun hmem).2 (Or.inl (by decide))⟩

/-- **Trailers lose the body.**  nghttp2 accepts the POST and makes its callbacks in order, and the
delegate gets the request without the two bytes of its body. -/
theorem trailers_lose_the_body : Nghttp2.acceptRequest postFields = some postFields ∧
    Admissible false postWithTrailers ∧ ∃ session, ∃ call : HandleCall Platform.basic,
      run HTTP2Session.step (HTTP2Session.new Platform.basic none true) postWithTrailers =
        some session ∧
      call ∈ session.handledFor 1 ∧
      receivedBody (streamEvents 1 postWithTrailers) = [0x68, 0x69] ∧ call.request.body = [] := by
  have hbodies : (run HTTP2Session.step (HTTP2Session.new Platform.basic none true)
      postWithTrailers).map (fun session => (session.handledFor 1).map fun call =>
        call.request.body) = some [[]] := by decide
  obtain ⟨session, hrun, hone⟩ := Option.map_eq_some_iff.1 hbodies
  obtain ⟨call, hcall, hbody⟩ := List.map_eq_singleton_iff.1 hone
  exact ⟨by decide, by decide, session, call, hrun, hcall ▸ List.mem_cons_self, by decide, hbody⟩

end KituraHTTP2
