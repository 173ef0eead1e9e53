import KituraHTTP2.HTTP2Session

/-!
# The streams of a session do not mix

The stream table holds references, and the callbacks copy a struct out, change an object it shares
with the table, and write the copy back.  Requests of different clients stay apart only because no
two streams ever refer to the same object.

`Separated` is that invariant: every reference is good, no two streams share a headers container or
a request, and a stored response is one for its own stream.  A step that sets the entry of one
stream keeps it if the new entry is made of new objects and of those the stream owned before
(`Separated.setStream`), and every event is such a step (**`Separated.step`**).
-/

namespace KituraHTTP2

variable {P : Platform} {session session' : HTTP2Session P}

namespace HTTP2Session

/-! ## The invariant -/

/-- No reference dangles and no two streams share an object. -/
structure Separated (session : HTTP2Session P) : Prop where
  headers_valid : ∀ {s d}, session.streamsData s = some d → session.heap.containers.Valid d.headers
  request_valid : ∀ {s d r}, session.streamsData s = some d → d.request = some r →
    session.heap.requests.Valid r
  response_own : ∀ {s d r}, session.streamsData s = some d → d.response = some r →
    ∃ response, session.heap.responses.get? r = some response ∧ response.stream = s
  headers_inj : ∀ {s t d d'}, session.streamsData s = some d → session.streamsData t = some d' →
    d.headers = d'.headers → s = t
  request_inj : ∀ {s t d d' r}, session.streamsData s = some d → session.streamsData t = some d' →
    d.request = some r → d'.request = some r → s = t

lemma separated_new (remoteAddress : Option String) (delegate : Bool) :
    Separated (HTTP2Session.new P remoteAddress delegate) where
  headers_valid := fun h => nomatch h
  request_valid := fun h => nomatch h
  response_own := fun h => nomatch h
  headers_inj := fun h => nomatch h
  request_inj := fun h => nomatch h

/-- The objects of `heap` are there in `heap'`, at the same references. -/
structure Extends (heap' heap : Heap P) : Prop where
  containers : ∀ {r}, heap.containers.Valid r → heap'.containers.Valid r
  requests : ∀ {r}, heap.requests.Valid r → heap'.requests.Valid r
  responses : ∀ {r response}, heap.responses.get? r = some response →
    heap'.responses.get? r = some response

lemma Extends.refl (heap : Heap P) : Extends heap heap := ⟨id, id, id⟩

/-- `streamData` may become the entry of the stream `s`: each reference in it is a new one, or one
that the entry of `s` held before. -/
structure Owned (heap' : Heap P) (session : HTTP2Session P) (s : StreamId)
    (streamData : StreamData) : Prop where
  headers : heap'.containers.Valid streamData.headers ∧
    (streamData.headers = session.heap.containers.fresh ∨
      ∃ d, session.streamsData s = some d ∧ streamData.headers = d.headers)
  request : ∀ {r}, streamData.request = some r → heap'.requests.Valid r ∧
    (r = session.heap.requests.fresh ∨ ∃ d, session.streamsData s = some d ∧ d.request = some r)
  response : ∀ {r}, streamData.response = some r →
    ∃ response, heap'.responses.get? r = some response ∧ response.stream = s

/-- A step that sets the entry of one stream keeps the streams separated, if the new entry is made
of new objects and of those the stream owned before. -/
lemma Separated.setStream (h : Separated session) (hext : Extends session'.heap session.heap)
    {s : StreamId} {streamData : Option StreamData}
    (hstreams : session'.streamsData = Function.update session.streamsData s streamData)
    (howned : ∀ d, streamData = some d → Owned session'.heap session s d) : Separated session' := by
  -- an entry of the new table is the new entry of `s`, or an old one of another stream
  have key : ∀ {t d}, session'.streamsData t = some d →
      (t = s ∧ Owned session'.heap session s d) ∨ (t ≠ s ∧ session.streamsData t = some d) := by
    intro t d htd
    rw [hstreams] at htd
    by_cases hts : t = s
    · subst hts
      rw [Function.update_self] at htd
      exact Or.inl ⟨rfl, howned d htd⟩
    · rw [Function.update_of_ne hts] at htd
      exact Or.inr ⟨hts, htd⟩
  -- an old entry of another stream shares nothing with the new entry of `s`
  have headers_apart : ∀ {t d d'}, t ≠ s → Owned session'.heap session s d →
      session.streamsData t = some d' → d.headers ≠ d'.headers := by
    intro t d d' hts hd hd' heq
    rcases hd.headers.2 with hfresh | ⟨old, hold, hsame⟩
    · exact (h.headers_valid hd').ne_fresh (heq.symm.trans hfresh)
    · exact hts (h.headers_inj hd' hold (heq.symm.trans hsame))
  have request_apart : ∀ {t d d' r}, t ≠ s → Owned session'.heap session s d →
      session.streamsData t = some d' → d.request = some r → d'.request ≠ some r := by
    intro t d d' r hts hd hd' hr hr'
    rcases (hd.request hr).2 with hfresh | ⟨old, hold, hsame⟩
    · exact (h.request_valid hd' hr').ne_fresh hfresh
    · exact hts (h.request_inj hd' hold hr' hsame)
  refine ⟨?_, ?_, ?_, ?_, ?_⟩
  · intro t d htd
    rcases key htd with ⟨_, hd⟩ | ⟨_, hd⟩
    · exact hd.headers.1
    · exact hext.containers (h.headers_valid hd)
  · intro t d r htd hr
    rcases key htd with ⟨_, hd⟩ | ⟨_, hd⟩
    · exact (hd.request hr).1
    · exact hext.requests (h.request_valid hd hr)
  · intro t d r htd hr
    rcases key htd with ⟨rfl, hd⟩ | ⟨_, hd⟩
    · exact hd.response hr
    · obtain ⟨response, hget, hstream⟩ := h.response_own hd hr
      exact ⟨response, hext.responses hget, hstream⟩
  · intro t u d d' htd hud heq
    rcases key htd with ⟨rfl, hd⟩ | ⟨ht, hd⟩ <;> rcases key hud with ⟨rfl, hd'⟩ | ⟨hu, hd'⟩
    · rfl
    · exact absurd heq (headers_apart hu hd hd')
    · exact absurd heq.symm (headers_apart ht hd' hd)
    · exact h.headers_inj hd hd' heq
  · intro t u d d' r htd hud hr hr'
    rcases key htd with ⟨rfl, hd⟩ | ⟨ht, hd⟩ <;> rcases key hud with ⟨rfl, hd'⟩ | ⟨hu, hd'⟩
    · rfl
    · exact absurd hr' (request_apart hu hd hd' hr)
    · exact absurd hr (request_apart ht hd' hd hr')
    · exact h.request_inj hd hd' hr hr'

/-- A step that leaves the table and its objects alone, up to changes inside requests. -/
lemma Separated.of_same (h : Separated session) (hext : Extends session'.heap session.heap)
    (hstreams : session'.streamsData = session.streamsData) : Separated session' where
  headers_valid := fun hd => hext.containers (h.headers_valid (hstreams ▸ hd))
  request_valid := fun hd hr => hext.requests (h.request_valid (hstreams ▸ hd) hr)
  response_own := fun hd hr => by
    obtain ⟨response, hget, hstream⟩ := h.response_own (hstreams ▸ hd) hr
    exact ⟨response, hext.responses hget, hstream⟩
  headers_inj := fun hd hd' => h.headers_inj (hstreams ▸ hd) (hstreams ▸ hd')
  request_inj := fun hd hd' => h.request_inj (hstreams ▸ hd) (hstreams ▸ hd')

/-! ## Every event keeps the streams separated -/

/-- What a received frame does: nothing, or the request that its stream has kept goes to the
delegate, or a new request is built from the fields of its stream. -/
inductive FrameRecv (session : HTTP2Session P) (frame : Frame) (date : String) :
    HTTP2Session P → Prop
  | nothing : FrameRecv session frame date session
  | handed {sData : StreamData} {request response : Ref}
      (hstream : session.streamsData frame.streamId = some sData)
      (hrequest : sData.request = some request) (hresponse : sData.response = some response) :
      FrameRecv session frame date (session.handle request response)
  | built {sData : StreamData} {requestPath : String} {requestUrl : P.URL}
      {headers : P.HeadersContainer} (hstream : session.streamsData frame.streamId = some sData)
      (hpath : sData.requestPath = some requestPath) :
      FrameRecv session frame date (session.dispatchRequest frame (buildRequest requestPath
        sData.method requestUrl session.remoteAddress headers) date)

lemma FrameRecv.of_onDataFrameRecv (session : HTTP2Session P) (frame : Frame) (date : String) :
    FrameRecv session frame date (session.onDataFrameRecv frame) := by
  rw [HTTP2Session.onDataFrameRecv]
  split
  · exact .nothing
  · split
    · next sData hstream =>
      split
      · next request response hrequest hresponse => exact .handed hstream hrequest hresponse
      · exact .nothing
    · exact .nothing

lemma FrameRecv.of_onHeadersFrameRecv {frame : Frame} {date : String}
    (hrecv : session.onHeadersFrameRecv frame date = some session') :
    FrameRecv session frame date session' := by
  rw [HTTP2Session.onHeadersFrameRecv] at hrecv
  split at hrecv
  · cases hrecv
    exact .nothing
  · split at hrecv
    · next sData hstream =>
      split at hrecv
      · next requestPath hpath =>
        rcases Option.map_eq_some_iff.1 hrecv with ⟨components, -, rfl⟩
        split
        · exact .built hstream hpath
        · exact .nothing
      · cases hrecv
        exact .nothing
    · cases hrecv
      exact .nothing

lemma FrameRecv.of_onFrameRecvCallback {frame : Frame} {date : String}
    (hrecv : session.onFrameRecvCallback frame date = some session') :
    FrameRecv session frame date session' := by
  rw [HTTP2Session.onFrameRecvCallback] at hrecv
  split at hrecv
  · cases hrecv
    exact .of_onDataFrameRecv session frame date
  · exact .of_onHeadersFrameRecv hrecv
  · cases hrecv
    exact .nothing

lemma handle_streamsData (session : HTTP2Session P) (request response : Ref) :
    (session.handle request response).streamsData = session.streamsData := by
  unfold handle
  split <;> rfl

lemma handle_extends (session : HTTP2Session P) (request response : Ref) :
    Extends (session.handle request response).heap session.heap := by
  unfold handle
  split <;> exact ⟨id, id, id⟩

lemma Separated.handle (h : Separated session) (request response : Ref) :
    Separated (session.handle request response) :=
  h.of_same (handle_extends ..) (handle_streamsData ..)

/-- A `StreamData` with no request yet, around a new container, may become the entry of any
stream. -/
lemma owned_of_fresh {s : StreamId} {streamData : StreamData}
    (hcontainers : session'.heap.containers = session.heap.containers.alloc P.emptyHeaders)
    (hheaders : streamData.headers = session.heap.containers.fresh)
    (hrequest : streamData.request = none) (hresponse : streamData.response = none) :
    Owned session'.heap session s streamData where
  headers := by
    rw [hcontainers, hheaders]
    exact ⟨Store.valid_alloc_fresh .., Or.inl rfl⟩
  request := fun hr => nomatch hrequest.symm.trans hr
  response := fun hr => nomatch hresponse.symm.trans hr

/-- Changing the other fields of the entry of `s` keeps its references. -/
lemma Separated.owned_of_same (h : Separated session) (hext : Extends session'.heap session.heap)
    {s : StreamId} {old streamData : StreamData} (hold : session.streamsData s = some old)
    (hheaders : streamData.headers = old.headers) (hrequest : streamData.request = old.request)
    (hresponse : streamData.response = old.response) :
    Owned session'.heap session s streamData where
  headers := by
    rw [hheaders]
    exact ⟨hext.containers (h.headers_valid hold), Or.inr ⟨old, hold, rfl⟩⟩
  request := fun hr => by
    rw [hrequest] at hr
    exact ⟨hext.requests (h.request_valid hold hr), Or.inr ⟨old, hold, hr⟩⟩
  response := fun hr => by
    rw [hresponse] at hr
    obtain ⟨response, hget, hstream⟩ := h.response_own hold hr
    exact ⟨response, hext.responses hget, hstream⟩

lemma Separated.onBeginHeadersCallback (h : Separated session) (frame : Frame) :
    Separated (session.onBeginHeadersCallback frame) := by
  unfold HTTP2Session.onBeginHeadersCallback
  split
  · exact h
  · refine h.setStream ⟨fun hr => hr.alloc _, id, id⟩ rfl ?_
    intro d hd
    cases hd
    exact owned_of_fresh rfl rfl rfl rfl

lemma Separated.sendData (h : Separated session) (call : Submission) :
    Separated (session.sendData call) := by
  refine h.setStream ⟨fun hr => hr.alloc _, id, id⟩ rfl ?_
  intro d hd
  cases hd
  exact owned_of_fresh rfl rfl rfl rfl

lemma receiveHeader_refs (nameStr valueStr : String) (streamData : StreamData)
    (containers : Store P.HeadersContainer) :
    (receiveHeader P nameStr valueStr streamData containers).1.headers = streamData.headers ∧
    (receiveHeader P nameStr valueStr streamData containers).1.request = streamData.request ∧
    (receiveHeader P nameStr valueStr streamData containers).1.response = streamData.response := by
  unfold receiveHeader
  split_ifs <;> exact ⟨rfl, rfl, rfl⟩

lemma receiveHeader_valid {nameStr valueStr : String} {streamData : StreamData}
    {containers : Store P.HeadersContainer} {r : Ref} (hr : containers.Valid r) :
    (receiveHeader P nameStr valueStr streamData containers).2.Valid r := by
  unfold receiveHeader
  split_ifs <;> first | exact hr | exact Store.valid_update.2 hr

lemma Separated.onHeaderCallback (h : Separated session) (frame : Frame) (name value : Bytes) :
    Separated (session.onHeaderCallback frame name value) := by
  unfold HTTP2Session.onHeaderCallback
  split
  · exact h
  · split
    · next nameStr valueStr streamData _ _ hold =>
      have hext : Extends { session.heap with
          containers := (receiveHeader P nameStr valueStr streamData session.heap.containers).2 }
          session.heap := ⟨receiveHeader_valid, id, id⟩
      refine h.setStream hext rfl ?_
      intro d hd
      cases hd
      obtain ⟨hheaders, hrequest, hresponse⟩ :=
        receiveHeader_refs nameStr valueStr streamData session.heap.containers
      exact h.owned_of_same hext hold hheaders hrequest hresponse
    · exact h

lemma allocMessages_extends (session : HTTP2Session P) (request : HTTP2ServerRequest P)
    (response : HTTP2ServerResponse P) :
    Extends (session.allocMessages request response).heap session.heap :=
  ⟨id, fun hr => hr.alloc _, fun hget => by
    rw [← hget]
    exact Store.get?_alloc_of_valid (Store.valid_of_get? hget) _⟩

lemma Separated.dispatchRequest (h : Separated session) (frame : Frame)
    (request : HTTP2ServerRequest P) (date : String) :
    Separated (session.dispatchRequest frame request date) := by
  unfold HTTP2Session.dispatchRequest
  set response := HTTP2ServerResponse.new P frame.streamId date
  dsimp only
  split
  · exact (h.of_same (allocMessages_extends session request response) rfl).handle ..
  · refine h.setStream (allocMessages_extends session request response) rfl ?_
    intro d hd
    obtain ⟨old, hold, rfl⟩ := Option.map_eq_some_iff.1 hd
    have hvalid : session.heap.containers.Valid old.headers := h.headers_valid hold
    refine ⟨⟨hvalid, Or.inr ⟨old, hold, rfl⟩⟩, ?_, ?_⟩
    · intro r hr
      cases hr
      exact ⟨Store.valid_alloc_fresh .., Or.inl rfl⟩
    · intro r hr
      cases hr
      exact ⟨response, Store.get?_alloc_fresh .., rfl⟩

lemma Separated.onDataChunkRecvCallback (h : Separated session) (streamId : StreamId)
    (data : Bytes) : Separated (session.onDataChunkRecvCallback streamId data) := by
  unfold HTTP2Session.onDataChunkRecvCallback
  split
  · exact h.of_same ⟨id, Store.valid_update.2, id⟩ rfl
  · exact h

lemma Separated.onStreamCloseCallback (h : Separated session) (streamId : StreamId) :
    Separated (session.onStreamCloseCallback streamId) :=
  h.setStream ⟨id, id, id⟩ rfl (fun _ hd => nomatch hd)

/-- The read callback changes nothing, or the data sources of the entry that it finds. -/
lemma readCallback_cases (session : HTTP2Session P) (streamId : StreamId) (ptr : Addr)
    (length : ℕ) :
    (session.readCallback streamId ptr length).1 = session ∨ ∃ streamInfo dataInfo,
      session.streamsData streamId = some streamInfo ∧
        (session.readCallback streamId ptr length).1 =
          session.setStream streamId (some { streamInfo with dataInfo := dataInfo }) := by
  rw [HTTP2Session.readCallback]
  split
  · exact Or.inl rfl
  · next streamInfo hstream =>
    split
    · exact Or.inl rfl
    · dsimp only
      split
      · exact Or.inl rfl
      · exact Or.inr ⟨streamInfo, _, hstream, rfl⟩

lemma Separated.readCallback (h : Separated session) (streamId : StreamId) (ptr : Addr)
    (length : ℕ) : Separated (session.readCallback streamId ptr length).1 := by
  rcases session.readCallback_cases streamId ptr length with
    hsame | ⟨streamInfo, dataInfo, hold, hread⟩
  · rwa [hsame]
  · rw [hread]
    refine h.setStream (Extends.refl _) rfl ?_
    intro d hd
    cases hd
    exact h.owned_of_same (Extends.refl _) hold rfl rfl rfl

/-- **Every event keeps the streams separated.** -/
theorem Separated.step (h : Separated session) {event : SessionEvent}
    (hstep : session.step event = some session') : Separated session' := by
  cases event with
  | beginHeaders frame =>
    cases hstep
    exact h.onBeginHeadersCallback frame
  | header frame name value =>
    cases hstep
    exact h.onHeaderCallback frame name value
  | frameRecv frame date =>
    cases FrameRecv.of_onFrameRecvCallback hstep with
    | nothing => exact h
    | handed => exact h.handle _ _
    | built => exact h.dispatchRequest ..
  | dataChunk streamId data =>
    cases hstep
    exact h.onDataChunkRecvCallback streamId data
  | streamClose streamId =>
    cases hstep
    exact h.onStreamCloseCallback streamId
  | readCallback streamId ptr length =>
    cases hstep
    exact h.readCallback streamId ptr length
  | sendData call =>
    cases hstep
    exact h.sendData call

end HTTP2Session

end KituraHTTP2
