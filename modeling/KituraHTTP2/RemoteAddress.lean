import KituraHTTP2.BuiltRequest
import KituraHTTP2.HTTP2ConnectionUpgradeFactory

/-!
# The address of the client

A session does not know its client; `remoteAddress` is set by the code that creates it.
`HTTP2SocketProcessorCreator` takes it from the socket.  The upgrade factory takes it from nowhere:
only the initial request, which was received in HTTP/1, brings an address with it.

* `session_of_step` — a connection drives its session by the session's own events.
* `length_handled_of_step` — which events hand a received request to the delegate.
* **`remote_address_iff`** — in which runs every request that is handed over has the address of the
  client.
* `upgraded_client_has_no_address` — the second request of an upgraded connection.
-/

namespace KituraHTTP2

open Machine

variable {P : Platform}

/-! ## Handing a request over -/

namespace HTTP2Session

variable {session session' : HTTP2Session P}

/-- The event ends a request that can be handed over: there is a delegate, and the request and its
response were kept, or the fields of the stream have a URL. -/
def handsOver (session : HTTP2Session P) : SessionEvent → Bool
  | .frameRecv frame _ =>
    session.delegate && frame.endStream && session.streamUserData frame.streamId &&
      (session.streamsData frame.streamId).any fun sData =>
        match frame.type with
        | .data => (sData.request.bind session.heap.requests.get?).isSome &&
            (sData.response.bind session.heap.responses.get?).isSome
        | .headers => frame.endHeaders && (session.heap.containers.get? sData.headers).isSome &&
            (sData.requestPath.bind fun requestPath =>
              (requestComponents requestPath sData.scheme sData.authority).bind P.url).isSome
        | _ => false
  | _ => false

lemma length_handled_handle (session : HTTP2Session P) (request response : Ref) :
    (session.handle request response).handled.length = session.handled.length +
      (session.delegate && (session.heap.requests.get? request).isSome &&
        (session.heap.responses.get? response).isSome).toNat := by
  simp only [handle]
  rcases session.delegate with _ | _
  · rfl
  · rcases session.heap.requests.get? request with _ | request
    · rfl
    · rcases session.heap.responses.get? response with _ | response
      · rfl
      · exact List.length_append

/-- The DATA frame that ends a request hands over what was kept. -/
lemma length_handled_onDataFrameRecv {frame : Frame} (htype : frame.type = .data)
    (date : String) : (session.onDataFrameRecv frame).handled.length =
      session.handled.length + (session.handsOver (.frameRecv frame date)).toNat := by
  simp only [onDataFrameRecv, handsOver, htype]
  rcases frame.endStream with _ | _
  · simp
  · rcases session.streamUserData frame.streamId with _ | _
    · simp
    · rcases session.streamsData frame.streamId with _ | sData
      · simp
      · rcases hrequest : sData.request with _ | request
        · simp [hrequest]
        · rcases hresponse : sData.response with _ | response
          · simp [hrequest, hresponse]
          · simp [hrequest, hresponse, length_handled_handle, Bool.and_assoc]

lemma length_handled_dispatchRequest (frame : Frame) (request : HTTP2ServerRequest P)
    (date : String) : (session.dispatchRequest frame request date).handled.length =
      session.handled.length + (session.delegate && frame.endStream).toNat := by
  simp only [dispatchRequest]
  rcases frame.endStream with _ | _
  · simp [setStream, allocMessages]
  · simp [length_handled_handle, allocMessages]

/-- The HEADERS frame that ends a request hands over what it builds. -/
lemma length_handled_onHeadersFrameRecv {frame : Frame} (htype : frame.type = .headers)
    {date : String} (hstep : session.onHeadersFrameRecv frame date = some session') :
    session'.handled.length =
      session.handled.length + (session.handsOver (.frameRecv frame date)).toNat := by
  simp only [onHeadersFrameRecv] at hstep
  simp only [handsOver, htype]
  rcases hheaders : frame.endHeaders with _ | _
  · rw [hheaders, if_pos (Or.inl rfl)] at hstep
    cases hstep
    simp
  · rcases huser : session.streamUserData frame.streamId with _ | _
    · rw [huser, if_pos (Or.inr rfl)] at hstep
      cases hstep
      simp
    · rw [hheaders, huser, if_neg (by simp)] at hstep
      rcases hstream : session.streamsData frame.streamId with _ | sData
      · rw [hstream] at hstep
        cases hstep
        simp
      · rw [hstream] at hstep
        simp only at hstep
        rcases hpath : sData.requestPath with _ | requestPath
        · rw [hpath] at hstep
          cases hstep
          simp [hpath]
        · rw [hpath] at hstep
          rcases Option.map_eq_some_iff.1 hstep with ⟨components, hcomponents, rfl⟩
          rcases hurl : P.url components with _ | url
          · simp [hpath, hcomponents, hurl]
          · rcases hget : session.heap.containers.get? sData.headers with _ | headers
            · simp [hget]
            · simp [hpath, hcomponents, hurl, hget, length_handled_dispatchRequest]

/-- **Which events hand a received request to the delegate**: one request, or none. -/
theorem length_handled_of_step {event : SessionEvent} (hstep : session.step event = some session') :
    session'.handled.length = session.handled.length + (session.handsOver event).toNat := by
  cases event with
  | beginHeaders frame =>
    cases hstep
    simp only [onBeginHeadersCallback]
    split_ifs <;> rfl
  | header frame name value =>
    cases hstep
    simp only [onHeaderCallback]
    split_ifs
    · rfl
    · split <;> rfl
  | frameRecv frame date =>
    rw [show session.step _ = session.onFrameRecvCallback frame date from rfl,
      onFrameRecvCallback] at hstep
    split at hstep
    · next htype =>
      cases hstep
      exact length_handled_onDataFrameRecv htype date
    · next htype => exact length_handled_onHeadersFrameRecv htype hstep
    · next hdata hheaders =>
      cases hstep
      have hnone : session.handsOver (.frameRecv frame date) = false := by
        simp only [handsOver]
        rcases session.streamsData frame.streamId with _ | sData
        · simp
        · simp
      rw [hnone]
      rfl
  | dataChunk streamId data =>
    cases hstep
    simp only [onDataChunkRecvCallback]
    split <;> rfl
  | streamClose streamId =>
    cases hstep
    rfl
  | readCallback streamId ptr length =>
    cases hstep
    rcases session.readCallback_cases streamId ptr length with
      hsame | ⟨streamInfo, dataInfo, -, hread⟩
    · rw [hsame]
      rfl
    · rw [hread]
      rfl
  | sendData call =>
    cases hstep
    rfl

lemma KeepsAddress.refl (session : HTTP2Session P) : KeepsAddress session session :=
  .of_same rfl rfl rfl rfl

lemma KeepsAddress.run {events : List SessionEvent}
    (hrun : Machine.run HTTP2Session.step session events = some session') :
    KeepsAddress session session' := by
  have hstep : ∀ (mid : HTTP2Session P) (event : SessionEvent) (mid' : HTTP2Session P),
      KeepsAddress session mid → mid.step event = some mid' → KeepsAddress session mid' :=
    fun _ _ _ h hstep => h.trans (.step hstep)
  exact run_preserves hstep (.refl session) hrun

/-- Where no frame is received, nothing is handed over. -/
lemma length_handled_of_run {events : List SessionEvent}
    (hevents : ∀ event ∈ events, ∀ frame date, event ≠ .frameRecv frame date)
    (hrun : Machine.run HTTP2Session.step session events = some session') :
    session'.handled.length = session.handled.length := by
  induction events generalizing session with
  | nil =>
    cases hrun
    rfl
  | cons event events ih =>
    rw [List.forall_mem_cons] at hevents
    rcases run_cons_eq_some.1 hrun with ⟨mid, hstep, hrest⟩
    have hnone : session.handsOver event = false := by
      cases event with
      | frameRecv frame date => exact absurd rfl (hevents.1 frame date)
      | _ => rfl
    rw [ih hevents.2 hrest, length_handled_of_step hstep, hnone]
    rfl

/-- `sendInitialRequestData` -/
def sendInitialRequestData (session : HTTP2Session P) (date : String) : HTTP2Session P :=
  match session.initialRequest with
  | some request =>
    let response := HTTP2ServerResponse.new P 1 date
    if session.delegate then { session with handled := session.handled ++ [⟨request, response⟩] }
    else session
  | none => session

/-- It hands over the initial request, or nothing. -/
lemma sendInitialRequestData_eq (session : HTTP2Session P) (date : String) :
    ∃ calls, session.sendInitialRequestData date =
        { session with handled := session.handled ++ calls } ∧
      ∀ call ∈ calls, session.initialRequest = some call.request := by
  simp only [sendInitialRequestData]
  rcases hinitial : session.initialRequest with _ | request
  · exact ⟨[], by simp [← hinitial], by simp⟩
  · split_ifs
    · exact ⟨[⟨request, HTTP2ServerResponse.new P 1 date⟩], by simp [← hinitial], by simp⟩
    · exact ⟨[], by simp [← hinitial], by simp⟩

end HTTP2Session

/-! ## The session of a connection -/

namespace Connection

variable {connection connection' : Connection P} {event : ConnectionEvent} {streamId : StreamId}

/-- The event ends a request that can be handed over. -/
def handsOver (connection : Connection P) : ConnectionEvent → Bool
  | .callback event => connection.session.handsOver event
  | _ => false

lemma session_advance (nghttp2 : Nghttp2.Session DataSource) :
    ∃ events, run HTTP2Session.step connection.session events =
        some (connection.advance streamId nghttp2).session ∧
      ∀ event ∈ events, ∀ frame date, event ≠ SessionEvent.frameRecv frame date := by
  rw [advance]
  dsimp only
  split_ifs
  · exact ⟨[.streamClose streamId], rfl, by simp⟩
  · exact ⟨[], rfl, by simp⟩

lemma session_sendDataFrame (hframe : connection.sendDataFrame streamId = some connection') :
    ∃ events, run HTTP2Session.step connection.session events = some connection'.session ∧
      ∀ event ∈ events, ∀ frame date, event ≠ SessionEvent.frameRecv frame date := by
  rcases Option.map_eq_some_iff.1 hframe with ⟨prep, -, rfl⟩
  rcases prep with nghttp2 | nghttp2 | ⟨source, readmax⟩
  · exact ⟨[], rfl, by simp⟩
  · exact ⟨[], rfl, by simp⟩
  · have hread : connection.session.step (.readCallback streamId source.ptr readmax) =
        some (connection.session.readCallback streamId source.ptr readmax).1 := rfl
    simp only [readData]
    split
    · next session result hresult =>
      rw [hresult] at hread
      rcases @session_advance P { connection with session := session, copied := _ } streamId _ with
        ⟨events, hrun, hevents⟩
      refine ⟨.readCallback streamId source.ptr readmax :: events,
        run_cons_eq_some.2 ⟨session, hread, hrun⟩, ?_⟩
      exact List.forall_mem_cons.2 ⟨by simp, hevents⟩
    · next session hresult =>
      rw [hresult] at hread
      exact ⟨[.readCallback streamId source.ptr readmax],
        run_cons_eq_some.2 ⟨session, hread, rfl⟩, by simp⟩

/-- **A connection drives its session by the session's own events**, of which only a callback for
received data can be a received frame. -/
theorem session_of_step (hstep : connection.step event = some connection') :
    (∃ e, event = .callback e ∧ connection.session.step e = some connection'.session) ∨
    (∀ e, event ≠ .callback e) ∧ ∃ events,
      run HTTP2Session.step connection.session events = some connection'.session ∧
        ∀ e ∈ events, ∀ frame date, e ≠ SessionEvent.frameRecv frame date := by
  by_cases hcallback : ∃ e, event = .callback e
  · rcases hcallback with ⟨e, rfl⟩
    rcases Option.ite_none_left_eq_some.1 hstep with ⟨-, hmap⟩
    rcases Option.map_eq_some_iff.1 hmap with ⟨session, hsession, rfl⟩
    exact Or.inl ⟨e, rfl, hsession⟩
  · rw [not_exists] at hcallback
    refine Or.inr ⟨hcallback, ?_⟩
    cases Step.of_step hstep with
    | callback => exact absurd rfl (hcallback _)
    | @requestHeaders frame _ idle hopen => exact ⟨[.beginHeaders frame], rfl, by simp⟩
    | endStream idle => exact session_advance _
    | closeStream => exact session_advance _
    | sameItems idle hsame => exact ⟨[], rfl, by simp⟩
    | @sendData streamId data headers ptr idle hptr =>
      rw [Connection.sendData]
      split
      · exact ⟨[.sendData ⟨streamId, data, headers, ptr, true⟩], rfl, by simp⟩
      · exact ⟨[.sendData ⟨streamId, data, headers, ptr, false⟩], rfl, by simp⟩
    | sendHeaders hsend => exact ⟨[], rfl, by simp⟩
    | sendDataFrame hframe => exact session_sendDataFrame hframe
    | sendDataReturn hcall hdone => exact ⟨[], rfl, by simp⟩
    | store hptr => exact ⟨[], rfl, by simp⟩

lemma keepsAddress_of_step (hstep : connection.step event = some connection') :
    HTTP2Session.KeepsAddress connection.session connection'.session := by
  rcases session_of_step hstep with ⟨e, -, hsession⟩ | ⟨-, events, hrun, -⟩
  · exact .step hsession
  · exact .run hrun

lemma length_handled_of_step (hstep : connection.step event = some connection') :
    connection'.session.handled.length =
      connection.session.handled.length + (connection.handsOver event).toNat := by
  rcases session_of_step hstep with ⟨e, rfl, hsession⟩ | ⟨hevent, events, hrun, hevents⟩
  · exact HTTP2Session.length_handled_of_step hsession
  · have hnone : connection.handsOver event = false := by
      cases event with
      | callback e => exact absurd rfl (hevent e)
      | _ => rfl
    rw [HTTP2Session.length_handled_of_run hevents hrun, hnone]
    rfl

end Connection

/-! ## A processor and how it began -/

/-- `createIncomingSocketProcessor` -/
def createIncomingSocketProcessor (P : Platform) (delegate : Bool) (remoteHostname : String) :
    HTTP2SocketProcessor P where
  http2Session := Connection.new P (some remoteHostname) delegate none
  http1Upgrade := false

/-- What can happen to a processor: its `handler` is set, to `nil` or to a handler, or something
happens on its connection. -/
inductive ProcessorEvent where
  | setHandler (isSome : Bool) (date : String)
  | connection (event : ConnectionEvent)
deriving DecidableEq, Repr

namespace HTTP2SocketProcessor

/-- One event.  The SETTINGS that are sent to a new handler wait in a queue that is not modelled. -/
def step (processor : HTTP2SocketProcessor P) : ProcessorEvent → Option (HTTP2SocketProcessor P)
  | .setHandler isSome date =>
    if isSome && processor.http1Upgrade then some { processor with
      http2Session.session := processor.http2Session.session.sendInitialRequestData date }
    else some processor
  | .connection event => (processor.http2Session.step event).map fun connection =>
      { processor with http2Session := connection }

/-- The requests that were handed to the delegate. -/
def handled (processor : HTTP2SocketProcessor P) : List (HandleCall P) :=
  processor.http2Session.session.handled

/-- The event ends a received request that can be handed over. -/
def handsOver (processor : HTTP2SocketProcessor P) : ProcessorEvent → Bool
  | .connection event => processor.http2Session.handsOver event
  | .setHandler _ _ => false

end HTTP2SocketProcessor

/-- How a connection in HTTP/2 begins. -/
inductive Origin (P : Platform) where
  /-- a TLS socket, for whose client ALPN has chosen HTTP/2 -/
  | socket (remoteHostname : String)
  /-- a request in HTTP/1 for an upgrade, and the response to it -/
  | upgradeRequest (request : ServerRequest P) (response : ServerResponse)

namespace Origin

/-- The address of the client. -/
def peer : Origin P → String
  | .socket remoteHostname => remoteHostname
  | .upgradeRequest request _ => request.remoteAddress

/-- The processor that is created, if any. -/
def processor (delegate : Bool) : Origin P → Option (HTTP2SocketProcessor P)
  | .socket remoteHostname => some (createIncomingSocketProcessor P delegate remoteHostname)
  | .upgradeRequest request response => (upgrade delegate request response).processor

/-- What the creating code assigns to `remoteAddress`. -/
def remoteAddress : Origin P → Option String
  | .socket remoteHostname => some remoteHostname
  | .upgradeRequest _ _ => none

/-- The session has the address of the client where it was created for a socket,
or where the client has none. -/
lemma remoteAddress_eq_peer_iff {origin : Origin P} :
    origin.remoteAddress.getD "" = origin.peer ↔
      (∃ remoteHostname, origin = .socket remoteHostname) ∨ origin.peer = "" := by
  cases origin with
  | socket remoteHostname => exact iff_of_true rfl (Or.inl ⟨remoteHostname, rfl⟩)
  | upgradeRequest request response =>
    constructor
    · intro hknown
      exact Or.inr hknown.symm
    · rintro (⟨remoteHostname, hsocket⟩ | hpeer)
      · cases hsocket
      · exact hpeer.symm

end Origin

/-! ## The addresses of the requests -/

namespace HTTP2SocketProcessor

variable {origin : Origin P} {processor processor' : HTTP2SocketProcessor P}
  {event : ProcessorEvent}

/-- Requests have the address that was assigned to the session; the initial request has its own. -/
structure AddressInv (origin : Origin P) (processor : HTTP2SocketProcessor P) : Prop where
  remoteAddress : processor.http2Session.session.remoteAddress = origin.remoteAddress
  addressed : processor.http2Session.session.Addressed
  initialRequest : ∀ request, processor.http2Session.session.initialRequest = some request →
    request.remoteAddress = origin.peer

/-- **What is asked of a run.** -/
def AllFromPeer (origin : Origin P) (processor : HTTP2SocketProcessor P) : Prop :=
  ∀ call ∈ processor.handled, call.request.remoteAddress = origin.peer

/-- What an event hands over: the initial request, a received request, or nothing. -/
lemma AddressInv.step (h : AddressInv origin processor)
    (hstep : processor.step event = some processor') : AddressInv origin processor' ∧
      ∃ calls, processor'.handled = processor.handled ++ calls ∧
        (processor.handsOver event = false →
          ∀ call ∈ calls, call.request.remoteAddress = origin.peer) ∧
        (processor.handsOver event = true → calls ≠ [] ∧
          ∀ call ∈ calls, call.request.remoteAddress = origin.remoteAddress.getD "") := by
  cases event with
  | setHandler isSome date =>
    rcases ite_eq_iff.1 hstep with ⟨-, hsome⟩ | ⟨-, hsome⟩
    · cases hsome
      rcases processor.http2Session.session.sendInitialRequestData_eq date with
        ⟨calls, hsession, hcalls⟩
      rw [hsession]
      refine ⟨⟨h.remoteAddress, h.addressed, h.initialRequest⟩, calls, rfl, ?_, ?_⟩
      · exact fun _ call hcall => h.initialRequest _ (hcalls call hcall)
      · exact fun hnone => absurd hnone Bool.false_ne_true
    · cases hsome
      refine ⟨h, [], (List.append_nil _).symm, ?_, ?_⟩
      · exact fun _ call hcall => absurd hcall List.not_mem_nil
      · exact fun hnone => absurd hnone Bool.false_ne_true
  | connection event =>
    rcases Option.map_eq_some_iff.1 hstep with ⟨connection, hconnection, rfl⟩
    have hkeeps := Connection.keepsAddress_of_step hconnection
    have hlength := Connection.length_handled_of_step hconnection
    rcases hkeeps.handled with ⟨calls, hcalls, haddress⟩
    rw [hcalls, List.length_append, Nat.add_left_cancel_iff] at hlength
    refine ⟨⟨hkeeps.remoteAddress.trans h.remoteAddress, hkeeps.addressed h.addressed, ?_⟩,
      calls, hcalls, ?_, ?_⟩
    · rw [hkeeps.initialRequest]
      exact h.initialRequest
    · intro hnone call hcall
      have hnone' : processor.http2Session.handsOver event = false := hnone
      rw [hnone'] at hlength
      exact absurd hcall (List.length_eq_zero_iff.1 hlength ▸ List.not_mem_nil)
    · intro hover
      have hover' : processor.http2Session.handsOver event = true := hover
      rw [hover'] at hlength
      refine ⟨?_, ?_⟩
      · rintro rfl
        exact absurd hlength Nat.zero_ne_one
      · rw [← h.remoteAddress]
        exact haddress h.addressed

lemma AllFromPeer.append {calls : List (HandleCall P)}
    (hcalls : processor'.handled = processor.handled ++ calls) :
    AllFromPeer origin processor' ↔ AllFromPeer origin processor ∧
      ∀ call ∈ calls, call.request.remoteAddress = origin.peer := by
  rw [AllFromPeer, hcalls]
  exact List.forall_mem_append

/-- The processor that the factory returns. -/
lemma upgrade_processor {delegate : Bool} {request : ServerRequest P} {response : ServerResponse}
    (h : (upgrade delegate request response).processor = some processor) :
    ∃ settings, processor =
      ⟨Connection.new P none delegate (some ⟨settings, some request⟩), true⟩ := by
  rw [upgrade] at h
  split at h
  · exact absurd h.symm (Option.some_ne_none _)
  · split at h
    · exact absurd h.symm (Option.some_ne_none _)
    · split at h
      · exact absurd h.symm (Option.some_ne_none _)
      · next decodedSettings _ =>
        exact ⟨decodedSettings, (Option.some.inj h).symm⟩

lemma addressInv_start {delegate : Bool} (hstart : origin.processor delegate = some processor) :
    AddressInv origin processor ∧ processor.handled = [] := by
  have hnone : ∀ (remoteAddress : Option String) (upgrade : Option (Upgrade P)),
      (Connection.new P remoteAddress delegate upgrade).session.Addressed := by
    intro remoteAddress upgrade r request hget
    exact absurd hget.symm (Option.some_ne_none request)
  cases origin with
  | socket remoteHostname =>
    cases hstart
    exact ⟨⟨rfl, hnone _ _, fun request hrequest => absurd hrequest.symm (Option.some_ne_none _)⟩,
      rfl⟩
  | upgradeRequest request response =>
    rcases upgrade_processor hstart with ⟨settings, rfl⟩
    refine ⟨⟨rfl, hnone _ _, ?_⟩, rfl⟩
    intro initialRequest hinitial
    cases hinitial
    rfl

/-- Where the session has the address, received requests have it too, whatever is received. -/
lemma AddressInv.allFromPeer_run {events : List ProcessorEvent} (h : AddressInv origin processor)
    (hall : AllFromPeer origin processor) (hknown : origin.remoteAddress.getD "" = origin.peer)
    (hrun : run HTTP2SocketProcessor.step processor events = some processor') :
    AllFromPeer origin processor' := by
  have hstep : ∀ (mid : HTTP2SocketProcessor P) event mid',
      (AddressInv origin mid ∧ AllFromPeer origin mid) → mid.step event = some mid' →
      AddressInv origin mid' ∧ AllFromPeer origin mid' := by
    rintro mid event mid' ⟨hmid, hfrom⟩ hstep
    rcases hmid.step hstep with ⟨hmid', calls, hcalls, hother, hover⟩
    refine ⟨hmid', (AllFromPeer.append hcalls).2 ⟨hfrom, ?_⟩⟩
    rcases hhands : mid.handsOver event with _ | _
    · exact hother hhands
    · exact hknown ▸ (hover hhands).2
  exact (run_preserves hstep ⟨h, hall⟩ hrun).2

/-- Where it does not, a received request has the empty address, and once handed over it stays so.
-/
lemma AddressInv.allFromPeer_iff {events : List ProcessorEvent} (h : AddressInv origin processor)
    (hall : AllFromPeer origin processor) (hunknown : origin.remoteAddress.getD "" ≠ origin.peer)
    (hrun : run HTTP2SocketProcessor.step processor events = some processor') :
    AllFromPeer origin processor' ↔
      Along HTTP2SocketProcessor.step (fun processor event => processor.handsOver event = false)
        processor events := by
  have hdecides := run_good_or_bad
    (fun mid => AddressInv origin mid ∧ AllFromPeer origin mid)
    (fun mid => AddressInv origin mid ∧ ¬ AllFromPeer origin mid)
    (P := fun mid event => mid.handsOver event = false) ?_ ?_ ?_ ⟨h, hall⟩ hrun
  · rcases hdecides with ⟨halong, -, hfrom⟩ | ⟨hnot, -, hfrom⟩
    · exact iff_of_true hfrom halong
    · exact iff_of_false hfrom hnot
  · rintro mid event mid' ⟨hmid, hfrom⟩ hhands hstep
    rcases hmid.step hstep with ⟨hmid', calls, hcalls, hsame, -⟩
    exact ⟨hmid', (AllFromPeer.append hcalls).2 ⟨hfrom, hsame hhands⟩⟩
  · rintro mid event mid' ⟨hmid, -⟩ hhands hstep
    rw [Bool.not_eq_false] at hhands
    rcases hmid.step hstep with ⟨hmid', calls, hcalls, -, hover⟩
    refine ⟨hmid', ?_⟩
    intro hfrom
    rcases List.exists_mem_of_ne_nil calls (hover hhands).1 with ⟨call, hcall⟩
    have haddress := ((AllFromPeer.append hcalls).1 hfrom).2 call hcall
    exact hunknown (((hover hhands).2 call hcall).symm.trans haddress)
  · rintro mid event mid' ⟨hmid, hfrom⟩ hstep
    rcases hmid.step hstep with ⟨hmid', calls, hcalls, -, -⟩
    exact ⟨hmid', fun hfrom' => hfrom ((AllFromPeer.append hcalls).1 hfrom').1⟩

/-- **When every request has the address of the client.**  For a connection that was created for a
socket, or by an upgrade, and every run of its processor: exactly when it was created for a socket,
or the address of the client is empty, or no event of the run ends a received request that can be
handed over. -/
theorem remote_address_iff {delegate : Bool} {events : List ProcessorEvent}
    (hstart : origin.processor delegate = some processor)
    (hrun : run HTTP2SocketProcessor.step processor events = some processor') :
    AllFromPeer origin processor' ↔ (∃ remoteHostname, origin = .socket remoteHostname) ∨
      origin.peer = "" ∨
      Along HTTP2SocketProcessor.step (fun processor event => processor.handsOver event = false)
        processor events := by
  rcases addressInv_start hstart with ⟨hinv, hempty⟩
  have hall : AllFromPeer origin processor := by
    intro call hcall
    rw [hempty] at hcall
    exact absurd hcall List.not_mem_nil
  rw [← or_assoc, ← Origin.remoteAddress_eq_peer_iff]
  by_cases hknown : origin.remoteAddress.getD "" = origin.peer
  · exact iff_of_true (hinv.allFromPeer_run hall hknown hrun) (Or.inl hknown)
  · rw [or_iff_right hknown]
    exact hinv.allFromPeer_iff hall hknown hrun

/-- The handler is set, and a request for `/` arrives on the stream. -/
def requestOn (streamId : StreamId) : List ProcessorEvent :=
  let frame : Frame := { type := .headers, flags := 0x5, streamId := streamId, cat := .request }
  .setHandler true "today" :: .connection (.requestHeaders frame) ::
    (getFields.map fun field => .connection (.callback (.header frame field.1 field.2))) ++
    [.connection (.callback (.frameRecv frame "today"))]

theorem remote_address_socket : ∃ processor : HTTP2SocketProcessor Platform.basic,
    run HTTP2SocketProcessor.step
      (createIncomingSocketProcessor Platform.basic true "192.0.2.7") (requestOn 1) =
        some processor ∧ processor.handled.length = 1 ∧
      AllFromPeer (.socket "192.0.2.7") processor := by
  have hcount : (run HTTP2SocketProcessor.step
      (createIncomingSocketProcessor Platform.basic true "192.0.2.7") (requestOn 1)).map
        (fun processor => processor.handled.length) = some 1 := by decide
  rcases Option.map_eq_some_iff.1 hcount with ⟨processor, hrun, hlength⟩
  have hstart : Origin.processor true (.socket "192.0.2.7") =
      some (createIncomingSocketProcessor Platform.basic true "192.0.2.7") := rfl
  exact ⟨processor, hrun, hlength, (remote_address_iff hstart hrun).2 (Or.inl ⟨_, rfl⟩)⟩

/-- The initial request of an upgraded connection. -/
def initialUpgrade : Origin Platform.basic :=
  .upgradeRequest (upgradeRequest "AAMAAABkAAQ_____") ⟨some 200⟩

/-- **An upgraded client has no address.**  Of the initial request and a request that follows it on
the same connection, the first has the address of the client, and the second has none. -/
theorem upgraded_client_has_no_address : ∃ processor processor',
    initialUpgrade.processor true = some processor ∧
    run HTTP2SocketProcessor.step processor (requestOn 3) = some processor' ∧
    processor'.handled.map (fun call => call.request.remoteAddress) = ["127.0.0.1", ""] ∧
    ¬ AllFromPeer initialUpgrade processor' := by
  have haddresses : ((initialUpgrade.processor true).bind fun processor =>
      run HTTP2SocketProcessor.step processor (requestOn 3)).map (fun processor =>
        processor.handled.map fun call => call.request.remoteAddress) =
      some ["127.0.0.1", ""] := by decide
  rcases Option.map_eq_some_iff.1 haddresses with ⟨processor', hbind, haddress⟩
  rcases Option.bind_eq_some_iff.1 hbind with ⟨processor, hstart, hrun⟩
  refine ⟨processor, processor', hstart, hrun, haddress, ?_⟩
  intro hfrom
  have hsecond : "" ∈ processor'.handled.map fun call => call.request.remoteAddress := by
    rw [haddress]
    decide
  rcases List.mem_map.1 hsecond with ⟨call, hcall, hempty⟩
  exact absurd (hempty.symm.trans (hfrom call hcall)) (by decide)

end HTTP2SocketProcessor

end KituraHTTP2
