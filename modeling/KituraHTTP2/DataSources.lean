import KituraHTTP2.Connection
import KituraHTTP2.Nghttp2.Attached
import KituraHTTP2.Separation
import KituraHTTP2.Lib.Machine

/-!
# Pending data sources and the table of the session

nghttp2 keeps the source of every response it has not finished, and asks for its data by the stream
and the pointer; the session answers from `streamsData[streamId].dataInfo[ptr]`, and a missing entry
makes the read callback return `-1`, which ends the sending of the whole connection.

`sendData` replaces the whole `StreamData` of the stream.  So a second `sendData` for a stream whose
first response is not finished (the flow control has deferred it) takes the entry of the first away.

* `SourcesInv` — the entries are there, as long as no `sendData` comes while a source of the same
  stream is attached (`SendsOnce`).
* **`sources_stay_registered`** — the invariant over every run.
* `second_send_loses_the_first` — two responses on one stream, with a window of two bytes.
-/

namespace KituraHTTP2

variable {P : Platform}

/-! ## The entries of the table -/

namespace HTTP2Session

variable {session session' : HTTP2Session P} {streamId s : StreamId} {ptr : Addr} {info : DataInfo}

/-- `streamsData[streamId]?.dataInfo[ptr]` -/
def dataInfo (session : HTTP2Session P) (streamId : StreamId) (ptr : Addr) : Option DataInfo :=
  (session.streamsData streamId).bind fun streamData => streamData.dataInfo ptr

lemma dataInfo_congr (h : session'.streamsData s = session.streamsData s) :
    session'.dataInfo s = session.dataInfo s := by
  funext ptr
  unfold dataInfo
  rw [h]

lemma dataInfo_setStream_of_ne (hne : s ≠ streamId) (streamData : Option StreamData) :
    (session.setStream streamId streamData).dataInfo s = session.dataInfo s :=
  dataInfo_congr (Function.update_of_ne hne ..)

/-- The same streams have entries, with the same data sources. -/
def SameSources (session session' : HTTP2Session P) : Prop :=
  ∀ s, (session'.streamsData s).map StreamData.dataInfo =
    (session.streamsData s).map StreamData.dataInfo

lemma SameSources.of_streamsData (h : session'.streamsData = session.streamsData) :
    SameSources session session' := by
  intro s
  rw [h]

lemma SameSources.dataInfo (h : SameSources session session') (s : StreamId) :
    session'.dataInfo s = session.dataInfo s := by
  funext ptr
  have hsame := congrArg (Option.bind · fun dataInfo => dataInfo ptr) (h s)
  simpa [HTTP2Session.dataInfo, Option.bind_map, Function.comp_def] using hsame

lemma SameSources.isSome (h : SameSources session session') (s : StreamId) :
    (session'.streamsData s).isSome = (session.streamsData s).isSome := by
  rw [← Option.isSome_map (f := StreamData.dataInfo), h s, Option.isSome_map]

/-- Writing a `StreamData` back with the same `dataInfo` changes no entry. -/
lemma SameSources.setStream_map {f : StreamData → StreamData}
    (hf : ∀ streamData, (f streamData).dataInfo = streamData.dataInfo) :
    SameSources session
      (session.setStream streamId ((session.streamsData streamId).map f)) := by
  intro s
  by_cases hs : s = streamId
  · subst hs
    simp [HTTP2Session.setStream, Option.map_map, Function.comp_def, hf]
  · exact congrArg (Option.map _) (Function.update_of_ne hs ..)

lemma SameSources.handle (session : HTTP2Session P) (request response : Ref) :
    SameSources session (session.handle request response) :=
  .of_streamsData (handle_streamsData ..)

lemma receiveHeader_dataInfo (nameStr valueStr : String) (streamData : StreamData)
    (containers : Store P.HeadersContainer) :
    (receiveHeader P nameStr valueStr streamData containers).1.dataInfo = streamData.dataInfo := by
  unfold receiveHeader
  split_ifs <;> rfl

lemma SameSources.onHeaderCallback (session : HTTP2Session P) (frame : Frame)
    (name value : Bytes) : SameSources session (session.onHeaderCallback frame name value) := by
  rw [HTTP2Session.onHeaderCallback]
  split
  · exact .of_streamsData rfl
  · split
    case h_1 nameStr valueStr streamData _ _ hdata =>
      have hmap : SameSources session (session.setStream frame.streamId
          ((session.streamsData frame.streamId).map
            fun d => (receiveHeader P nameStr valueStr d session.heap.containers).1)) :=
        .setStream_map fun d => receiveHeader_dataInfo nameStr valueStr d _
      rw [hdata] at hmap
      exact hmap
    case h_2 => exact .of_streamsData rfl

lemma SameSources.dispatchRequest (session : HTTP2Session P) (frame : Frame)
    (request : HTTP2ServerRequest P) (date : String) :
    SameSources session (session.dispatchRequest frame request date) := by
  have halloc : ∀ (request : HTTP2ServerRequest P) (response : HTTP2ServerResponse P),
      (session.allocMessages request response).streamsData = session.streamsData :=
    fun _ _ => rfl
  rw [HTTP2Session.dispatchRequest]
  split
  · exact .of_streamsData ((handle_streamsData ..).trans (halloc _ _))
  · exact .setStream_map fun _ => rfl

lemma SameSources.onFrameRecvCallback {frame : Frame} {date : String}
    (h : session.onFrameRecvCallback frame date = some session') :
    SameSources session session' := by
  cases FrameRecv.of_onFrameRecvCallback h with
  | nothing => exact .of_streamsData rfl
  | handed => exact .handle session _ _
  | built => exact .dispatchRequest session frame _ date

/-- The callbacks for received data leave the data sources alone. -/
lemma SameSources.receive {event : SessionEvent} (hevent : event.isReceive = true)
    (h : session.step event = some session') : SameSources session session' := by
  cases event with
  | header frame name value =>
    cases h
    exact .onHeaderCallback session frame name value
  | frameRecv frame date => exact .onFrameRecvCallback h
  | dataChunk streamId data =>
    cases h
    unfold onDataChunkRecvCallback
    split <;> exact .of_streamsData rfl
  | beginHeaders frame => cases hevent
  | streamClose streamId => cases hevent
  | readCallback streamId ptr length => cases hevent
  | sendData call => cases hevent

lemma dataInfo_onBeginHeadersCallback {frame : Frame} (hne : s ≠ frame.streamId) :
    (session.onBeginHeadersCallback frame).dataInfo s = session.dataInfo s := by
  unfold onBeginHeadersCallback
  split
  · rfl
  · exact dataInfo_congr (Function.update_of_ne hne ..)

lemma dataInfo_onStreamCloseCallback (hne : s ≠ streamId) :
    (session.onStreamCloseCallback streamId).dataInfo s = session.dataInfo s :=
  dataInfo_congr (Function.update_of_ne hne ..)

lemma dataInfo_sendData_of_ne {call : Submission} (hne : s ≠ call.streamId) :
    (session.sendData call).dataInfo s = session.dataInfo s :=
  dataInfo_congr (Function.update_of_ne hne ..)

/-- After `sendData`, the stream has one entry, at the start of the data. -/
lemma dataInfo_sendData_self (call : Submission) :
    (session.sendData call).dataInfo call.streamId call.ptr =
      some ⟨call.data.length, 0, Nat.zero_le _⟩ := by
  unfold dataInfo sendData setStream
  simp

/-- A read callback that finds its entry: it answers from the entry, moves its offset on unless it
sets the EOF flag, and changes no other entry. -/
lemma readCallback_of_entry (hentry : session.dataInfo streamId ptr = some info) (length : ℕ) :
    ∃ session', session.readCallback streamId ptr length = (session', some (info.read length)) ∧
      (∀ s, s ≠ streamId → session'.dataInfo s = session.dataInfo s) ∧
      ((info.read length).eof = false →
        session'.dataInfo streamId ptr = some (info.advance length)) := by
  obtain ⟨streamInfo, hstream, hinfo⟩ := Option.bind_eq_some_iff.1 hentry
  unfold readCallback
  rw [hstream]
  dsimp only
  rw [hinfo]
  dsimp only
  by_cases heof : (info.read length).eof = true
  · rw [if_pos heof]
    exact ⟨session, rfl, fun _ _ => rfl, fun hfalse => by rw [heof] at hfalse; cases hfalse⟩
  · rw [if_neg heof]
    refine ⟨_, rfl, fun s hs => dataInfo_setStream_of_ne hs _, fun _ => ?_⟩
    unfold dataInfo setStream
    simp

end HTTP2Session

/-! ## The invariant -/

/-- The data of the submission that was not handed out yet. -/
def DataSource.rest (source : DataSource) : Bytes := source.body.drop source.handedOut

namespace Connection

variable {connection connection' : Connection P} {streamId s : StreamId} {source : DataSource}

/-- The table has the entry of the source, which counts what is left of it. -/
def HasEntry (connection : Connection P) (streamId : StreamId) (source : DataSource) : Prop :=
  ∃ info, connection.session.dataInfo streamId source.ptr = some info ∧
    info.offset ≤ info.length ∧ info.length - info.offset = source.rest.length

/-- **What is asked of every state.**  Each source that is attached to an open stream has its entry,
and no call of the read callback has returned `-1`. -/
structure SourcesRegistered (connection : Connection P) : Prop where
  entry : ∀ streamId source, connection.nghttp2.Attached streamId source →
    connection.HasEntry streamId source
  not_failed : connection.callbackFailures = 0

/-- The condition on the calls of `sendData`: no source is attached to the stream any more. -/
def SendsOnce (connection : Connection P) : ConnectionEvent → Prop
  | .sendData streamId _ _ _ => connection.nghttp2.sources streamId = []
  | _ => True

instance (connection : Connection P) (event : ConnectionEvent) :
    Decidable (connection.SendsOnce event) := by
  unfold SendsOnce
  split <;> infer_instance

/-- The entry of a source holds its length and how much of it was handed out. -/
def Registered (connection : Connection P) (streamId : StreamId) (source : DataSource) : Prop :=
  ∃ info, connection.session.dataInfo streamId source.ptr = some info ∧
    info.length = source.body.length ∧ info.offset = source.handedOut

structure SourcesInv (connection : Connection P) : Prop where
  /-- HEADERS wait only while a `sendData` runs -/
  idle : connection.sending = none → connection.nghttp2.obReg = []
  single : ∀ {s a b}, connection.nghttp2.Attached s a → connection.nghttp2.Attached s b → a = b
  registered : ∀ {s source}, connection.nghttp2.Attached s source → connection.Registered s source
  not_failed : connection.callbackFailures = 0
  sending_ok : ∀ {call}, connection.sending = some call → call.failed = false

lemma Registered.hasEntry (h : connection.Registered streamId source) :
    connection.HasEntry streamId source := by
  obtain ⟨info, hinfo, hlength, hoffset⟩ := h
  refine ⟨info, hinfo, info.offset_le, ?_⟩
  rw [hlength, hoffset, DataSource.rest, List.length_drop]

lemma SourcesInv.sourcesRegistered (h : SourcesInv connection) : SourcesRegistered connection :=
  ⟨fun _ _ hattached => (h.registered hattached).hasEntry, h.not_failed⟩

/-- A step after which every attached source was attached before, with the same entry. -/
structure Quiet (connection connection' : Connection P) : Prop where
  attached : ∀ {s a}, connection'.nghttp2.Attached s a → connection.nghttp2.Attached s a
  entries : ∀ {s a}, connection'.nghttp2.Attached s a →
    connection'.session.dataInfo s a.ptr = connection.session.dataInfo s a.ptr
  obReg : connection.nghttp2.obReg = [] → connection'.nghttp2.obReg = []
  callbackFailures : connection'.callbackFailures = connection.callbackFailures
  sending : connection'.sending = connection.sending

lemma SourcesInv.of_quiet (h : SourcesInv connection) (hquiet : Quiet connection connection') :
    SourcesInv connection' where
  idle := fun hsending => hquiet.obReg (h.idle (hquiet.sending ▸ hsending))
  single := fun ha hb => h.single (hquiet.attached ha) (hquiet.attached hb)
  registered := fun hattached => by
    obtain ⟨info, hinfo, hrest⟩ := h.registered (hquiet.attached hattached)
    exact ⟨info, (hquiet.entries hattached).trans hinfo, hrest⟩
  not_failed := hquiet.callbackFailures.trans h.not_failed
  sending_ok := fun hcall => h.sending_ok (hquiet.sending ▸ hcall)

/-- Only nghttp2 has changed, and it has attached nothing. -/
lemma quiet_of_nghttp2 {nghttp2 : Nghttp2.Session DataSource}
    (hattached : ∀ {s a}, nghttp2.Attached s a → connection.nghttp2.Attached s a)
    (hobReg : connection.nghttp2.obReg = [] → nghttp2.obReg = []) :
    Quiet connection { connection with nghttp2 := nghttp2 } :=
  ⟨hattached, fun _ => rfl, hobReg, rfl, rfl⟩

lemma quiet_of_sameItems {nghttp2 : Nghttp2.Session DataSource}
    (hsame : Nghttp2.Session.SameItems connection.nghttp2 nghttp2) :
    Quiet connection { connection with nghttp2 := nghttp2 } :=
  quiet_of_nghttp2 (fun ha => ha.of_sameItems hsame) fun hnil => hsame.obReg.trans hnil

/-- A stream with a source was not closed on the way. -/
lemma dataInfo_advance {nghttp2 : Nghttp2.Session DataSource} (ha : nghttp2.Attached s source) :
    (connection.advance streamId nghttp2).session.dataInfo s = connection.session.dataInfo s := by
  unfold advance
  dsimp only
  split
  · rename_i hclosed
    have hne : s ≠ streamId := by
      rintro rfl
      exact Nghttp2.Session.not_attached_of_none (Option.isNone_iff_eq_none.1 hclosed.2) ha
    exact HTTP2Session.dataInfo_onStreamCloseCallback hne
  · rfl

/-- nghttp2 has changed one stream, and has closed it or not. -/
lemma quiet_advance {nghttp2 : Nghttp2.Session DataSource}
    (hattached : ∀ {s a}, nghttp2.Attached s a → connection.nghttp2.Attached s a)
    (hobReg : connection.nghttp2.obReg = [] → nghttp2.obReg = []) :
    Quiet connection (connection.advance streamId nghttp2) where
  attached := hattached
  entries := fun ha => congrFun (dataInfo_advance ha) _
  obReg := hobReg
  callbackFailures := rfl
  sending := rfl

/-! ## Every event keeps it -/

/-- The request HEADERS of a new stream. -/
lemma quiet_requestHeaders {frame : Frame} {nghttp2 : Nghttp2.Session DataSource}
    (hnil : connection.nghttp2.obReg = [])
    (hopen : connection.nghttp2.onRequestHeadersReceived frame.streamId = some nghttp2) :
    Quiet connection { connection with
      nghttp2 := nghttp2
      session := connection.session.onBeginHeadersCallback frame } where
  attached := fun ha => (ha.of_onRequestHeadersReceived hnil hopen).2
  entries := fun ha => by
    have hne := (ha.of_onRequestHeadersReceived hnil hopen).1
    exact congrFun (HTTP2Session.dataInfo_onBeginHeadersCallback hne) _
  obReg := fun _ => by
    unfold Nghttp2.Session.onRequestHeadersReceived at hopen
    split at hopen
    · cases hopen
    · cases hopen
      exact hnil
  callbackFailures := rfl
  sending := rfl

/-- `sendData` on a stream to which no source is attached. -/
lemma SourcesInv.sendData (h : SourcesInv connection) {data : Bytes}
    {headers : List (Bytes × Bytes)} {ptr : Addr}
    (hfree : connection.nghttp2.sources streamId = []) :
    SourcesInv (connection.sendData streamId data headers ptr) := by
  have hne : ∀ {s a}, connection.nghttp2.Attached s a → s ≠ streamId := by
    rintro s a ha rfl
    rw [← Nghttp2.Session.mem_sources, hfree] at ha
    cases ha
  unfold Connection.sendData
  split
  case h_1 nghttp2 hsubmit =>
    have hnew : ∀ {s a}, nghttp2.Attached s a →
        connection.nghttp2.Attached s a ∨ (s = streamId ∧ a = ⟨ptr, data, 0⟩) :=
      fun ha => ha.of_submitResponse hsubmit
    refine ⟨fun hnone => (nomatch hnone), ?_, ?_, h.not_failed, ?_⟩
    · intro s a b ha hb
      rcases hnew ha with ha | ⟨hs, rfl⟩ <;> rcases hnew hb with hb | ⟨hs', rfl⟩
      · exact h.single ha hb
      · exact absurd hs' (hne ha)
      · exact absurd hs (hne hb)
      · rfl
    · intro s source hattached
      rcases hnew hattached with hold | ⟨rfl, rfl⟩
      · obtain ⟨info, hinfo, hrest⟩ := h.registered hold
        refine ⟨info, Eq.trans ?_ hinfo, hrest⟩
        exact congrFun (HTTP2Session.dataInfo_sendData_of_ne (hne hold)) _
      · exact ⟨_, HTTP2Session.dataInfo_sendData_self _, rfl, rfl⟩
    · intro call hcall
      cases hcall
      rfl
  case h_2 =>
    have hquiet : Quiet connection { connection with
        session := connection.session.sendData ⟨streamId, data, headers, ptr, false⟩ } :=
      ⟨id, fun ha => congrFun (HTTP2Session.dataInfo_sendData_of_ne (hne ha)) _, id, rfl, rfl⟩
    exact h.of_quiet hquiet

/-- What happens to the next DATA frame: its item is let go, or deferred, or is read from. -/
lemma sendDataFrame_cases (hframe : connection.sendDataFrame streamId = some connection') :
    ∃ stream source, connection.nghttp2.nextItem streamId = some (stream, source) ∧
      (connection' = { connection with nghttp2 := connection.nghttp2.detachItem streamId } ∨
       (connection.nghttp2.nextDataRead stream = 0 ∧ connection' = { connection with
          nghttp2 := connection.nghttp2.setStream streamId
            (some stream.deferItem) }) ∨
       connection' = connection.readData streamId source
          (connection.nghttp2.nextDataRead stream)) := by
  obtain ⟨prep, hprep, rfl⟩ := Option.map_eq_some_iff.1 hframe
  obtain ⟨⟨stream, source⟩, hnext, rfl⟩ := Option.map_eq_some_iff.1 hprep
  refine ⟨stream, source, hnext, ?_⟩
  dsimp only
  by_cases hpredicate : (connection.nghttp2.predicateDataSend streamId).isSome
  · rw [if_pos hpredicate]
    exact Or.inl rfl
  · rw [if_neg hpredicate]
    by_cases hzero : connection.nghttp2.nextDataRead stream = 0
    · rw [if_pos hzero]
      exact Or.inr (Or.inl ⟨hzero, rfl⟩)
    · rw [if_neg hzero]
      exact Or.inr (Or.inr rfl)

/-- A source whose entry is there is read from. -/
lemma readData_of_entry {info : DataInfo}
    (hinfo : connection.session.dataInfo streamId source.ptr = some info) (readmax : ℕ) :
    ∃ session : HTTP2Session P,
      (∀ s, s ≠ streamId → session.dataInfo s = connection.session.dataInfo s) ∧
      ((info.read readmax).eof = false →
        session.dataInfo streamId source.ptr = some (info.advance readmax)) ∧
      connection.readData streamId source readmax =
        connection.dataRead streamId source session (info.read readmax) := by
  obtain ⟨session, hread, hother, hself⟩ := HTTP2Session.readCallback_of_entry hinfo readmax
  refine ⟨session, hother, hself, ?_⟩
  unfold readData
  rw [hread]

/-- nghttp2 reads from the source of a stream and sends the DATA. -/
lemma SourcesInv.readData (h : SourcesInv connection) {stream : Nghttp2.Stream DataSource}
    (hnext : connection.nghttp2.nextItem streamId = some (stream, source)) (readmax : ℕ) :
    SourcesInv (connection.readData streamId source readmax) := by
  obtain ⟨hnil, -, hstream, hitem, -⟩ := Nghttp2.Session.nextItem_eq_some_iff.1 hnext
  obtain ⟨info, hinfo, hlength, hoffset⟩ := h.registered ⟨stream, hstream, Or.inl hitem⟩
  obtain ⟨session, hother, hself, hread⟩ := readData_of_entry hinfo readmax
  rw [hread]
  set result := info.read readmax with hresult
  set source' : DataSource :=
    { source with handedOut := source.handedOut + result.copyLength } with hsource'
  -- what is attached afterwards, and its entry
  have hafter : ∀ {s a}, (connection.dataRead streamId source session result).nghttp2.Attached s a →
      (s ≠ streamId ∧ connection.nghttp2.Attached s a ∧
        (connection.dataRead streamId source session result).session.dataInfo s =
          connection.session.dataInfo s) ∨
      (s = streamId ∧ a = source' ∧
        (connection.dataRead streamId source session result).session.dataInfo s source.ptr =
          some (info.advance readmax)) := by
    intro s a ha
    have hentry : (connection.dataRead streamId source session result).session.dataInfo s =
        session.dataInfo s := dataInfo_advance ha
    rw [hentry]
    rcases ha.of_afterDataSent hnil with ⟨hs, ha⟩ | ⟨rfl, ha, heof⟩
    · exact Or.inl ⟨hs, ha, hother s hs⟩
    · exact Or.inr ⟨rfl, ha, hself heof⟩
  refine ⟨fun _ => ?_, ?_, ?_, h.not_failed, h.sending_ok⟩
  · exact Nghttp2.Session.obReg_afterDataSent.trans hnil
  · intro s a b ha hb
    rcases hafter ha with ⟨hs, ha, -⟩ | ⟨hs, ha, -⟩ <;>
      rcases hafter hb with ⟨hs', hb, -⟩ | ⟨hs', hb, -⟩
    · exact h.single ha hb
    · exact absurd hs' hs
    · exact absurd hs hs'
    · exact ha.trans hb.symm
  · intro s a ha
    rcases hafter ha with ⟨hs, hold, hsame⟩ | ⟨rfl, rfl, hnew⟩
    · obtain ⟨info', hinfo', hrest⟩ := h.registered hold
      exact ⟨info', (congrFun hsame _).trans hinfo', hrest⟩
    · refine ⟨info.advance readmax, hnew, hlength, ?_⟩
      change info.offset + min (info.length - info.offset) readmax =
        source.handedOut + min (info.length - info.offset) readmax
      rw [hoffset]

/-- The next DATA frame. -/
lemma SourcesInv.sendDataFrame (h : SourcesInv connection)
    (hframe : connection.sendDataFrame streamId = some connection') : SourcesInv connection' := by
  obtain ⟨stream, source, hnext, rfl | ⟨-, rfl⟩ | rfl⟩ := sendDataFrame_cases hframe
  · exact h.of_quiet (quiet_of_nghttp2 (fun ha => ha.of_detachItem) id)
  · obtain ⟨-, -, hstream, -⟩ := Nghttp2.Session.nextItem_eq_some_iff.1 hnext
    have hsame : Nghttp2.Session.SameItems connection.nghttp2
        (connection.nghttp2.setStream streamId (some stream.deferItem)) :=
      Nghttp2.Session.SameItems.setStream hstream rfl
    exact h.of_quiet (quiet_of_sameItems hsame)
  · exact h.readData hnext _

/-- The end of a `sendData`, whose `sessionSend()` has sent all it could. -/
lemma SourcesInv.sendDataReturn (h : SourcesInv connection) {call : SendCall}
    (hcall : connection.sending = some call)
    (hdone : call.failed = true ∨ connection.nghttp2.isDrained = true) :
    SourcesInv { connection with
      sending := none
      memory := Function.update connection.memory call.ptr none } := by
  have hdrained : connection.nghttp2.isDrained = true := by
    rw [h.sending_ok hcall] at hdone
    exact hdone.resolve_left Bool.false_ne_true
  refine ⟨fun _ => ?_, h.single, h.registered, h.not_failed, fun hnone => (nomatch hnone)⟩
  exact List.isEmpty_iff.1 (Bool.and_eq_true_iff.1 hdrained).1

/-- **One step.**  Every event keeps the entries of the pending sources, but a `sendData` for a
stream that still has one. -/
theorem SourcesInv.step (h : SourcesInv connection) {event : ConnectionEvent}
    (honce : connection.SendsOnce event) (hstep : Step connection event connection') :
    SourcesInv connection' := by
  cases hstep with
  | callback idle receive hsession =>
    refine h.of_quiet ⟨id, fun _ => ?_, id, rfl, rfl⟩
    exact congrFun ((HTTP2Session.SameSources.receive receive hsession).dataInfo _) _
  | requestHeaders idle hopen => exact h.of_quiet (quiet_requestHeaders (h.idle idle) hopen)
  | endStream idle => exact h.of_quiet (quiet_advance (fun ha => ha.of_shutdownRead) id)
  | closeStream => exact h.of_quiet (quiet_advance (fun ha => ha.of_closeStream) id)
  | sameItems idle hsame => exact h.of_quiet (quiet_of_sameItems hsame)
  | sendData idle hptr => exact h.sendData honce
  | sendHeaders hsend =>
    refine h.of_quiet (quiet_of_nghttp2 (fun ha => ha.of_sendHeaders hsend) ?_)
    intro hnil
    unfold Nghttp2.Session.sendHeaders at hsend
    rw [hnil] at hsend
    cases hsend
  | sendDataFrame hframe => exact h.sendDataFrame hframe
  | sendDataReturn hcall hdone => exact h.sendDataReturn hcall hdone
  | store hptr => exact h.of_quiet ⟨id, fun _ => rfl, id, rfl, rfl⟩

/-! ## Runs -/

/-- Nothing was submitted to a session that was just created. -/
lemma initSession_free (settingsPayload : Option Bytes) :
    (initSession settingsPayload).obReg = [] ∧
      ∀ s source, ¬ (initSession settingsPayload).Attached s source := by
  unfold initSession
  dsimp only
  split
  case h_1 nghttp2 hupgrade =>
    obtain ⟨payload, -, hupgrade⟩ := Option.map_eq_some_iff.1 hupgrade
    exact ⟨Nghttp2.Session.obReg_upgrade2 hupgrade, fun s source ha =>
      Nghttp2.Session.attached_serverNew (ha.of_upgrade2 rfl hupgrade)⟩
  case h_2 => exact ⟨rfl, fun s source => Nghttp2.Session.attached_serverNew⟩

lemma known_initSession (settingsPayload : Option Bytes) :
    (initSession settingsPayload).Known := by
  rw [initSession]
  split
  · next nghttp2 hupgrade =>
    rcases Option.map_eq_some_iff.1 hupgrade with ⟨payload, -, hupgrade⟩
    exact Nghttp2.Session.known_serverNew.upgrade2 hupgrade
  · exact Nghttp2.Session.known_serverNew

lemma sourcesInv_new (remoteAddress : Option String) (delegate : Bool)
    (upgrade : Option (Upgrade P)) :
    SourcesInv (Connection.new P remoteAddress delegate upgrade) where
  idle := fun _ => (initSession_free _).1
  single := fun ha => absurd ha ((initSession_free _).2 _ _)
  registered := fun ha => absurd ha ((initSession_free _).2 _ _)
  not_failed := rfl
  sending_ok := fun hcall => (nomatch hcall)

/-- The invariant holds after every run whose calls of `sendData` find their streams free. -/
lemma sourcesInv_of_run {remoteAddress : Option String} {delegate : Bool}
    {upgrade : Option (Upgrade P)} {events : List ConnectionEvent}
    (honce : Machine.Along Connection.step SendsOnce
      (Connection.new P remoteAddress delegate upgrade) events)
    (hrun : Machine.run Connection.step
      (Connection.new P remoteAddress delegate upgrade) events = some connection) :
    SourcesInv connection :=
  Machine.run_preserves_along (fun _ _ _ h honce hstep => h.step honce (Step.of_step hstep))
    (sourcesInv_new remoteAddress delegate upgrade) honce hrun

/-- **Pending data sources stay registered.**  For a connection from either initializer and every
run in which no `sendData` is called for a stream to which a source is still attached: every
attached source has its entry, which counts the bytes that were not handed out, and the read
callback has never returned `-1`. -/
theorem sources_stay_registered {remoteAddress : Option String} {delegate : Bool}
    {upgrade : Option (Upgrade P)} {events : List ConnectionEvent}
    (honce : Machine.Along Connection.step SendsOnce
      (Connection.new P remoteAddress delegate upgrade) events)
    (hrun : Machine.run Connection.step
      (Connection.new P remoteAddress delegate upgrade) events = some connection) :
    SourcesRegistered connection :=
  (sourcesInv_of_run honce hrun).sourcesRegistered

/-- A client leaves a window of two bytes and sends a request on stream 1; the response has four
bytes, and is deferred after two of them. -/
def deferredResponse : List ConnectionEvent :=
  let frame : Frame := { type := .headers, flags := 0x5, streamId := 1, cat := .request }
  [.settings [⟨4, 2⟩], .requestHeaders frame, .callback (.frameRecv frame "today"), .endStream 1,
    .sendData 1 [0x61, 0x62, 0x63, 0x64] [] 64, .sendHeaders, .sendDataFrame 1, .sendDataFrame 1,
    .sendDataReturn]

/-- The deferred response, on which two bytes are handed out and two are left. -/
theorem sources_stay_registered_deferred :
    ∃ connection, Machine.run Connection.step (Connection.new Platform.basic none true none)
        deferredResponse = some connection ∧
      connection.nghttp2.sources 1 = [⟨64, [0x61, 0x62, 0x63, 0x64], 2⟩] ∧
      SourcesRegistered connection := by
  have hsources : (Machine.run Connection.step (Connection.new Platform.basic none true none)
      deferredResponse).map (fun connection => connection.nghttp2.sources 1) =
        some [⟨64, [0x61, 0x62, 0x63, 0x64], 2⟩] := by
    decide
  obtain ⟨connection, hrun, hsources⟩ := Option.map_eq_some_iff.1 hsources
  exact ⟨connection, hrun, hsources, sources_stay_registered (by decide) hrun⟩

/-- **A second response on the stream takes the entry of the first away.**  When the handler ends
its response again while the first is deferred, the source of the first is attached without an
entry, and the next WINDOW_UPDATE makes the read callback return `-1`. -/
theorem second_send_loses_the_first :
    ∃ connection, Machine.run Connection.step (Connection.new Platform.basic none true none)
        (deferredResponse ++ [.sendData 1 [0x65] [] 80]) = some connection ∧
      ¬ SourcesRegistered connection ∧
      ∃ connection', Machine.run Connection.step connection
          [.sendHeaders, .sendDataReturn, .windowUpdate 1 10, .sendDataFrame 1] =
            some connection' ∧ connection'.callbackFailures = 1 := by
  have hlost : (Machine.run Connection.step (Connection.new Platform.basic none true none)
      (deferredResponse ++ [.sendData 1 [0x65] [] 80])).map (fun connection =>
        ((connection.nghttp2.sources 1).head?, (connection.session.dataInfo 1 64).isNone,
          (Machine.run Connection.step connection
            [.sendHeaders, .sendDataReturn, .windowUpdate 1 10, .sendDataFrame 1]).map
              Connection.callbackFailures)) =
      some (some ⟨64, [0x61, 0x62, 0x63, 0x64], 2⟩, true, some 1) := by
    decide
  obtain ⟨connection, hrun, hfacts⟩ := Option.map_eq_some_iff.1 hlost
  simp only [Prod.mk.injEq] at hfacts
  obtain ⟨hhead, hentry, hfailed⟩ := hfacts
  obtain ⟨connection', hrest, hfailed⟩ := Option.map_eq_some_iff.1 hfailed
  refine ⟨connection, hrun, fun hregistered => ?_, connection', hrest, hfailed⟩
  have hattached := Nghttp2.Session.mem_sources.1 (List.mem_of_mem_head? hhead)
  obtain ⟨info, hinfo, -⟩ := hregistered.entry _ _ hattached
  rw [Option.isNone_iff_eq_none] at hentry
  exact nomatch hentry.symm.trans hinfo

end Connection

end KituraHTTP2
