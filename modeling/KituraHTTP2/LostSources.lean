import KituraHTTP2.DataSources

/-!
# Sources that have lost their entries

A response that flow control has deferred leaves its source attached to its stream, and the next
flush with window for it calls the read callback once more.  The callback answers from the entry of
the table under the stream and the address of the array; where there is none it returns `-1`, and
the flush of the whole connection has failed.

Whether the entry is still there is a matter of history.  `sendData` puts a new `StreamData` into
the table, whose only entry is that of its own array, so that a source loses its entry when
`sendData` is called for its stream again with an array at another address; nothing else takes the
entry of an attached source away.  The session records the calls of `sendData` as `submitted`, and
`latestArray` is the address that the last of them for a stream has used.

* `EntriesInv` — an attached source has its entry exactly where its array is the latest one of its
  stream; so it is in every reachable state (`entriesInv_of_run`), whatever is sent and received.
* **`findsEntry_iff`** — so the guard of the read callback can be told from the calls of `sendData`
  alone.
-/

namespace KituraHTTP2

open Machine

variable {P : Platform}

/-! ## The calls of `sendData` -/

namespace HTTP2Session

variable {session session' : HTTP2Session P} {streamId s : StreamId}

/-- The address of the array that the last call of `sendData` for the stream has used. -/
def latestArray (session : HTTP2Session P) (streamId : StreamId) : Option Addr :=
  (session.submitted.reverse.find? fun call => call.streamId = streamId).map Submission.ptr

/-- The call that comes last decides. -/
lemma latestArray_sendData (session : HTTP2Session P) (call : Submission) :
    (session.sendData call).latestArray =
      Function.update session.latestArray call.streamId (some call.ptr) := by
  funext s
  have hlast : (session.sendData call).submitted.reverse = call :: session.submitted.reverse :=
    List.reverse_concat ..
  rw [latestArray, hlast, List.find?_cons]
  by_cases hs : call.streamId = s
  · subst hs
    simp
  · rw [decide_eq_false hs, Function.update_of_ne (Ne.symm hs)]
    rfl

lemma latestArray_congr (h : session'.submitted = session.submitted) :
    session'.latestArray = session.latestArray := by
  funext s
  rw [latestArray, h, latestArray]

lemma handle_submitted (session : HTTP2Session P) (request response : Ref) :
    (session.handle request response).submitted = session.submitted := by
  rw [handle]
  split <;> rfl

lemma onHeaderCallback_submitted (session : HTTP2Session P) (frame : Frame) (name value : Bytes) :
    (session.onHeaderCallback frame name value).submitted = session.submitted := by
  rw [onHeaderCallback]
  split
  · rfl
  · split <;> rfl

lemma onBeginHeadersCallback_submitted (session : HTTP2Session P) (frame : Frame) :
    (session.onBeginHeadersCallback frame).submitted = session.submitted := by
  rw [onBeginHeadersCallback]
  split <;> rfl

lemma dispatchRequest_submitted (session : HTTP2Session P) (frame : Frame)
    (request : HTTP2ServerRequest P) (date : String) :
    (session.dispatchRequest frame request date).submitted = session.submitted := by
  rw [dispatchRequest]
  split
  · exact handle_submitted ..
  · rfl

lemma readCallback_submitted (session : HTTP2Session P) (streamId : StreamId) (ptr : Addr)
    (length : ℕ) : (session.readCallback streamId ptr length).1.submitted = session.submitted := by
  rw [readCallback]
  split
  · rfl
  · split
    · rfl
    · dsimp only
      split <;> rfl

/-- The callbacks for received data submit nothing. -/
lemma receive_submitted {event : SessionEvent} (hevent : event.isReceive = true)
    (h : session.step event = some session') : session'.submitted = session.submitted := by
  cases event with
  | header frame name value =>
    cases h
    exact onHeaderCallback_submitted session frame name value
  | frameRecv frame date =>
    cases FrameRecv.of_onFrameRecvCallback h with
    | nothing => rfl
    | handed => exact handle_submitted session _ _
    | built => exact dispatchRequest_submitted session frame _ date
  | dataChunk streamId data =>
    cases h
    unfold onDataChunkRecvCallback
    split <;> rfl
  | beginHeaders frame => cases hevent
  | streamClose streamId => cases hevent
  | readCallback streamId ptr length => cases hevent
  | sendData call => cases hevent

/-- After `sendData` the stream has an entry for the address of its array, and no other. -/
lemma isSome_dataInfo_sendData (session : HTTP2Session P) (call : Submission) (ptr : Addr) :
    ((session.sendData call).dataInfo call.streamId ptr).isSome ↔ some call.ptr = some ptr := by
  by_cases hptr : call.ptr = ptr
  · subst hptr
    rw [dataInfo_sendData_self]
    simp
  · have hnone : (session.sendData call).dataInfo call.streamId ptr = none := by
      rw [dataInfo, sendData]
      simp [setStream, StreamData.new, Function.update_of_ne (Ne.symm hptr)]
    rw [hnone]
    simp [hptr]

/-- The read callback answers when the table has the entry. -/
lemma readCallback_isSome (session : HTTP2Session P) (streamId : StreamId) (ptr : Addr)
    (length : ℕ) :
    (session.readCallback streamId ptr length).2.isSome =
      (session.dataInfo streamId ptr).isSome := by
  unfold readCallback dataInfo
  cases hstream : session.streamsData streamId with
  | none => rfl
  | some streamInfo =>
    rw [Option.bind_some]
    dsimp only
    cases hinfo : streamInfo.dataInfo ptr with
    | none => rfl
    | some info =>
      dsimp only
      split <;> rfl

/-- The read callback changes entries, and neither adds nor removes one. -/
lemma isSome_dataInfo_readCallback (session : HTTP2Session P) (streamId : StreamId) (ptr : Addr)
    (length : ℕ) (s : StreamId) (ptr' : Addr) :
    ((session.readCallback streamId ptr length).1.dataInfo s ptr').isSome =
      (session.dataInfo s ptr').isSome := by
  rw [readCallback]
  split
  · rfl
  · next streamInfo hstream =>
    split
    · rfl
    · next info hinfo =>
      dsimp only
      split
      · rfl
      · by_cases hs : s = streamId
        · subst hs
          by_cases hptr : ptr' = ptr
          · subst hptr
            simp [dataInfo, setStream, hstream, hinfo]
          · simp [dataInfo, setStream, hstream, Function.update_of_ne hptr]
        · rw [dataInfo_setStream_of_ne hs]

end HTTP2Session

/-! ## The invariant -/

namespace Connection

variable {connection connection' : Connection P} {streamId s : StreamId} {source : DataSource}
  {event : ConnectionEvent}

/-- The entries of the attached sources, told by the calls of `sendData`. -/
structure EntriesInv (connection : Connection P) : Prop where
  /-- HEADERS wait only while a `sendData` runs that has not failed -/
  queue : connection.nghttp2.obReg ≠ [] →
    ∃ call, connection.sending = some call ∧ call.failed = false
  entry : ∀ {s source}, connection.nghttp2.Attached s source →
    ((connection.session.dataInfo s source.ptr).isSome ↔
      connection.session.latestArray s = some source.ptr)

lemma EntriesInv.obReg_eq_nil (h : EntriesInv connection) (idle : connection.sending = none) :
    connection.nghttp2.obReg = [] := by
  by_contra hqueue
  rcases h.queue hqueue with ⟨call, hcall, -⟩
  exact absurd (hcall.symm.trans idle) (Option.some_ne_none call)

lemma entriesInv_new (remoteAddress : Option String) (delegate : Bool)
    (upgrade : Option (Upgrade P)) :
    EntriesInv (Connection.new P remoteAddress delegate upgrade) where
  queue hqueue := absurd (initSession_free _).1 hqueue
  entry hattached := absurd hattached ((initSession_free _).2 _ _)

/-- A step after which nothing new is attached, and that submits nothing. -/
lemma EntriesInv.of_quiet (h : EntriesInv connection) (hquiet : Quiet connection connection')
    (hsubmitted : connection'.session.submitted = connection.session.submitted)
    (hqueue : connection'.nghttp2.obReg ≠ [] → connection.nghttp2.obReg ≠ []) :
    EntriesInv connection' where
  queue hne := by
    rw [hquiet.sending]
    exact h.queue (hqueue hne)
  entry hattached := by
    rw [hquiet.entries hattached, HTTP2Session.latestArray_congr hsubmitted]
    exact h.entry (hquiet.attached hattached)

/-- **A call of `sendData`** leaves the entries of the other streams alone, and its own is the only
one of its stream. -/
lemma EntriesInv.sendData (h : EntriesInv connection) {data : Bytes}
    {headers : List (Bytes × Bytes)} {ptr : Addr} (idle : connection.sending = none) :
    EntriesInv (connection.sendData streamId data headers ptr) := by
  have hentry : ∀ (call : Submission), ∀ {s : StreamId} {source : DataSource},
      (s ≠ call.streamId → connection.nghttp2.Attached s source) →
      (((connection.session.sendData call).dataInfo s source.ptr).isSome ↔
        (connection.session.sendData call).latestArray s = some source.ptr) := by
    intro call s source hattached
    rw [HTTP2Session.latestArray_sendData]
    by_cases hs : s = call.streamId
    · subst hs
      rw [Function.update_self]
      exact HTTP2Session.isSome_dataInfo_sendData ..
    · rw [Function.update_of_ne hs, HTTP2Session.dataInfo_sendData_of_ne hs]
      exact h.entry (hattached hs)
  rw [Connection.sendData]
  split
  case h_1 nghttp2 hsubmit =>
    refine ⟨fun _ => ⟨_, rfl, rfl⟩, fun {s source} hattached => hentry _ fun hs => ?_⟩
    rcases Nghttp2.Session.Attached.of_submitResponse hsubmit hattached with hold | ⟨rfl, -⟩
    · exact hold
    · exact absurd rfl hs
  case h_2 =>
    exact ⟨fun hqueue => absurd (h.obReg_eq_nil idle) hqueue,
      fun hattached => hentry _ fun _ => hattached⟩

/-- nghttp2 reads from the source of a stream, or the callback has failed and the source is let
go. -/
lemma EntriesInv.readData (h : EntriesInv connection) {stream : Nghttp2.Stream DataSource}
    (hnext : connection.nghttp2.nextItem streamId = some (stream, source)) (readmax : ℕ) :
    EntriesInv (connection.readData streamId source readmax) := by
  obtain ⟨hnil, -, hstream, hitem, -⟩ := Nghttp2.Session.nextItem_eq_some_iff.1 hnext
  have hsubmitted := connection.session.readCallback_submitted streamId source.ptr readmax
  have hsame := connection.session.isSome_dataInfo_readCallback streamId source.ptr readmax
  rw [Connection.readData]
  split
  case h_1 session result hread =>
    rw [hread] at hsubmitted hsame
    refine ⟨fun hqueue => ?_, fun {s a} hattached => ?_⟩
    · exact absurd (Nghttp2.Session.obReg_afterDataSent.trans hnil) hqueue
    · have hadvance : (connection.dataRead streamId source session result).session.dataInfo s =
          session.dataInfo s := dataInfo_advance hattached
      have hlatest : (connection.dataRead streamId source session result).session.latestArray =
          connection.session.latestArray := by
        refine HTTP2Session.latestArray_congr (Eq.trans ?_ hsubmitted)
        rw [dataRead, advance]
        dsimp only
        split <;> rfl
      rw [hadvance, hlatest, hsame]
      rcases hattached.of_afterDataSent hnil with ⟨-, hold⟩ | ⟨rfl, rfl, -⟩
      · exact h.entry hold
      · -- the source goes on, with more of it handed out
        have hasked := h.entry ⟨stream, hstream, Or.inl hitem⟩
        exact hasked
  case h_2 session hread =>
    rw [hread] at hsubmitted hsame
    refine ⟨fun hqueue => absurd hnil hqueue, fun {s a} hattached => ?_⟩
    show (session.dataInfo s a.ptr).isSome ↔ session.latestArray s = some a.ptr
    rw [hsame, HTTP2Session.latestArray_congr hsubmitted]
    exact h.entry hattached.of_detachItem

/-- The next DATA frame. -/
lemma EntriesInv.sendDataFrame (h : EntriesInv connection)
    (hframe : connection.sendDataFrame streamId = some connection') : EntriesInv connection' := by
  obtain ⟨stream, source, hnext, rfl | ⟨-, rfl⟩ | rfl⟩ := sendDataFrame_cases hframe
  · exact h.of_quiet (quiet_of_nghttp2 (fun ha => ha.of_detachItem) id) rfl id
  · obtain ⟨-, -, hstream, -⟩ := Nghttp2.Session.nextItem_eq_some_iff.1 hnext
    have hsame : Nghttp2.Session.SameItems connection.nghttp2
        (connection.nghttp2.setStream streamId (some stream.deferItem)) :=
      Nghttp2.Session.SameItems.setStream hstream rfl
    exact h.of_quiet (quiet_of_sameItems hsame) rfl id
  · exact h.readData hnext _

lemma submitted_advance (connection : Connection P) (streamId : StreamId)
    (nghttp2 : Nghttp2.Session DataSource) :
    (connection.advance streamId nghttp2).session.submitted = connection.session.submitted := by
  rw [advance]
  dsimp only
  split <;> rfl

/-- **One step.**  Every event keeps the invariant. -/
theorem EntriesInv.step (h : EntriesInv connection) (hstep : Step connection event connection') :
    EntriesInv connection' := by
  cases hstep with
  | callback idle receive hsession =>
    refine h.of_quiet ⟨id, fun _ => ?_, id, rfl, rfl⟩ ?_ id
    · exact congrFun ((HTTP2Session.SameSources.receive receive hsession).dataInfo _) _
    · exact HTTP2Session.receive_submitted receive hsession
  | requestHeaders idle hopen =>
    refine h.of_quiet (quiet_requestHeaders (h.obReg_eq_nil idle) hopen) ?_ ?_
    · exact HTTP2Session.onBeginHeadersCallback_submitted _ _
    · rcases Option.ite_none_left_eq_some.1 hopen with ⟨-, hsome⟩
      cases hsome
      exact id
  | endStream idle =>
    exact h.of_quiet (quiet_advance (fun ha => ha.of_shutdownRead) id) (submitted_advance ..) id
  | closeStream =>
    exact h.of_quiet (quiet_advance (fun ha => ha.of_closeStream) id) (submitted_advance ..) id
  | sameItems idle hsame =>
    exact h.of_quiet (quiet_of_sameItems hsame) rfl fun hne => hsame.obReg ▸ hne
  | sendData idle => exact h.sendData idle
  | sendHeaders hsend =>
    have hwaits : connection.nghttp2.obReg ≠ [] := by
      intro hnil
      rw [Nghttp2.Session.sendHeaders, hnil] at hsend
      cases hsend
    exact h.of_quiet (quiet_of_nghttp2 (fun ha => ha.of_sendHeaders hsend) (absurd · hwaits)) rfl
      fun _ => hwaits
  | sendDataFrame hframe => exact h.sendDataFrame hframe
  | sendDataReturn hcall hdone =>
    refine ⟨fun hqueue => ?_, h.entry⟩
    rcases h.queue hqueue with ⟨call', hcall', hrunning⟩
    cases hcall.symm.trans hcall'
    rcases hdone with hfailed | hdrained
    · exact absurd (hrunning.symm.trans hfailed) Bool.false_ne_true
    · exact absurd (List.isEmpty_iff.1 (Bool.and_eq_true_iff.1 hdrained).1) hqueue
  | store => exact ⟨h.queue, h.entry⟩

/-- The invariant holds after every run. -/
theorem entriesInv_of_run {remoteAddress : Option String} {delegate : Bool}
    {upgrade : Option (Upgrade P)} {events : List ConnectionEvent}
    (hrun : run step (Connection.new P remoteAddress delegate upgrade) events = some connection) :
    EntriesInv connection :=
  run_preserves (fun _ _ _ h hstep => h.step (Step.of_step hstep))
    (entriesInv_new remoteAddress delegate upgrade) hrun

/-! ## The next source that is asked -/

/-- The read callback finds the entry of the next source that nghttp2 asks for, if it asks. -/
def findsEntry (connection : Connection P) (streamId : StreamId) : Bool :=
  match connection.nghttp2.prepData streamId with
  | some (.read source _) => (connection.session.dataInfo streamId source.ptr).isSome
  | _ => true

/-- If nghttp2 asks for DATA of the stream next, the source is that of the array `latest`: it was
not overtaken by a later `sendData`. -/
def AsksLatest (connection : Connection P) (streamId : StreamId) (latest : Option Addr) : Prop :=
  match connection.nghttp2.prepData streamId with
  | some (.read source _) => latest = some source.ptr
  | _ => True

instance (connection : Connection P) (streamId : StreamId) (latest : Option Addr) :
    Decidable (connection.AsksLatest streamId latest) := by
  unfold AsksLatest
  split <;> infer_instance

/-- What is asked is an attached source. -/
lemma attached_of_prepData {readmax : ℕ}
    (hprep : connection.nghttp2.prepData streamId = some (.read source readmax)) :
    connection.nghttp2.Attached streamId source := by
  rcases Option.map_eq_some_iff.1 hprep with ⟨⟨stream, source'⟩, hnext, hread⟩
  rcases Nghttp2.Session.nextItem_eq_some_iff.1 hnext with ⟨-, -, hstream, hitem, -⟩
  dsimp only at hread
  split_ifs at hread
  cases hread
  exact ⟨stream, hstream, Or.inl hitem⟩

/-- **When the entry is found.**  In every reachable state, the read callback finds the entry of the
source that it is asked for exactly where no later `sendData` has used another array. -/
theorem findsEntry_iff (h : EntriesInv connection) (streamId : StreamId) :
    connection.findsEntry streamId = true ↔
      connection.AsksLatest streamId (connection.session.latestArray streamId) := by
  rw [findsEntry, AsksLatest]
  split
  · next source readmax hprep => exact h.entry (attached_of_prepData hprep)
  · simp

end Connection

end KituraHTTP2
