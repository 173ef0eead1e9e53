import KituraHTTP2.DataSources

/-!
# Response bytes come from the right body

The pointer that `sendData` gives to nghttp2 is good until `sendData` returns.  nghttp2 reads the
data when the windows of the stream and of the connection allow it, and what they do not allow
during the call is read by a later flush, from an address that belongs to nobody or to somebody
else.

So the copied bytes are right where nothing is left to read when `sendData` returns.  This is so if
the data fits into both windows at the call, and no older response is in the way (`SendFits`).

* `BytesInv` — outside a call nothing is left to read of any source; inside, what is left belongs to
  the call, and fits into the windows.
* **`copied_bytes_are_the_body`** — over every run.
* `deferred_response_reads_freed_memory` — four bytes for a window of two.
-/

namespace KituraHTTP2

variable {P : Platform}

/-- The call of the read callback copied the bytes of the body of the response that belong there. -/
def Copied.Faithful (copied : Copied) : Prop :=
  copied.offset + copied.count ≤ copied.body.length ∧
    copied.bytes = some ((copied.body.drop copied.offset).take copied.count)

instance (copied : Copied) : Decidable copied.Faithful := by
  unfold Copied.Faithful
  infer_instance

namespace Connection

variable {connection connection' : Connection P} {streamId s : StreamId} {source : DataSource}

/-- The condition on the calls of `sendData`: the data fits into the windows of the connection and
of the stream, and no source is attached to the stream. -/
def SendFits (connection : Connection P) : ConnectionEvent → Prop
  | .sendData streamId data _ _ =>
    connection.nghttp2.sources streamId = [] ∧
      (data = [] ∨ (data.length ≤ connection.nghttp2.remoteWindowSize ∧
        ∀ stream ∈ connection.nghttp2.streams streamId, data.length ≤ stream.remoteWindowSize))
  | _ => True

instance (connection : Connection P) :
    (event : ConnectionEvent) → Decidable (connection.SendFits event)
  | .sendData streamId data _ _ => inferInstanceAs (Decidable
      (connection.nghttp2.sources streamId = [] ∧
        (data = [] ∨ (data.length ≤ connection.nghttp2.remoteWindowSize ∧
          ∀ stream ∈ connection.nghttp2.streams streamId,
            data.length ≤ stream.remoteWindowSize))))
  | .callback _ | .requestHeaders _ | .endStream _ | .closeStream _ | .resetStream _
  | .terminateSession | .windowUpdate .. | .settings _ | .sendHeaders | .sendDataFrame _
  | .sendDataReturn | .store .. => inferInstanceAs (Decidable True)

lemma SendFits.sendsOnce {event : ConnectionEvent} (h : connection.SendFits event) :
    connection.SendsOnce event := by
  cases event with
  | sendData streamId data headers ptr => exact h.1
  | _ => trivial

/-! ## The invariant -/

/-- What is left of the source can be read during the call of `sendData` that runs. -/
structure Fits (connection : Connection P) (streamId : StreamId) (source : DataSource) : Prop where
  call : ∃ call, connection.sending = some call ∧ call.streamId = streamId ∧ call.ptr = source.ptr
  memory : connection.memory source.ptr = some source.body
  connectionWindow : (source.rest.length : ℤ) ≤ connection.nghttp2.remoteWindowSize
  streamWindow : ∀ stream, connection.nghttp2.streams streamId = some stream →
    (source.rest.length : ℤ) ≤ stream.remoteWindowSize
  not_deferred : ∀ stream, connection.nghttp2.streams streamId = some stream →
    stream.deferred = false

structure BytesInv (connection : Connection P) : Prop where
  sources : SourcesInv connection
  known : connection.nghttp2.Known
  rest : ∀ {s source}, connection.nghttp2.Attached s source →
    source.rest = [] ∨ connection.Fits s source
  copied : ∀ copied ∈ connection.copied, copied.Faithful

/-- While no `sendData` runs, nothing is left to read. -/
lemma BytesInv.rest_idle (h : BytesInv connection) (idle : connection.sending = none)
    (hattached : connection.nghttp2.Attached s source) : source.rest = [] := by
  rcases h.rest hattached with hrest | hfits
  · exact hrest
  · obtain ⟨call, hcall, -⟩ := hfits.call
    exact nomatch idle.symm.trans hcall

/-! ## What the events do to it -/

/-- What is left of a source can be read after a step that keeps the call, its memory, and the
windows of the source. -/
lemma Fits.of_keepsWindows (h : connection.Fits s source)
    (hsending : connection'.sending = connection.sending)
    (hmemory : connection'.memory source.ptr = connection.memory source.ptr)
    (hkeeps : Nghttp2.Session.KeepsWindows connection.nghttp2 connection'.nghttp2) :
    connection'.Fits s source where
  call := hsending ▸ h.call
  memory := hmemory.trans h.memory
  connectionWindow := hkeeps.window ▸ h.connectionWindow
  streamWindow := fun stream' hstream' => by
    obtain ⟨stream, hstream, hwindow, -⟩ := hkeeps.stream hstream'
    exact hwindow ▸ h.streamWindow stream hstream
  not_deferred := fun stream' hstream' => by
    obtain ⟨stream, hstream, -, hdeferred⟩ := hkeeps.stream hstream'
    have hfalse := h.not_deferred stream hstream
    exact Bool.eq_false_iff.2 fun hd => Bool.eq_false_iff.1 hfalse (hdeferred hd)

/-- A step that attaches nothing, copies nothing and keeps the windows. -/
lemma BytesInv.of_keepsWindows (h : BytesInv connection) (hsources : SourcesInv connection')
    (hattached : ∀ {s a}, connection'.nghttp2.Attached s a → connection.nghttp2.Attached s a)
    (hkeeps : Nghttp2.Session.KeepsWindows connection.nghttp2 connection'.nghttp2)
    (hsending : connection'.sending = connection.sending)
    (hmemory : connection'.memory = connection.memory)
    (hcopied : connection'.copied = connection.copied) : BytesInv connection' where
  sources := hsources
  known := hkeeps.known h.known
  rest := fun ha => by
    rcases h.rest (hattached ha) with hrest | hfits
    · exact Or.inl hrest
    · exact Or.inr (hfits.of_keepsWindows hsending (congrFun hmemory _) hkeeps)
  copied := hcopied ▸ h.copied

/-- A step outside of a call that attaches nothing and copies nothing. -/
lemma BytesInv.of_idle (h : BytesInv connection) (idle : connection.sending = none)
    (hsources : SourcesInv connection') (hknown : connection'.nghttp2.Known)
    (hattached : ∀ {s a}, connection'.nghttp2.Attached s a → connection.nghttp2.Attached s a)
    (hcopied : connection'.copied = connection.copied) : BytesInv connection' where
  sources := hsources
  known := hknown
  rest := fun ha => Or.inl (h.rest_idle idle (hattached ha))
  copied := hcopied ▸ h.copied

/-- A call of `sendData` with data that fits. -/
lemma BytesInv.sendData (h : BytesInv connection) (idle : connection.sending = none) {data : Bytes}
    {headers : List (Bytes × Bytes)} {ptr : Addr}
    (hfits : connection.SendFits (.sendData streamId data headers ptr)) :
    BytesInv (connection.sendData streamId data headers ptr) := by
  have hsources : SourcesInv (connection.sendData streamId data headers ptr) :=
    h.sources.sendData hfits.1
  revert hsources
  unfold Connection.sendData
  split
  case h_1 nghttp2 hsubmit =>
    intro hsources
    have hstreams : nghttp2.streams = connection.nghttp2.streams ∧
        nghttp2.remoteWindowSize = connection.nghttp2.remoteWindowSize ∧
        nghttp2.lastRecvStreamId = connection.nghttp2.lastRecvStreamId := by
      unfold Nghttp2.Session.submitResponse at hsubmit
      split at hsubmit
      · cases hsubmit
      · cases hsubmit
        exact ⟨rfl, rfl, rfl⟩
    refine ⟨hsources, h.known.of_streams hstreams.2.2 fun s hs => hstreams.1 ▸ hs, ?_, h.copied⟩
    intro s source ha
    rcases ha.of_submitResponse hsubmit with hold | ⟨rfl, rfl⟩
    · exact Or.inl (h.rest_idle idle hold)
    · rcases hfits.2 with hempty | ⟨hwindow, hstream⟩
      · left
        rw [DataSource.rest, hempty]
        rfl
      · refine Or.inr ⟨⟨_, rfl, rfl, rfl⟩, Function.update_self .., ?_, ?_, ?_⟩
        · change (data.length : ℤ) ≤ nghttp2.remoteWindowSize
          rw [hstreams.2.1]
          exact hwindow
        · intro stream hs
          change nghttp2.streams s = some stream at hs
          rw [hstreams.1] at hs
          exact hstream stream hs
        · -- a deferred stream would have an item
          intro stream hs
          change nghttp2.streams s = some stream at hs
          rw [hstreams.1] at hs
          refine Bool.eq_false_iff.2 fun hdeferred => ?_
          obtain ⟨source, hitem⟩ := Option.isSome_iff_exists.1 (stream.deferred_item hdeferred)
          have hmem := Nghttp2.Session.mem_sources.2 ⟨stream, hs, Or.inl hitem⟩
          rw [hfits.1] at hmem
          cases hmem
  case h_2 =>
    intro hsources
    exact h.of_idle idle hsources h.known id rfl

/-- A buffer that holds the body of a response gives any part of it. -/
lemma readMemory_faithful {memory : Addr → Option Bytes} {ptr : Addr} {body : Bytes}
    {offset count : ℕ} (hcount : offset + count ≤ body.length)
    (hmemory : count = 0 ∨ memory ptr = some body) :
    readMemory memory ptr offset count = some ((body.drop offset).take count) := by
  unfold readMemory
  by_cases hzero : count = 0
  · simp [hzero]
  · rw [if_neg hzero, hmemory.resolve_left hzero, Option.bind_some, if_pos hcount]

/-- Where something is left of a source that fits, the read callback is asked for at least a byte.
-/
lemma nextDataRead_pos {nghttp2 : Nghttp2.Session DataSource} {stream : Nghttp2.Stream DataSource}
    (hconnection : 0 < nghttp2.remoteWindowSize) (hstream : 0 < stream.remoteWindowSize) :
    0 < nghttp2.nextDataRead stream := by
  have hframe : (0 : ℤ) < nghttp2.remoteSettings.maxFrameSize := by
    have hge := nghttp2.remoteSettings.maxFrameSize_ge
    have hmin : 0 < Nghttp2.maxFrameSizeMin := by decide
    omega
  have hpayload : (0 : ℤ) < Nghttp2.dataPayloadLen := by decide
  unfold Nghttp2.Session.nextDataRead
  omega

/-- DATA without bytes on one stream leaves the sources of the others as they were. -/
lemma Fits.dataRead_of_ne {source' : DataSource} (h : connection.Fits s source') (hs : s ≠ streamId)
    {session : HTTP2Session P} {result : ReadResult} (hzero : result.copyLength = 0) :
    (connection.dataRead streamId source session result).Fits s source' where
  call := h.call
  memory := h.memory
  connectionWindow := by
    show _ ≤ (connection.nghttp2.afterDataSent ..).remoteWindowSize
    rw [Nghttp2.Session.remoteWindowSize_afterDataSent, hzero]
    simpa using h.connectionWindow
  streamWindow := by
    intro stream hstream
    change (connection.nghttp2.afterDataSent ..).streams s = _ at hstream
    rw [Nghttp2.Session.streams_afterDataSent_of_ne hs] at hstream
    exact h.streamWindow stream hstream
  not_deferred := by
    intro stream hstream
    change (connection.nghttp2.afterDataSent ..).streams s = _ at hstream
    rw [Nghttp2.Session.streams_afterDataSent_of_ne hs] at hstream
    exact h.not_deferred stream hstream

lemma length_rest_advance (source : DataSource) (count : ℕ) :
    ({ source with handedOut := source.handedOut + count }.rest).length =
      source.rest.length - count := by
  show (source.body.drop (source.handedOut + count)).length =
    (source.body.drop source.handedOut).length - count
  rw [List.length_drop, List.length_drop, Nat.sub_sub]

/-- Of the source that is read from, so much less is left, and the windows shrink by as much. -/
lemma Fits.dataRead_self (h : connection.Fits streamId source)
    {stream : Nghttp2.Stream DataSource}
    (hstream : connection.nghttp2.streams streamId = some stream)
    {session : HTTP2Session P} {result : ReadResult} (heof : result.eof = false)
    (hle : result.copyLength ≤ source.rest.length) :
    (connection.dataRead streamId source session result).Fits streamId
      { source with handedOut := source.handedOut + result.copyLength } := by
  have hnew := Nghttp2.Session.streams_afterDataSent_self hstream
    { source with handedOut := source.handedOut + result.copyLength } result.copyLength
  refine ⟨h.call, h.memory, ?_, ?_, ?_⟩
  · show _ ≤ (connection.nghttp2.afterDataSent ..).remoteWindowSize
    rw [Nghttp2.Session.remoteWindowSize_afterDataSent, length_rest_advance]
    have hold := h.connectionWindow
    omega
  · intro stream' hstream'
    change (connection.nghttp2.afterDataSent ..).streams streamId = _ at hstream'
    rw [heof, hnew, Option.some.injEq] at hstream'
    subst hstream'
    show _ ≤ stream.remoteWindowSize - result.copyLength
    rw [length_rest_advance]
    have hold := h.streamWindow stream hstream
    omega
  · intro stream' hstream'
    change (connection.nghttp2.afterDataSent ..).streams streamId = _ at hstream'
    rw [heof, hnew, Option.some.injEq] at hstream'
    subst hstream'
    exact h.not_deferred stream hstream

/-- Only one stream has something left: that of the call. -/
lemma Fits.streamId_eq {source' : DataSource} (h : connection.Fits s source)
    (h' : connection.Fits streamId source') :
    s = streamId := by
  obtain ⟨call, hcall, hs, -⟩ := h.call
  obtain ⟨call', hcall', hs', -⟩ := h'.call
  rw [hcall, Option.some.injEq] at hcall'
  exact hs.symm.trans (hcall' ▸ hs')

/-- nghttp2 reads from a source and sends what it got: the windows shrink by as much as what is left
of the source. -/
lemma BytesInv.readData (h : BytesInv connection) {stream : Nghttp2.Stream DataSource}
    (hnext : connection.nghttp2.nextItem streamId = some (stream, source)) (readmax : ℕ) :
    BytesInv (connection.readData streamId source readmax) := by
  have hsources := h.sources.readData hnext readmax
  obtain ⟨hnil, hwindow, hstream, hitem, -⟩ := Nghttp2.Session.nextItem_eq_some_iff.1 hnext
  have hattached : connection.nghttp2.Attached streamId source := ⟨stream, hstream, Or.inl hitem⟩
  obtain ⟨info, hinfo, hlength, hoffset⟩ := h.sources.registered hattached
  obtain ⟨session, -, -, hread⟩ := readData_of_entry hinfo readmax
  rw [hread] at hsources ⊢
  set result := info.read readmax with hresult
  have hrest : source.rest.length = source.body.length - source.handedOut := List.length_drop
  have hoffset_le : source.handedOut ≤ source.body.length := hlength ▸ hoffset ▸ info.offset_le
  have hcount : result.copyLength = min source.rest.length readmax := by
    rw [hrest, ← hlength, ← hoffset]
    rfl
  have hle : result.copyLength ≤ source.rest.length := hcount ▸ Nat.min_le_left ..
  have hzero : source.rest = [] → result.copyLength = 0 := by
    intro hempty
    rw [hcount, hempty]
    exact Nat.zero_min _
  refine ⟨hsources, h.known.afterDataSent, ?_, ?_⟩
  · intro s a ha
    rcases ha.of_afterDataSent hnil with ⟨hs, hold⟩ | ⟨rfl, rfl, heof⟩
    · -- another stream: if something is left there, the call is its, and nothing was read here
      rcases h.rest hold with hempty | hfits
      · exact Or.inl hempty
      · rcases h.rest hattached with hempty | hfits'
        · exact Or.inr (hfits.dataRead_of_ne hs (hzero hempty))
        · exact absurd (hfits.streamId_eq hfits') hs
    · -- the source that was read from
      rcases h.rest hattached with hempty | hfits
      · refine Or.inl (List.eq_nil_of_length_eq_zero ?_)
        rw [length_rest_advance, hempty]
        exact Nat.zero_sub _
      · exact Or.inr (hfits.dataRead_self hstream heof hle)
  · intro copied hmem
    rcases List.mem_append.1 hmem with hmem | hmem
    · exact h.copied copied hmem
    · rw [List.mem_singleton] at hmem
      subst hmem
      have hbound : result.offset + result.copyLength ≤ source.body.length := by
        show info.offset + result.copyLength ≤ source.body.length
        rw [hoffset]
        omega
      refine ⟨hbound, readMemory_faithful hbound ?_⟩
      rcases h.rest hattached with hempty | hfits
      · exact Or.inl (hzero hempty)
      · exact Or.inr hfits.memory

/-- The next DATA frame.  It is deferred only if nothing is left of its source. -/
lemma BytesInv.sendDataFrame (h : BytesInv connection)
    (hframe : connection.sendDataFrame streamId = some connection') : BytesInv connection' := by
  have hsources := h.sources.sendDataFrame hframe
  obtain ⟨stream, source, hnext, rfl | ⟨hzero, rfl⟩ | rfl⟩ := sendDataFrame_cases hframe
  · exact h.of_keepsWindows hsources (fun ha => ha.of_detachItem)
      Nghttp2.Session.KeepsWindows.detachItem rfl rfl rfl
  · obtain ⟨-, hwindow, hstream, hitem, -⟩ := Nghttp2.Session.nextItem_eq_some_iff.1 hnext
    have hattached : connection.nghttp2.Attached streamId source := ⟨stream, hstream, Or.inl hitem⟩
    have hsame : Nghttp2.Session.SameItems connection.nghttp2
        (connection.nghttp2.setStream streamId (some stream.deferItem)) :=
      Nghttp2.Session.SameItems.setStream hstream rfl
    have hempty : source.rest = [] := by
      rcases h.rest hattached with hempty | hfits
      · exact hempty
      · by_contra hne
        have hpos : (0 : ℤ) < source.rest.length := by
          exact_mod_cast List.length_pos_of_ne_nil hne
        have hread := nextDataRead_pos hwindow
          (Int.lt_of_lt_of_le hpos (hfits.streamWindow stream hstream))
        omega
    refine ⟨hsources, h.known.of_sameItems hsame, fun {s a} ha => ?_, h.copied⟩
    have hold := ha.of_sameItems hsame
    by_cases hs : s = streamId
    · subst hs
      rw [h.sources.single hold hattached]
      exact Or.inl hempty
    · rcases h.rest hold with hrest | hfits
      · exact Or.inl hrest
      · have hstreams : (connection.nghttp2.setStream streamId (some stream.deferItem)).streams s =
            connection.nghttp2.streams s := Nghttp2.Session.setStream_of_ne hs _
        exact Or.inr ⟨hfits.call, hfits.memory, hfits.connectionWindow,
          fun new hnew => hfits.streamWindow new (hstreams ▸ hnew),
          fun new hnew => hfits.not_deferred new (hstreams ▸ hnew)⟩
  · exact h.readData hnext _

/-- When `sendData` returns, nothing is left to read. -/
lemma BytesInv.sendDataReturn (h : BytesInv connection) {call : SendCall}
    (hcall : connection.sending = some call)
    (hdone : call.failed = true ∨ connection.nghttp2.isDrained = true) :
    BytesInv { connection with
      sending := none
      memory := Function.update connection.memory call.ptr none } := by
  have hdrained : connection.nghttp2.isDrained = true := by
    rw [h.sources.sending_ok hcall] at hdone
    exact hdone.resolve_left Bool.false_ne_true
  obtain ⟨hnil, hnone⟩ := Nghttp2.Session.of_isDrained hdrained h.known
  refine ⟨h.sources.sendDataReturn hcall hdone, h.known, fun {s source} ha => Or.inl ?_, h.copied⟩
  rcases h.rest ha with hempty | hfits
  · exact hempty
  · by_contra hne
    have hpos : (0 : ℤ) < source.rest.length := by
      exact_mod_cast List.length_pos_of_ne_nil hne
    obtain ⟨stream, hstream, hitem | ⟨queued, hmem, -⟩⟩ := ha
    · -- the stream could send
      have hwindow := Int.lt_of_lt_of_le hpos hfits.connectionWindow
      have hnext := Nghttp2.Session.nextItem_eq_some_iff.2
        ⟨hnil, hwindow, hstream, hitem, hfits.not_deferred stream hstream⟩
      exact nomatch (hnone s).symm.trans hnext
    · change queued ∈ connection.nghttp2.obReg at hmem
      rw [hnil] at hmem
      cases hmem

/-- **One step.**  Every event keeps the invariant, where `sendData` is called with data that fits.
-/
theorem BytesInv.step (h : BytesInv connection) {event : ConnectionEvent}
    (hfits : connection.SendFits event) (hstep : Step connection event connection') :
    BytesInv connection' := by
  have hsources : SourcesInv connection' := h.sources.step hfits.sendsOnce hstep
  cases hstep with
  | callback idle receive hsession => exact h.of_idle idle hsources h.known id rfl
  | requestHeaders idle hopen =>
    exact h.of_idle idle hsources (h.known.onRequestHeadersReceived hopen)
      (fun ha => (ha.of_onRequestHeadersReceived (h.sources.idle idle) hopen).2) rfl
  | endStream idle =>
    exact h.of_idle idle hsources h.known.shutdownRead (fun ha => ha.of_shutdownRead) rfl
  | closeStream =>
    exact h.of_keepsWindows hsources (fun ha => ha.of_closeStream)
      Nghttp2.Session.KeepsWindows.closeStream rfl rfl rfl
  | sameItems idle hsame =>
    exact h.of_idle idle hsources (h.known.of_sameItems hsame) (fun ha => ha.of_sameItems hsame) rfl
  | sendData idle hptr => exact h.sendData idle hfits
  | sendHeaders hsend =>
    exact h.of_keepsWindows hsources (fun ha => ha.of_sendHeaders hsend)
      (Nghttp2.Session.KeepsWindows.sendHeaders hsend) rfl rfl rfl
  | sendDataFrame hframe => exact h.sendDataFrame hframe
  | sendDataReturn hcall hdone => exact h.sendDataReturn hcall hdone
  | @store ptr buffer hptr =>
    refine ⟨hsources, h.known, fun {s source} ha => ?_, h.copied⟩
    rcases h.rest ha with hempty | hfits
    · exact Or.inl hempty
    · obtain ⟨call, hcall, -, hsame⟩ := hfits.call
      have hne : source.ptr ≠ ptr := hsame ▸ hptr call hcall
      exact Or.inr ⟨hfits.call, (Function.update_of_ne hne ..).trans hfits.memory,
        hfits.connectionWindow, hfits.streamWindow, hfits.not_deferred⟩

/-! ## Runs -/

lemma bytesInv_new (remoteAddress : Option String) (delegate : Bool)
    (upgrade : Option (Upgrade P)) :
    BytesInv (Connection.new P remoteAddress delegate upgrade) where
  sources := sourcesInv_new remoteAddress delegate upgrade
  known := known_initSession _
  rest := fun ha => absurd ha ((initSession_free _).2 _ _)
  copied := fun _ hmem => nomatch hmem

/-- **Response bytes come from the right body.**  For a connection from either initializer and every
run in which the data of each `sendData` fits into the windows of the connection and of its stream,
and the stream has no source attached: every call of the read callback found its bytes, and they
are those of the body of the response at that offset. -/
theorem copied_bytes_are_the_body {remoteAddress : Option String} {delegate : Bool}
    {upgrade : Option (Upgrade P)} {events : List ConnectionEvent}
    (hfits : Machine.Along Connection.step SendFits
      (Connection.new P remoteAddress delegate upgrade) events)
    (hrun : Machine.run Connection.step
      (Connection.new P remoteAddress delegate upgrade) events = some connection) :
    ∀ copied ∈ connection.copied, copied.Faithful :=
  (Machine.run_preserves_along (fun _ _ _ h hfits hstep => h.step hfits (Step.of_step hstep))
    (bytesInv_new remoteAddress delegate upgrade) hfits hrun).copied

/-- Two requests whose responses fit into the windows, the second after the memory of the first was
used again. -/
def fittingResponses : List ConnectionEvent :=
  let frame (streamId : StreamId) : Frame :=
    { type := .headers, flags := 0x5, streamId := streamId, cat := .request }
  [.settings [⟨4, 3⟩], .requestHeaders (frame 1), .requestHeaders (frame 3),
    .sendData 1 [0x61, 0x62] [] 64, .sendHeaders, .sendDataFrame 1, .sendDataReturn,
    .store 64 (some [0x78, 0x79]), .store 64 none,
    .sendData 3 [0x63, 0x64, 0x65] [] 64, .sendHeaders, .sendDataFrame 3, .sendDataReturn]

theorem copied_bytes_are_the_body_fitting :
    ∃ connection, Machine.run Connection.step (Connection.new Platform.basic none true none)
        fittingResponses = some connection ∧
      connection.copied.map Copied.count = [2, 3] ∧
      ∀ copied ∈ connection.copied, copied.Faithful := by
  have hcounts : (Machine.run Connection.step (Connection.new Platform.basic none true none)
      fittingResponses).map (fun connection => connection.copied.map Copied.count) =
        some [2, 3] := by
    decide
  obtain ⟨connection, hrun, hcounts⟩ := Option.map_eq_some_iff.1 hcounts
  exact ⟨connection, hrun, hcounts, copied_bytes_are_the_body (by decide) hrun⟩

/-- **A deferred response reads freed memory.**  The client has a window of two bytes for a response
of four.  After `sendData` has returned, the address of its array is used for something else, and
when a WINDOW_UPDATE comes, the last two bytes are read from there. -/
theorem deferred_response_reads_freed_memory :
    ∃ connection, Machine.run Connection.step (Connection.new Platform.basic none true none)
        (deferredResponse ++ [.store 64 (some [0x77, 0x78, 0x79, 0x7a]), .windowUpdate 1 10,
          .sendDataFrame 1]) = some connection ∧
      ¬ ∀ copied ∈ connection.copied, copied.Faithful := by
  have hcopied : (Machine.run Connection.step (Connection.new Platform.basic none true none)
      (deferredResponse ++ [.store 64 (some [0x77, 0x78, 0x79, 0x7a]), .windowUpdate 1 10,
        .sendDataFrame 1])).map Connection.copied =
      some [⟨1, [0x61, 0x62, 0x63, 0x64], 0, 2, some [0x61, 0x62]⟩,
        ⟨1, [0x61, 0x62, 0x63, 0x64], 2, 2, some [0x79, 0x7a]⟩] := by
    decide
  obtain ⟨connection, hrun, hcopied⟩ := Option.map_eq_some_iff.1 hcopied
  refine ⟨connection, hrun, ?_⟩
  rw [hcopied]
  decide

end Connection

end KituraHTTP2
