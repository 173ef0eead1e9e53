import KituraHTTP2.DataSources
import KituraHTTP2.Projection
import KituraHTTP2.Lib.Chunks

/-!
# Sending in chunks

nghttp2 asks the read callback for the data of a response, a buffer at a time and stream by stream
as the windows of the client allow.  The session keeps an offset for each response, which it moves
on after every call but the one that sets the EOF flag.

* `returned_eq` — what the calls for one response return, whatever happens on other streams: the
  chunks of `Chunks.handOut`.
* **`chunked_sending`** — for every response of a run the calls hand out the whole body in order.
-/

namespace KituraHTTP2

open Machine Chunks

variable {P : Platform}

/-! ## What the calls return -/

/-- The chunk that a call hands out. -/
def ReadResult.chunk (result : ReadResult) : Chunk :=
  ⟨result.offset, result.copyLength, result.eof⟩

/-- The size of the buffer that a call of the read callback brings for the stream. -/
def SessionEvent.bufferSize (s : StreamId) : SessionEvent → Option ℕ
  | .readCallback streamId _ length => if streamId = s then some length else none
  | _ => none

/-- The sizes of the buffers that are brought for the stream, in their order. -/
def bufferSizes (s : StreamId) (events : List SessionEvent) : List ℕ :=
  events.filterMap (SessionEvent.bufferSize s)

namespace HTTP2Session

/-- What an event returns to nghttp2, if it is a call of the read callback for the stream. -/
def returns (session : HTTP2Session P) (s : StreamId) : SessionEvent → Option (Option Chunk)
  | .readCallback streamId ptr length =>
    if streamId = s then some ((session.readCallback streamId ptr length).2.map ReadResult.chunk)
    else none
  | _ => none

/-- What the calls of the read callback for the stream return, in a run over the events. -/
def returned (s : StreamId) : HTTP2Session P → List SessionEvent → List (Option Chunk)
  | _, [] => []
  | session, event :: events => (session.returns s event).toList ++
      (session.step event).elim [] fun session => returned s session events

variable {session session' : HTTP2Session P} {s : StreamId} {ptr : Addr} {info : DataInfo}

/-- A call that finds its entry: the offset moves on, unless the EOF flag is set. -/
lemma readCallback_dataInfo (hentry : session.dataInfo s ptr = some info) (length : ℕ) :
    (session.readCallback s ptr length).2 = some (info.read length) ∧
      (session.readCallback s ptr length).1.dataInfo s ptr =
        some (if (info.read length).eof then info else info.advance length) := by
  rcases Option.bind_eq_some_iff.1 hentry with ⟨streamInfo, hstream, hinfo⟩
  simp only [readCallback, hstream, hinfo]
  split_ifs with heof
  · exact ⟨rfl, hentry⟩
  · refine ⟨rfl, ?_⟩
    simp [dataInfo, setStream]

/-- A call for one stream changes no other entry. -/
lemma readCallback_other {streamId : StreamId} (hs : s ≠ streamId) (length : ℕ) :
    (session.readCallback streamId ptr length).1.streamsData s = session.streamsData s := by
  rcases session.readCallback_cases streamId ptr length with
    hsame | ⟨streamInfo, dataInfo, -, hread⟩
  · rw [hsame]
  · rw [hread]
    exact Function.update_of_ne hs ..

/-- The entries are part of what belongs to a stream. -/
lemma Separated.dataInfo_eq (h : Separated session) (s : StreamId) (ptr : Addr) :
    session.dataInfo s ptr = (session.view s).streamData.bind fun value => value.dataInfo ptr := by
  rcases hstream : session.streamsData s with _ | streamData
  · rw [dataInfo, hstream, view_streamData_of_none hstream]
    rfl
  · rcases h.exists_resolve hstream with ⟨headers, -, hvalue⟩
    rw [dataInfo, hstream, hvalue]
    rfl

lemma Separated.dataInfo_step_other (h : Separated session) {event : SessionEvent}
    (hstep : session.step event = some session') (hs : event.streamId ≠ s) :
    session'.dataInfo s ptr = session.dataInfo s ptr := by
  rw [h.dataInfo_eq, (h.step hstep).dataInfo_eq, h.step_view_other hstep hs]

/-- **What the calls for one response return**: the chunks from its offset on, whatever happens on
other streams and whatever is received in between. -/
theorem returned_eq {events : List SessionEvent} (h : Separated session)
    (hrun : run HTTP2Session.step session events = some session')
    (hentry : session.dataInfo s ptr = some info)
    (hevents : ∀ event ∈ events, event.streamId = s →
      event.isReceive = true ∨ ∃ length, event = .readCallback s ptr length) :
    returned s session events =
      (handOut info.length info.offset (bufferSizes s events)).map some := by
  induction events generalizing session info with
  | nil => rfl
  | cons event events ih =>
    rw [List.forall_mem_cons] at hevents
    rcases run_cons_eq_some.1 hrun with ⟨next, hstep, hrest⟩
    have hnext : Separated next := h.step hstep
    have hquiet : session.returns s event = none → event.bufferSize s = none →
        next.dataInfo s ptr = session.dataInfo s ptr →
        returned s session (event :: events) = (handOut info.length info.offset
          (bufferSizes s (event :: events))).map some := by
      intro hreturns hsize hsame
      rw [bufferSizes, List.filterMap_cons_none hsize, returned, hreturns, hstep]
      exact ih hnext hrest (hsame.trans hentry) hevents.2
    by_cases hs : event.streamId = s
    · rcases hevents.1 hs with hreceive | ⟨length, rfl⟩
      · have hsame := (SameSources.receive hreceive hstep).dataInfo s
        cases event with
        | readCallback _ _ _ => exact absurd hreceive Bool.false_ne_true
        | _ => exact hquiet rfl rfl (congrFun hsame ptr)
      · rcases readCallback_dataInfo hentry length with ⟨hresult, hinfo⟩
        have hsize : (SessionEvent.readCallback s ptr length).bufferSize s = some length :=
          if_pos rfl
        have hreturns : session.returns s (.readCallback s ptr length) =
            some (some (chunk info.length info.offset length)) := by
          rw [returns, if_pos rfl, hresult]
          rfl
        have hread : next = (session.readCallback s ptr length).1 := (Option.some.inj hstep).symm
        rw [← hread] at hinfo
        rw [bufferSizes, List.filterMap_cons_some hsize, returned, hreturns, hstep, handOut]
        have hrestChunks := ih hnext hrest hinfo hevents.2
        have hlast : (chunk info.length info.offset length).last = (info.read length).eof := rfl
        rw [hlast]
        split_ifs at hrestChunks ⊢ with heof
        · exact congrArg (some (chunk info.length info.offset length) :: ·) hrestChunks
        · exact congrArg (some (chunk info.length info.offset length) :: ·) hrestChunks
    · have hsame : next.dataInfo s ptr = session.dataInfo s ptr := h.dataInfo_step_other hstep hs
      cases event with
      | readCallback _ _ _ => exact hquiet (if_neg hs) (if_neg hs) hsame
      | _ => exact hquiet rfl rfl hsame

/-! ## Whole runs -/

/-- On the stream of a response come calls of the read callback for its data, with buffers that are
not empty, and callbacks for received data. -/
def OnlyReads (call : Submission) (events : List SessionEvent) : Prop :=
  ∀ event ∈ events, event.streamId = call.streamId → event.isReceive = true ∨
    ∃ length, 1 ≤ length ∧ event = .readCallback call.streamId call.ptr length

/-- **What is asked of a run.**  For every response, as long as the calls for its data stop at the
EOF flag: each of them returns a chunk, and the chunks are complete.  And a call for one stream
leaves the entries of the others as they were. -/
structure SendsInChunks (start : HTTP2Session P) (events : List SessionEvent) : Prop where
  response : ∀ before call between after mid,
    events = before ++ .sendData call :: (between ++ after) →
    run HTTP2Session.step start before = some mid → OnlyReads call between →
    ∃ chunks, returned call.streamId (mid.sendData call) between = chunks.map some ∧
      (UntilLast chunks →
        Complete call.data.length 0 (bufferSizes call.streamId between) chunks)
  others : ∀ before streamId ptr length after mid next,
    events = before ++ .readCallback streamId ptr length :: after →
    run HTTP2Session.step start before = some mid →
    mid.step (.readCallback streamId ptr length) = some next →
    ∀ s, s ≠ streamId → next.streamsData s = mid.streamsData s

/-- The buffers of calls for the data of a response are not empty. -/
lemma OnlyReads.bufferSizes_pos {call : Submission} {events : List SessionEvent}
    (h : OnlyReads call events) : ∀ size ∈ bufferSizes call.streamId events, 1 ≤ size := by
  intro size hsize
  rcases List.mem_filterMap.1 hsize with ⟨event, hevent, hbuffer⟩
  cases event with
  | readCallback streamId ptr length =>
    rcases Option.ite_none_right_eq_some.1 hbuffer with ⟨hs, hlength⟩
    cases hlength
    rcases h _ hevent hs with hreceive | ⟨length', hpos, heq⟩
    · exact absurd hreceive Bool.false_ne_true
    · cases heq
      exact hpos
  | _ => exact absurd hbuffer.symm (Option.some_ne_none _)

/-- **Chunked sending loses and repeats nothing.**  Over every run of a session, with any number of
responses on any streams, interleaved in any way, and buffers of any sizes. -/
theorem chunked_sending {remoteAddress : Option String} {delegate : Bool}
    {events : List SessionEvent}
    (hrun : run HTTP2Session.step (HTTP2Session.new P remoteAddress delegate) events =
      some session) : SendsInChunks (HTTP2Session.new P remoteAddress delegate) events where
  response := by
    rintro before call between after mid rfl hmid honly
    have hmidSeparated : Separated mid :=
      (keyedMachine P).good_run (separated_new remoteAddress delegate) hmid
    rcases run_append_eq_some.1 hrun with ⟨_, hmid', hrest⟩
    rw [hmid, Option.some.injEq] at hmid'
    subst hmid'
    rcases run_cons_eq_some.1 hrest with ⟨sent, hsend, hrest⟩
    cases hsend
    rcases run_append_eq_some.1 hrest with ⟨later, hbetween, -⟩
    have hstep : mid.step (.sendData call) = some (mid.sendData call) := rfl
    have hevents : ∀ event ∈ between, event.streamId = call.streamId → event.isReceive = true ∨
        ∃ length, event = .readCallback call.streamId call.ptr length := by
      intro event hevent hs
      rcases honly event hevent hs with hreceive | ⟨length, -, heq⟩
      · exact Or.inl hreceive
      · exact Or.inr ⟨length, heq⟩
    refine ⟨_, returned_eq (hmidSeparated.step hstep) hbetween (dataInfo_sendData_self call)
      hevents, ?_⟩
    exact complete_handOut (Nat.zero_le _) honly.bufferSizes_pos
  others := by
    rintro before streamId ptr length after mid next - - hstep s hs
    cases hstep
    exact readCallback_other hs length

/-- Two responses, of five bytes and of none, that are read in turn. -/
def interleavedReads : List SessionEvent :=
  [.sendData ⟨1, [0x61, 0x62, 0x63, 0x64, 0x65], [], 64, true⟩, .readCallback 1 64 2,
    .sendData ⟨3, [], [], 80, true⟩, .readCallback 1 64 2, .readCallback 3 80 7,
    .readCallback 1 64 4]

theorem chunked_sending_interleaved : ∃ session : HTTP2Session Platform.basic,
    run HTTP2Session.step (HTTP2Session.new Platform.basic none true) interleavedReads =
      some session ∧
    SendsInChunks (HTTP2Session.new Platform.basic none true) interleavedReads ∧
    Complete 5 0 [2, 2, 4] [⟨0, 2, false⟩, ⟨2, 2, false⟩, ⟨4, 1, true⟩] := by
  have hsome : (run HTTP2Session.step (HTTP2Session.new Platform.basic none true)
      interleavedReads).isSome := by decide
  rcases Option.isSome_iff_exists.1 hsome with ⟨session, hrun⟩
  have hsends := chunked_sending hrun
  refine ⟨session, hrun, hsends, ?_⟩
  have honly : OnlyReads ⟨1, [0x61, 0x62, 0x63, 0x64, 0x65], [], 64, true⟩
      interleavedReads.tail := by
    intro event hmem hs
    simp only [interleavedReads, List.tail_cons, List.mem_cons, List.not_mem_nil, or_false] at hmem
    rcases hmem with rfl | rfl | rfl | rfl | rfl
    · exact Or.inr ⟨2, by decide, rfl⟩
    · exact absurd hs (by decide)
    · exact Or.inr ⟨2, by decide, rfl⟩
    · exact absurd hs (by decide)
    · exact Or.inr ⟨4, by decide, rfl⟩
  rcases hsends.response [] _ interleavedReads.tail [] _ rfl rfl honly with
    ⟨chunks, hreturned, hcomplete⟩
  have hchunks : returned 1 ((HTTP2Session.new Platform.basic none true).sendData
      ⟨1, [0x61, 0x62, 0x63, 0x64, 0x65], [], 64, true⟩) interleavedReads.tail =
      [⟨0, 2, false⟩, ⟨2, 2, false⟩, ⟨4, 1, true⟩].map some := by decide
  have hsame := List.map_injective_iff.2 (Option.some_injective _) (hreturned.symm.trans hchunks)
  subst hsame
  exact hcomplete (by decide)

end HTTP2Session

end KituraHTTP2
