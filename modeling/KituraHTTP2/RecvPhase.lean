import KituraHTTP2.Projection

/-!
# The order of nghttp2's callbacks for one stream

The callbacks do not check where in a request they are; they rely on nghttp2, which makes them in
a fixed order.  For a client stream of a server session (`nghttp2_session.c`):

* the request HEADERS frame first: `on_begin_headers` with category REQUEST, `on_header` for each
  field, then `on_frame_recv`, with END_HEADERS set also when the block came in CONTINUATION frames;
* then DATA, in chunks that `on_data_chunk_recv` gets, each frame ended by `on_frame_recv`;
* then, at most once, trailing HEADERS, of category HEADERS, which must carry END_STREAM;
* nothing of the request after the frame with END_STREAM, and nothing at all after the close.

`RecvPhase` names the positions in this order and `RecvPhase.step` moves between them.  Frames of
other types come at any time, and so do the calls of `sendData` and of the read callback, which
belong to the other half of the stream.
-/

namespace KituraHTTP2

open Machine Keyed HTTP2Session

/-- How much of the request of a stream nghttp2 has delivered. -/
inductive RecvPhase where
  | idle
  | requestHeaders
  | body
  | trailers
  | remoteEnded
  | closed
deriving DecidableEq, Repr

namespace RecvPhase

/-- The frames nghttp2 reports in a phase, and the phase after them. -/
def frameRecv (phase : RecvPhase) (frame : Frame) : Option RecvPhase :=
  if frame.type = .headers then
    if phase = .requestHeaders ∧ frame.cat = .request ∧ frame.endHeaders = true then
      some (if frame.endStream then .remoteEnded else .body)
    else if phase = .trailers ∧ frame.cat = .headers ∧ frame.endHeaders = true ∧
        frame.endStream = true then
      some .remoteEnded
    else none
  else if frame.type = .data then
    if phase = .body then some (if frame.endStream then .remoteEnded else .body) else none
  else some phase

/-- The callbacks nghttp2 makes in a phase, and the phase after them. -/
def step (phase : RecvPhase) : SessionEvent → Option RecvPhase
  | .beginHeaders frame =>
    match phase with
    | .idle => if frame.type = .headers ∧ frame.cat = .request then some .requestHeaders else none
    | .body => if frame.type = .headers ∧ frame.cat = .headers then some .trailers else none
    | _ => none
  | .header frame _ _ =>
    match phase with
    | .requestHeaders =>
      if frame.type = .headers ∧ frame.cat = .request then some .requestHeaders else none
    | .trailers => if frame.type = .headers ∧ frame.cat = .headers then some .trailers else none
    | _ => none
  | .frameRecv frame _ => phase.frameRecv frame
  | .dataChunk _ _ => if phase = .body then some .body else none
  | .streamClose _ => if phase = .idle ∨ phase = .closed then none else some .closed
  | .readCallback _ _ _ => some phase
  | .sendData _ => some phase

/-- Where the streams of a new session stand.  An upgrade opens stream 1 with its request already
received. -/
def start (upgraded : Bool) (streamId : StreamId) : RecvPhase :=
  if upgraded ∧ streamId = 1 then .remoteEnded else .idle

/-- The request half of the stream is over: it ended, or the stream is closed. -/
def Over (phase : RecvPhase) : Prop := phase = .remoteEnded ∨ phase = .closed

end RecvPhase

/-- The frame is part of a request and carries END_STREAM. -/
def Frame.EndsRequest (frame : Frame) : Prop :=
  (frame.type = .data ∨ frame.type = .headers) ∧ frame.endStream = true

/-! ## The steps by name -/

/-- What nghttp2 can report of a stream, one constructor for each kind of callback. -/
inductive RecvStep : RecvPhase → SessionEvent → RecvPhase → Prop where
  | beginRequest {frame : Frame} (htype : frame.type = .headers) (hcat : frame.cat = .request) :
    RecvStep .idle (.beginHeaders frame) .requestHeaders
  | requestField {frame : Frame} {name value : Bytes} (htype : frame.type = .headers)
    (hcat : frame.cat = .request) :
    RecvStep .requestHeaders (.header frame name value) .requestHeaders
  | request {frame : Frame} {date : String} (htype : frame.type = .headers)
    (hcat : frame.cat = .request) (hend : frame.endHeaders = true) :
    RecvStep .requestHeaders (.frameRecv frame date)
      (if frame.endStream then .remoteEnded else .body)
  | chunk {streamId : StreamId} {data : Bytes} : RecvStep .body (.dataChunk streamId data) .body
  | data {frame : Frame} {date : String} (htype : frame.type = .data) :
    RecvStep .body (.frameRecv frame date) (if frame.endStream then .remoteEnded else .body)
  | beginTrailers {frame : Frame} (htype : frame.type = .headers) (hcat : frame.cat = .headers) :
    RecvStep .body (.beginHeaders frame) .trailers
  | trailerField {frame : Frame} {name value : Bytes} (htype : frame.type = .headers)
    (hcat : frame.cat = .headers) : RecvStep .trailers (.header frame name value) .trailers
  | trailers {frame : Frame} {date : String} (htype : frame.type = .headers)
    (hcat : frame.cat = .headers) (hend : frame.endHeaders = true)
    (hlast : frame.endStream = true) :
    RecvStep .trailers (.frameRecv frame date) .remoteEnded
  | otherFrame {phase : RecvPhase} {frame : Frame} {date : String} (hdata : frame.type ≠ .data)
    (hheaders : frame.type ≠ .headers) : RecvStep phase (.frameRecv frame date) phase
  | close {phase : RecvPhase} {streamId : StreamId} (hidle : phase ≠ .idle)
    (hclosed : phase ≠ .closed) : RecvStep phase (.streamClose streamId) .closed
  | read {phase : RecvPhase} {streamId : StreamId} {ptr : Addr} {length : ℕ} :
    RecvStep phase (.readCallback streamId ptr length) phase
  | send {phase : RecvPhase} {call : Submission} : RecvStep phase (.sendData call) phase

variable {phase phase' : RecvPhase} {event : SessionEvent}

lemma RecvStep.of_frameRecv {frame : Frame} {date : String}
    (hstep : phase.frameRecv frame = some phase') :
    RecvStep phase (.frameRecv frame date) phase' := by
  unfold RecvPhase.frameRecv at hstep
  by_cases hheaders : frame.type = .headers
  · rw [if_pos hheaders] at hstep
    by_cases hreq : phase = .requestHeaders ∧ frame.cat = .request ∧ frame.endHeaders = true
    · rw [if_pos hreq, Option.some.injEq] at hstep
      obtain ⟨rfl, hcat, hend⟩ := hreq
      exact hstep ▸ .request hheaders hcat hend
    · rw [if_neg hreq, Option.ite_none_right_eq_some, Option.some.injEq] at hstep
      obtain ⟨⟨rfl, hcat, hend, hlast⟩, rfl⟩ := hstep
      exact .trailers hheaders hcat hend hlast
  · rw [if_neg hheaders] at hstep
    by_cases hdata : frame.type = .data
    · rw [if_pos hdata, Option.ite_none_right_eq_some, Option.some.injEq] at hstep
      obtain ⟨rfl, rfl⟩ := hstep
      exact .data hdata
    · rw [if_neg hdata, Option.some.injEq] at hstep
      exact hstep ▸ .otherFrame hdata hheaders

/-- The machine takes exactly the steps by name. -/
theorem RecvStep.of_step (hstep : phase.step event = some phase') :
    RecvStep phase event phase' := by
  cases event with
  | beginHeaders frame =>
    simp only [RecvPhase.step] at hstep
    split at hstep
    · split_ifs at hstep with hframe
      cases hstep
      exact .beginRequest hframe.1 hframe.2
    · split_ifs at hstep with hframe
      cases hstep
      exact .beginTrailers hframe.1 hframe.2
    · cases hstep
  | header frame name value =>
    simp only [RecvPhase.step] at hstep
    split at hstep
    · split_ifs at hstep with hframe
      cases hstep
      exact .requestField hframe.1 hframe.2
    · split_ifs at hstep with hframe
      cases hstep
      exact .trailerField hframe.1 hframe.2
    · cases hstep
  | frameRecv frame date => exact .of_frameRecv hstep
  | dataChunk streamId data =>
    simp only [RecvPhase.step] at hstep
    split_ifs at hstep with hbody
    cases hstep
    exact hbody ▸ .chunk
  | streamClose streamId =>
    simp only [RecvPhase.step] at hstep
    split_ifs at hstep with hopen
    cases hstep
    exact .close (fun h => hopen (Or.inl h)) (fun h => hopen (Or.inr h))
  | readCallback streamId ptr length =>
    cases hstep
    exact .read
  | sendData call =>
    cases hstep
    exact .send

/-- The frame that ends the request comes while the request half is not over, and ends it. -/
lemma RecvStep.endsRequest {frame : Frame} {date : String} (hframe : frame.EndsRequest)
    (hstep : RecvStep phase (.frameRecv frame date) phase') :
    ¬ phase.Over ∧ phase' = .remoteEnded := by
  cases hstep with
  | request => exact ⟨by simp [RecvPhase.Over], if_pos hframe.2⟩
  | data => exact ⟨by simp [RecvPhase.Over], if_pos hframe.2⟩
  | trailers => exact ⟨by simp [RecvPhase.Over], rfl⟩
  | otherFrame hdata hheaders => exact absurd hframe.1 (not_or.2 ⟨hdata, hheaders⟩)

/-- The request half does not start again. -/
lemma RecvStep.over (hstep : RecvStep phase event phase') (hover : phase.Over) : phase'.Over := by
  cases hstep with
  | close => exact Or.inr rfl
  | otherFrame => exact hover
  | read => exact hover
  | send => exact hover
  | _ => simp [RecvPhase.Over] at hover

/-- A closed stream stays closed, and no frame of the request is reported for it. -/
lemma RecvStep.of_closed (hstep : RecvStep .closed event phase') : phase' = .closed := by
  cases hstep with
  | otherFrame => rfl
  | close hidle hclosed => exact absurd rfl hclosed
  | read => rfl
  | send => rfl

/-- Once over, the request half stays over. -/
lemma RecvPhase.over_of_run {events : List SessionEvent} (hover : phase.Over)
    (hrun : run RecvPhase.step phase events = some phase') : phase'.Over :=
  run_preserves (fun _ _ _ h hstep => (RecvStep.of_step hstep).over h) hover hrun

/-- The events of every stream come in the order in which nghttp2 makes its callbacks. -/
def Admissible (upgraded : Bool) (events : List SessionEvent) : Prop :=
  ∀ s, ∃ phase, run RecvPhase.step (RecvPhase.start upgraded s) (streamEvents s events) = some phase

/-- Only the streams that have events need a look. -/
lemma admissible_iff {upgraded : Bool} {events : List SessionEvent} :
    Admissible upgraded events ↔ ∀ event ∈ events,
      (run RecvPhase.step (RecvPhase.start upgraded event.streamId)
        (streamEvents event.streamId events)).isSome := by
  constructor
  · intro h event _
    exact Option.isSome_iff_exists.2 (h event.streamId)
  · intro h s
    by_cases hs : ∃ event ∈ events, event.streamId = s
    · obtain ⟨event, hmem, rfl⟩ := hs
      exact Option.isSome_iff_exists.1 (h event hmem)
    · have hnil : streamEvents s events = [] :=
        List.filter_eq_nil_iff.2 fun event hmem hkey =>
          hs ⟨event, hmem, of_decide_eq_true hkey⟩
      exact ⟨_, by rw [hnil, run_nil]⟩

instance (upgraded : Bool) (events : List SessionEvent) : Decidable (Admissible upgraded events) :=
  decidable_of_iff _ admissible_iff.symm

/-- The callbacks for the fields of a request, before the frame itself is reported. -/
def fieldEvents (frame : Frame) (fields : List (Bytes × Bytes)) : List SessionEvent :=
  .beginHeaders frame :: fields.map fun field => .header frame field.1 field.2

/-- An admissible run can be looked at after any of its events. -/
lemma Admissible.before {upgraded : Bool} {before after : List SessionEvent}
    (h : Admissible upgraded (before ++ after)) : Admissible upgraded before := by
  intro s
  obtain ⟨phase, hphase⟩ := h s
  rw [streamEvents_append, run_append_eq_some] at hphase
  obtain ⟨mid, hmid, -⟩ := hphase
  exact ⟨mid, hmid⟩

end KituraHTTP2
