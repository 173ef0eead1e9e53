import KituraHTTP2.FlushTable
import KituraHTTP2.RemoteAddress

/-!
# A `sendData` that throws

`sendData` throws `failedToSend` in two cases: nghttp2 refuses the submission, or the flush that
follows fails.  By then the table has a new `StreamData` for the stream, and nothing takes it back;
and a flush that fails on a DATA frame has already sent the HEADERS of the response, whose source
stays attached to the stream.  The caller that reports an error gets the response sent after all.

A flush sends frames of all streams, in an order that nghttp2 takes from the priorities that the
client has given them, and fails on the first source whose entry the read callback does not find.
So whether a call throws depends on two things: which sources had lost their entries before the call
(`HTTP2Session.latestArray`), and whether the flush gets as far as to ask one of them.  The order is
therefore an argument of the theorem, the list `during` of what happens before the call returns, and
the condition is about this order and the state before the call.

A call that throws can leave the table as it was in one case only.  The stream had no entry before,
which is so for the request of an upgrade until its response is submitted; the flush sends the whole
response, so that nghttp2 closes the stream and the new entry is removed; no other entry is touched
on the way; and then a source is asked that was lost.

* `Returns`, `LeavesNothing` — a call with the order of its flush, and what is asked of it.
* `FlushAsksLatest`, `ClosesFirst` — the condition on the order.
* **`failedSend_leavesNothing_iff`** — which calls leave nothing behind where they throw.
* `failed_send_is_sent` — a response that is sent after its `sendData` has thrown.
-/

namespace KituraHTTP2

open Machine

variable {P : Platform}

namespace Connection

variable {connection connection' last after : Connection P} {event : ConnectionEvent}
  {during : List ConnectionEvent} {streamId s : StreamId} {data : Bytes}
  {headers : List (Bytes × Bytes)} {ptr : Addr} {threw : Bool}

/-! ## What is asked of a call -/

/-- A call of `sendData`: what happens in its flush, whether it throws `failedToSend`, and the
connection when it has returned.  Where the submission is refused there is no flush. -/
inductive Returns (connection : Connection P) (streamId : StreamId) (data : Bytes)
    (headers : List (Bytes × Bytes)) (ptr : Addr) :
    List ConnectionEvent → Bool → Connection P → Prop
  | refused {error : Nghttp2.Error}
      (hsubmit : connection.nghttp2.submitResponse streamId headers ⟨ptr, data, 0⟩ =
        .error error) :
      Returns connection streamId data headers ptr [] true
        (connection.sendData streamId data headers ptr)
  | flushed {nghttp2 : Nghttp2.Session DataSource} {during : List ConnectionEvent}
      {last after : Connection P} {call : SendCall}
      (hsubmit : connection.nghttp2.submitResponse streamId headers ⟨ptr, data, 0⟩ = .ok nghttp2)
      (hduring : run flushStep (connection.sendData streamId data headers ptr) during = some last)
      (hcall : last.sending = some call) (hafter : last.step .sendDataReturn = some after) :
      Returns connection streamId data headers ptr during call.failed after

/-- The table is as it was, and no response for the stream is queued. -/
structure LeavesNothing (connection : Connection P) (streamId : StreamId)
    (connection' : Connection P) : Prop where
  streamsData : connection'.session.streamsData = connection.session.streamsData
  headers : ∀ item ∈ connection'.nghttp2.obReg, item.streamId ≠ streamId
  item : ∀ stream, connection'.nghttp2.streams streamId = some stream → stream.item = none

/-! ## The condition -/

/-- If the event is a DATA frame for which nghttp2 asks a source, the source is the latest one of
its stream. -/
def AsksOnlyLatest (latest : StreamId → Option Addr) (connection : Connection P) :
    ConnectionEvent → Prop
  | .sendDataFrame s => connection.AsksLatest s (latest s)
  | _ => True

instance (latest : StreamId → Option Addr) (connection : Connection P) (event : ConnectionEvent) :
    Decidable (connection.AsksOnlyLatest latest event) := by
  unfold AsksOnlyLatest
  split <;> infer_instance

/-- Every source that the flush asks was, before the call, that of the latest `sendData` for its
stream; on the stream of the call, whose latest one is now the call itself, it is at the address of
the new array. -/
def FlushAsksLatest (connection : Connection P) (streamId : StreamId) (data : Bytes)
    (headers : List (Bytes × Bytes)) (ptr : Addr) (during : List ConnectionEvent) : Prop :=
  Along flushStep
    (AsksOnlyLatest (Function.update connection.session.latestArray streamId (some ptr)))
    (connection.sendData streamId data headers ptr) during

instance (connection : Connection P) (streamId : StreamId) (data : Bytes)
    (headers : List (Bytes × Bytes)) (ptr : Addr) (during : List ConnectionEvent) :
    Decidable (connection.FlushAsksLatest streamId data headers ptr during) :=
  inferInstanceAs (Decidable (Along ..))

/-- The event changes no entry but that of the stream `streamId`. -/
def AltersOnly (connection : Connection P) (streamId : StreamId) (event : ConnectionEvent) : Prop :=
  (∀ s ∈ connection.ends event, (connection.session.streamsData s).isSome → s = streamId) ∧
    ∀ s ∈ connection.advances event, s = streamId

instance (connection : Connection P) (streamId : StreamId) (event : ConnectionEvent) :
    Decidable (connection.AltersOnly streamId event) :=
  inferInstanceAs (Decidable (_ ∧ _))

/-- The stream had no entry before the call, nghttp2 closes it in the flush, and the flush changes
the entry of no other stream. -/
structure ClosesFirst (connection : Connection P) (streamId : StreamId) (data : Bytes)
    (headers : List (Bytes × Bytes)) (ptr : Addr) (during : List ConnectionEvent) : Prop where
  fresh : (connection.session.streamsData streamId).isNone
  ends : ¬ Along flushStep (fun c e => c.ends e ≠ some streamId)
    (connection.sendData streamId data headers ptr) during
  others : Along flushStep (fun c e => c.AltersOnly streamId e)
    (connection.sendData streamId data headers ptr) during

instance (connection : Connection P) (streamId : StreamId) (data : Bytes)
    (headers : List (Bytes × Bytes)) (ptr : Addr) (during : List ConnectionEvent) :
    Decidable (connection.ClosesFirst streamId data headers ptr during) :=
  decidable_of_iff (_ ∧ ¬ Along flushStep _ _ during ∧ Along flushStep _ _ during)
    ⟨fun h => ⟨h.1, h.2.1, h.2.2⟩, fun h => ⟨h.1, h.2, h.3⟩⟩

/-- Only the entry of the one stream is changed where that of no other one is. -/
lemma altersOnly_iff : connection.AltersOnly streamId event ↔
    ∀ s, s ≠ streamId → ¬ connection.Alters s event := by
  constructor
  · rintro ⟨hends, hadvances⟩ s hs (⟨hsome, h⟩ | h)
    · exact hs (hends s h hsome)
    · exact hs (hadvances s h)
  · intro h
    constructor
    · intro s hs hsome
      by_contra hne
      exact h s hne (Or.inl ⟨hsome, hs⟩)
    · intro s hs
      by_contra hne
      exact h s hne (Or.inr hs)

/-- On the way nothing is changed but the entry of the one stream where no event changes that of any
other. -/
lemma along_altersOnly_iff :
    Along flushStep (fun c e => c.AltersOnly streamId e) connection during ↔
      ∀ s, s ≠ streamId → Along flushStep (fun c e => ¬ c.Alters s e) connection during := by
  constructor
  · intro hothers s hs
    refine along_iff_forall.2 fun before e rest mid hsplit hmid => ?_
    exact altersOnly_iff.1 (along_iff_forall.1 hothers before e rest mid hsplit hmid) s hs
  · intro halong
    refine along_iff_forall.2 fun before e rest mid hsplit hmid => altersOnly_iff.2 fun s hs => ?_
    exact along_iff_forall.1 (halong s hs) before e rest mid hsplit hmid

/-! ## The two ways a call begins -/

lemma submitResponse_of_pos {session : Nghttp2.Session DataSource} (h : 0 < streamId)
    (headers : List (Bytes × Bytes)) (source : DataSource) :
    session.submitResponse streamId headers source =
      .ok { session with obReg := session.obReg ++ [⟨streamId, headers, source⟩] } :=
  if_neg (Int.not_le.2 h)

lemma submitResponse_of_nonpos {session : Nghttp2.Session DataSource} (h : streamId ≤ 0)
    (headers : List (Bytes × Bytes)) (source : DataSource) :
    session.submitResponse streamId headers source = .error .invalidArgument :=
  if_pos h

lemma sendData_of_pos (h : 0 < streamId) :
    connection.sendData streamId data headers ptr = { connection with
      session := connection.session.sendData ⟨streamId, data, headers, ptr, true⟩
      nghttp2 := { connection.nghttp2 with
        obReg := connection.nghttp2.obReg ++ [⟨streamId, headers, ⟨ptr, data, 0⟩⟩] }
      memory := Function.update connection.memory ptr (some data)
      sending := some ⟨streamId, ptr, false⟩ } := by
  rw [sendData, submitResponse_of_pos h]

lemma sendData_of_nonpos (h : streamId ≤ 0) :
    connection.sendData streamId data headers ptr = { connection with
      session := connection.session.sendData ⟨streamId, data, headers, ptr, false⟩ } := by
  rw [sendData, submitResponse_of_nonpos h]

/-- nghttp2 refuses a submission for its stream identifier only. -/
lemma pos_of_submitResponse {nghttp2 : Nghttp2.Session DataSource}
    (hsubmit : connection.nghttp2.submitResponse streamId headers ⟨ptr, data, 0⟩ = .ok nghttp2) :
    0 < streamId := by
  by_contra hnot
  rw [submitResponse_of_nonpos (Int.not_lt.1 hnot)] at hsubmit
  cases hsubmit

/-- The new `StreamData` of the stream is not the one it had. -/
lemma streamsData_sendData_ne (h : connection.session.Separated) (call : Submission) :
    (connection.session.sendData call).streamsData ≠ connection.session.streamsData := by
  intro hsame
  have hnew : ∃ d, (connection.session.sendData call).streamsData call.streamId = some d ∧
      d.headers = connection.session.heap.containers.fresh := by
    refine ⟨_, Function.update_self .., rfl⟩
  rcases hnew with ⟨d, hd, hfresh⟩
  rw [hsame] at hd
  exact (h.headers_valid hd).ne_fresh hfresh

/-- Every event keeps the streams of the session separated. -/
lemma separated_of_step (h : connection.session.Separated)
    (hstep : connection.step event = some connection') : connection'.session.Separated := by
  rcases session_of_step hstep with ⟨e, -, hsession⟩ | ⟨-, events, hevents, -⟩
  · exact h.step hsession
  · exact run_preserves (fun _ _ _ h hstep => HTTP2Session.Separated.step h hstep) h hevents

lemma separated_of_run {remoteAddress : Option String} {delegate : Bool}
    {upgrade : Option (Upgrade P)} {events : List ConnectionEvent}
    (hrun : run step (Connection.new P remoteAddress delegate upgrade) events = some connection) :
    connection.session.Separated :=
  run_preserves (fun _ _ _ h hstep => separated_of_step h hstep)
    ((HTTP2Session.separated_new remoteAddress delegate).of_same ⟨id, id, id⟩ rfl) hrun

/-! ## When a flush fails -/

/-- A flush that has not failed, with the latest arrays `latest`. -/
structure Running (latest : StreamId → Option Addr) (connection : Connection P) : Prop where
  entries : EntriesInv connection
  latest : connection.session.latestArray = latest
  running : ∃ call, connection.sending = some call ∧ call.failed = false

/-- A flush that has failed: no HEADERS wait. -/
structure Failed (connection : Connection P) : Prop where
  failed : ∃ call, connection.sending = some call ∧ call.failed = true
  queue : connection.nghttp2.obReg = []

/-- A DATA frame of the flush. -/
lemma sendDataFrame_sending (hframe : connection.sendDataFrame s = some connection') :
    connection'.session.submitted = connection.session.submitted ∧
      connection'.nghttp2.obReg = [] ∧
      connection'.sending = if connection.findsEntry s then connection.sending
        else connection.sending.map fun call => { call with failed := true } := by
  rcases Option.map_eq_some_iff.1 hframe with ⟨prep, hprep, rfl⟩
  rcases Option.map_eq_some_iff.1 hprep with ⟨⟨stream, source'⟩, hnext, hread⟩
  have hnil := (Nghttp2.Session.nextItem_eq_some_iff.1 hnext).1
  dsimp only at hread
  cases prep with
  | dropped nghttp2 =>
    have hfinds : connection.findsEntry s = true := by rw [findsEntry, hprep]
    split_ifs at hread
    cases hread
    exact ⟨rfl, hnil, (if_pos hfinds).symm⟩
  | deferred nghttp2 =>
    have hfinds : connection.findsEntry s = true := by rw [findsEntry, hprep]
    split_ifs at hread
    cases hread
    exact ⟨rfl, hnil, (if_pos hfinds).symm⟩
  | read source readmax =>
    have hfinds : connection.findsEntry s =
        (connection.session.readCallback s source.ptr readmax).2.isSome := by
      rw [findsEntry, hprep, HTTP2Session.readCallback_isSome]
    have hsubmitted := connection.session.readCallback_submitted s source.ptr readmax
    dsimp only
    rw [hfinds, readData]
    split
    · next session result hcallback =>
      rw [hcallback] at hsubmitted
      rw [hcallback]
      refine ⟨(submitted_advance ..).trans hsubmitted, ?_, rfl⟩
      exact Nghttp2.Session.obReg_afterDataSent.trans hnil
    · next session hcallback =>
      rw [hcallback] at hsubmitted
      rw [hcallback]
      exact ⟨hsubmitted, hnil, rfl⟩

/-- An event that asks the latest source, or none, keeps the flush running. -/
lemma Running.step {latest : StreamId → Option Addr} (h : Running latest connection)
    (hasks : connection.AsksOnlyLatest latest event)
    (hstep : connection.flushStep event = some connection') : Running latest connection' := by
  rcases step_of_flushStep hstep with ⟨hreturn, hstep⟩
  rcases h.running with ⟨call, hcall, hrunning⟩
  have hbusy : connection.sending ≠ none := by
    rw [hcall]
    exact Option.some_ne_none call
  have hcases := Step.of_step hstep
  refine ⟨h.entries.step hcases, ?_, ?_⟩
  · rw [← h.latest]
    refine HTTP2Session.latestArray_congr ?_
    cases hcases with
    | callback idle => exact absurd idle hbusy
    | requestHeaders idle => exact absurd idle hbusy
    | endStream idle => exact absurd idle hbusy
    | closeStream => exact submitted_advance ..
    | sendData idle => exact absurd idle hbusy
    | sendDataFrame hframe => exact (sendDataFrame_sending hframe).1
    | _ => rfl
  · cases hcases with
    | sendData idle => exact absurd idle hbusy
    | sendDataFrame hframe =>
      have hfinds := (findsEntry_iff h.entries _).2 (by rw [h.latest]; exact hasks)
      rw [(sendDataFrame_sending hframe).2.2, if_pos hfinds]
      exact h.running
    | sendDataReturn => exact absurd rfl hreturn
    | _ => exact h.running

/-- The first event that asks another source makes it fail... -/
lemma Running.fails {latest : StreamId → Option Addr} (h : Running latest connection)
    (hasks : ¬ connection.AsksOnlyLatest latest event)
    (hstep : connection.flushStep event = some connection') : Failed connection' := by
  cases event with
  | sendDataFrame s =>
    rcases step_of_flushStep hstep with ⟨-, hstep⟩
    rcases Option.ite_none_right_eq_some.1 hstep with ⟨-, hframe⟩
    have hlost : ¬ connection.findsEntry s = true := by
      rw [findsEntry_iff h.entries, h.latest]
      exact hasks
    rcases h.running with ⟨call, hcall, -⟩
    rcases sendDataFrame_sending hframe with ⟨-, hnil, hsending⟩
    rw [if_neg hlost, hcall, Option.map_some] at hsending
    exact ⟨⟨_, hsending, rfl⟩, hnil⟩
  | _ => exact absurd trivial hasks

/-- ... for good. -/
lemma Failed.step (h : Failed connection) (hstep : connection.flushStep event = some connection') :
    Failed connection' := by
  rcases step_of_flushStep hstep with ⟨hreturn, hstep⟩
  rcases h.failed with ⟨call, hcall, hfailed⟩
  have hbusy : connection.sending ≠ none := by
    rw [hcall]
    exact Option.some_ne_none call
  have hmay : connection.maySend = false := by
    rw [maySend, hcall, Option.any_some, hfailed]
    rfl
  have hcases := Step.of_step hstep
  cases hcases with
  | callback idle => exact absurd idle hbusy
  | requestHeaders idle => exact absurd idle hbusy
  | endStream idle => exact absurd idle hbusy
  | closeStream => exact ⟨h.failed, h.queue⟩
  | sameItems idle => exact absurd idle hbusy
  | sendData idle => exact absurd idle hbusy
  | sendHeaders hsend =>
    rw [Nghttp2.Session.sendHeaders, h.queue] at hsend
    cases hsend
  | sendDataFrame hframe =>
    rcases Option.ite_none_right_eq_some.1 hstep with ⟨hmay', -⟩
    exact absurd (hmay.symm.trans hmay') Bool.false_ne_true
  | sendDataReturn => exact absurd rfl hreturn
  | store => exact ⟨h.failed, h.queue⟩

/-- The start of a flush. -/
lemma running_sendData (h : EntriesInv connection) (idle : connection.sending = none)
    (hpos : 0 < streamId) :
    Running (Function.update connection.session.latestArray streamId (some ptr))
      (connection.sendData streamId data headers ptr) where
  entries := h.sendData idle
  latest := by
    rw [sendData_of_pos hpos]
    exact HTTP2Session.latestArray_sendData ..
  running := by
    rw [sendData_of_pos hpos]
    exact ⟨_, rfl, rfl⟩

/-- **When a flush fails**: where it asks a source that was overtaken before the call, or is
overtaken by the call itself. -/
theorem flush_running_or_failed (h : EntriesInv connection) (idle : connection.sending = none)
    (hpos : 0 < streamId)
    (hduring : run flushStep (connection.sendData streamId data headers ptr) during = some last) :
    (connection.FlushAsksLatest streamId data headers ptr during ∧
      ∃ call, last.sending = some call ∧ call.failed = false) ∨
    (¬ connection.FlushAsksLatest streamId data headers ptr during ∧ Failed last) := by
  rcases run_good_or_bad _ Failed (fun _ _ _ h hasks hstep => Running.step h hasks hstep)
    (fun _ _ _ h hasks hstep => Running.fails h hasks hstep) (fun _ _ _ h hstep => h.step hstep)
    (running_sendData h idle hpos) hduring with ⟨halong, hrunning⟩ | ⟨hnot, hfailed⟩
  · exact Or.inl ⟨halong, hrunning.running⟩
  · exact Or.inr ⟨hnot, hfailed⟩

/-! ## What a flush that has failed leaves -/

/-- **What is left after a flush that has failed**: nothing, exactly where the stream was closed
before, and no other entry was touched. -/
lemma leavesNothing_iff (h : connection.session.Separated) (hpos : 0 < streamId)
    (hduring : run flushStep (connection.sendData streamId data headers ptr) during = some last)
    (hqueue : last.nghttp2.obReg = []) :
    connection.LeavesNothing streamId last ↔
      connection.ClosesFirst streamId data headers ptr during := by
  have hsession : (connection.sendData streamId data headers ptr).session =
      connection.session.sendData ⟨streamId, data, headers, ptr, true⟩ := by
    rw [sendData_of_pos hpos]
  have hsending : (connection.sendData streamId data headers ptr).sending.isSome := by
    rw [sendData_of_pos hpos]
    rfl
  have hother : ∀ s, s ≠ streamId →
      (connection.sendData streamId data headers ptr).session.streamsData s =
        connection.session.streamsData s := by
    intro s hs
    rw [hsession]
    exact Function.update_of_ne hs ..
  have hnew : ∃ d, (connection.sendData streamId data headers ptr).session.streamsData streamId =
      some d ∧ d.headers = connection.session.heap.containers.fresh := by
    rw [hsession]
    exact ⟨_, Function.update_self .., rfl⟩
  rcases hnew with ⟨d, hd, hfresh⟩
  constructor
  · intro hleaves
    have hsame := fun s => congrFun hleaves.streamsData s
    have hothers : Along flushStep (fun c e => c.AltersOnly streamId e)
        (connection.sendData streamId data headers ptr) during := by
      refine along_altersOnly_iff.2 fun s hs => ?_
      have hentry := (hsame s).trans (hother s hs).symm
      exact (streamsData_eq_iff hsending hduring s).1 hentry
    rcases ended_or_kept hsending hduring hd with ⟨hends, hnone, -⟩ | ⟨-, d', hd', hheaders⟩
    · exact ⟨Option.isNone_iff_eq_none.2 ((hsame streamId).symm.trans hnone), hends, hothers⟩
    · -- the new entry is still there, and was not there before
      have hold := (hsame streamId).symm.trans hd'
      exact absurd (hheaders.trans hfresh) (h.headers_valid hold).ne_fresh
  · rintro ⟨hnone, hends, hothers⟩
    rcases ended_or_kept hsending hduring hd with ⟨-, hgone, hclosed⟩ | ⟨halong, -⟩
    · refine ⟨funext fun s => ?_, ?_, ?_⟩
      · by_cases hs : s = streamId
        · subst hs
          exact hgone.trans (Option.isNone_iff_eq_none.1 hnone).symm
        · have halong := along_altersOnly_iff.1 hothers s hs
          exact ((streamsData_eq_iff hsending hduring s).2 halong).trans (hother s hs)
      · rw [hqueue]
        exact fun _ hitem => (List.not_mem_nil hitem).elim
      · intro stream hstream
        exact nomatch hclosed.symm.trans hstream
    · exact absurd halong hends

/-- **When a call that throws leaves nothing behind.**  Take the state after any run of a connection
from either initializer, between two calls, and a call of `sendData` with the order in which its
flush sends the frames.  If it throws, the table is as it was and no response for the stream is
queued: this is so if and only if the stream identifier is positive, and the flush asks only for
sources that were not overtaken by a later `sendData`, or has closed the stream, which had no entry
before, and touched no other entry.  In the first case the call does not throw. -/
theorem failedSend_leavesNothing_iff {remoteAddress : Option String} {delegate : Bool}
    {upgrade : Option (Upgrade P)} {events : List ConnectionEvent}
    (hrun : run step (Connection.new P remoteAddress delegate upgrade) events = some connection)
    (idle : connection.sending = none) {streamId : StreamId} {data : Bytes}
    {headers : List (Bytes × Bytes)} {ptr : Addr} {during : List ConnectionEvent} {threw : Bool}
    {after : Connection P}
    (hreturns : connection.Returns streamId data headers ptr during threw after) :
    (threw = true → connection.LeavesNothing streamId after) ↔
      0 < streamId ∧ (connection.FlushAsksLatest streamId data headers ptr during ∨
        connection.ClosesFirst streamId data headers ptr during) := by
  have hentries := entriesInv_of_run hrun
  have hseparated := separated_of_run hrun
  cases hreturns with
  | refused hsubmit =>
    have hnonpos : streamId ≤ 0 := by
      by_contra hpos
      rw [submitResponse_of_pos (Int.not_le.1 hpos)] at hsubmit
      cases hsubmit
    refine iff_of_false (fun hleaves => ?_) fun hcond => Int.not_lt.2 hnonpos hcond.1
    have htable := (hleaves rfl).streamsData
    rw [sendData_of_nonpos hnonpos] at htable
    exact streamsData_sendData_ne hseparated _ htable
  | @flushed nghttp2 during last after call hsubmit hduring hcall hafter =>
    have hpos := pos_of_submitResponse hsubmit
    -- the return changes neither the table nor nghttp2
    have hsame : after.session = last.session ∧ after.nghttp2 = last.nghttp2 := by
      rw [step, hcall] at hafter
      rcases Option.ite_none_right_eq_some.1 hafter with ⟨-, hsome⟩
      cases hsome
      exact ⟨rfl, rfl⟩
    have hleaves : connection.LeavesNothing streamId after ↔
        connection.LeavesNothing streamId last := by
      constructor
      · rintro ⟨htable, hqueue, hitem⟩
        exact ⟨hsame.1 ▸ htable, hsame.2 ▸ hqueue, hsame.2 ▸ hitem⟩
      · rintro ⟨htable, hqueue, hitem⟩
        exact ⟨hsame.1 ▸ htable, hsame.2 ▸ hqueue, hsame.2 ▸ hitem⟩
    rcases flush_running_or_failed hentries idle hpos hduring with
      ⟨hasks, call', hcall', hrunning⟩ | ⟨hasks, ⟨call', hcall', hfailed⟩, hqueue⟩
    · cases hcall.symm.trans hcall'
      refine iff_of_true (fun hthrew => ?_) ⟨hpos, Or.inl hasks⟩
      exact absurd (hrunning.symm.trans hthrew) Bool.false_ne_true
    · cases hcall.symm.trans hcall'
      rw [hleaves, leavesNothing_iff hseparated hpos hduring hqueue, hfailed]
      simp [hpos, hasks]

/-! ## Two calls that throw -/

/-- A GET request on a stream, up to the call of the delegate. -/
def getRequest (streamId : StreamId) : List ConnectionEvent :=
  let frame : Frame := { type := .headers, flags := 0x5, streamId := streamId, cat := .request }
  [.requestHeaders frame,
    .callback (.header frame (utf8Encode ":method") (utf8Encode "GET")),
    .callback (.header frame (utf8Encode ":scheme") (utf8Encode "http")),
    .callback (.header frame (utf8Encode ":path") (utf8Encode "/")),
    .callback (.header frame (utf8Encode ":authority") (utf8Encode "h")),
    .callback (.frameRecv frame "today")]

/-- The handler of stream 3 ends its response, of which the window of two bytes leaves two, and ends
it again; then the client sends a WINDOW_UPDATE for the stream. -/
def lostSource (streamId : StreamId) : List ConnectionEvent :=
  getRequest streamId ++ [.sendData streamId [0x61, 0x62, 0x63, 0x64] [] 64, .sendHeaders,
    .sendDataFrame streamId, .sendDataFrame streamId, .sendDataReturn,
    .sendData streamId [0x65] [] 80, .sendHeaders, .sendDataReturn, .endStream streamId,
    .windowUpdate streamId 10]

/-- The request of an upgrade, whose payload sets the initial window to two bytes. -/
def upgraded : Upgrade Platform.basic := ⟨[0, 4, 0, 0, 0, 2], none⟩

/-- A call on the stream of the upgrade that leaves nothing behind and throws: where stream 3
depends on stream 1, the whole response goes out before the lost source is asked. -/
theorem failedSend_leavesNothing_upgraded :
    ∃ connection after,
      run step (Connection.new Platform.basic none true (some upgraded)) (lostSource 3) =
        some connection ∧ connection.sending = none ∧
      connection.Returns 1 [0x66] [] 96 [.sendHeaders, .sendDataFrame 1, .sendDataFrame 3] true
        after ∧ connection.LeavesNothing 1 after := by
  have hfacts : (run step (Connection.new Platform.basic none true (some upgraded))
      (lostSource 3)).bind (fun connection =>
        (run flushStep (connection.sendData 1 [0x66] [] 96)
          [.sendHeaders, .sendDataFrame 1, .sendDataFrame 3]).bind fun last =>
            (last.step .sendDataReturn).map fun _ =>
              (connection.sending.isNone, last.sending, decide (connection.ClosesFirst 1 [0x66] []
                96 [.sendHeaders, .sendDataFrame 1, .sendDataFrame 3]))) =
      some (true, some ⟨1, 96, true⟩, true) := by
    decide
  rcases Option.bind_eq_some_iff.1 hfacts with ⟨connection, hrun, hfacts⟩
  rcases Option.bind_eq_some_iff.1 hfacts with ⟨last, hduring, hfacts⟩
  rcases Option.map_eq_some_iff.1 hfacts with ⟨after, hafter, hfacts⟩
  simp only [Prod.mk.injEq, Option.isNone_iff_eq_none, decide_eq_true_eq] at hfacts
  rcases hfacts with ⟨idle, hcall, hcloses⟩
  have hreturns : connection.Returns 1 [0x66] [] 96
      [.sendHeaders, .sendDataFrame 1, .sendDataFrame 3] true after :=
    .flushed (submitResponse_of_pos (by decide) [] _) hduring hcall hafter
  exact ⟨connection, after, hrun, idle, hreturns, (failedSend_leavesNothing_iff hrun idle
    hreturns).2 ⟨by decide, Or.inr hcloses⟩ rfl⟩

/-- **A response is sent after its `sendData` has thrown.**  The flush of the response on stream 3
sends its HEADERS, and fails on the DATA of stream 1.  The source stays attached to stream 3, and
the next flush asks it for its byte, which it reads where the array was. -/
theorem failed_send_is_sent :
    ∃ connection after,
      run step (Connection.new Platform.basic none true none)
        (.settings [⟨4, 2⟩] :: lostSource 1 ++ getRequest 3) = some connection ∧
      connection.sending = none ∧
      connection.Returns 3 [0x66] [] 96 [.sendHeaders, .sendDataFrame 1] true after ∧
      ¬ connection.LeavesNothing 3 after ∧
      ∃ later, run step after [.endStream 3, .sendDataFrame 3] = some later ∧
        later.copied.getLast? = some ⟨3, [0x66], 0, 1, none⟩ := by
  have hfacts : (run step (Connection.new Platform.basic none true none)
      (.settings [⟨4, 2⟩] :: lostSource 1 ++ getRequest 3)).bind (fun connection =>
        (run flushStep (connection.sendData 3 [0x66] [] 96) [.sendHeaders, .sendDataFrame 1]).bind
          fun last => (last.step .sendDataReturn).bind fun after =>
            (run step after [.endStream 3, .sendDataFrame 3]).map fun later =>
              (connection.sending.isNone, last.sending,
                (after.nghttp2.streams 3).bind Nghttp2.Stream.item, later.copied.getLast?)) =
      some (true, some ⟨3, 96, true⟩, some ⟨96, [0x66], 0⟩, some ⟨3, [0x66], 0, 1, none⟩) := by
    decide
  rcases Option.bind_eq_some_iff.1 hfacts with ⟨connection, hrun, hfacts⟩
  rcases Option.bind_eq_some_iff.1 hfacts with ⟨last, hduring, hfacts⟩
  rcases Option.bind_eq_some_iff.1 hfacts with ⟨after, hafter, hfacts⟩
  rcases Option.map_eq_some_iff.1 hfacts with ⟨later, hlater, hfacts⟩
  simp only [Prod.mk.injEq, Option.isNone_iff_eq_none] at hfacts
  rcases hfacts with ⟨idle, hcall, hitem, hcopied⟩
  rcases Option.bind_eq_some_iff.1 hitem with ⟨stream, hstream, hitem⟩
  refine ⟨connection, after, hrun, idle,
    .flushed (submitResponse_of_pos (by decide) [] _) hduring hcall hafter, fun hnothing => ?_,
    later, hlater, hcopied⟩
  exact nomatch hitem.symm.trans (hnothing.item stream hstream)

end Connection

end KituraHTTP2
