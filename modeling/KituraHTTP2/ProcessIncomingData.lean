import KituraHTTP2.LostSources

/-!
# Buffers that `process` refuses

`HTTP2SocketProcessor.process` gives a buffer to `nghttp2_session_mem_recv`, flushes with
`nghttp2_session_send`, and returns `false` where one of the two fails.  By its comment `false`
means that the data needs to be processed later, and the caller presents the same bytes again.

The receiving side is modelled around the connection: how much of the buffer nghttp2 has read, the
client magic it still expects, the ACKs it owes, and the calls of `process` that have returned.  The
frames that the bytes stand for are left open: once something was read, any event of the connection
for received data can follow, and a handler can call `sendData` in between.

* `Clean` — a buffer that was refused has left no trace.
* **`refused_buffers_are_clean_iff`** — which runs have only clean results: no PING or SETTINGS is
  received while nghttp2 owes 10000 ACKs, and no flush asks for a data source that a later
  `sendData` for its stream has overtaken.
* `clean_of_sendsOnce` — the flushes are safe where every `sendData` finds its stream free.
* `refused_after_reading` — a WINDOW_UPDATE that was read, and is to be presented again.
-/

namespace KituraHTTP2

variable {P : Platform}

/-- `NGHTTP2_CLIENT_MAGIC` -/
def clientMagic : Bytes := utf8Encode "PRI * HTTP/2.0\r\n\r\nSM\r\n\r\n"

/-- `NGHTTP2_MAX_OBQ_FLOOD_ITEM` -/
def maxObqFloodItem : ℕ := 10000

/-- A connection with what nghttp2 keeps for receiving. -/
structure ReceivingSession (P : Platform) where
  connection : Connection P
  /-- the last bytes of the client magic, as far as they were not received -/
  clientMagicLeft : Bytes
  /-- `obq_flood_counter_`: the ACKs of PING and SETTINGS that wait -/
  obqFloodCounter : ℕ
  /-- `nghttp2_session_want_read` -/
  wantRead : Bool

/-- A call of `process` that has not returned. -/
structure ProcessCall (P : Platform) where
  /-- the session when it was called -/
  before : ReceivingSession P
  /-- how many bytes of the buffer `nghttp2_session_mem_recv` has not read -/
  left : ℕ
  /-- how many it has read -/
  consumed : ℕ
  /-- `sessionSend()` runs -/
  flushing : Bool
  /-- a function of nghttp2 has failed -/
  failed : Bool

/-- A call of `process` that has returned `result`. -/
structure ProcessResult (P : Platform) where
  result : Bool
  consumed : ℕ
  before : ReceivingSession P
  after : ReceivingSession P

structure Receiver (P : Platform) where
  session : ReceivingSession P
  processing : Option (ProcessCall P)
  results : List (ProcessResult P)

/-- What can happen to a connection and its receiving side. -/
inductive ReceiverEvent where
  | connection (event : ConnectionEvent)
  /-- `process` is called -/
  | process (buffer : Bytes)
  /-- `nghttp2_session_mem_recv` reads the next bytes of the buffer -/
  | read (count : ℕ)
  /-- a PING or SETTINGS was received, and nghttp2 queues the ACK -/
  | ack
  /-- the next ACK is taken from the queue -/
  | sendAck
  /-- after a GOAWAY, nghttp2 does not want to read any more -/
  | stopReading
  /-- the whole buffer was read, and `sessionSend()` is called -/
  | sessionSend
  | processReturn
deriving DecidableEq, Repr

/-- The flush of a call fails when the read callback does. -/
def ProcessCall.notice (call : ProcessCall P) (readFailed : Bool) : ProcessCall P :=
  { call with failed := call.failed || (call.flushing && readFailed) }

namespace Receiver

/-- The processor of a connection that was just created. -/
def new (connection : Connection P) : Receiver P where
  session := ⟨connection, clientMagic, 0, true⟩
  processing := none
  results := []

/-- `nghttp2_session_mem_recv` runs. -/
def reading (receiver : Receiver P) : Bool :=
  receiver.session.connection.sending.isNone &&
    receiver.processing.any fun call => !call.flushing && !call.failed

/-- `nghttp2_session_mem_recv` runs and has read something. -/
def receiving (receiver : Receiver P) : Bool :=
  receiver.reading && receiver.processing.any fun call => 0 < call.consumed

/-- The `sessionSend()` of a call of `process` runs. -/
def flushing (receiver : Receiver P) : Bool :=
  receiver.processing.any fun call => call.flushing && !call.failed

/-- `nghttp2_session_send` runs, in that `sessionSend()` or in that of a `sendData`. -/
def sending (receiver : Receiver P) : Bool :=
  receiver.flushing || receiver.session.connection.sending.any fun call => !call.failed

/-- When an event of the connection is possible.  A handler runs while a buffer is read, or later on
its own; ACKs are sent before anything else. -/
def mayHappen (receiver : Receiver P) : ConnectionEvent → Bool
  | .callback _ | .requestHeaders _ | .endStream _ | .resetStream _ | .terminateSession
  | .windowUpdate .. | .settings _ => receiver.receiving
  | .closeStream _ => true
  | .sendData .. => receiver.processing.isNone || receiver.reading
  | .sendHeaders | .sendDataFrame _ =>
    receiver.sending && decide (receiver.session.obqFloodCounter = 0)
  | .sendDataReturn =>
    receiver.session.connection.sending.any SendCall.failed ||
      decide (receiver.session.obqFloodCounter = 0)
  | .store .. => true

/-- The connection goes on, and a call of the read callback may have returned `-1` on the way. -/
def setConnection (receiver : Receiver P) (connection : Connection P) : Receiver P :=
  { receiver with
    session := { receiver.session with connection := connection }
    processing := receiver.processing.map fun call => call.notice
      (decide (receiver.session.connection.callbackFailures < connection.callbackFailures)) }

/-- `process` up to the begin of the frames.  Where the buffer goes on differently from the client
magic, nghttp2 returns `NGHTTP2_ERR_BAD_CLIENT_MAGIC`; where it does not want to read, it skips the
buffer. -/
def beginProcess (receiver : Receiver P) (buffer : Bytes) : Receiver P :=
  let session := receiver.session
  if session.wantRead then
    let readlen := min buffer.length session.clientMagicLeft.length
    if session.clientMagicLeft.take readlen = buffer.take readlen then
      { receiver with
        session := { session with clientMagicLeft := session.clientMagicLeft.drop readlen }
        processing := some ⟨session, buffer.length - readlen, readlen, false, false⟩ }
    else { receiver with results := receiver.results ++ [⟨false, 0, session, session⟩] }
  else { receiver with processing := some ⟨session, 0, 0, false, false⟩ }

/-- The call of `process` returns. -/
def returnFrom (receiver : Receiver P) (call : ProcessCall P) : Receiver P :=
  { receiver with
    processing := none
    results := receiver.results ++ [⟨!call.failed, call.consumed, call.before, receiver.session⟩] }

/-- One event; `none` where it is not possible. -/
def step (receiver : Receiver P) : ReceiverEvent → Option (Receiver P)
  | .connection event =>
    if receiver.mayHappen event then
      (receiver.session.connection.step event).map receiver.setConnection
    else none
  | .process buffer =>
    if receiver.processing.isSome ∨ receiver.session.connection.sending.isSome then none
    else some (receiver.beginProcess buffer)
  | .read count =>
    if receiver.reading ∧ 0 < count ∧ receiver.processing.any (count ≤ ·.left) then
      some { receiver with processing := receiver.processing.map fun call =>
        { call with left := call.left - count, consumed := call.consumed + count } }
    else none
  | .ack =>
    if receiver.receiving then
      if receiver.session.obqFloodCounter < maxObqFloodItem then
        some { receiver with
          session.obqFloodCounter := receiver.session.obqFloodCounter + 1 }
      else
        -- `NGHTTP2_ERR_FLOODED`
        some { receiver with processing := receiver.processing.map fun call =>
          { call with failed := true } }
    else none
  | .sendAck =>
    if receiver.sending ∧ 0 < receiver.session.obqFloodCounter then
      some { receiver with session.obqFloodCounter := receiver.session.obqFloodCounter - 1 }
    else none
  | .stopReading => some { receiver with session.wantRead := false }
  | .sessionSend =>
    if receiver.reading ∧ receiver.processing.any (·.left = 0) then
      some { receiver with processing := receiver.processing.map fun call =>
        { call with flushing := true } }
    else none
  | .processReturn =>
    receiver.processing.bind fun call =>
      if call.failed ∨ (call.flushing ∧ receiver.session.connection.nghttp2.isDrained ∧
          receiver.session.obqFloodCounter = 0) then
        some (receiver.returnFrom call)
      else none

/-- The condition on the events, and on the calls of `sendData` before them: less than 10000 ACKs
are owed when one more is queued, and the flush of a call asks only for sources that no later
`sendData` for their stream has overtaken. -/
def KeepsUp (receiver : Receiver P) : ReceiverEvent → Prop
  | .ack => receiver.session.obqFloodCounter < maxObqFloodItem
  | .connection (.sendDataFrame streamId) =>
    receiver.flushing = true → receiver.session.connection.AsksLatest streamId
      (receiver.session.connection.session.latestArray streamId)
  | _ => True

instance (receiver : Receiver P) (event : ReceiverEvent) : Decidable (receiver.KeepsUp event) := by
  unfold KeepsUp
  split <;> infer_instance

end Receiver

/-- **What is asked of every call of `process`.**  If it returned `false`, no byte of the buffer was
read and nothing has changed: no `streamsData`, no request handed to the delegate, nothing in
nghttp2.  So the call with the same buffer that comes later does what the first would have done. -/
def ProcessResult.Clean (result : ProcessResult P) : Prop :=
  result.result = false → result.consumed = 0 ∧ result.after = result.before

/-! ## Calls of the read callback that fail -/

lemma ProcessCall.notice_failed (call : ProcessCall P) (readFailed : Bool) :
    (call.notice readFailed).failed = (call.failed || (call.flushing && readFailed)) := rfl

namespace Connection

variable {connection connection' : Connection P} {streamId : StreamId} {event : ConnectionEvent}

/-- A DATA frame fails when its source has no entry. -/
lemma sendDataFrame_callbackFailures
    (hframe : connection.sendDataFrame streamId = some connection') :
    connection'.callbackFailures =
      connection.callbackFailures + (!connection.findsEntry streamId).toNat := by
  obtain ⟨prep, hprep, rfl⟩ := Option.map_eq_some_iff.1 hframe
  unfold findsEntry
  rw [hprep]
  cases prep with
  | dropped nghttp2 => rfl
  | deferred nghttp2 => rfl
  | read source readmax =>
    have hsome := connection.session.readCallback_isSome streamId source.ptr readmax
    dsimp only
    rw [← hsome]
    unfold readData
    split
    case h_1 hread =>
      rw [hread]
      rfl
    case h_2 hread =>
      rw [hread]
      rfl

/-- No other event calls the read callback. -/
lemma step_callbackFailures (hstep : connection.step event = some connection')
    (hother : ∀ streamId, event ≠ .sendDataFrame streamId) :
    connection'.callbackFailures = connection.callbackFailures := by
  cases Step.of_step hstep with
  | callback => rfl
  | requestHeaders => rfl
  | endStream => rfl
  | closeStream => rfl
  | sameItems => rfl
  | sendData =>
    unfold sendData
    split <;> rfl
  | sendHeaders => rfl
  | sendDataFrame => exact absurd rfl (hother _)
  | sendDataReturn => rfl
  | store => rfl

lemma sendDataFrame_of_step (hstep : connection.step (.sendDataFrame streamId) = some connection') :
    connection.sendDataFrame streamId = some connection' :=
  (Option.ite_none_right_eq_some.1 hstep).2

lemma callbackFailures_le (hstep : connection.step event = some connection') :
    connection.callbackFailures ≤ connection'.callbackFailures := by
  by_cases hframe : ∃ streamId, event = .sendDataFrame streamId
  · obtain ⟨streamId, rfl⟩ := hframe
    rw [sendDataFrame_callbackFailures (sendDataFrame_of_step hstep)]
    omega
  · rw [step_callbackFailures hstep fun streamId h => hframe ⟨streamId, h⟩]

end Connection

/-! ## What one event does -/

namespace Receiver

variable {receiver receiver' : Receiver P} {event : ReceiverEvent} {call : ProcessCall P}

/-- The cases of `step`.  The events that only count bytes and ACKs are one case. -/
inductive Step (receiver : Receiver P) : ReceiverEvent → Receiver P → Prop where
  | connection {event : ConnectionEvent} {connection : Connection P}
      (hstep : receiver.session.connection.step event = some connection) :
      Step receiver (.connection event) (receiver.setConnection connection)
  | process {buffer : Bytes} (idle : receiver.processing = none) :
      Step receiver (.process buffer) (receiver.beginProcess buffer)
  | counts {event : ReceiverEvent} {session : ReceivingSession P}
      {f : ProcessCall P → ProcessCall P} (keepsUp : receiver.KeepsUp event)
      (hconnection : session.connection = receiver.session.connection)
      (hf : ∀ call, (f call).before = call.before ∧ (f call).failed = call.failed ∧
        call.consumed ≤ (f call).consumed) :
      Step receiver event
        { receiver with session := session, processing := receiver.processing.map f }
  | flooded {call : ProcessCall P} (hcall : receiver.processing = some call)
      (hconsumed : 0 < call.consumed)
      (hflood : ¬ receiver.session.obqFloodCounter < maxObqFloodItem) :
      Step receiver .ack { receiver with processing := some { call with failed := true } }
  | processReturn {call : ProcessCall P} (hcall : receiver.processing = some call) :
      Step receiver .processReturn (receiver.returnFrom call)

/-- Nothing happens to the call. -/
lemma Step.keeps {session : ReceivingSession P} (keepsUp : receiver.KeepsUp event)
    (hconnection : session.connection = receiver.session.connection) :
    Step receiver event { receiver with session := session } := by
  have hcounts : Step receiver event
      { receiver with session := session, processing := receiver.processing.map id } :=
    .counts keepsUp hconnection fun call => ⟨rfl, rfl, Nat.le_refl _⟩
  rwa [Option.map_id, id] at hcounts

/-- `step` takes one of the cases. -/
theorem Step.of_step (hstep : receiver.step event = some receiver') :
    Step receiver event receiver' := by
  cases event with
  | connection event =>
    obtain ⟨-, hsome⟩ := Option.ite_none_right_eq_some.1 hstep
    obtain ⟨connection, hconnection, rfl⟩ := Option.map_eq_some_iff.1 hsome
    exact .connection hconnection
  | process buffer =>
    obtain ⟨hcan, hsome⟩ := Option.ite_none_left_eq_some.1 hstep
    cases hsome
    exact .process (Option.not_isSome_iff_eq_none.1 (not_or.1 hcan).1)
  | read count =>
    obtain ⟨-, hsome⟩ := Option.ite_none_right_eq_some.1 hstep
    cases hsome
    exact .counts trivial rfl fun call => ⟨rfl, rfl, Nat.le_add_right ..⟩
  | ack =>
    obtain ⟨hreceiving, hsome⟩ := Option.ite_none_right_eq_some.1 hstep
    split at hsome
    case isTrue hcounter =>
      cases hsome
      exact .keeps hcounter rfl
    case isFalse hflood =>
      cases hsome
      have hread : (receiver.processing.any fun call => decide (0 < call.consumed)) = true :=
        (Bool.and_eq_true_iff.1 hreceiving).2
      obtain ⟨call, hcall, hconsumed⟩ := (Option.any_eq_true ..).1 hread
      rw [hcall]
      exact .flooded hcall (of_decide_eq_true hconsumed) hflood
  | sendAck =>
    obtain ⟨-, hsome⟩ := Option.ite_none_right_eq_some.1 hstep
    cases hsome
    exact .keeps trivial rfl
  | stopReading =>
    cases hstep
    exact .keeps trivial rfl
  | sessionSend =>
    obtain ⟨-, hsome⟩ := Option.ite_none_right_eq_some.1 hstep
    cases hsome
    exact .counts trivial rfl fun call => ⟨rfl, rfl, Nat.le_refl _⟩
  | processReturn =>
    obtain ⟨call, hcall, hsome⟩ := Option.bind_eq_some_iff.1 hstep
    obtain ⟨-, hsome⟩ := Option.ite_none_right_eq_some.1 hsome
    cases hsome
    exact .processReturn hcall

/-! ## Refused for a reason that leaves traces, or not -/

/-- Nothing has failed after it had begun, and what was refused is clean. -/
structure AllClean (receiver : Receiver P) : Prop where
  entries : receiver.session.connection.EntriesInv
  not_failed : ∀ {call}, receiver.processing = some call → call.failed = false
  /-- the failures are counted, so that a call that meets one is not clean -/
  counted : ∀ {call}, receiver.processing = some call →
    call.before.connection.callbackFailures ≤ receiver.session.connection.callbackFailures
  clean : ∀ result ∈ receiver.results, result.Clean

/-- The call has read something, or has met a failure of the read callback. -/
def LeftTraces (receiver : Receiver P) (call : ProcessCall P) : Prop :=
  0 < call.consumed ∨
    call.before.connection.callbackFailures < receiver.session.connection.callbackFailures

/-- A call has left traces and was refused, or is going to be. -/
def Dirty (receiver : Receiver P) : Prop :=
  (∃ result ∈ receiver.results, ¬ result.Clean) ∨
    ∃ call, receiver.processing = some call ∧ call.failed = true ∧ receiver.LeftTraces call

lemma allClean_new {connection : Connection P} (h : connection.EntriesInv) :
    (new connection).AllClean :=
  ⟨h, fun hcall => (nomatch hcall), fun hcall => (nomatch hcall), fun _ hmem => (nomatch hmem)⟩

/-- An event that keeps up is no failure of a flush. -/
lemma not_fails_of_keepsUp {event : ConnectionEvent} {connection : Connection P}
    (hentries : receiver.session.connection.EntriesInv) (hkeeps : receiver.KeepsUp (.connection event)) (hflushing : receiver.flushing = true)
    (hstep : receiver.session.connection.step event = some connection) :
    connection.callbackFailures = receiver.session.connection.callbackFailures := by
  by_cases hframe : ∃ streamId, event = .sendDataFrame streamId
  · obtain ⟨streamId, rfl⟩ := hframe
    have hfinds := (Connection.findsEntry_iff hentries streamId).2 (hkeeps hflushing)
    rw [Connection.sendDataFrame_callbackFailures (Connection.sendDataFrame_of_step hstep), hfinds]
    rfl
  · exact Connection.step_callbackFailures hstep fun streamId h => hframe ⟨streamId, h⟩

/-- A call of `process` has just begun. -/
lemma AllClean.begun (h : receiver.AllClean) {session : ReceivingSession P}
    (hconnection : session.connection = receiver.session.connection) (left consumed : ℕ) :
    AllClean { receiver with
      session := session
      processing := some ⟨receiver.session, left, consumed, false, false⟩ } := by
  refine ⟨?_, fun hcall => ?_, fun hcall => ?_, h.clean⟩
  · rw [hconnection]
    exact h.entries
  · cases hcall
    rfl
  · cases hcall
    rw [hconnection]

/-- A buffer that is refused at once is clean. -/
lemma AllClean.beginProcess (h : receiver.AllClean) (buffer : Bytes) :
    (receiver.beginProcess buffer).AllClean := by
  unfold Receiver.beginProcess
  dsimp only
  split
  · split
    · refine h.begun ?_ _ _
      rfl
    · -- `NGHTTP2_ERR_BAD_CLIENT_MAGIC`
      refine ⟨h.entries, h.not_failed, h.counted, List.forall_mem_append.2 ⟨h.clean, ?_⟩⟩
      intro result hresult
      rw [List.mem_singleton] at hresult
      subst hresult
      exact fun _ => ⟨rfl, rfl⟩
  · exact h.begun rfl _ _

/-- **An event that keeps up** makes no call fail that has left traces. -/
lemma AllClean.step (h : receiver.AllClean) (hkeeps : receiver.KeepsUp event)
    (hstep : Step receiver event receiver') : receiver'.AllClean := by
  cases hstep with
  | @connection event connection hconnection =>
    refine ⟨h.entries.step (Connection.Step.of_step hconnection), fun hsome => ?_,
      fun hsome => ?_, h.clean⟩
    · obtain ⟨call, hcall, rfl⟩ := Option.map_eq_some_iff.1 hsome
      have hnot := h.not_failed hcall
      rw [ProcessCall.notice_failed, hnot, Bool.false_or]
      cases hflush : call.flushing with
      | false => rfl
      | true =>
        have hflushing : receiver.flushing = true := by
          unfold Receiver.flushing
          rw [hcall, Option.any_some, hflush, hnot]
          rfl
        rw [not_fails_of_keepsUp h.entries hkeeps hflushing hconnection]
        simp
    · obtain ⟨call, hcall, rfl⟩ := Option.map_eq_some_iff.1 hsome
      show call.before.connection.callbackFailures ≤ connection.callbackFailures
      have hcounted := h.counted hcall
      have hgrows := Connection.callbackFailures_le hconnection
      omega
  | process => exact h.beginProcess _
  | counts _ hconnection hf =>
    refine ⟨hconnection ▸ h.entries, fun hsome => ?_, fun hsome => ?_, h.clean⟩
    · obtain ⟨call, hcall, rfl⟩ := Option.map_eq_some_iff.1 hsome
      exact (hf call).2.1.trans (h.not_failed hcall)
    · obtain ⟨call, hcall, rfl⟩ := Option.map_eq_some_iff.1 hsome
      rw [(hf call).1, hconnection]
      exact h.counted hcall
  | flooded hcall hconsumed hflood => exact absurd hkeeps hflood
  | @processReturn call hcall =>
    refine ⟨h.entries, fun hnone => (nomatch hnone), fun hnone => (nomatch hnone),
      List.forall_mem_append.2 ⟨h.clean, ?_⟩⟩
    intro result hresult
    rw [List.mem_singleton] at hresult
    subst hresult
    intro hfalse
    rw [h.not_failed hcall] at hfalse
    cases hfalse

/-- **The first event that does not keep up** makes a call fail that has left traces. -/
lemma AllClean.dirty_of_not_keepsUp (h : receiver.AllClean) (hkeeps : ¬ receiver.KeepsUp event)
    (hstep : Step receiver event receiver') : receiver'.Dirty := by
  cases hstep with
  | @connection event connection hconnection =>
    cases event with
    | sendDataFrame streamId =>
      have hnot := Classical.not_imp.1 hkeeps
      have hflush : (receiver.processing.any fun call => call.flushing && !call.failed) = true :=
        hnot.1
      obtain ⟨call, hcall, hflushing⟩ := (Option.any_eq_true ..).1 hflush
      have hfailures := Connection.sendDataFrame_callbackFailures
        (Connection.sendDataFrame_of_step hconnection)
      have hlost := Bool.eq_false_iff.2 (mt (Connection.findsEntry_iff h.entries streamId).1 hnot.2)
      rw [hlost, Bool.not_false, Bool.toNat_true] at hfailures
      have hless : receiver.session.connection.callbackFailures < connection.callbackFailures := by
        omega
      refine Or.inr ⟨call.notice _, congrArg (Option.map _) hcall, ?_, Or.inr ?_⟩
      · rw [ProcessCall.notice_failed, (Bool.and_eq_true_iff.1 hflushing).1, decide_eq_true hless]
        exact Bool.or_true _
      · show call.before.connection.callbackFailures < connection.callbackFailures
        have hcounted := h.counted hcall
        omega
    | _ => exact absurd trivial hkeeps
  | process => exact absurd trivial hkeeps
  | counts keepsUp => exact absurd keepsUp hkeeps
  | flooded hcall hconsumed hflood => exact Or.inr ⟨_, rfl, rfl, Or.inl hconsumed⟩
  | processReturn => exact absurd trivial hkeeps

/-- A call that left traces and failed returns `false`, and that is not clean. -/
lemma not_clean_of_leftTraces (hfailed : call.failed = true) (htraces : receiver.LeftTraces call) :
    ¬ ProcessResult.Clean ⟨!call.failed, call.consumed, call.before, receiver.session⟩ := by
  intro hclean
  obtain ⟨hconsumed, hsame⟩ := hclean (by rw [hfailed]; rfl)
  rcases htraces with hread | hmet
  · have hnone : call.consumed = 0 := hconsumed
    omega
  · have hafter : receiver.session = call.before := hsame
    rw [hafter] at hmet
    omega

/-- **It stays so.** -/
lemma Dirty.step (h : receiver.Dirty) (hstep : Step receiver event receiver') :
    receiver'.Dirty := by
  rcases h with ⟨result, hresult, hdirty⟩ | ⟨call, hcall, hfailed, htraces⟩
  · -- results are never taken back
    refine Or.inl ⟨result, ?_, hdirty⟩
    cases hstep with
    | connection => exact hresult
    | process =>
      unfold Receiver.beginProcess
      dsimp only
      split
      · split
        · exact hresult
        · exact List.mem_append_left _ hresult
      · exact hresult
    | counts => exact hresult
    | flooded => exact hresult
    | processReturn => exact List.mem_append_left _ hresult
  · cases hstep with
    | @connection event connection hconnection =>
      refine Or.inr ⟨call.notice _, congrArg (Option.map _) hcall, ?_, ?_⟩
      · rw [ProcessCall.notice_failed, hfailed]
        exact Bool.true_or _
      · refine htraces.imp id fun hmet => ?_
        show call.before.connection.callbackFailures < connection.callbackFailures
        have hgrows := Connection.callbackFailures_le hconnection
        omega
    | process idle => exact nomatch idle.symm.trans hcall
    | @counts _ session f _ hconnection hf =>
      refine Or.inr ⟨f call, congrArg (Option.map f) hcall, (hf call).2.1.trans hfailed, ?_⟩
      obtain ⟨hbefore, -, hgrows⟩ := hf call
      rcases htraces with hread | hmet
      · refine Or.inl ?_
        omega
      · refine Or.inr ?_
        show (f call).before.connection.callbackFailures < session.connection.callbackFailures
        rw [hbefore, hconnection]
        exact hmet
    | @flooded call' hcall' hconsumed hflood =>
      exact Or.inr ⟨_, rfl, rfl, Or.inl hconsumed⟩
    | @processReturn call' hcall' =>
      rw [hcall, Option.some.injEq] at hcall'
      subst hcall'
      exact Or.inl ⟨_, List.mem_append_right _ List.mem_cons_self,
        not_clean_of_leftTraces hfailed htraces⟩

/-! ## Runs -/

/-- **Which refused buffers are clean.**  Of every run of a connection at whose end no call of
`process` is running, all calls that returned `false` are clean exactly when each event kept up. -/
theorem refused_buffers_are_clean_iff {remoteAddress : Option String} {delegate : Bool}
    {upgrade : Option (Upgrade P)} {events : List ReceiverEvent}
    (hrun : Machine.run step (new (Connection.new P remoteAddress delegate upgrade)) events =
      some receiver) (idle : receiver.processing = none) :
    (∀ result ∈ receiver.results, result.Clean) ↔
      Machine.Along step KeepsUp
        (new (Connection.new P remoteAddress delegate upgrade)) events := by
  have hentries := Connection.entriesInv_new (P := P) remoteAddress delegate upgrade
  rcases Machine.run_good_or_bad AllClean Dirty
    (fun _ _ _ h hkeeps hstep => h.step hkeeps (Step.of_step hstep))
    (fun _ _ _ h hkeeps hstep => h.dirty_of_not_keepsUp hkeeps (Step.of_step hstep))
    (fun _ _ _ h hstep => h.step (Step.of_step hstep)) (allClean_new hentries) hrun with
    ⟨halong, hclean⟩ | ⟨hnot, hdirty | ⟨call, hcall, -⟩⟩
  · exact iff_of_true hclean.clean halong
  · obtain ⟨result, hresult, hnotClean⟩ := hdirty
    exact iff_of_false (fun hall => hnotClean (hall result hresult)) hnot
  · exact nomatch idle.symm.trans hcall

/-! ## Flushes that are safe -/

/-- The condition on the calls of `sendData`: they find their streams free. -/
def SendsOnce (receiver : Receiver P) : ReceiverEvent → Prop
  | .connection event => receiver.session.connection.SendsOnce event
  | .ack => receiver.session.obqFloodCounter < maxObqFloodItem
  | _ => True

/-- The receiving side leaves the connection alone, but for the events of the connection. -/
lemma Step.connection_cases (hstep : Step receiver event receiver') :
    receiver'.session.connection = receiver.session.connection ∨
      ∃ e, event = .connection e ∧
        receiver.session.connection.step e = some receiver'.session.connection := by
  cases hstep with
  | connection hconnection => exact Or.inr ⟨_, rfl, hconnection⟩
  | process =>
    refine Or.inl ?_
    unfold Receiver.beginProcess
    dsimp only
    split
    · split <;> rfl
    · rfl
  | counts _ hconnection => exact Or.inl hconnection
  | flooded => exact Or.inl rfl
  | processReturn => exact Or.inl rfl

/-- The pending sources keep their entries, whatever happens on the receiving side. -/
lemma sourcesInv_step (h : receiver.session.connection.SourcesInv)
    (honce : receiver.SendsOnce event) (hstep : Step receiver event receiver') :
    receiver'.session.connection.SourcesInv := by
  rcases hstep.connection_cases with hsame | ⟨e, rfl, hconnection⟩
  · exact hsame ▸ h
  · exact h.step honce (Connection.Step.of_step hconnection)

lemma entriesInv_step (h : receiver.session.connection.EntriesInv)
    (hstep : Step receiver event receiver') : receiver'.session.connection.EntriesInv := by
  rcases hstep.connection_cases with hsame | ⟨e, -, hconnection⟩
  · exact hsame ▸ h
  · exact h.step (Connection.Step.of_step hconnection)

lemma findsEntry_of_sourcesInv {connection : Connection P} (h : connection.SourcesInv)
    (streamId : StreamId) : connection.findsEntry streamId = true := by
  unfold Connection.findsEntry
  split
  case h_1 source readmax hprep =>
    obtain ⟨info, hinfo, -⟩ := h.registered (Connection.attached_of_prepData hprep)
    rw [hinfo]
    rfl
  case h_2 => rfl

lemma keepsUp_of_sendsOnce (h : receiver.session.connection.SourcesInv)
    (hentries : receiver.session.connection.EntriesInv) (honce : receiver.SendsOnce event) :
    receiver.KeepsUp event := by
  unfold KeepsUp
  split
  · exact honce
  · exact fun _ => (Connection.findsEntry_iff hentries _).1 (findsEntry_of_sourcesInv h _)
  · trivial

/-- **Sending once is enough.**  Where every `sendData` finds its stream free, only a flood of ACKs
is left to refuse a buffer that was read. -/
theorem clean_of_sendsOnce {remoteAddress : Option String} {delegate : Bool}
    {upgrade : Option (Upgrade P)} {events : List ReceiverEvent}
    (honce : Machine.Along step SendsOnce
      (new (Connection.new P remoteAddress delegate upgrade)) events)
    (hrun : Machine.run step (new (Connection.new P remoteAddress delegate upgrade)) events =
      some receiver) : ∀ result ∈ receiver.results, result.Clean := by
  have hsources := Connection.sourcesInv_new (P := P) remoteAddress delegate upgrade
  have hentries := Connection.entriesInv_new (P := P) remoteAddress delegate upgrade
  have hinv : ∀ (s : Receiver P) e s',
      s.session.connection.SourcesInv ∧ s.session.connection.EntriesInv → s.SendsOnce e →
      s.step e = some s' → s'.session.connection.SourcesInv ∧ s'.session.connection.EntriesInv :=
    fun _ _ _ h honce hstep => ⟨sourcesInv_step h.1 honce (Step.of_step hstep),
      entriesInv_step h.2 (Step.of_step hstep)⟩
  have hkeeps : Machine.Along step KeepsUp
      (new (Connection.new P remoteAddress delegate upgrade)) events :=
    honce.of_invariant hinv (fun _ _ h honce => keepsUp_of_sendsOnce h.1 h.2 honce)
      ⟨hsources, hentries⟩
  have hclean : receiver.AllClean :=
    Machine.run_preserves_along (fun _ _ _ h hkeeps hstep => h.step hkeeps (Step.of_step hstep))
      (allClean_new hentries) hkeeps hrun
  exact hclean.clean

/-- A client sends HTTP/1.1 first, then the connection preface. -/
def secondTry : List ReceiverEvent :=
  [.process (utf8Encode "GET / HTTP/1.1"),
    .process (clientMagic ++ [0, 0, 6, 4, 0, 0, 0, 0, 0, 0, 4, 0, 0, 0, 2]), .read 15,
    .connection (.settings [⟨4, 2⟩]), .ack, .sessionSend, .sendAck, .processReturn]

/-- The first buffer is refused, and none of it was read. -/
theorem refused_buffers_are_clean_secondTry :
    ∃ receiver, Machine.run step (new (Connection.new Platform.basic none true none)) secondTry =
        some receiver ∧
      receiver.results.map (fun result => (result.result, result.consumed)) =
        [(false, 0), (true, 39)] ∧
      ∀ result ∈ receiver.results, result.Clean := by
  have hresults : (Machine.run step (new (Connection.new Platform.basic none true none))
      secondTry).map (fun receiver => (receiver.processing.isNone,
        receiver.results.map fun result => (result.result, result.consumed))) =
      some (true, [(false, 0), (true, 39)]) := by
    decide
  obtain ⟨receiver, hrun, hfacts⟩ := Option.map_eq_some_iff.1 hresults
  rw [Prod.mk.injEq, Option.isNone_iff_eq_none] at hfacts
  exact ⟨receiver, hrun, hfacts.2, (refused_buffers_are_clean_iff hrun hfacts.1).2 (by decide)⟩

/-- The client leaves a window of two bytes and sends a request; its handler ends the response, of
which two bytes are left, and ends it again.  The next buffer holds a WINDOW_UPDATE. -/
def endedTwice : List ReceiverEvent :=
  let frame : Frame := { type := .headers, flags := 0x5, streamId := 1, cat := .request }
  [.process (clientMagic ++ [0, 0, 6, 4, 0, 0, 0, 0, 0, 0, 4, 0, 0, 0, 2] ++
      [0, 0, 6, 1, 5, 0, 0, 0, 1, 0x82, 0x86, 0x84, 0x01, 0x01, 0x68]),
    .read 15, .connection (.settings [⟨4, 2⟩]), .ack,
    .read 15, .connection (.requestHeaders frame),
    .connection (.callback (.header frame (utf8Encode ":method") (utf8Encode "GET"))),
    .connection (.callback (.header frame (utf8Encode ":scheme") (utf8Encode "http"))),
    .connection (.callback (.header frame (utf8Encode ":path") (utf8Encode "/"))),
    .connection (.callback (.header frame (utf8Encode ":authority") (utf8Encode "h"))),
    .connection (.callback (.frameRecv frame "today")),
    .connection (.sendData 1 [0x61, 0x62, 0x63, 0x64] [] 64), .sendAck, .connection .sendHeaders,
    .connection (.sendDataFrame 1), .connection (.sendDataFrame 1), .connection .sendDataReturn,
    .connection (.sendData 1 [0x65] [] 80), .connection .sendHeaders, .connection .sendDataReturn,
    .connection (.endStream 1), .sessionSend, .processReturn,
    .process [0, 0, 4, 8, 0, 0, 0, 0, 1, 0, 0, 0, 10], .read 13,
    .connection (.windowUpdate 1 10), .sessionSend, .connection (.sendDataFrame 1), .processReturn]

/-- **A buffer is refused after it was read.**  nghttp2 reads all of the WINDOW_UPDATE, the flush
fails on the first response, and `process` returns `false`. -/
theorem refused_after_reading :
    ∃ receiver, Machine.run step (new (Connection.new Platform.basic none true none)) endedTwice =
        some receiver ∧
      receiver.processing = none ∧ ∃ result ∈ receiver.results, ¬ result.Clean := by
  have hresults : (Machine.run step (new (Connection.new Platform.basic none true none))
      endedTwice).map (fun receiver => (receiver.processing.isNone,
        receiver.results.map fun result => (result.result, result.consumed))) =
      some (true, [(true, 54), (false, 13)]) := by
    decide
  obtain ⟨receiver, hrun, hfacts⟩ := Option.map_eq_some_iff.1 hresults
  rw [Prod.mk.injEq, Option.isNone_iff_eq_none] at hfacts
  obtain ⟨idle, hresults⟩ := hfacts
  have hmem : (false, 13) ∈
      receiver.results.map fun result => (result.result, result.consumed) := by
    rw [hresults]
    decide
  obtain ⟨result, hresult, hpair⟩ := List.mem_map.1 hmem
  rw [Prod.mk.injEq] at hpair
  refine ⟨receiver, hrun, idle, result, hresult, fun hclean => ?_⟩
  have hconsumed := (hclean hpair.1).1
  rw [hpair.2] at hconsumed
  cases hconsumed

end Receiver

end KituraHTTP2
