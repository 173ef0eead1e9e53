import KituraHTTP2.DataSources
import KituraHTTP2.Lib.LiveTable
import Mathlib.Data.Int.ConditionallyCompleteOrder
import Mathlib.Data.Int.Interval

/-!
# The stream table and the streams that are open

`on_begin_headers` creates the entry of a stream and `on_stream_close` removes it.  `sendData` puts
an entry in its place without a look at whether there is one: a handler that answers after the
client has reset the stream brings the entry back, and nothing removes it any more.

* `Connection.table` — the open streams of nghttp2, and the keys of `streamsData`.
* `tracksTable` — the connection opens, closes and writes them one at a time.
* **`closed_streams_gone_iff`** — closed streams stay out of the table, over a whole run, exactly
  when every `sendData` was called for a stream that was open.
* `late_answer_brings_the_entry_back` — a stream that is reset before it is answered.
-/

namespace KituraHTTP2

open Machine LiveTable

variable {P : Platform}

/-! ## The keys of the table -/

namespace HTTP2Session

/-- The read callback changes the entry it finds. -/
lemma isSome_streamsData_readCallback (session : HTTP2Session P) (streamId : StreamId)
    (ptr : Addr) (length : ℕ) (s : StreamId) :
    ((session.readCallback streamId ptr length).1.streamsData s).isSome =
      (session.streamsData s).isSome := by
  rcases session.readCallback_cases streamId ptr length with
    hsame | ⟨streamInfo, dataInfo, hstream, hread⟩
  · rw [hsame]
  · rw [hread]
    by_cases hs : s = streamId
    · subst hs
      simp [setStream, hstream]
    · exact congrArg Option.isSome (Function.update_of_ne hs ..)

end HTTP2Session

/-- `sendData` is called for the stream. -/
def ConnectionEvent.SendsTo (streamId : StreamId) : ConnectionEvent → Prop
  | .sendData s _ _ _ => s = streamId
  | _ => False

namespace Connection

variable {connection connection' : Connection P} {streamId s : StreamId}

/-- The streams that nghttp2 has open, the last stream identifier it received, and the keys of
`streamsData`. -/
def table (connection : Connection P) : Table StreamId where
  opened := { s | (connection.nghttp2.streams s).isSome }
  last := connection.nghttp2.lastRecvStreamId
  keys := { s | (connection.session.streamsData s).isSome }

lemma table_congr
    (hopened : ∀ s, (connection'.nghttp2.streams s).isSome = (connection.nghttp2.streams s).isSome)
    (hlast : connection'.nghttp2.lastRecvStreamId = connection.nghttp2.lastRecvStreamId)
    (hkeys : ∀ s, (connection'.session.streamsData s).isSome =
      (connection.session.streamsData s).isSome) : connection'.table = connection.table := by
  refine Table.ext (Set.ext fun s => ?_) hlast (Set.ext fun s => ?_)
  · show _ = true ↔ _ = true
    rw [hopened]
  · show _ = true ↔ _ = true
    rw [hkeys]

/-- Where nghttp2 closes a stream, its entry is removed. -/
lemma table_advance {nghttp2 : Nghttp2.Session DataSource}
    (honly : Nghttp2.Session.OnlyStream streamId connection.nghttp2 nghttp2) :
    ∃ c : Change StreamId, c.Allowed connection.table ∧
      (connection.advance streamId nghttp2).table = connection.table.apply c ∧
      ∀ i, c ≠ .write i := by
  by_cases hclose : (connection.nghttp2.streams streamId).isSome ∧
      (nghttp2.streams streamId).isNone
  · refine ⟨.close streamId, hclose.1, ?_, fun i => by simp⟩
    have hsession : (connection.advance streamId nghttp2).session =
        connection.session.onStreamCloseCallback streamId := if_pos hclose
    have hnone : nghttp2.streams streamId = none := Option.isNone_iff_eq_none.1 hclose.2
    refine Table.ext (Set.ext fun s => ?_) honly.lastRecvStreamId (Set.ext fun s => ?_)
    · show (nghttp2.streams s).isSome ↔ (connection.nghttp2.streams s).isSome ∧ s ≠ streamId
      by_cases hs : s = streamId
      · subst hs
        simp [hnone]
      · simp [honly.other s hs, hs]
    · show ((connection.advance streamId nghttp2).session.streamsData s).isSome ↔
        (connection.session.streamsData s).isSome ∧ s ≠ streamId
      rw [hsession]
      by_cases hs : s = streamId
      · subst hs
        simp [HTTP2Session.onStreamCloseCallback, HTTP2Session.setStream]
      · simp [HTTP2Session.onStreamCloseCallback, HTTP2Session.setStream, hs]
  · refine ⟨.keep, trivial, ?_, fun i => by simp⟩
    have hsession : (connection.advance streamId nghttp2).session = connection.session :=
      if_neg hclose
    refine table_congr ?_ honly.lastRecvStreamId fun s => by rw [hsession]
    intro s
    by_cases hs : s = streamId
    · subst hs
      show (nghttp2.streams s).isSome = _
      rcases hsome : (connection.nghttp2.streams s).isSome with _ | _
      · exact Bool.eq_false_of_not_eq_true (mt honly.self (by simp [hsome]))
      · rw [Option.isNone_iff_eq_none, hsome] at hclose
        simpa [Option.isSome_iff_ne_none] using hclose
    · exact congrArg Option.isSome (honly.other s hs)

/-- `sendData` writes an entry, whatever nghttp2 says to the submission. -/
lemma table_sendData (data : Bytes) (headers : List (Bytes × Bytes)) (ptr : Addr) :
    (connection.sendData streamId data headers ptr).table =
      connection.table.apply (.write streamId) := by
  have hkeys : ∀ call : Submission,
      { s | ((connection.session.sendData call).streamsData s).isSome } =
        insert call.streamId { s | (connection.session.streamsData s).isSome } := by
    intro call
    refine Set.ext fun s => ?_
    show _ = true ↔ s = call.streamId ∨ (connection.session.streamsData s).isSome = true
    by_cases hs : s = call.streamId
    · subst hs
      simp [HTTP2Session.sendData, HTTP2Session.setStream]
    · simp [HTTP2Session.sendData, HTTP2Session.setStream, hs]
  rw [Connection.sendData]
  split
  · next nghttp2 hsubmit =>
    have hsame : nghttp2.streams = connection.nghttp2.streams ∧
        nghttp2.lastRecvStreamId = connection.nghttp2.lastRecvStreamId := by
      rw [Nghttp2.Session.submitResponse] at hsubmit
      split at hsubmit
      · cases hsubmit
      · cases hsubmit
        exact ⟨rfl, rfl⟩
    refine Table.ext ?_ hsame.2 (hkeys _)
    show { s | (nghttp2.streams s).isSome } = _
    rw [hsame.1]
    rfl
  · exact Table.ext rfl rfl (hkeys _)

/-- `on_begin_headers` creates the entry of a new stream. -/
lemma table_requestHeaders {frame : Frame}
    (hstep : connection.step (.requestHeaders frame) = some connection') :
    connection.table.last < frame.streamId ∧
      connection'.table = connection.table.apply (.start frame.streamId) := by
  rcases Option.ite_none_left_eq_some.1 hstep with ⟨hcan, hmap⟩
  rcases Option.map_eq_some_iff.1 hmap with ⟨nghttp2, hopen, rfl⟩
  rcases Option.ite_none_left_eq_some.1 hopen with ⟨hnew, heq⟩
  cases heq
  simp only [not_or, not_not] at hcan hnew
  refine ⟨Int.not_le.1 hnew.2.2.1, Table.ext (Set.ext fun s => ?_) rfl (Set.ext fun s => ?_)⟩
  · show ((connection.nghttp2.openStream frame.streamId).streams s).isSome ↔
      s = frame.streamId ∨ (connection.nghttp2.streams s).isSome
    by_cases hs : s = frame.streamId
    · subst hs
      simp [Nghttp2.Session.openStream]
    · rw [Nghttp2.Session.openStream, Nghttp2.Session.setStream_of_ne hs]
      simp [hs]
  · show ((connection.session.onBeginHeadersCallback frame).streamsData s).isSome ↔
      s = frame.streamId ∨ (connection.session.streamsData s).isSome
    rw [HTTP2Session.onBeginHeadersCallback, if_neg (by simp [hcan.2.1, hcan.2.2])]
    by_cases hs : s = frame.streamId
    · subst hs
      simp [HTTP2Session.setStream]
    · simp [HTTP2Session.setStream, hs]

/-- A DATA frame closes its stream, or changes nothing. -/
lemma table_sendDataFrame (hframe : connection.sendDataFrame streamId = some connection') :
    ∃ c : Change StreamId, c.Allowed connection.table ∧
      connection'.table = connection.table.apply c ∧ ∀ i, c ≠ .write i := by
  rcases sendDataFrame_cases hframe with ⟨stream, source, hnext, rfl | ⟨-, rfl⟩ | rfl⟩
  · exact ⟨.keep, trivial, table_congr (Nghttp2.Session.isSome_streams_setStream_map _) rfl
      fun _ => rfl, fun i => by simp⟩
  · have hdefer : some stream.deferItem =
        (connection.nghttp2.streams streamId).map Nghttp2.Stream.deferItem := by
      rw [(Nghttp2.Session.nextItem_eq_some_iff.1 hnext).2.2.1]
      rfl
    rw [hdefer]
    exact ⟨.keep, trivial, table_congr (Nghttp2.Session.isSome_streams_setStream_map _) rfl
      fun _ => rfl, fun i => by simp⟩
  · rw [readData]
    have hkeys := connection.session.isSome_streamsData_readCallback streamId source.ptr
      (connection.nghttp2.nextDataRead stream)
    split
    · next session result hread =>
      rw [hread] at hkeys
      let read (copied : List Copied) : Connection P :=
        { connection with session := session, copied := copied }
      have htable : ∀ copied, (read copied).table = connection.table :=
        fun _ => table_congr (fun _ => rfl) rfl hkeys
      have hsent : ∀ copied nghttp2,
          Nghttp2.Session.OnlyStream streamId connection.nghttp2 nghttp2 →
          ∃ c : Change StreamId, c.Allowed connection.table ∧
            ((read copied).advance streamId nghttp2).table = connection.table.apply c ∧
            ∀ i, c ≠ .write i := by
        intro copied nghttp2 honly
        rw [← htable copied]
        exact table_advance honly
      exact hsent _ _ .afterDataSent
    · next session hread =>
      rw [hread] at hkeys
      exact ⟨.keep, trivial, table_congr (Nghttp2.Session.isSome_streams_setStream_map _) rfl
        hkeys, fun i => by simp⟩

/-- What the other events do to the table. -/
lemma table_of_not_sendData {event : ConnectionEvent} (hsends : ∀ s, ¬ event.SendsTo s)
    (hstep : connection.step event = some connection') :
    ∃ c : Change StreamId, c.Allowed connection.table ∧
      connection'.table = connection.table.apply c ∧ ∀ i, c ≠ .write i := by
  have hquiet : connection'.table = connection.table → ∃ c : Change StreamId,
      c.Allowed connection.table ∧ connection'.table = connection.table.apply c ∧
        ∀ i, c ≠ .write i :=
    fun htable => ⟨.keep, trivial, htable, fun i => by simp⟩
  cases Step.of_step hstep with
  | callback idle receive hsession =>
    have hsame := HTTP2Session.SameSources.receive receive hsession
    exact hquiet (table_congr (fun _ => rfl) rfl hsame.isSome)
  | @requestHeaders frame _ idle hopen =>
    rcases table_requestHeaders hstep with ⟨hnew, htable⟩
    exact ⟨.start frame.streamId, hnew, htable, fun i => by simp⟩
  | endStream idle => exact table_advance .shutdownRead
  | closeStream => exact table_advance .closeStream
  | sameItems idle hsame =>
    exact hquiet (table_congr hsame.isSome_streams hsame.lastRecvStreamId fun _ => rfl)
  | sendData idle hptr => exact absurd rfl (hsends _)
  | sendHeaders hsend =>
    exact hquiet (table_congr (Nghttp2.Session.isSome_streams_sendHeaders hsend)
      (Nghttp2.Session.KeepsWindows.sendHeaders hsend).lastRecvStreamId fun _ => rfl)
  | sendDataFrame hframe => exact table_sendDataFrame hframe
  | sendDataReturn hcall hdone => exact hquiet rfl
  | store hptr => exact hquiet rfl

/-- **What one event does to the table.**  The entries that are written, and do not come with a new
stream, are those of `sendData`. -/
theorem tracksTable (P : Platform) : Tracks Connection.step (table (P := P))
    fun event s => event.SendsTo s where
  step := by
    intro connection event connection' hstep
    by_cases hsends : ∃ s, event.SendsTo s
    · rcases hsends with ⟨s, hs⟩
      cases event with
      | sendData streamId data headers ptr =>
        rcases Option.ite_none_left_eq_some.1 hstep with ⟨-, hsome⟩
        cases hsome
        exact ⟨.write streamId, trivial, table_sendData data headers ptr,
          fun i => by simp [ConnectionEvent.SendsTo]⟩
      | _ => exact absurd hs id
    · rw [not_exists] at hsends
      rcases table_of_not_sendData hsends hstep with ⟨c, hc, htable, hwrite⟩
      exact ⟨c, hc, htable, fun i => iff_of_false (hsends i) (hwrite i)⟩

/-! ## Whole runs -/

/-- The stream is open, and the event closes it: `on_stream_close` is called. -/
def Closes (connection : Connection P) (event : ConnectionEvent) (s : StreamId) : Prop :=
  (connection.nghttp2.streams s).isSome ∧ ∀ connection', connection.step event = some connection' →
    connection'.nghttp2.streams s = none

/-- **What is asked of a run.**  A stream that was closed has no entry, then and ever after; in
every state the keys are open streams, and there are finitely many, no more than open streams. -/
structure ClosedStreamsGone (start : Connection P) (events : List ConnectionEvent) : Prop where
  stays_closed : ∀ before event between after mid later,
    events = before ++ event :: (between ++ after) →
    run Connection.step start before = some mid →
    run Connection.step mid (event :: between) = some later →
    ∀ s, mid.Closes event s → later.session.streamsData s = none
  keys_open : Throughout Connection.step (fun connection => ∀ s,
    (connection.session.streamsData s).isSome → (connection.nghttp2.streams s).isSome) start events
  bounded : Throughout Connection.step (fun connection => connection.table.keys.Finite ∧
    connection.table.keys.ncard ≤ connection.table.opened.ncard) start events

/-- The condition on the calls of `sendData`: the stream is open. -/
def SendsOpen (connection : Connection P) : ConnectionEvent → Prop
  | .sendData streamId _ _ _ => (connection.nghttp2.streams streamId).isSome
  | _ => True

instance (connection : Connection P) : ∀ event, Decidable (connection.SendsOpen event)
  | .sendData streamId _ _ _ =>
    instDecidableEqBool (connection.nghttp2.streams streamId).isSome true
  | .callback _ | .requestHeaders _ | .endStream _ | .closeStream _ | .resetStream _
  | .terminateSession | .windowUpdate _ _ | .settings _ | .sendHeaders | .sendDataFrame _
  | .sendDataReturn | .store _ _ => instDecidableTrue

lemma sendsOpen_iff {event : ConnectionEvent} :
    connection.SendsOpen event ↔ ∀ s, event.SendsTo s → s ∈ connection.table.opened := by
  cases event with
  | sendData streamId data headers ptr =>
    constructor
    · rintro hopen s rfl
      exact hopen
    · intro h
      exact h streamId rfl
  | _ => exact iff_of_true trivial fun _ hs => absurd hs id

lemma table_new (remoteAddress : Option String) (delegate : Bool)
    (upgrade : Option (Upgrade P)) :
    (Connection.new P remoteAddress delegate upgrade).table.Within 0 ∧
      (Connection.new P remoteAddress delegate upgrade).table.keys = ∅ := by
  have hknown := known_initSession (upgrade.map Upgrade.settingsPayload)
  refine ⟨⟨hknown.last, fun s hs => hknown.stream hs⟩, Set.eq_empty_of_forall_notMem ?_⟩
  intro s hs
  exact absurd hs Bool.false_ne_true

/-- **When closed streams stay out of the table.**  For a connection from either initializer and
every run: exactly when each `sendData` of the run was called for a stream that was open then. -/
theorem closed_streams_gone_iff {remoteAddress : Option String} {delegate : Bool}
    {upgrade : Option (Upgrade P)} {events : List ConnectionEvent}
    (hrun : run Connection.step (Connection.new P remoteAddress delegate upgrade) events =
      some connection) :
    ClosedStreamsGone (Connection.new P remoteAddress delegate upgrade) events ↔
      Along Connection.step SendsOpen (Connection.new P remoteAddress delegate upgrade) events := by
  rcases table_new (P := P) remoteAddress delegate upgrade with ⟨hwithin, hempty⟩
  have htracks := tracksTable P
  have hkeys : (Connection.new P remoteAddress delegate upgrade).table.keys ⊆
      (Connection.new P remoteAddress delegate upgrade).table.opened :=
    hempty ▸ Set.empty_subset _
  have hiff := htracks.keys_opened_iff hkeys hrun
  simp only [← sendsOpen_iff] at hiff
  rw [← hiff]
  constructor
  · exact fun h => h.keys_open
  · intro hopen
    refine ⟨?_, hopen, ?_⟩
    · rintro before event between after mid later rfl hmid hlater s ⟨hs, hcloses⟩
      rcases run_cons_eq_some.1 hlater with ⟨next, hstep, hrest⟩
      have hclosed : next.table.Gone s := by
        rcases htracks.step hstep with ⟨c, hc, htable, -⟩
        have hgone := (htracks.within_run hwithin hmid).gone hc hs
        rw [← htable] at hgone
        refine hgone ?_
        intro hmem
        exact Option.isSome_iff_ne_none.1 hmem (hcloses next hstep)
      have hgone := htracks.gone_run hclosed hrest
      have hlater' : run Connection.step (Connection.new P remoteAddress delegate upgrade)
          (before ++ event :: between) = some later :=
        run_append_eq_some.2 ⟨mid, hmid, hlater⟩
      have hsplit : before ++ event :: (between ++ after) = (before ++ event :: between) ++ after :=
        by simp
      have hkey := hopen _ after later hsplit hlater'
      exact Option.not_isSome_iff_eq_none.1 fun hsome => hgone.not_opened (hkey hsome)
    · intro before after mid hsplit hmid
      exact (htracks.within_run hwithin hmid).ncard_keys_le (hopen before after mid hsplit hmid)

/-- **What came back stays.**  The entry of a closed stream is never removed. -/
theorem leaked_entry_stays {events : List ConnectionEvent}
    (hlast : s ≤ connection.nghttp2.lastRecvStreamId)
    (hclosed : connection.nghttp2.streams s = none)
    (hentry : (connection.session.streamsData s).isSome)
    (hrun : run Connection.step connection events = some connection') :
    (connection'.session.streamsData s).isSome ∧ connection'.nghttp2.streams s = none := by
  have hgone : connection.table.Gone s :=
    ⟨hlast, fun hmem => Option.isSome_iff_ne_none.1 hmem hclosed⟩
  refine ⟨(tracksTable P).leaked_run hgone hentry hrun, ?_⟩
  exact Option.not_isSome_iff_eq_none.1 ((tracksTable P).gone_run hgone hrun).not_opened

/-- Two requests, of which the first is answered and the second is reset. -/
def answeredOrReset : List ConnectionEvent :=
  let frame (streamId : StreamId) : Frame :=
    { type := .headers, flags := 0x5, streamId := streamId, cat := .request }
  [.requestHeaders (frame 1), .endStream 1, .sendData 1 [0x61] [] 64, .sendHeaders,
    .sendDataFrame 1, .sendDataReturn, .requestHeaders (frame 3), .closeStream 3]

theorem closed_streams_gone_answered :
    ∃ connection, run Connection.step (Connection.new Platform.basic none true none)
        answeredOrReset = some connection ∧
      (connection.nghttp2.streams 1).isNone ∧ (connection.nghttp2.streams 3).isNone ∧
      ClosedStreamsGone (Connection.new Platform.basic none true none) answeredOrReset := by
  have hclosed : (run Connection.step (Connection.new Platform.basic none true none)
      answeredOrReset).map (fun connection =>
        ((connection.nghttp2.streams 1).isNone, (connection.nghttp2.streams 3).isNone)) =
      some (true, true) := by decide
  rcases Option.map_eq_some_iff.1 hclosed with ⟨connection, hrun, hclosed⟩
  rw [Prod.mk.injEq] at hclosed
  exact ⟨connection, hrun, hclosed.1, hclosed.2, (closed_streams_gone_iff hrun).2 (by decide)⟩

/-- A request that the client resets, and the answer that its handler gives then. -/
def lateAnswer : List ConnectionEvent :=
  let frame : Frame := { type := .headers, flags := 0x5, streamId := 1, cat := .request }
  [.requestHeaders frame, .callback (.frameRecv frame "today"), .endStream 1, .closeStream 1,
    .sendData 1 [0x61] [] 64, .sendHeaders, .sendDataReturn]

/-- **A late answer brings the entry back.**  After it has returned, the stream that was reset is
closed in nghttp2, and has an entry in the table of the session. -/
theorem late_answer_brings_the_entry_back :
    ∃ connection, run Connection.step (Connection.new Platform.basic none true none)
        lateAnswer = some connection ∧
      (connection.nghttp2.streams 1).isNone ∧ (connection.session.streamsData 1).isSome ∧
      ¬ ClosedStreamsGone (Connection.new Platform.basic none true none) lateAnswer := by
  have hback : (run Connection.step (Connection.new Platform.basic none true none)
      lateAnswer).map (fun connection =>
        ((connection.nghttp2.streams 1).isNone, (connection.session.streamsData 1).isSome)) =
      some (true, true) := by decide
  rcases Option.map_eq_some_iff.1 hback with ⟨connection, hrun, hback⟩
  rw [Prod.mk.injEq] at hback
  refine ⟨connection, hrun, hback.1, hback.2, ?_⟩
  intro hgone
  have hopen := hgone.keys_open lateAnswer [] connection (List.append_nil _).symm hrun 1 hback.2
  rw [Option.isNone_iff_eq_none.1 hback.1] at hopen
  exact Bool.false_ne_true hopen

end Connection

end KituraHTTP2
