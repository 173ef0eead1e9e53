import KituraHTTP2.LostSources

/-!
# The table while a flush runs

Between the begin of a `sendData` and its return nothing is received and no other `sendData` can
begin, so that the entries of the table can change in two ways only.  The read callback moves the
offset of a source on, unless it sets the EOF flag: then it leaves the entry as it is.  And a stream
that nghttp2 closes, because its last DATA frame was sent or for a reason of its own, loses its
entry.  No entry comes back before the call returns, and no offset goes down.  So a table that is as
it was at the end of a flush has not been touched on the way, but for a stream that had no entry
before the call and was closed in it.

* `ends`, `advances` — the two ways, told from the state before the event.
* `touched_of_flushStep` — what one event does to the entry of a stream.
* **`streamsData_eq_iff`** — an entry is as it was exactly where no event has altered it.
* `ended_or_kept` — a stream that was closed, and one that was not.
-/

namespace KituraHTTP2

open Machine

variable {P : Platform}

namespace Connection

variable {connection connection' : Connection P} {event : ConnectionEvent}
  {events : List ConnectionEvent} {streamId s : StreamId} {ptr : Addr}
  {stream : Nghttp2.Stream DataSource} {source : DataSource} {info : DataInfo} {readmax : ℕ}

/-! ## The events of a flush -/

/-- One event of a flush: anything that can happen before the call of `sendData` returns. -/
def flushStep (connection : Connection P) (event : ConnectionEvent) : Option (Connection P) :=
  if event = .sendDataReturn then none else connection.step event

lemma step_of_flushStep (hstep : connection.flushStep event = some connection') :
    event ≠ .sendDataReturn ∧ connection.step event = some connection' :=
  Option.ite_none_left_eq_some.1 hstep

/-- How nghttp2 is answered when it asks for DATA of the stream next: the stream, the entry of its
source, and how many bytes it has asked for; `none` where it does not ask or there is no entry. -/
def answer (connection : Connection P) (s : StreamId) :
    Option (Nghttp2.Stream DataSource × DataInfo × ℕ) :=
  match connection.nghttp2.streams s, connection.nghttp2.prepData s with
  | some stream, some (.read source readmax) =>
    (connection.session.dataInfo s source.ptr).map fun info => (stream, info, readmax)
  | _, _ => none

/-- The stream that nghttp2 closes with the event: after its last DATA frame, where the request was
received completely, or for a reason of its own. -/
def ends (connection : Connection P) : ConnectionEvent → Option StreamId
  | .closeStream s => if (connection.nghttp2.streams s).isSome then some s else none
  | .sendDataFrame s =>
    match connection.answer s with
    | some (stream, info, readmax) =>
      if (info.read readmax).eof = true ∧ stream.shutRd = true then some s else none
    | none => none
  | _ => none

/-- The stream whose source the event moves on: a part is sent that is not the last one. -/
def advances (connection : Connection P) : ConnectionEvent → Option StreamId
  | .sendDataFrame s =>
    match connection.answer s with
    | some (_, info, readmax) => if (info.read readmax).eof = true then none else some s
    | none => none
  | _ => none

/-- The event changes the entry of the stream. -/
def Alters (connection : Connection P) (s : StreamId) (event : ConnectionEvent) : Prop :=
  ((connection.session.streamsData s).isSome ∧ connection.ends event = some s) ∨
    connection.advances event = some s

/-- What an event of a flush can do to the entry of a stream, and to the stream. -/
inductive Touched (connection : Connection P) (s : StreamId) (event : ConnectionEvent)
    (connection' : Connection P) : Prop
  | ended (hends : connection.ends event = some s) (hadvances : connection.advances event ≠ some s)
      (hnone : connection'.session.streamsData s = none)
      (hclosed : connection'.nghttp2.streams s = none)
  | advanced {streamInfo : StreamData} {source : DataSource} {info : DataInfo} {readmax : ℕ}
      (hends : connection.ends event ≠ some s) (hadvances : connection.advances event = some s)
      (hstream : connection.session.streamsData s = some streamInfo)
      (hinfo : streamInfo.dataInfo source.ptr = some info)
      (hmore : (info.read readmax).eof = false) (hreadmax : readmax ≠ 0)
      (hsame : connection'.session.streamsData s = some { streamInfo with
        dataInfo := Function.update streamInfo.dataInfo source.ptr (some (info.advance readmax)) })
  | untouched (hends : connection.ends event ≠ some s)
      (hadvances : connection.advances event ≠ some s)
      (hsame : connection'.session.streamsData s = connection.session.streamsData s)

/-! ## One event -/

/-- Closing a stream, or not. -/
lemma streamsData_advance_self (connection : Connection P) (s : StreamId)
    (nghttp2 : Nghttp2.Session DataSource) :
    (connection.advance s nghttp2).session.streamsData s =
      if (connection.nghttp2.streams s).isSome ∧ (nghttp2.streams s).isNone then none
      else connection.session.streamsData s := by
  rw [advance]
  dsimp only
  split
  · exact Function.update_self ..
  · rfl

lemma streamsData_advance_of_ne (nghttp2 : Nghttp2.Session DataSource) (hne : s ≠ streamId) :
    (connection.advance streamId nghttp2).session.streamsData s =
      connection.session.streamsData s := by
  rw [advance]
  dsimp only
  split
  · exact Function.update_of_ne hne ..
  · rfl

/-- What nghttp2 makes of the last DATA frame of a stream. -/
lemma streams_afterDataSent_eof {session : Nghttp2.Session DataSource}
    (hstream : session.streams s = some stream) (source : DataSource) (length : ℕ) :
    ((session.afterDataSent s source length true).streams s).isNone = stream.shutRd := by
  rw [Nghttp2.Session.afterDataSent]
  dsimp only
  rw [hstream]
  simp only [if_true]
  cases stream.shutRd with
  | true => simp [Nghttp2.Session.closeStream]
  | false => simp [Nghttp2.Session.setStream_self]

/-- A frame of another stream. -/
lemma streamsData_sendDataFrame_of_ne (hframe : connection.sendDataFrame streamId = some connection')
    (hne : s ≠ streamId) :
    connection'.session.streamsData s = connection.session.streamsData s := by
  have hread : ∀ ptr length, (connection.session.readCallback streamId ptr length).1.streamsData s =
      connection.session.streamsData s := by
    intro ptr length
    rw [HTTP2Session.readCallback]
    split
    · rfl
    · split
      · rfl
      · dsimp only
        split
        · rfl
        · exact Function.update_of_ne hne ..
  obtain ⟨stream, source, hnext, rfl | ⟨-, rfl⟩ | rfl⟩ := sendDataFrame_cases hframe
  · rfl
  · rfl
  · have hsession := hread source.ptr (connection.nghttp2.nextDataRead stream)
    rw [readData]
    split
    · next session result hcallback =>
      rw [hcallback] at hsession
      rw [dataRead, streamsData_advance_of_ne _ hne]
      exact hsession
    · next session hcallback =>
      rw [hcallback] at hsession
      exact hsession

/-- The read callback, for an entry of the table. -/
lemma readCallback_of_dataInfo {session : HTTP2Session P} {streamInfo : StreamData}
    (hstream : session.streamsData s = some streamInfo) (hinfo : streamInfo.dataInfo ptr = some info)
    (length : ℕ) :
    session.readCallback s ptr length =
      (if (info.read length).eof then session
        else session.setStream s (some { streamInfo with
          dataInfo := Function.update streamInfo.dataInfo ptr (some (info.advance length)) }),
        some (info.read length)) := by
  rw [HTTP2Session.readCallback, hstream]
  dsimp only
  rw [hinfo]
  dsimp only
  split <;> rfl

/-- A source that has no entry. -/
lemma readCallback_of_noEntry {session : HTTP2Session P} (hentry : session.dataInfo s ptr = none)
    (length : ℕ) : session.readCallback s ptr length = (session, none) := by
  rw [HTTP2Session.readCallback]
  split
  · rfl
  · next streamInfo hstream =>
    rw [HTTP2Session.dataInfo, hstream, Option.bind_some] at hentry
    rw [hentry]

/-- A frame for which nothing is handed out. -/
lemma touched_of_noAnswer (hanswer : connection.answer s = none)
    (hsame : connection'.session.streamsData s = connection.session.streamsData s) :
    Touched connection s (.sendDataFrame s) connection' := by
  refine .untouched ?_ ?_ hsame
  · rw [ends, hanswer]
    exact (Option.some_ne_none s).symm
  · rw [advances, hanswer]
    exact (Option.some_ne_none s).symm

/-- The last frame of a response: the callback leaves the table alone, and nghttp2 closes the stream
if the request was received completely. -/
lemma touched_of_last (hstream : connection.nghttp2.streams s = some stream)
    (hanswer : connection.answer s = some (stream, info, readmax))
    (heof : (info.read readmax).eof = true) (source : DataSource) :
    Touched connection s (.sendDataFrame s)
      (connection.dataRead s source connection.session (info.read readmax)) := by
  have hclosed := streams_afterDataSent_eof hstream { source with
    handedOut := source.handedOut + (info.read readmax).copyLength } (info.read readmax).copyLength
  have hadvances : connection.advances (.sendDataFrame s) ≠ some s := by
    rw [advances, hanswer]
    dsimp only
    rw [if_pos heof]
    exact (Option.some_ne_none s).symm
  rw [dataRead, heof]
  cases hshut : stream.shutRd with
  | true =>
    rw [hshut] at hclosed
    refine .ended ?_ hadvances ?_ (Option.isNone_iff_eq_none.1 hclosed)
    · rw [ends, hanswer]
      exact if_pos ⟨heof, hshut⟩
    · rw [streamsData_advance_self]
      refine if_pos ⟨?_, hclosed⟩
      rw [hstream]
      rfl
  | false =>
    rw [hshut] at hclosed
    refine .untouched ?_ hadvances ?_
    · rw [ends, hanswer]
      dsimp only
      rw [if_neg fun h => Bool.false_ne_true (hshut.symm.trans h.2)]
      exact (Option.some_ne_none s).symm
    · rw [streamsData_advance_self]
      exact if_neg fun h => Bool.false_ne_true (hclosed.symm.trans h.2)

/-- A frame after which more is left: the callback moves the entry on, and the stream stays open. -/
lemma touched_of_part {streamInfo : StreamData} {source : DataSource}
    (hstream : connection.nghttp2.streams s = some stream)
    (hanswer : connection.answer s = some (stream, info, readmax))
    (hstreamInfo : connection.session.streamsData s = some streamInfo)
    (hinfo : streamInfo.dataInfo source.ptr = some info) (hmore : (info.read readmax).eof = false)
    (hreadmax : readmax ≠ 0) :
    Touched connection s (.sendDataFrame s)
      (connection.dataRead s source (connection.session.setStream s (some { streamInfo with
        dataInfo := Function.update streamInfo.dataInfo source.ptr (some (info.advance readmax)) }))
        (info.read readmax)) := by
  refine .advanced ?_ ?_ hstreamInfo hinfo hmore hreadmax ?_
  · rw [ends, hanswer]
    dsimp only
    rw [if_neg fun h => Bool.false_ne_true (hmore.symm.trans h.1)]
    exact (Option.some_ne_none s).symm
  · rw [advances, hanswer]
    exact if_neg fun h => Bool.false_ne_true (hmore.symm.trans h)
  · rw [dataRead, hmore, streamsData_advance_self, if_neg ?_]
    · exact Function.update_self ..
    · rintro ⟨-, hnone⟩
      rw [Nghttp2.Session.streams_afterDataSent_self hstream] at hnone
      exact Bool.false_ne_true hnone

/-- A frame of the stream itself. -/
lemma touched_sendDataFrame (hframe : connection.sendDataFrame s = some connection') :
    Touched connection s (.sendDataFrame s) connection' := by
  rcases Option.map_eq_some_iff.1 hframe with ⟨prep, hprep, rfl⟩
  cases prep with
  | dropped nghttp2 =>
    refine touched_of_noAnswer ?_ rfl
    rw [answer, hprep]
    cases connection.nghttp2.streams s <;> rfl
  | deferred nghttp2 =>
    refine touched_of_noAnswer ?_ rfl
    rw [answer, hprep]
    cases connection.nghttp2.streams s <;> rfl
  | read source readmax =>
    rcases attached_of_prepData hprep with ⟨stream, hstream, -⟩
    dsimp only
    rcases hentry : connection.session.dataInfo s source.ptr with _ | info
    · refine touched_of_noAnswer ?_ ?_
      · rw [answer, hprep, hstream]
        exact congrArg (Option.map _) hentry
      · rw [readData, readCallback_of_noEntry hentry]
    · have hanswer : connection.answer s = some (stream, info, readmax) := by
        rw [answer, hprep, hstream]
        exact congrArg (Option.map _) hentry
      -- nghttp2 does not ask for nothing
      have hreadmax : readmax ≠ 0 := by
        rcases Option.map_eq_some_iff.1 hprep with ⟨⟨stream', source'⟩, hnext, hask⟩
        dsimp only at hask
        split_ifs at hask with hpredicate hzero
        cases hask
        exact hzero
      rcases Option.bind_eq_some_iff.1 hentry with ⟨streamInfo, hstreamInfo, hinfo⟩
      rw [readData, readCallback_of_dataInfo hstreamInfo hinfo]
      cases heof : (info.read readmax).eof with
      | true => exact touched_of_last hstream hanswer heof source
      | false => exact touched_of_part hstream hanswer hstreamInfo hinfo heof hreadmax

/-- An event is about one stream. -/
lemma ends_sendDataFrame_ne (hne : streamId ≠ s) :
    connection.ends (.sendDataFrame streamId) ≠ some s := by
  rw [ends]
  split
  · split_ifs
    · exact fun h => hne (Option.some.inj h)
    · exact nofun
  · exact nofun

lemma advances_sendDataFrame_ne (hne : streamId ≠ s) :
    connection.advances (.sendDataFrame streamId) ≠ some s := by
  rw [advances]
  split
  · split_ifs
    · exact nofun
    · exact fun h => hne (Option.some.inj h)
  · exact nofun

/-- **One event of a flush**, and any stream. -/
theorem touched_of_flushStep (hsending : connection.sending.isSome)
    (hstep : connection.flushStep event = some connection') (s : StreamId) :
    Touched connection s event connection' := by
  rcases step_of_flushStep hstep with ⟨hreturn, hstep⟩
  have hbusy : connection.sending ≠ none := Option.isSome_iff_ne_none.1 hsending
  have hcases := Step.of_step hstep
  cases hcases with
  | callback idle => exact absurd idle hbusy
  | requestHeaders idle => exact absurd idle hbusy
  | endStream idle => exact absurd idle hbusy
  | @closeStream streamId =>
    by_cases hs : streamId = s
    · subst hs
      have htable := streamsData_advance_self connection streamId
        (connection.nghttp2.closeStream streamId)
      have hclosed : (connection.nghttp2.closeStream streamId).streams streamId = none :=
        Nghttp2.Session.setStream_self none
      rw [hclosed] at htable
      cases hopen : (connection.nghttp2.streams streamId).isSome with
      | true =>
        rw [hopen, if_pos ⟨rfl, rfl⟩] at htable
        exact .ended (if_pos hopen) nofun htable hclosed
      | false =>
        rw [hopen, if_neg fun h => Bool.false_ne_true h.1] at htable
        refine .untouched ?_ nofun htable
        rw [ends, hopen]
        exact nofun
    · refine .untouched ?_ nofun (streamsData_advance_of_ne _ (Ne.symm hs))
      rw [ends]
      split_ifs
      · exact fun h => hs (Option.some.inj h)
      · exact nofun
  | sameItems idle => exact absurd idle hbusy
  | sendData idle => exact absurd idle hbusy
  | sendHeaders => exact .untouched nofun nofun rfl
  | @sendDataFrame streamId _ hframe =>
    by_cases hs : streamId = s
    · subst hs
      exact touched_sendDataFrame hframe
    · exact .untouched (ends_sendDataFrame_ne hs) (advances_sendDataFrame_ne hs)
        (streamsData_sendDataFrame_of_ne hframe (Ne.symm hs))
  | sendDataReturn => exact absurd rfl hreturn
  | store => exact .untouched nofun nofun rfl

/-! ## The whole flush -/

/-- The call of `sendData` goes on until it returns. -/
lemma sending_of_flushStep (hsending : connection.sending.isSome)
    (hstep : connection.flushStep event = some connection') : connection'.sending.isSome := by
  rcases step_of_flushStep hstep with ⟨hreturn, hstep⟩
  have hcases := Step.of_step hstep
  cases hcases with
  | sendData idle =>
    rw [idle] at hsending
    exact absurd hsending Bool.false_ne_true
  | sendDataFrame hframe =>
    obtain ⟨stream, source, -, rfl | ⟨-, rfl⟩ | rfl⟩ := sendDataFrame_cases hframe
    · exact hsending
    · exact hsending
    · rw [readData]
      split
      · exact hsending
      · rw [Option.isSome_map]
        exact hsending
  | sendDataReturn => exact absurd rfl hreturn
  | _ => exact hsending

/-- How much an event of a flush can still take from an entry and the source at `ptr`: the entry
itself, and the bytes before the end. -/
def tableLeft (ptr : Addr) : Option StreamData → ℕ
  | none => 0
  | some streamInfo => 1 + ((streamInfo.dataInfo ptr).map fun info => info.length - info.offset).getD 0

/-- A part that is not the last one is not empty. -/
lemma advance_lt (hmore : (info.read readmax).eof = false) (hreadmax : readmax ≠ 0) :
    (info.advance readmax).length - (info.advance readmax).offset < info.length - info.offset := by
  have hle : min (info.length - info.offset) readmax ≠ info.length - info.offset := by
    simpa [DataInfo.read] using hmore
  simp only [DataInfo.advance]
  omega

/-- Nothing comes back... -/
lemma tableLeft_le (h : Touched connection s event connection') (ptr : Addr) :
    tableLeft ptr (connection'.session.streamsData s) ≤
      tableLeft ptr (connection.session.streamsData s) := by
  cases h with
  | ended _ _ hnone =>
    rw [hnone]
    exact Nat.zero_le _
  | @advanced streamInfo source info readmax _ _ hstream hinfo hmore hreadmax hsame =>
    rw [hsame, hstream]
    simp only [tableLeft]
    by_cases hptr : ptr = source.ptr
    · subst hptr
      have hless := advance_lt hmore hreadmax
      rw [Function.update_self, hinfo]
      simp only [Option.map_some, Option.getD_some]
      omega
    · rw [Function.update_of_ne hptr]
  | untouched _ _ hsame => rw [hsame]

/-- ... and what alters an entry takes something. -/
lemma tableLeft_lt (h : Touched connection s event connection') (halters : connection.Alters s event) :
    ∃ ptr, tableLeft ptr (connection'.session.streamsData s) <
      tableLeft ptr (connection.session.streamsData s) := by
  cases h with
  | ended hends hadvances hnone =>
    rcases halters with ⟨hsome, -⟩ | h
    · rcases Option.isSome_iff_exists.1 hsome with ⟨streamInfo, hstream⟩
      refine ⟨0, ?_⟩
      rw [hnone, hstream]
      simp only [tableLeft]
      omega
    · exact absurd h hadvances
  | @advanced streamInfo source info readmax _ _ hstream hinfo hmore hreadmax hsame =>
    refine ⟨source.ptr, ?_⟩
    have hless := advance_lt hmore hreadmax
    rw [hsame, hstream]
    simp only [tableLeft]
    rw [Function.update_self, hinfo]
    simp only [Option.map_some, Option.getD_some]
    omega
  | untouched hends hadvances =>
    rcases halters with ⟨-, h⟩ | h
    · exact absurd h hends
    · exact absurd h hadvances

/-- A stream that is closed stays so in a flush. -/
lemma streams_of_flushStep (hsending : connection.sending.isSome)
    (hstep : connection.flushStep event = some connection')
    (hclosed : connection.nghttp2.streams s = none) : connection'.nghttp2.streams s = none := by
  rcases step_of_flushStep hstep with ⟨hreturn, hstep⟩
  have hbusy : connection.sending ≠ none := Option.isSome_iff_ne_none.1 hsending
  have hcases := Step.of_step hstep
  cases hcases with
  | callback idle => exact absurd idle hbusy
  | requestHeaders idle => exact absurd idle hbusy
  | endStream idle => exact absurd idle hbusy
  | @closeStream streamId =>
    by_cases hs : s = streamId
    · subst hs
      exact Nghttp2.Session.setStream_self none
    · exact (Nghttp2.Session.setStream_of_ne hs none).trans hclosed
  | sameItems idle => exact absurd idle hbusy
  | sendData idle => exact absurd idle hbusy
  | sendHeaders hsend =>
    have hsame := Nghttp2.Session.isSome_streams_sendHeaders hsend s
    rw [hclosed] at hsame
    exact Option.not_isSome_iff_eq_none.1 fun h => Bool.false_ne_true (hsame.symm.trans h)
  | @sendDataFrame streamId _ hframe =>
    obtain ⟨stream, source, hnext, hafter⟩ := sendDataFrame_cases hframe
    have hopen := (Nghttp2.Session.nextItem_eq_some_iff.1 hnext).2.2.1
    have hs : s ≠ streamId := by
      rintro rfl
      exact nomatch hclosed.symm.trans hopen
    rcases hafter with rfl | ⟨-, rfl⟩ | rfl
    · exact (Nghttp2.Session.setStream_of_ne hs _).trans hclosed
    · exact (Nghttp2.Session.setStream_of_ne hs _).trans hclosed
    · rw [readData]
      split
      · exact (Nghttp2.Session.streams_afterDataSent_of_ne hs).trans hclosed
      · exact (Nghttp2.Session.setStream_of_ne hs _).trans hclosed
  | sendDataReturn => exact absurd rfl hreturn
  | store => exact hclosed

/-- **When an entry is as it was.**  At the end of a flush the table has the entry of a stream that
it had at its begin exactly where no event of the flush has altered it. -/
theorem streamsData_eq_iff (hsending : connection.sending.isSome)
    (hrun : run flushStep connection events = some connection') (s : StreamId) :
    connection'.session.streamsData s = connection.session.streamsData s ↔
      Along flushStep (fun c e => ¬ c.Alters s e) connection events := by
  have hgood : ∀ (c : Connection P) e c',
      c.sending.isSome ∧ c.session.streamsData s = connection.session.streamsData s →
      ¬ c.Alters s e → c.flushStep e = some c' →
      c'.sending.isSome ∧ c'.session.streamsData s = connection.session.streamsData s := by
    rintro c e c' ⟨hc, hsame⟩ halters hstep
    refine ⟨sending_of_flushStep hc hstep, ?_⟩
    rw [← hsame]
    rcases touched_of_flushStep hc hstep s with ⟨hends, -, hnone, -⟩ |
      ⟨-, hadvances⟩ | ⟨-, -, huntouched⟩
    · rcases hentry : c.session.streamsData s with _ | streamInfo
      · exact hnone
      · exact absurd (Or.inl ⟨Option.isSome_iff_exists.2 ⟨_, hentry⟩, hends⟩) halters
    · exact absurd (Or.inr hadvances) halters
    · exact huntouched
  have hbreak : ∀ (c : Connection P) e c',
      c.sending.isSome ∧ c.session.streamsData s = connection.session.streamsData s →
      ¬ ¬ c.Alters s e → c.flushStep e = some c' →
      c'.sending.isSome ∧ ∃ ptr, tableLeft ptr (c'.session.streamsData s) <
        tableLeft ptr (connection.session.streamsData s) := by
    rintro c e c' ⟨hc, hsame⟩ halters hstep
    refine ⟨sending_of_flushStep hc hstep, ?_⟩
    rw [← hsame]
    exact tableLeft_lt (touched_of_flushStep hc hstep s) (not_not.1 halters)
  have hbad : ∀ (c : Connection P) e c',
      (c.sending.isSome ∧ ∃ ptr, tableLeft ptr (c.session.streamsData s) <
        tableLeft ptr (connection.session.streamsData s)) → c.flushStep e = some c' →
      c'.sending.isSome ∧ ∃ ptr, tableLeft ptr (c'.session.streamsData s) <
        tableLeft ptr (connection.session.streamsData s) := by
    rintro c e c' ⟨hc, ptr, hless⟩ hstep
    have hle := tableLeft_le (touched_of_flushStep hc hstep s) ptr
    exact ⟨sending_of_flushStep hc hstep, ptr, Nat.lt_of_le_of_lt hle hless⟩
  rcases run_good_or_bad _ _ hgood hbreak hbad ⟨hsending, rfl⟩ hrun with
    ⟨halong, -, hsame⟩ | ⟨hnot, -, ptr, hless⟩
  · exact iff_of_true hsame halong
  · refine iff_of_false (fun hsame => ?_) hnot
    rw [hsame] at hless
    exact Nat.lt_irrefl _ hless

/-- **When a stream has ended.**  Where an event of the flush has closed the stream, it and its
entry are gone at the end; where none has, an entry is still there, with the same container. -/
theorem ended_or_kept (hsending : connection.sending.isSome)
    (hrun : run flushStep connection events = some connection') {streamInfo : StreamData}
    (hentry : connection.session.streamsData s = some streamInfo) :
    (¬ Along flushStep (fun c e => c.ends e ≠ some s) connection events ∧
      connection'.session.streamsData s = none ∧ connection'.nghttp2.streams s = none) ∨
    (Along flushStep (fun c e => c.ends e ≠ some s) connection events ∧
      ∃ streamInfo', connection'.session.streamsData s = some streamInfo' ∧
        streamInfo'.headers = streamInfo.headers) := by
  have hgood : ∀ (c : Connection P) e c',
      (c.sending.isSome ∧ ∃ d, c.session.streamsData s = some d ∧
        d.headers = streamInfo.headers) → c.ends e ≠ some s → c.flushStep e = some c' →
      c'.sending.isSome ∧ ∃ d, c'.session.streamsData s = some d ∧
        d.headers = streamInfo.headers := by
    rintro c e c' ⟨hc, d, hd, hheaders⟩ hends hstep
    refine ⟨sending_of_flushStep hc hstep, ?_⟩
    rcases touched_of_flushStep hc hstep s with ⟨h, -⟩ | ⟨-, -, hstream, -, -, -, hsame⟩ |
      ⟨-, -, hsame⟩
    · exact absurd h hends
    · rw [hd, Option.some.injEq] at hstream
      subst hstream
      exact ⟨_, hsame, hheaders⟩
    · exact ⟨d, hsame.trans hd, hheaders⟩
  have hbreak : ∀ (c : Connection P) e c',
      (c.sending.isSome ∧ ∃ d, c.session.streamsData s = some d ∧
        d.headers = streamInfo.headers) → ¬ c.ends e ≠ some s → c.flushStep e = some c' →
      c'.sending.isSome ∧ c'.session.streamsData s = none ∧ c'.nghttp2.streams s = none := by
    rintro c e c' ⟨hc, -⟩ hends hstep
    refine ⟨sending_of_flushStep hc hstep, ?_⟩
    rcases touched_of_flushStep hc hstep s with ⟨-, -, hnone, hclosed⟩ | ⟨h, -⟩ | ⟨h, -⟩
    · exact ⟨hnone, hclosed⟩
    · exact absurd h hends
    · exact absurd h hends
  have hbad : ∀ (c : Connection P) e c',
      c.sending.isSome ∧ c.session.streamsData s = none ∧ c.nghttp2.streams s = none →
      c.flushStep e = some c' →
      c'.sending.isSome ∧ c'.session.streamsData s = none ∧ c'.nghttp2.streams s = none := by
    rintro c e c' ⟨hc, hnone, hclosed⟩ hstep
    refine ⟨sending_of_flushStep hc hstep, ?_, streams_of_flushStep hc hstep hclosed⟩
    rcases touched_of_flushStep hc hstep s with ⟨-, -, h, -⟩ | ⟨-, -, hstream⟩ | ⟨-, -, hsame⟩
    · exact h
    · exact nomatch hnone.symm.trans hstream
    · exact hsame.trans hnone
  rcases run_good_or_bad _ _ hgood hbreak hbad ⟨hsending, streamInfo, hentry, rfl⟩ hrun with
    ⟨halong, -, hkept⟩ | ⟨hnot, -, hgone⟩
  · exact Or.inr ⟨halong, hkept⟩
  · exact Or.inl ⟨hnot, hgone⟩

end Connection

end KituraHTTP2
