import KituraHTTP2.Nghttp2.Session

/-!
# The data sources that nghttp2 holds

A source is attached to an open stream when it is the stream's DATA item, or when HEADERS wait that
will make it that.  These are the sources that the read callback may still be asked for, at a time
that nghttp2 chooses, and so the memory and the table entries behind them must be there.  What the
application does about that can only be judged if it is known which function of nghttp2 attaches a
source, and which lets one go.

Only a submission attaches a source (`Attached.of_submitResponse`).  Every other function moves
sources from the queue to their streams, replaces one that was read from, or lets them go.  So for
each function there is one lemma, which says what was attached before if something is attached after
it, and the invariants of the session above are kept by it without another look at the function.

Many functions do not touch the sources at all, as they move windows and states only; they are one
case (`SameItems`).  The same is done for the streams that are known (`Known`), of which new ones
come with the HEADERS of a request or the upgrade, and for the windows (`KeepsWindows`).

* `Attached.of_sameItems` — frames that only move windows and states attach nothing.
* `Attached.of_sendHeaders`, `Attached.of_afterDataSent` — what sending does to the sources.
* `nextItem_eq_some_iff` — when the next DATA frame can be one of a stream.
-/

namespace KituraHTTP2.Nghttp2.Session

variable {σ : Type} {session session' : Session σ} {streamId s : StreamId} {a : σ}

/-- A response with the source `a` was accepted for the open stream and is not finished. -/
def Attached (session : Session σ) (streamId : StreamId) (a : σ) : Prop :=
  ∃ stream, session.streams streamId = some stream ∧
    (stream.item = some a ∨ ∃ item ∈ session.obReg, item.streamId = streamId ∧ item.dataPrd = a)

/-- The sources attached to a stream, as a list. -/
def sources (session : Session σ) (streamId : StreamId) : List σ :=
  match session.streams streamId with
  | none => []
  | some stream => stream.item.toList ++
      (session.obReg.filter fun item => item.streamId = streamId).map QueuedHeaders.dataPrd

lemma mem_sources : a ∈ session.sources streamId ↔ session.Attached streamId a := by
  unfold sources Attached
  cases session.streams streamId with
  | none => simp
  | some stream => simp [and_assoc]

lemma attached_serverNew : ¬ (serverNew σ).Attached streamId a := by
  rintro ⟨stream, hstream, -⟩
  cases hstream

/-- The two sessions have the same streams with the same items, and the same HEADERS wait. -/
structure SameItems (session session' : Session σ) : Prop where
  obReg : session'.obReg = session.obReg
  items : ∀ s, (session'.streams s).map Stream.item = (session.streams s).map Stream.item
  lastRecvStreamId : session'.lastRecvStreamId = session.lastRecvStreamId

namespace SameItems

lemma refl (session : Session σ) : SameItems session session := ⟨rfl, fun _ => rfl, rfl⟩

lemma trans {session'' : Session σ} (h : SameItems session session')
    (h' : SameItems session' session'') : SameItems session session'' :=
  ⟨h'.obReg.trans h.obReg, fun s => (h'.items s).trans (h.items s),
    h'.lastRecvStreamId.trans h.lastRecvStreamId⟩

/-- Replacing a stream by one with its item. -/
lemma setStream {stream stream' : Stream σ} (hstream : session.streams streamId = some stream)
    (hitem : stream'.item = stream.item) :
    SameItems session (session.setStream streamId (some stream')) where
  obReg := rfl
  items := fun s => by
    by_cases hs : s = streamId
    · subst hs
      simp [Session.setStream, hstream, hitem]
    · simp [Session.setStream, Function.update_of_ne hs]
  lastRecvStreamId := rfl

lemma addRstStream (session : Session σ) (streamId : StreamId) :
    SameItems session (session.addRstStream streamId) := by
  unfold Session.addRstStream
  cases hstream : session.streams streamId with
  | none =>
    have hnone : Function.update session.streams streamId none = session.streams := by
      rw [← hstream, Function.update_eq_self]
    refine ⟨rfl, fun s => ?_, rfl⟩
    change ((Function.update session.streams streamId none) s).map _ = _
    rw [hnone]
  | some stream => exact setStream hstream rfl

lemma terminateSession (session : Session σ) : SameItems session session.terminateSession :=
  ⟨rfl, fun _ => rfl, rfl⟩

end SameItems

@[simp]
lemma item_resumeDeferredByFlowControl (stream : Stream σ) :
    stream.resumeDeferredByFlowControl.item = stream.item := by
  unfold Stream.resumeDeferredByFlowControl
  split <;> rfl

@[simp]
lemma item_updateRemoteInitialWindowSize (stream : Stream σ) (new old : ℤ) :
    (stream.updateRemoteInitialWindowSize new old).item = stream.item := by
  unfold Stream.updateRemoteInitialWindowSize
  dsimp only
  split
  · rfl
  · rw [item_resumeDeferredByFlowControl]

lemma SameItems.onSettingsEntry {entry : SettingsEntry}
    (h : session.onSettingsEntry entry = some session') : SameItems session session' := by
  unfold Session.onSettingsEntry at h
  dsimp only at h
  split at h
  case h_4 =>
    -- SETTINGS_INITIAL_WINDOW_SIZE, the only entry that changes the streams
    split at h
    · cases h
    · cases h
      refine ⟨rfl, fun s => ?_, rfl⟩
      simp [Option.map_map, Function.comp_def]
  all_goals first
    | (cases h; exact ⟨rfl, fun _ => rfl, rfl⟩)
    | (split at h
       · cases h
       · cases h
         exact ⟨rfl, fun _ => rfl, rfl⟩)

lemma SameItems.onSettingsReceived (session : Session σ) (iv : List SettingsEntry) :
    SameItems session (session.onSettingsReceived iv) := by
  induction iv generalizing session with
  | nil => exact SameItems.refl session
  | cons entry iv ih =>
    unfold Session.onSettingsReceived
    split
    · exact (SameItems.onSettingsEntry ‹_›).trans (ih _)
    · exact SameItems.terminateSession session

lemma SameItems.onWindowUpdateReceived (session : Session σ) (streamId : StreamId)
    (windowSizeIncrement : ℕ) :
    SameItems session (session.onWindowUpdateReceived streamId windowSizeIncrement) := by
  unfold Session.onWindowUpdateReceived
  split
  · split
    · exact SameItems.terminateSession session
    · exact ⟨rfl, fun _ => rfl, rfl⟩
  · split
    · exact SameItems.terminateSession session
    · cases hstream : session.streams streamId with
      | none => exact SameItems.refl session
      | some stream =>
        dsimp only
        split
        · exact SameItems.terminateSession session
        · split
          · exact SameItems.addRstStream session streamId
          · exact SameItems.setStream hstream (item_resumeDeferredByFlowControl _)

/-! ## What each function does to the attached sources -/

lemma Attached.of_sameItems (hsame : SameItems session session')
    (h : session'.Attached streamId a) : session.Attached streamId a := by
  obtain ⟨stream', hstream', hsource⟩ := h
  have hitems := hsame.items streamId
  rw [hstream', Option.map_some] at hitems
  obtain ⟨stream, hstream, hitem⟩ := Option.map_eq_some_iff.1 hitems.symm
  rw [hsame.obReg, ← hitem] at hsource
  exact ⟨stream, hstream, hsource⟩

/-- The sources of a stream depend on the stream and the queue only. -/
lemma Attached.congr (h : session'.Attached s a) (hobReg : session'.obReg = session.obReg)
    (hstreams : session'.streams s = session.streams s) : session.Attached s a := by
  unfold Attached at h ⊢
  rwa [hobReg, hstreams] at h

lemma setStream_of_ne (hne : s ≠ streamId) (stream : Option (Stream σ)) :
    (session.setStream streamId stream).streams s = session.streams s :=
  Function.update_of_ne hne ..

@[simp]
lemma setStream_self (stream : Option (Stream σ)) :
    (session.setStream streamId stream).streams streamId = stream := Function.update_self ..

lemma Attached.of_setStream_of_ne (hne : s ≠ streamId) {stream : Option (Stream σ)}
    (h : (session.setStream streamId stream).Attached s a) : session.Attached s a := by
  have hstreams : (session.setStream streamId stream).streams s = session.streams s :=
    setStream_of_ne hne _
  exact h.congr rfl hstreams

/-- A closed stream has no sources. -/
lemma not_attached_of_none (hnone : session.streams streamId = none) :
    ¬ session.Attached streamId a := by
  rintro ⟨stream, hstream, -⟩
  rw [hnone] at hstream
  cases hstream

/-- Replacing a stream by one that has the same item, or none. -/
lemma Attached.of_setStream {stream' : Option (Stream σ)}
    (hitem : ∀ new, stream' = some new → ∃ old, session.streams streamId = some old ∧
      (new.item = old.item ∨ new.item = none))
    (h : (session.setStream streamId stream').Attached s a) : session.Attached s a := by
  by_cases hs : s = streamId
  · subst hs
    obtain ⟨new, hnew, hsource⟩ := h
    rw [setStream_self] at hnew
    obtain ⟨old, hold, hsame | hnone⟩ := hitem new hnew
    · rw [hsame] at hsource
      exact ⟨old, hold, hsource⟩
    · rw [hnone] at hsource
      exact ⟨old, hold, Or.inr (hsource.resolve_left (fun hsome => nomatch hsome))⟩
  · exact h.of_setStream_of_ne hs

lemma Attached.of_shutdownRead (h : (session.shutdownRead streamId).Attached s a) :
    session.Attached s a := by
  refine Attached.of_setStream ?_ h
  intro new hnew
  obtain ⟨old, hold, hshut⟩ := Option.bind_eq_some_iff.1 hnew
  split at hshut
  · cases hshut
  · cases hshut
    exact ⟨old, hold, Or.inl rfl⟩

lemma Attached.of_detachItem (h : (session.detachItem streamId).Attached s a) :
    session.Attached s a := by
  refine Attached.of_setStream ?_ h
  intro new hnew
  obtain ⟨old, hold, rfl⟩ := Option.map_eq_some_iff.1 hnew
  exact ⟨old, hold, Or.inr rfl⟩

lemma Attached.of_closeStream (h : (session.closeStream streamId).Attached s a) :
    session.Attached s a :=
  Attached.of_setStream (fun _ hnew => by cases hnew) h

/-- Opening a stream attaches nothing, as long as no HEADERS wait. -/
lemma Attached.of_openStream (hobReg : session.obReg = [])
    (h : (session.openStream streamId).Attached s a) : s ≠ streamId ∧ session.Attached s a := by
  have hne : s ≠ streamId := by
    rintro rfl
    obtain ⟨stream, hstream, hsource⟩ := h
    rw [openStream, setStream_self, Option.some.injEq] at hstream
    subst hstream
    rcases hsource with hitem | ⟨item, hmem, -⟩
    · cases hitem
    · change item ∈ session.obReg at hmem
      rw [hobReg] at hmem
      cases hmem
  exact ⟨hne, h.of_setStream_of_ne hne⟩

lemma Attached.of_onRequestHeadersReceived (hobReg : session.obReg = [])
    (hopen : session.onRequestHeadersReceived streamId = some session')
    (h : session'.Attached s a) : s ≠ streamId ∧ session.Attached s a := by
  obtain ⟨-, hsome⟩ := Option.ite_none_left_eq_some.1 hopen
  cases hsome
  exact Attached.of_openStream hobReg h

/-- The upgrade attaches nothing to its stream. -/
lemma Attached.of_upgrade2 {settingsPayload : Bytes} (hobReg : session.obReg = [])
    (hupgrade : session.upgrade2 settingsPayload = .ok session')
    (h : session'.Attached s a) : session.Attached s a := by
  unfold upgrade2 at hupgrade
  split at hupgrade
  · cases hupgrade
  · split at hupgrade
    · cases hupgrade
    · cases hupgrade
      have hsame := SameItems.onSettingsReceived session (unpackSettingsPayload settingsPayload)
      have hopen : ((session.onSettingsReceived (unpackSettingsPayload settingsPayload)).openStream
          1).Attached s a := Attached.of_shutdownRead h
      exact (hopen.of_openStream (hsame.obReg.trans hobReg)).2.of_sameItems hsame

lemma obReg_upgrade2 {settingsPayload : Bytes}
    (hupgrade : session.upgrade2 settingsPayload = .ok session') :
    session'.obReg = session.obReg := by
  unfold upgrade2 at hupgrade
  split at hupgrade
  · cases hupgrade
  · split at hupgrade
    · cases hupgrade
    · cases hupgrade
      exact (SameItems.onSettingsReceived session _).obReg

/-- A submission attaches one source at most. -/
lemma Attached.of_submitResponse {nva : List (Bytes × Bytes)} {dataPrd : σ}
    (hsubmit : session.submitResponse streamId nva dataPrd = .ok session')
    (h : session'.Attached s a) : session.Attached s a ∨ (s = streamId ∧ a = dataPrd) := by
  unfold submitResponse at hsubmit
  split at hsubmit
  · cases hsubmit
  · cases hsubmit
    obtain ⟨stream, hstream, hitem | ⟨item, hmem, hs, ha⟩⟩ := h
    · exact Or.inl ⟨stream, hstream, Or.inl hitem⟩
    · rcases List.mem_append.1 hmem with hmem | hmem
      · exact Or.inl ⟨stream, hstream, Or.inr ⟨item, hmem, hs, ha⟩⟩
      · rw [List.mem_singleton] at hmem
        subst hmem
        exact Or.inr ⟨hs.symm, ha.symm⟩

/-- Sending HEADERS makes the source of a response the item of its stream, or lets it go. -/
lemma Attached.of_sendHeaders (hsend : session.sendHeaders = some session')
    (h : session'.Attached s a) : session.Attached s a := by
  unfold sendHeaders at hsend
  split at hsend
  case h_1 => cases hsend
  case h_2 item obReg hobReg =>
    dsimp only at hsend
    -- what is attached with the shorter queue was attached before
    have hpop : ∀ {s a}, Attached { session with obReg := obReg } s a → session.Attached s a := by
      rintro s a ⟨stream, hstream, hitem | ⟨queued, hmem, hq⟩⟩
      · exact ⟨stream, hstream, Or.inl hitem⟩
      · exact ⟨stream, hstream, Or.inr ⟨queued, hobReg ▸ List.mem_cons_of_mem _ hmem, hq⟩⟩
    split at hsend
    · cases hsend
      by_cases hs : s = item.streamId
      · subst hs
        obtain ⟨new, hnew, hsource⟩ := h
        rw [afterHeadersSent, setStream_self] at hnew
        obtain ⟨old, hold, rfl⟩ := Option.map_eq_some_iff.1 hnew
        rcases hsource with hitem | hqueued
        · have hold' : some (old.item.getD item.dataPrd) = some a := by
            rw [← hitem]
            simp only [Stream.attachItem]
            split <;> rfl
          rw [Option.some.injEq] at hold'
          cases hitem' : old.item with
          | some b =>
            rw [hitem', Option.getD_some] at hold'
            exact ⟨old, hold, Or.inl (hold' ▸ hitem')⟩
          | none =>
            rw [hitem', Option.getD_none] at hold'
            exact ⟨old, hold, Or.inr ⟨item, hobReg ▸ List.mem_cons_self, rfl, hold'⟩⟩
        · exact hpop ⟨old, hold, Or.inr hqueued⟩
      · exact hpop (Attached.of_setStream_of_ne hs h)
    · cases hsend
      exact hpop h

lemma obReg_afterDataSent {dataPrd : σ} {length : ℕ} {eof : Bool} :
    (session.afterDataSent streamId dataPrd length eof).obReg = session.obReg := by
  unfold afterDataSent
  dsimp only
  split
  · rfl
  · split
    · split <;> rfl
    · rfl

lemma streams_afterDataSent_of_ne {dataPrd : σ} {length : ℕ} {eof : Bool} (hne : s ≠ streamId) :
    (session.afterDataSent streamId dataPrd length eof).streams s = session.streams s := by
  unfold afterDataSent
  dsimp only
  split
  · rfl
  · split
    · split <;> exact setStream_of_ne hne _
    · exact setStream_of_ne hne _

/-- After a DATA frame, the stream has the source as it is then, or none. -/
lemma Attached.of_afterDataSent {dataPrd : σ} {length : ℕ} {eof : Bool}
    (hobReg : session.obReg = [])
    (h : (session.afterDataSent streamId dataPrd length eof).Attached s a) :
    (s ≠ streamId ∧ session.Attached s a) ∨ (s = streamId ∧ a = dataPrd ∧ eof = false) := by
  by_cases hs : s = streamId
  · subst hs
    obtain ⟨new, hnew, hitem | ⟨queued, hmem, -⟩⟩ := h
    · refine Or.inr ⟨rfl, ?_⟩
      unfold afterDataSent at hnew
      dsimp only at hnew
      split at hnew
      case h_1 hnone => exact nomatch hnone.symm.trans hnew
      case h_2 stream hstream =>
        cases eof with
        | true =>
          rw [if_pos rfl] at hnew
          split at hnew
          · rw [closeStream, setStream_self] at hnew
            cases hnew
          · rw [setStream_self, Option.some.injEq] at hnew
            subst hnew
            cases hitem
        | false =>
          rw [if_neg (by simp), setStream_self, Option.some.injEq] at hnew
          subst hnew
          exact ⟨(Option.some.inj hitem).symm, rfl⟩
    · -- no HEADERS wait
      rw [obReg_afterDataSent, hobReg] at hmem
      cases hmem
  · exact Or.inl ⟨hs, h.congr obReg_afterDataSent (streams_afterDataSent_of_ne hs)⟩

/-! ## Streams that are known, and sessions that are drained -/

/-- The streams in the table are among those the client has opened so far. -/
structure Known (session : Session σ) : Prop where
  last : 0 ≤ session.lastRecvStreamId
  stream : ∀ {s}, (session.streams s).isSome → 0 ≤ s ∧ s ≤ session.lastRecvStreamId

lemma known_serverNew : (serverNew σ).Known := ⟨Int.le_refl 0, fun h => nomatch h⟩

/-- No stream was opened. -/
lemma Known.of_streams (h : session.Known)
    (hlast : session'.lastRecvStreamId = session.lastRecvStreamId)
    (hstreams : ∀ s, (session'.streams s).isSome → (session.streams s).isSome) :
    session'.Known where
  last := hlast ▸ h.last
  stream := fun hs => hlast ▸ h.stream (hstreams _ hs)

lemma SameItems.isSome_streams (h : SameItems session session') (s : StreamId) :
    (session'.streams s).isSome = (session.streams s).isSome := by
  rw [← Option.isSome_map (f := Stream.item), h.items, Option.isSome_map]

lemma Known.of_sameItems (h : session.Known) (hsame : SameItems session session') :
    session'.Known :=
  h.of_streams hsame.lastRecvStreamId fun s hs => hsame.isSome_streams s ▸ hs

/-- From `session` to `session'` only the stream `streamId` has changed, and it was not opened. -/
structure OnlyStream (streamId : StreamId) (session session' : Session σ) : Prop where
  lastRecvStreamId : session'.lastRecvStreamId = session.lastRecvStreamId
  other : ∀ s, s ≠ streamId → session'.streams s = session.streams s
  self : (session'.streams streamId).isSome → (session.streams streamId).isSome

lemma OnlyStream.setStream {stream : Option (Stream σ)}
    (hstream : stream.isSome → (session.streams streamId).isSome) :
    OnlyStream streamId session (session.setStream streamId stream) where
  lastRecvStreamId := rfl
  other := fun _ hne => setStream_of_ne hne stream
  self := by
    rw [setStream_self]
    exact hstream

lemma OnlyStream.shutdownRead : OnlyStream streamId session (session.shutdownRead streamId) := by
  refine .setStream ?_
  cases session.streams streamId with
  | none => exact id
  | some stream => exact fun _ => rfl

lemma OnlyStream.closeStream : OnlyStream streamId session (session.closeStream streamId) :=
  .setStream fun hs => absurd hs Bool.false_ne_true

lemma OnlyStream.afterDataSent {dataPrd : σ} {length : ℕ} {eof : Bool} :
    OnlyStream streamId session (session.afterDataSent streamId dataPrd length eof) := by
  rw [Session.afterDataSent]
  rcases hstream : session.streams streamId with _ | stream
  · exact ⟨rfl, fun _ _ => rfl, id⟩
  · have hsome : (session.streams streamId).isSome := by
      rw [hstream]
      rfl
    have hset : ∀ stream' : Option (Stream σ), OnlyStream streamId session
        (Session.setStream { session with remoteWindowSize := session.remoteWindowSize - length }
          streamId stream') := by
      intro stream'
      refine ⟨rfl, fun _ hne => setStream_of_ne hne stream', fun _ => hsome⟩
    dsimp only
    split
    · split
      · exact hset _
      · exact hset _
    · exact hset _

lemma Known.of_onlyStream (h : session.Known) (honly : OnlyStream streamId session session') :
    session'.Known := by
  refine h.of_streams honly.lastRecvStreamId ?_
  intro s hs
  by_cases hne : s = streamId
  · subst hne
    exact honly.self hs
  · rwa [honly.other s hne] at hs

/-- A stream that is changed, and not closed. -/
lemma isSome_streams_setStream_map (f : Stream σ → Stream σ) (s : StreamId) :
    ((session.setStream streamId ((session.streams streamId).map f)).streams s).isSome =
      (session.streams s).isSome := by
  by_cases hne : s = streamId
  · subst hne
    rw [setStream_self, Option.isSome_map]
  · rw [setStream_of_ne hne]

/-- Sending HEADERS opens and closes nothing. -/
lemma isSome_streams_sendHeaders (hsend : session.sendHeaders = some session') (s : StreamId) :
    (session'.streams s).isSome = (session.streams s).isSome := by
  rw [sendHeaders] at hsend
  split at hsend
  · cases hsend
  · dsimp only at hsend
    split at hsend
    · cases hsend
      exact isSome_streams_setStream_map _ s
    · cases hsend
      rfl

/-- A new stream of the client. -/
lemma Known.openStream (h : session.Known) (hlast : session.lastRecvStreamId ≤ streamId) :
    Known { session.openStream streamId with lastRecvStreamId := streamId } where
  last := Int.le_trans h.last hlast
  stream := fun {s} hs => by
    by_cases hne : s = streamId
    · subst hne
      exact ⟨Int.le_trans h.last hlast, Int.le_refl s⟩
    · have hold : (session.streams s).isSome := by
        rw [← setStream_of_ne hne]
        exact hs
      exact ⟨(h.stream hold).1, Int.le_trans (h.stream hold).2 hlast⟩

lemma Known.onRequestHeadersReceived (h : session.Known)
    (hopen : session.onRequestHeadersReceived streamId = some session') : session'.Known := by
  obtain ⟨hcan, hsome⟩ := Option.ite_none_left_eq_some.1 hopen
  cases hsome
  refine h.openStream ?_
  rcases Int.le_total session.lastRecvStreamId streamId with hle | hle
  · exact hle
  · exact absurd (Or.inr (Or.inr (Or.inl hle))) hcan

lemma Known.shutdownRead (h : session.Known) : (session.shutdownRead streamId).Known :=
  h.of_onlyStream .shutdownRead

lemma Known.afterDataSent (h : session.Known) {dataPrd : σ} {length : ℕ} {eof : Bool} :
    (session.afterDataSent streamId dataPrd length eof).Known :=
  h.of_onlyStream .afterDataSent

lemma Known.upgrade2 {settingsPayload : Bytes} (h : session.Known)
    (hupgrade : session.upgrade2 settingsPayload = .ok session') : session'.Known := by
  unfold Session.upgrade2 at hupgrade
  split at hupgrade
  · cases hupgrade
  · rename_i hlast
    split at hupgrade
    · cases hupgrade
    · cases hupgrade
      have hsame := SameItems.onSettingsReceived session (unpackSettingsPayload settingsPayload)
      have hlast' : (session.onSettingsReceived
          (unpackSettingsPayload settingsPayload)).lastRecvStreamId ≤ 1 := by
        rw [hsame.lastRecvStreamId]
        exact Int.le_of_lt (Int.not_le.1 hlast)
      have hopen := (h.of_sameItems hsame).openStream hlast'
      exact hopen.shutdownRead

/-- What can be sent next: an item that is not deferred, where no HEADERS wait and the connection
has window. -/
lemma nextItem_eq_some_iff {stream : Stream σ} :
    session.nextItem s = some (stream, a) ↔ session.obReg = [] ∧ 0 < session.remoteWindowSize ∧
      session.streams s = some stream ∧ stream.item = some a ∧ stream.deferred = false := by
  constructor
  · intro hnext
    rcases Option.ite_none_right_eq_some.1 hnext with ⟨⟨hnil, hwindow⟩, hbind⟩
    rcases Option.bind_eq_some_iff.1 hbind with ⟨stream', hfound, hitem⟩
    rcases Option.ite_none_left_eq_some.1 hitem with ⟨hdeferred, hmap⟩
    rcases Option.map_eq_some_iff.1 hmap with ⟨a', ha, heq⟩
    cases heq
    exact ⟨hnil, hwindow, hfound, ha, by simpa using hdeferred⟩
  · rintro ⟨hnil, hwindow, hfound, hitem, hdeferred⟩
    rw [nextItem, if_pos ⟨hnil, hwindow⟩, hfound]
    simp [hitem, hdeferred]

/-- In a drained session no HEADERS wait and no stream can send. -/
lemma of_isDrained (hdrained : session.isDrained = true) (hknown : session.Known) :
    session.obReg = [] ∧ ∀ s, session.nextItem s = none := by
  obtain ⟨hnil, hall⟩ := Bool.and_eq_true_iff.1 hdrained
  refine ⟨List.isEmpty_iff.1 hnil, fun s => ?_⟩
  cases hstream : session.streams s with
  | none =>
    unfold nextItem
    rw [hstream]
    split <;> rfl
  | some stream =>
    have hsome : (session.streams s).isSome = true := by rw [hstream]; rfl
    obtain ⟨hpos, hlast⟩ := hknown.stream hsome
    have hmem : s.toNat ∈ List.range (session.lastRecvStreamId.toNat + 1) := by
      rw [List.mem_range]
      exact Nat.lt_succ_of_le (Int.toNat_le_toNat hlast)
    have hnone := List.all_eq_true.1 hall _ hmem
    rw [Int.toNat_of_nonneg hpos] at hnone
    exact Option.isNone_iff_eq_none.1 hnone

/-! ## Windows -/

/-- Between the two sessions, no stream was opened, no window has changed, and nothing was
deferred. -/
structure KeepsWindows (session session' : Session σ) : Prop where
  window : session'.remoteWindowSize = session.remoteWindowSize
  lastRecvStreamId : session'.lastRecvStreamId = session.lastRecvStreamId
  stream : ∀ {s stream'}, session'.streams s = some stream' →
    ∃ stream, session.streams s = some stream ∧
      stream'.remoteWindowSize = stream.remoteWindowSize ∧
      (stream'.deferred = true → stream.deferred = true)

lemma KeepsWindows.setStream {stream' : Option (Stream σ)}
    (hstream : ∀ new, stream' = some new → ∃ old, session.streams streamId = some old ∧
      new.remoteWindowSize = old.remoteWindowSize ∧ (new.deferred = true → old.deferred = true)) :
    KeepsWindows session (session.setStream streamId stream') where
  window := rfl
  lastRecvStreamId := rfl
  stream := fun {s new} hnew => by
    by_cases hne : s = streamId
    · subst hne
      rw [setStream_self] at hnew
      exact hstream new hnew
    · rw [setStream_of_ne hne] at hnew
      exact ⟨new, hnew, rfl, id⟩

/-- A DATA frame takes its length from the window of the connection... -/
lemma remoteWindowSize_afterDataSent {dataPrd : σ} {length : ℕ} {eof : Bool} :
    (session.afterDataSent streamId dataPrd length eof).remoteWindowSize =
      session.remoteWindowSize - length := by
  unfold afterDataSent
  dsimp only
  split
  · rfl
  · split
    · split <;> rfl
    · rfl

/-- ... and from the window of its stream, which goes on with the source as it is then. -/
lemma streams_afterDataSent_self {stream : Stream σ}
    (hstream : session.streams streamId = some stream) (dataPrd : σ) (length : ℕ) :
    (session.afterDataSent streamId dataPrd length false).streams streamId = some { stream with
      remoteWindowSize := stream.remoteWindowSize - length
      item := some dataPrd
      deferred_item := fun _ => rfl } := by
  unfold afterDataSent
  dsimp only
  rw [hstream]
  exact setStream_self _

lemma KeepsWindows.closeStream : KeepsWindows session (session.closeStream streamId) :=
  .setStream fun _ hnew => nomatch hnew

lemma KeepsWindows.detachItem : KeepsWindows session (session.detachItem streamId) := by
  refine .setStream fun new hnew => ?_
  obtain ⟨old, hold, rfl⟩ := Option.map_eq_some_iff.1 hnew
  exact ⟨old, hold, rfl, fun hdeferred => nomatch hdeferred⟩

lemma KeepsWindows.sendHeaders (hsend : session.sendHeaders = some session') :
    KeepsWindows session session' := by
  unfold Session.sendHeaders at hsend
  split at hsend
  case h_1 => cases hsend
  case h_2 item obReg hobReg =>
    dsimp only at hsend
    split at hsend
    · cases hsend
      have hsent : KeepsWindows { session with obReg := obReg }
          (Session.afterHeadersSent { session with obReg := obReg } item ‹_›) := by
        refine .setStream fun new hnew => ?_
        obtain ⟨old, hold, rfl⟩ := Option.map_eq_some_iff.1 hnew
        refine ⟨old, hold, ?_, ?_⟩
        · simp only [Stream.attachItem]
          split <;> rfl
        · simp only [Stream.attachItem]
          split <;> exact id
      exact ⟨hsent.window, hsent.lastRecvStreamId, hsent.stream⟩
    · cases hsend
      exact ⟨rfl, rfl, fun hstream => ⟨_, hstream, rfl, id⟩⟩

lemma KeepsWindows.known (h : KeepsWindows session session') (hknown : session.Known) :
    session'.Known := by
  refine hknown.of_streams h.lastRecvStreamId fun s hs => ?_
  obtain ⟨stream', hstream'⟩ := Option.isSome_iff_exists.1 hs
  obtain ⟨stream, hstream, -⟩ := h.stream hstream'
  exact hstream ▸ rfl

end KituraHTTP2.Nghttp2.Session
