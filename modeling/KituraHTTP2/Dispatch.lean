import KituraHTTP2.RecvPhase

/-!
# Dispatch is at most once and never early

`on_frame_recv` has two places that call the delegate: the HEADERS branch, for a request that ends
with its headers, and the DATA branch, for one that was kept in the stream table.  Neither looks at
whether the stream was dispatched before.

What keeps them from calling twice is the order of the callbacks.  A call of the delegate comes only
with a frame that carries END_STREAM (`StreamView.step_handled`), and such a frame comes at most
once, as it ends the request half of the stream (`RecvStep.endsRequest`).  So

* **`handled_inv`** — as long as the request half is not over there was no call, and there is at
  most one afterwards;
* **`dispatch_at_most_once_never_early`** — the statement about the session, for all streams and
  all interleavings, with any calls of `sendData` in between.
-/

namespace KituraHTTP2

open Machine Keyed HTTP2Session

variable {P : Platform}

/-! ## Which events call the delegate -/

namespace StreamView

variable {view view' : StreamView P}

/-- **Only a frame with END_STREAM calls the delegate**, and once. -/
theorem step_handled {event : SessionEvent} (hstep : view.step event = some view') :
    view'.handled = view.handled ∨
      ∃ frame date call, event = .frameRecv frame date ∧ frame.EndsRequest ∧
        view'.handled = view.handled ++ [call] := by
  cases event with
  | beginHeaders frame =>
    cases hstep
    unfold beginHeaders
    split_ifs <;> exact Or.inl rfl
  | header frame name value =>
    cases hstep
    unfold header
    split_ifs
    · exact Or.inl rfl
    · split <;> exact Or.inl rfl
  | frameRecv frame date =>
    by_cases hdata : frame.type = .data
    · rw [step_of_data hdata hstep]
      rcases dataFrameRecv_cases view frame with h | ⟨_, request, response, hend, -, -, -, h⟩
      · exact Or.inl (congrArg handled h)
      · rw [h]
        refine (handle_handled view request response).imp_right fun hcall => ?_
        exact ⟨frame, date, _, rfl, ⟨Or.inl hdata, hend⟩, hcall⟩
    · by_cases hheaders : frame.type = .headers
      · rcases headersFrameRecv_cases (step_of_headers hheaders hstep) with
          rfl | ⟨_, request, -, -, rfl⟩
        · exact Or.inl rfl
        · cases hend : frame.endStream with
          | false =>
            rw [dispatchRequest_of_not_endStream hend]
            exact Or.inl rfl
          | true =>
            rw [dispatchRequest_of_endStream hend]
            refine (handle_handled view request _).imp_right fun hcall => ?_
            exact ⟨frame, date, _, rfl, ⟨Or.inr hheaders, hend⟩, hcall⟩
      · rw [step_of_other hdata hheaders hstep]
        exact Or.inl rfl
  | dataChunk streamId data => cases hstep; exact Or.inl rfl
  | streamClose streamId => cases hstep; exact Or.inl rfl
  | readCallback streamId ptr length => cases hstep; exact Or.inl rfl
  | sendData call => cases hstep; exact Or.inl rfl

end StreamView

/-! ## One stream -/

/-- Among the events of a stream is a frame that ends its request. -/
def EndStreamReceived (events : List SessionEvent) : Prop :=
  ∃ frame date, SessionEvent.frameRecv frame date ∈ events ∧ frame.EndsRequest

/-- What the delegate was told of a stream: nothing before its request is over, and at most one
request afterwards, which was ended by a received frame. -/
structure HandledInv (events : List SessionEvent) (phase : RecvPhase) (view : StreamView P) :
    Prop where
  not_over : ¬ phase.Over → view.handled = []
  at_most_once : view.handled.length ≤ 1
  not_early : view.handled ≠ [] → EndStreamReceived events

lemma HandledInv.step {events : List SessionEvent} {phase phase' : RecvPhase}
    {view view' : StreamView P} {event : SessionEvent} (h : HandledInv events phase view)
    (hphase : phase.step event = some phase') (hview : view.step event = some view') :
    HandledInv (events ++ [event]) phase' view' := by
  have hrecv := RecvStep.of_step hphase
  rcases StreamView.step_handled hview with hsame | ⟨frame, date, call, rfl, hend, hcall⟩
  · refine ⟨fun hnot => ?_, hsame ▸ h.at_most_once, fun hne => ?_⟩
    · rw [hsame]
      exact h.not_over (mt hrecv.over hnot)
    · obtain ⟨frame, date, hmem, hend⟩ := h.not_early (hsame ▸ hne)
      exact ⟨frame, date, List.mem_append_left _ hmem, hend⟩
  · obtain ⟨hbefore, hafter⟩ := hrecv.endsRequest hend
    rw [h.not_over hbefore, List.nil_append] at hcall
    refine ⟨fun hnot => absurd (Or.inl hafter) hnot, hcall ▸ Nat.le_refl 1, fun _ => ?_⟩
    exact ⟨frame, date, List.mem_append_right _ List.mem_cons_self, hend⟩

/-- **One stream is dispatched at most once and never early**, whatever is sent on it meanwhile. -/
theorem handled_inv {remoteAddress : Option String} {delegate : Bool} {start phase : RecvPhase}
    {events : List SessionEvent} {view : StreamView P}
    (hphase : run RecvPhase.step start events = some phase)
    (hview : run StreamView.step (StreamView.initial P remoteAddress delegate) events =
      some view) : HandledInv events phase view := by
  refine run_history HandledInv ?_ (fun _ _ _ _ _ _ h => h.step) hphase hview
  exact ⟨fun _ => rfl, Nat.zero_le 1, fun hne => absurd rfl hne⟩

/-- After the close of a stream nothing is dispatched for it. -/
lemma handled_of_closed {phase : RecvPhase} {events : List SessionEvent} {view view' : StreamView P}
    (hphase : run RecvPhase.step .closed events = some phase)
    (hview : run StreamView.step view events = some view') : view'.handled = view.handled := by
  induction events generalizing view with
  | nil =>
    cases hview
    rfl
  | cons event events ih =>
    obtain ⟨next, hstep, hphase⟩ := run_cons_eq_some.1 hphase
    obtain ⟨mid, hmid, hview⟩ := run_cons_eq_some.1 hview
    have hrecv := RecvStep.of_step hstep
    obtain rfl := hrecv.of_closed
    rw [ih hphase hview]
    rcases StreamView.step_handled hmid with h | ⟨frame, date, call, rfl, hend, -⟩
    · exact h
    · exact absurd (Or.inr rfl) (hrecv.endsRequest hend).1

/-! ## The session -/

section Session

variable {remoteAddress : Option String} {delegate upgraded : Bool} {events : List SessionEvent}
  {session : HTTP2Session P}

/-- What the delegate was told of each stream of a session. -/
lemma session_handled_inv (hadm : Admissible upgraded events)
    (hrun : run HTTP2Session.step (HTTP2Session.new P remoteAddress delegate) events =
      some session) (s : StreamId) :
    ∃ phase, HandledInv (streamEvents s events) phase (session.view s) := by
  obtain ⟨phase, hphase⟩ := hadm s
  exact ⟨phase, handled_inv hphase (run_view hrun s)⟩

/-- **Dispatch is at most once and never early.**  In every run of the callbacks that nghttp2 can
make, over any streams in any interleaving and with any calls of `sendData` in between, each stream
is handed to the delegate at most once, not before the frame that ends its request was received, and
not after its close. -/
theorem dispatch_at_most_once_never_early (hadm : Admissible upgraded events)
    (hrun : run HTTP2Session.step (HTTP2Session.new P remoteAddress delegate) events =
      some session) (s : StreamId) :
    (session.handledFor s).length ≤ 1 ∧
    (∀ before after mid, events = before ++ after →
      run HTTP2Session.step (HTTP2Session.new P remoteAddress delegate) before = some mid →
      mid.handledFor s ≠ [] → EndStreamReceived (streamEvents s before)) ∧
    ∀ before after mid, events = before ++ .streamClose s :: after →
      run HTTP2Session.step (HTTP2Session.new P remoteAddress delegate) before = some mid →
      session.handledFor s = mid.handledFor s := by
  obtain ⟨_, hinv⟩ := session_handled_inv hadm hrun s
  refine ⟨hinv.at_most_once, ?_, ?_⟩
  · rintro before after mid rfl hmid hne
    obtain ⟨_, hinv⟩ := session_handled_inv hadm.before hmid s
    exact hinv.not_early hne
  · rintro before after mid rfl hmid
    have hevents : streamEvents s (before ++ .streamClose s :: after) =
        streamEvents s before ++ .streamClose s :: streamEvents s after := by
      rw [streamEvents_append, streamEvents_cons_own (show SessionEvent.streamId _ = s from rfl)]
    -- the stream is closed from the close on
    obtain ⟨_, hphase⟩ := hadm s
    rw [hevents, run_append_eq_some] at hphase
    obtain ⟨_, -, hphase⟩ := hphase
    obtain ⟨phase, hclose, hphase⟩ := run_cons_eq_some.1 hphase
    -- and the view of it is that of `mid` up to the close
    have hview := run_view hrun s
    rw [hevents, run_append_eq_some] at hview
    obtain ⟨v, hv, hview⟩ := hview
    rw [run_view hmid s, Option.some.injEq] at hv
    obtain ⟨w, hw, hview⟩ := run_cons_eq_some.1 hview
    cases hw
    have hclosed : phase = .closed := by
      cases RecvStep.of_step hclose
      rfl
    subst hclosed hv
    exact handled_of_closed hphase hview

end Session

theorem dispatch_at_most_once_never_early_interleaved : ∃ session,
    run HTTP2Session.step (HTTP2Session.new Platform.basic none true) interleavedRequests =
      some session ∧ ∀ s, (session.handledFor s).length ≤ 1 := by
  have hsome : (run HTTP2Session.step (HTTP2Session.new Platform.basic none true)
      interleavedRequests).isSome := by decide
  have hadm : Admissible false interleavedRequests := by decide
  obtain ⟨session, hrun⟩ := Option.isSome_iff_exists.1 hsome
  exact ⟨session, hrun, fun s => (dispatch_at_most_once_never_early hadm hrun s).1⟩

end KituraHTTP2
