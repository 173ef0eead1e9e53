import KituraHTTP2.Connection
import KituraHTTP2.HTTP2ServerResponse

/-!
# The pointer to the nghttp2 session

`HTTP2Session.session` is optional.  It is `nil` when nghttp2 could not create the session, and
after `close()`; the object itself lives on, in its processor and in every response that a handler
has not ended yet.  What reaches nghttp2 through the pointer is followed here call by call: setting
the handler, `process`, `end()` of a response, now or later, and `close()`, in any order.

* `SessionGuarded` — a `nil` pointer is given to `nghttp2_session_del` only, and a closed session
  calls nothing else.
* **`session_guarded_iff`** — when a session is used so: the code never looks at the pointer, so
  exactly when nobody comes who would need it.
* `late_end_uses_closed_session` — a handler that answers after the client is gone.
-/

namespace KituraHTTP2

variable {P : Platform}

/-- The nghttp2 functions that `HTTP2Session` calls with its `session`.  The callbacks call two
more, with the session that nghttp2 hands to them. -/
inductive SessionFunction where
  | sessionUpgrade2
  | submitSettings
  | sessionSend
  | sessionMemRecv
  | submitResponse
  | sessionDel
deriving DecidableEq, Repr

/-- A call of nghttp2, and the pointer it was given. -/
structure SessionCall where
  function : SessionFunction
  session : Option Addr
deriving DecidableEq, Repr

/-- An `HTTP2Session` and its processor, as far as the pointer goes. -/
structure SessionPointer (P : Platform) where
  session : Option Addr
  initialRequest : Option (HTTP2ServerRequest P)
  http1Upgrade : Bool
  /-- the calls of nghttp2 so far -/
  calls : List SessionCall

/-- What `nghttp2_session_callbacks_new` and `nghttp2_session_server_new` return, and where the
latter puts the session. -/
structure SessionCreation where
  callbacksNew : ℤ
  serverNew : ℤ
  session : Addr
deriving DecidableEq, Repr

/-- What nghttp2 returns for a submission, and for the `nghttp2_session_send` after it. -/
structure SendResults where
  submit : ℤ
  send : ℤ
deriving DecidableEq, Repr

/-- A handler ends its response. -/
structure Answer (P : Platform) where
  response : HTTP2ServerResponse P
  endCall : HTTP2ServerResponse.EndCall
  results : SendResults

/-- `frameData` when `end()` looks at it. -/
def Answer.frameData (answer : Answer P) : Option Bytes :=
  match answer.endCall with
  | .plain => answer.response.frameData
  | .text string => (answer.response.writeString string).frameData

/-- What is done with a session, by its processor and by the handlers.  The lists of answers are
those given before the call of `delegate.handle` returns. -/
inductive SessionOperation (P : Platform) where
  /-- `handler` is set, to `nil` or to a handler -/
  | setHandler (isSome : Bool) (results : SendResults) (answers : List (Answer P))
  | process (answers : List (Answer P)) (readlen : ℤ) (result : ℤ)
  /-- a handler that kept its response ends it -/
  | endResponse (answer : Answer P)
  | close

/-- `initNGHttp2Session()` -/
def initNGHttp2Session (creation : SessionCreation) : Option Addr :=
  if creation.callbacksNew ≠ 0 then none
  else if creation.serverNew ≠ 0 then none
  else some creation.session

namespace SessionPointer

/-- A function of nghttp2 is called with the pointer as it is. -/
def call (owner : SessionPointer P) (function : SessionFunction) : SessionPointer P :=
  { owner with calls := owner.calls ++ [⟨function, owner.session⟩] }

/-- The two initializers, of `HTTP2Session` and of the processor with it. -/
def new (creation : SessionCreation) (upgrade : Option (Upgrade P)) : SessionPointer P :=
  match upgrade with
  | none => ⟨initNGHttp2Session creation, none, false, []⟩
  | some upgrade =>
    call ⟨initNGHttp2Session creation, upgrade.serverRequest.map HTTP2ServerRequest.ofServerRequest,
      true, []⟩ .sessionUpgrade2

def sessionSend (owner : SessionPointer P) (result : ℤ) : SessionPointer P × ℤ :=
  (owner.call .sessionSend, if result ≠ 0 then -1 else 0)

def sendServerConnectionHeader (owner : SessionPointer P) (results : SendResults) :
    SessionPointer P × Except HTTP2Errors Unit :=
  let owner := owner.call .submitSettings
  if results.submit ≠ 0 then (owner, .error .failedToSend)
  else
    let (owner, rv) := owner.sessionSend results.send
    (owner, if rv ≠ 0 then .error .failedToSend else .ok ())

/-- `sendData`, the one that throws and the one that it calls. -/
def sendData (owner : SessionPointer P) (results : SendResults) :
    SessionPointer P × Except HTTP2Errors Unit :=
  let owner := owner.call .submitResponse
  let (owner, rv) := if results.submit ≠ 0 then (owner, -1) else owner.sessionSend results.send
  (owner, if rv ≠ 0 then .error .failedToSend else .ok ())

/-- `end()` of a response of this session. -/
def endResponse (owner : SessionPointer P) (answer : Answer P) :
    SessionPointer P × Except HTTP2Errors Unit :=
  match answer.frameData with
  | some _ => owner.sendData answer.results
  | none => (owner, .ok ())

/-- The delegate handles requests, and its handlers give some answers at once. -/
def handle (owner : SessionPointer P) (answers : List (Answer P)) : SessionPointer P :=
  answers.foldl (fun owner answer => (owner.endResponse answer).1) owner

def sendInitialRequestData (owner : SessionPointer P) (answers : List (Answer P)) :
    SessionPointer P :=
  match owner.initialRequest with
  | some _ => owner.handle answers
  | none => owner

def processIncomingData (owner : SessionPointer P) (answers : List (Answer P))
    (readlen result : ℤ) : SessionPointer P × ℤ :=
  let owner := (owner.call .sessionMemRecv).handle answers
  if readlen < 0 then (owner, -1) else owner.sessionSend result

/-- `HTTP2SocketProcessor.process` -/
def process (owner : SessionPointer P) (answers : List (Answer P)) (readlen result : ℤ) :
    SessionPointer P × Bool :=
  let (owner, rv) := owner.processIncomingData answers readlen result
  (owner, rv == 0)

/-- `didSet` of `HTTP2SocketProcessor.handler` -/
def setHandler (owner : SessionPointer P) (isSome : Bool) (results : SendResults)
    (answers : List (Answer P)) : SessionPointer P :=
  if isSome then
    let owner := (owner.sendServerConnectionHeader results).1
    if owner.http1Upgrade then owner.sendInitialRequestData answers else owner
  else owner

def close (owner : SessionPointer P) : SessionPointer P :=
  { owner.call .sessionDel with session := none }

def perform (owner : SessionPointer P) : SessionOperation P → SessionPointer P
  | .setHandler isSome results answers => owner.setHandler isSome results answers
  | .process answers readlen result => (owner.process answers readlen result).1
  | .endResponse answer => (owner.endResponse answer).1
  | .close => owner.close

/-- A session after some operations, in this order. -/
def afterAll (owner : SessionPointer P) (operations : List (SessionOperation P)) :
    SessionPointer P :=
  operations.foldl perform owner

/-- The calls so far gave a `nil` pointer to `nghttp2_session_del` only. -/
def NoNilCall (owner : SessionPointer P) : Prop :=
  ∀ call ∈ owner.calls, call.session = none → call.function = .sessionDel

instance (owner : SessionPointer P) : Decidable owner.NoNilCall :=
  inferInstanceAs (Decidable (∀ _ ∈ owner.calls, _))

/-- **What is asked of a session** over a list of operations: no function but `nghttp2_session_del`
was called with `nil`, and what comes after a `close()` calls no other function. -/
structure SessionGuarded (owner : SessionPointer P) (operations : List (SessionOperation P)) :
    Prop where
  no_nil : (owner.afterAll operations).NoNilCall
  closed : ∀ before after, operations = before ++ .close :: after →
    ∃ calls, (owner.afterAll operations).calls =
        (owner.afterAll (before ++ [.close])).calls ++ calls ∧
      ∀ call ∈ calls, call.function = .sessionDel

/-! ## What one operation calls -/

variable {owner owner' owner'' : SessionPointer P}

/-- From `owner` to `owner'` the pointer stays, and some functions other than `nghttp2_session_del`
are called with it: at least one exactly when `used`. -/
structure Calls (owner owner' : SessionPointer P) (used : Prop) : Prop where
  session : owner'.session = owner.session
  calls : ∃ calls, owner'.calls = owner.calls ++ calls ∧
    (∀ call ∈ calls, call.session = owner.session ∧ call.function ≠ .sessionDel) ∧
    (calls ≠ [] ↔ used)

lemma Calls.refl (owner : SessionPointer P) : Calls owner owner False :=
  ⟨rfl, [], by simp, by simp, by simp⟩

lemma Calls.of_call {function : SessionFunction} (hfunction : function ≠ .sessionDel) :
    Calls owner (owner.call function) True := by
  refine ⟨rfl, [⟨function, owner.session⟩], rfl, ?_, by simp⟩
  intro call hcall
  rw [List.mem_singleton] at hcall
  subst hcall
  exact ⟨rfl, hfunction⟩

lemma Calls.of_sessionSend (owner : SessionPointer P) :
    Calls owner (owner.call .sessionSend) True :=
  .of_call (by decide)

lemma Calls.trans {used used' : Prop} (h : Calls owner owner' used)
    (h' : Calls owner' owner'' used') : Calls owner owner'' (used ∨ used') := by
  obtain ⟨calls, hcalls, hall, hused⟩ := h.calls
  obtain ⟨calls', hcalls', hall', hused'⟩ := h'.calls
  refine ⟨h'.session.trans h.session, calls ++ calls', ?_, ?_, ?_⟩
  · rw [hcalls', hcalls, List.append_assoc]
  · intro call hcall
    rcases List.mem_append.1 hcall with hcall | hcall
    · exact hall call hcall
    · exact ⟨(hall' call hcall).1.trans h.session, (hall' call hcall).2⟩
  · rw [← hused, ← hused', ne_eq, List.append_eq_nil_iff, not_and_or]

lemma Calls.congr {used used' : Prop} (h : Calls owner owner' used) (hiff : used ↔ used') :
    Calls owner owner' used' :=
  propext hiff ▸ h

/-- A submission: nghttp2 is called, once or twice. -/
lemma sendData_calls (owner : SessionPointer P) (results : SendResults) :
    Calls owner (owner.sendData results).1 True := by
  unfold sendData
  have hsubmit : Calls owner (owner.call .submitResponse) True := .of_call (by decide)
  by_cases hrefused : results.submit ≠ 0
  · simpa [hrefused] using hsubmit
  · simpa [hrefused, sessionSend] using hsubmit.trans (.of_sessionSend _)

lemma sendServerConnectionHeader_calls (owner : SessionPointer P) (results : SendResults) :
    Calls owner (owner.sendServerConnectionHeader results).1 True := by
  unfold sendServerConnectionHeader
  have hsubmit : Calls owner (owner.call .submitSettings) True := .of_call (by decide)
  by_cases hrefused : results.submit ≠ 0
  · simpa [hrefused] using hsubmit
  · simpa [hrefused, sessionSend] using hsubmit.trans (.of_sessionSend _)

lemma endResponse_calls (owner : SessionPointer P) (answer : Answer P) :
    Calls owner (owner.endResponse answer).1 (answer.frameData.isSome = true) := by
  unfold endResponse
  cases hdata : answer.frameData with
  | none => exact (Calls.refl owner).congr (by simp)
  | some data => exact (sendData_calls owner answer.results).congr (by simp)

/-- The answers given at once: all of them go through the same pointer. -/
lemma handle_calls (answers : List (Answer P)) (owner : SessionPointer P) :
    Calls owner (owner.handle answers) (∃ answer ∈ answers, answer.frameData.isSome = true) := by
  induction answers generalizing owner with
  | nil => exact (Calls.refl owner).congr (by simp)
  | cons answer answers ih =>
    exact ((endResponse_calls owner answer).trans (ih _)).congr (by simp)

lemma process_calls (owner : SessionPointer P) (answers : List (Answer P)) (readlen result : ℤ) :
    Calls owner (owner.process answers readlen result).1 True := by
  have hread : Calls owner ((owner.call .sessionMemRecv).handle answers) True :=
    ((Calls.of_call (by decide)).trans (handle_calls answers _)).congr (by simp)
  unfold process processIncomingData
  by_cases hfailed : readlen < 0
  · simpa [hfailed] using hread
  · simpa [hfailed, sessionSend] using hread.trans (.of_sessionSend _)

lemma setHandler_calls (owner : SessionPointer P) (isSome : Bool) (results : SendResults)
    (answers : List (Answer P)) :
    Calls owner (owner.setHandler isSome results answers) (isSome = true) := by
  have hheader := sendServerConnectionHeader_calls owner results
  unfold setHandler
  cases isSome with
  | false => exact (Calls.refl owner).congr (by simp)
  | true =>
    dsimp only
    rw [if_pos rfl]
    split
    · unfold sendInitialRequestData
      split
      · exact (hheader.trans (handle_calls answers _)).congr (by simp)
      · exact hheader.congr (by simp)
    · exact hheader.congr (by simp)

end SessionPointer

/-- The operations that need the pointer: all but `close()`, `handler = nil`, and `end()` of a
response without data. -/
def SessionOperation.Uses : SessionOperation P → Prop
  | .setHandler isSome _ _ => isSome = true
  | .process .. => True
  | .endResponse answer => answer.frameData.isSome = true
  | .close => False

namespace SessionPointer

variable {owner owner' : SessionPointer P}

/-- Every operation but `close()` keeps the pointer, and calls nghttp2 when it needs it. -/
lemma perform_calls (owner : SessionPointer P) {operation : SessionOperation P}
    (hopen : operation ≠ .close) : Calls owner (owner.perform operation) operation.Uses := by
  cases operation with
  | setHandler isSome results answers => exact setHandler_calls owner isSome results answers
  | process answers readlen result => exact process_calls owner answers readlen result
  | endResponse answer => exact endResponse_calls owner answer
  | close => exact absurd rfl hopen

lemma noNilCall_append {owner' : SessionPointer P} {calls : List SessionCall}
    (hcalls : owner'.calls = owner.calls ++ calls) :
    owner'.NoNilCall ↔ owner.NoNilCall ∧
      ∀ call ∈ calls, call.session = none → call.function = .sessionDel := by
  unfold NoNilCall
  rw [hcalls]
  exact List.forall_mem_append

/-- `nil` reaches nghttp2 when an operation needs the pointer while it is `nil`. -/
lemma Calls.noNilCall_iff {used : Prop} (h : Calls owner owner' used) :
    owner'.NoNilCall ↔ owner.NoNilCall ∧ (owner.session = none → ¬ used) := by
  obtain ⟨calls, hcalls, hall, hused⟩ := h.calls
  rw [noNilCall_append hcalls, ← hused, not_not]
  refine and_congr_right fun _ => ⟨fun hdel hnone => ?_, fun hnil call hcall hnone => ?_⟩
  · -- a call with the `nil` pointer would be one of `nghttp2_session_del`
    refine List.eq_nil_iff_forall_not_mem.2 fun call hcall => ?_
    have hcalled := hall call hcall
    exact hcalled.2 (hdel call hcall (hcalled.1.trans hnone))
  · rw [hnil ((hall call hcall).1.symm.trans hnone)] at hcall
    cases hcall

lemma noNilCall_close : owner.close.NoNilCall ↔ owner.NoNilCall := by
  have hcalls : owner.close.calls = owner.calls ++ [⟨.sessionDel, owner.session⟩] := rfl
  rw [noNilCall_append hcalls]
  simp

/-! ## Whole lives of a session -/

/-- Nobody needs a pointer that was `nil` from the start, or comes after a `close()`. -/
structure UsedWhileOpen (session : Option Addr) (operations : List (SessionOperation P)) :
    Prop where
  created : session = none → ∀ operation ∈ operations, ¬ operation.Uses
  closed : ∀ before after, operations = before ++ .close :: after →
    ∀ operation ∈ after, ¬ operation.Uses

lemma usedWhileOpen_nil (session : Option Addr) :
    UsedWhileOpen session ([] : List (SessionOperation P)) := by
  refine ⟨fun _ operation hmem => (nomatch hmem), fun before after hsplit => ?_⟩
  cases before <;> cases hsplit

/-- After a `close()` at the front, nobody needs the pointer. -/
lemma usedWhileOpen_close_cons {session : Option Addr} {operations : List (SessionOperation P)} :
    UsedWhileOpen session (.close :: operations) ↔ UsedWhileOpen none operations := by
  constructor
  · intro h
    refine ⟨fun _ => h.closed [] operations rfl, fun before after hsplit => ?_⟩
    exact h.closed (.close :: before) after (congrArg _ hsplit)
  · intro h
    have hunused := h.created rfl
    refine ⟨fun _ operation hmem => ?_, fun before after hsplit operation hmem => ?_⟩
    · rcases List.mem_cons.1 hmem with rfl | hmem
      · exact not_false
      · exact hunused operation hmem
    · cases before with
      | nil =>
        cases hsplit
        exact hunused operation hmem
      | cons first before =>
        rw [List.cons_append, List.cons.injEq] at hsplit
        exact h.closed before after hsplit.2 operation hmem

/-- Another operation at the front needs a pointer, if any. -/
lemma usedWhileOpen_cons {session : Option Addr} {operation : SessionOperation P}
    {operations : List (SessionOperation P)} (hopen : operation ≠ .close) :
    UsedWhileOpen session (operation :: operations) ↔
      (session = none → ¬ operation.Uses) ∧ UsedWhileOpen session operations := by
  constructor
  · intro h
    refine ⟨fun hnone => h.created hnone operation List.mem_cons_self, ?_, ?_⟩
    · exact fun hnone other hmem => h.created hnone other (List.mem_cons_of_mem _ hmem)
    · exact fun before after hsplit => h.closed (operation :: before) after (congrArg _ hsplit)
  · rintro ⟨hfirst, h⟩
    refine ⟨fun hnone => List.forall_mem_cons.2 ⟨hfirst hnone, h.created hnone⟩, ?_⟩
    intro before after hsplit
    cases before with
    | nil =>
      rw [List.nil_append, List.cons.injEq] at hsplit
      exact absurd hsplit.1 hopen
    | cons first before =>
      rw [List.cons_append, List.cons.injEq] at hsplit
      exact h.closed before after hsplit.2

/-- When the operations give no `nil` pointer away. -/
lemma afterAll_noNilCall_iff (operations : List (SessionOperation P)) (owner : SessionPointer P) :
    (owner.afterAll operations).NoNilCall ↔
      owner.NoNilCall ∧ UsedWhileOpen owner.session operations := by
  induction operations generalizing owner with
  | nil => exact (and_iff_left (usedWhileOpen_nil _)).symm
  | cons operation operations ih =>
    have hcons : owner.afterAll (operation :: operations) =
        (owner.perform operation).afterAll operations := rfl
    rw [hcons, ih]
    by_cases hclose : operation = .close
    · subst hclose
      rw [usedWhileOpen_close_cons]
      exact and_congr_left' noNilCall_close
    · have hcalls := perform_calls owner hclose
      rw [hcalls.noNilCall_iff, usedWhileOpen_cons hclose, hcalls.session, and_assoc]

/-- Operations that do not need the pointer call at most `nghttp2_session_del`. -/
lemma afterAll_of_unused {operations : List (SessionOperation P)}
    (hunused : ∀ operation ∈ operations, ¬ operation.Uses) (owner : SessionPointer P) :
    ∃ calls, (owner.afterAll operations).calls = owner.calls ++ calls ∧
      ∀ call ∈ calls, call.function = .sessionDel := by
  induction operations generalizing owner with
  | nil => exact ⟨[], (List.append_nil _).symm, fun call hmem => (nomatch hmem)⟩
  | cons operation operations ih =>
    rw [List.forall_mem_cons] at hunused
    obtain ⟨calls, hcalls, hdel⟩ := ih hunused.2 (owner.perform operation)
    by_cases hclose : operation = .close
    · subst hclose
      refine ⟨⟨.sessionDel, owner.session⟩ :: calls, ?_, List.forall_mem_cons.2 ⟨rfl, hdel⟩⟩
      exact hcalls.trans (List.append_assoc ..)
    · obtain ⟨own, hown, -, hused⟩ := (perform_calls owner hclose).calls
      have hnil : own = [] := not_not.1 fun hne => hunused.1 (hused.1 hne)
      rw [hnil, List.append_nil] at hown
      exact ⟨calls, hcalls.trans (congrArg (· ++ calls) hown), hdel⟩

lemma new_session (creation : SessionCreation) (upgrade : Option (Upgrade P)) :
    (new creation upgrade).session = initNGHttp2Session creation := by
  cases upgrade <;> rfl

/-- Of the two initializers, the one for upgrades calls nghttp2 even where there is no session. -/
lemma new_noNilCall_iff (creation : SessionCreation) (upgrade : Option (Upgrade P)) :
    (new creation upgrade).NoNilCall ↔ (initNGHttp2Session creation = none → upgrade = none) := by
  cases upgrade with
  | none => simp [NoNilCall, new]
  | some upgrade => simp [NoNilCall, new, call]

lemma initNGHttp2Session_eq_none_iff (creation : SessionCreation) :
    initNGHttp2Session creation = none ↔ creation.callbacksNew ≠ 0 ∨ creation.serverNew ≠ 0 := by
  unfold initNGHttp2Session
  split_ifs <;> simp_all

/-- **When the pointer is guarded.**  Over every order of operations: exactly when a session that
could not be created was not to be upgraded and is not used, and nothing that needs the session
comes after a `close()`. -/
theorem session_guarded_iff (creation : SessionCreation) (upgrade : Option (Upgrade P))
    (operations : List (SessionOperation P)) :
    SessionGuarded (new creation upgrade) operations ↔
      (creation.callbacksNew ≠ 0 ∨ creation.serverNew ≠ 0 →
        upgrade = none ∧ ∀ operation ∈ operations, ¬ operation.Uses) ∧
      ∀ before after, operations = before ++ .close :: after →
        ∀ operation ∈ after, ¬ operation.Uses := by
  have hnil : ((new creation upgrade).afterAll operations).NoNilCall ↔
      (initNGHttp2Session creation = none → upgrade = none) ∧
        UsedWhileOpen (initNGHttp2Session creation) operations := by
    rw [afterAll_noNilCall_iff, new_session, new_noNilCall_iff]
  rw [← initNGHttp2Session_eq_none_iff]
  constructor
  · intro h
    obtain ⟨hplain, hused⟩ := hnil.1 h.no_nil
    exact ⟨fun hnone => ⟨hplain hnone, hused.created hnone⟩, hused.closed⟩
  · rintro ⟨hcreated, hclosed⟩
    refine ⟨hnil.2 ⟨fun hnone => (hcreated hnone).1, fun hnone => (hcreated hnone).2, hclosed⟩, ?_⟩
    rintro before after rfl
    have hsplit : (new creation upgrade).afterAll (before ++ .close :: after) =
        ((new creation upgrade).afterAll (before ++ [.close])).afterAll after := by
      unfold afterAll
      rw [← List.foldl_append, List.append_assoc, List.singleton_append]
    rw [hsplit]
    exact afterAll_of_unused (hclosed before after rfl) _

/-- A response with the text `a`. -/
def lateAnswer : Answer Platform.basic where
  response := HTTP2ServerResponse.new Platform.basic 1 "Thu, 01 Jan 1970 00:00:00 GMT"
  endCall := .text "a"
  results := ⟨0, 0⟩

/-- **A late answer uses a session that is gone.**  The client sends a request and closes the
connection; the handler, which kept the response, ends it, and `nghttp2_submit_response` gets `nil`.
-/
theorem late_end_uses_closed_session :
    ¬ SessionGuarded (new ⟨0, 0, 64⟩ none)
      [.setHandler true ⟨0, 0⟩ [], .process [] 40 0, .close, .endResponse lateAnswer] := by
  intro h
  exact absurd h.no_nil (by decide)

end SessionPointer

end KituraHTTP2
