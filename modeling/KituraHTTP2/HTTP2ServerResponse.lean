import KituraHTTP2.HTTP2Session

/-!
# Writing a response and ending it

A handler writes to its `HTTP2ServerResponse` any number of times and ends it.  The writes collect
in `frameData`, which is `nil` until the first of them; `end()` submits what was collected, and does
nothing at all where nothing was: a response without a single write is never sent.

* `writes_frameData` — what `frameData` holds after any sequence of writes.
* **`response_sent_once_iff`** — a response is submitted exactly once, with the whole body, exactly
  when there was a write or the response was ended with a text.
* `empty_response_is_never_sent` — the redirect of a handler that writes nothing.
-/

namespace KituraHTTP2

variable {P : Platform}

/-- The errors that the session throws. -/
inductive HTTP2Errors where
  | failedToSend
  | internalError
deriving DecidableEq, Repr

namespace HTTP2ServerResponse

/-- `write(from data: Data)` -/
def writeData (response : HTTP2ServerResponse P) (data : Bytes) : HTTP2ServerResponse P :=
  { response with frameData := some (response.frameData.getD [] ++ data) }

/-- `write(from string: String)` -/
def writeString (response : HTTP2ServerResponse P) (string : String) : HTTP2ServerResponse P :=
  response.writeData (utf8Encode string)

/-- The decimal digits of an integer, as string interpolation writes them. -/
def decimal (n : ℤ) : Bytes := utf8Encode (toString n)

/-- One round of the loop of `nghttp2Headers`: the name and the first value of a header go to the
end of `headersStrings`, and the pair submitted is the one found at `counter`. -/
def appendHeader (state : List Bytes × List (Bytes × Bytes) × ℕ)
    (header : String × List String) : List Bytes × List (Bytes × Bytes) × ℕ :=
  let (headersStrings, http2Headers, counter) := state
  match header.2.head? with
  | some firstValue =>
    let headersStrings := headersStrings ++ [utf8Encode header.1, utf8Encode firstValue]
    (headersStrings,
      http2Headers ++ [(headersStrings.getD counter [], headersStrings.getD (counter + 1) [])],
      counter + 2)
  | none => state

/-- `nghttp2Headers()`: the updated response, and the name and value pairs for nghttp2. -/
def nghttp2Headers (response : HTTP2ServerResponse P) :
    HTTP2ServerResponse P × List (Bytes × Bytes) :=
  let headersStrings := response.headersStrings ++
    [utf8Encode ":status", decimal (response.statusCode.getD (-1))]
  let (headersStrings, http2Headers, _) := (P.entries response.headers).foldl appendHeader
    (headersStrings, [(headersStrings.getD 0 [], headersStrings.getD 1 [])], 2)
  ({ response with headersStrings := headersStrings }, http2Headers)

/-- What a call of `sendData` meets: where the array with the copied data is, whether nghttp2
accepts the submission, and whether the `sessionSend()` after it succeeds. -/
structure SendOutcome where
  ptr : Addr
  accepted : Bool
  flushed : Bool
deriving DecidableEq, Repr

/-- `end()`: the response and the session after it, and what it throws.  A response without
`frameData` is left as it is. -/
def endResponse (response : HTTP2ServerResponse P) (session : HTTP2Session P)
    (outcome : SendOutcome) :
    HTTP2ServerResponse P × HTTP2Session P × Except HTTP2Errors Unit :=
  match response.frameData with
  | some data =>
    let (response, frameHeaders) := response.nghttp2Headers
    let call : Submission := ⟨response.stream, data, frameHeaders, outcome.ptr, outcome.accepted⟩
    (response, session.sendData call,
      if outcome.accepted && outcome.flushed then .ok () else .error .failedToSend)
  | none => (response, session, .ok ())

/-- `end(text:)` -/
def endText (response : HTTP2ServerResponse P) (text : String) (session : HTTP2Session P)
    (outcome : SendOutcome) :
    HTTP2ServerResponse P × HTTP2Session P × Except HTTP2Errors Unit :=
  (response.writeString text).endResponse session outcome

/-- `reset()`, at the time `SPIUtils.httpDate()` names. -/
def reset (response : HTTP2ServerResponse P) (date : String) : HTTP2ServerResponse P :=
  { response with
    statusCode := some 200
    headers := P.assign response.headers "Date" (some [date])
    headersStrings := [] }

/-! ## Whole responses -/

/-- A call of one of the two `write` methods. -/
inductive WriteCall where
  | string (text : String)
  | data (bytes : Bytes)
deriving DecidableEq, Repr

/-- The bytes that a write adds to the body. -/
def WriteCall.bytes : WriteCall → Bytes
  | .string text => utf8Encode text
  | .data bytes => bytes

def write (response : HTTP2ServerResponse P) : WriteCall → HTTP2ServerResponse P
  | .string text => response.writeString text
  | .data bytes => response.writeData bytes

/-- The two ways to end a response. -/
inductive EndCall where
  | plain
  | text (string : String)
deriving DecidableEq, Repr

def EndCall.bytes : EndCall → Bytes
  | .plain => []
  | .text string => utf8Encode string

def finish (response : HTTP2ServerResponse P) (endCall : EndCall) (session : HTTP2Session P)
    (outcome : SendOutcome) :
    HTTP2ServerResponse P × HTTP2Session P × Except HTTP2Errors Unit :=
  match endCall with
  | .plain => response.endResponse session outcome
  | .text string => response.endText string session outcome

lemma write_eq (response : HTTP2ServerResponse P) (call : WriteCall) :
    response.write call = response.writeData call.bytes := by
  cases call <;> rfl

/-- Writes leave everything but `frameData` alone. -/
lemma writes_stream (calls : List WriteCall) (response : HTTP2ServerResponse P) :
    (calls.foldl write response).stream = response.stream := by
  induction calls generalizing response with
  | nil => rfl
  | cons call calls ih => rw [List.foldl_cons, ih, write_eq]; rfl

/-- What the writes collected, in call order; still `nil` where there was none. -/
lemma writes_frameData (calls : List WriteCall) (response : HTTP2ServerResponse P) :
    (calls.foldl write response).frameData =
      if calls = [] then response.frameData
      else some (response.frameData.getD [] ++ calls.flatMap WriteCall.bytes) := by
  induction calls generalizing response with
  | nil => simp
  | cons call calls ih =>
    rw [List.foldl_cons, ih, write_eq]
    by_cases hcalls : calls = []
    · simp [hcalls, writeData]
    · simp [hcalls, writeData]

/-- The body of a response is what was written, and the text it was ended with. -/
def responseBody (calls : List WriteCall) (endCall : EndCall) : Bytes :=
  calls.flatMap WriteCall.bytes ++ endCall.bytes

/-- Ending a response with data submits it, once. -/
lemma endResponse_some {response : HTTP2ServerResponse P} {data : Bytes}
    (hdata : response.frameData = some data) (session : HTTP2Session P) (outcome : SendOutcome) :
    (response.endResponse session outcome).2.1 = session.sendData
      ⟨response.stream, data, response.nghttp2Headers.2, outcome.ptr, outcome.accepted⟩ := by
  unfold endResponse
  rw [hdata]
  rfl

/-- Ending a response without data does nothing. -/
lemma endResponse_none {response : HTTP2ServerResponse P} (hdata : response.frameData = none)
    (session : HTTP2Session P) (outcome : SendOutcome) :
    response.endResponse session outcome = (response, session, .ok ()) := by
  unfold endResponse
  rw [hdata]

/-- One response was submitted between two states of a session: for the stream, with the body. -/
def SentOnce (session session' : HTTP2Session P) (streamId : StreamId) (body : Bytes) : Prop :=
  ∃ submission : Submission, submission.streamId = streamId ∧ submission.data = body ∧
    session'.submitted = session.submitted ++ [submission]

lemma sentOnce_of_some {response : HTTP2ServerResponse P} {data : Bytes}
    (hdata : response.frameData = some data) (session : HTTP2Session P) (outcome : SendOutcome) :
    SentOnce session (response.endResponse session outcome).2.1 response.stream data :=
  ⟨_, rfl, rfl, congrArg HTTP2Session.submitted (endResponse_some hdata session outcome)⟩

lemma not_sentOnce_self (session : HTTP2Session P) (streamId : StreamId) (body : Bytes) :
    ¬ SentOnce session session streamId body := by
  rintro ⟨submission, -, -, heq⟩
  simpa using congrArg List.length heq

/-- **When a completed response is sent.**  For a new response, any writes and either way to end it:
exactly one response is submitted for its stream, with the written bytes and the text of the end as
its body, exactly when something was written or the response was ended with a text. -/
theorem response_sent_once_iff (session : HTTP2Session P) (streamId : StreamId) (date : String)
    (calls : List WriteCall) (endCall : EndCall) (outcome : SendOutcome) :
    SentOnce session
        ((calls.foldl write (new P streamId date)).finish endCall session outcome).2.1
        streamId (responseBody calls endCall) ↔
      calls ≠ [] ∨ ∃ text, endCall = .text text := by
  set response := calls.foldl write (new P streamId date) with hresponse
  have hstream : response.stream = streamId := (writes_stream calls _).trans rfl
  have hdata : response.frameData =
      if calls = [] then none else some (calls.flatMap WriteCall.bytes) := writes_frameData calls _
  cases endCall with
  | plain =>
    have hbody : responseBody calls .plain = calls.flatMap WriteCall.bytes := List.append_nil _
    by_cases hcalls : calls = []
    · have hnone := endResponse_none (hdata.trans (if_pos hcalls)) session outcome
      change SentOnce session (response.endResponse session outcome).2.1 _ _ ↔ _
      rw [hnone]
      simp [hcalls, not_sentOnce_self]
    · have hsent := sentOnce_of_some (hdata.trans (if_neg hcalls)) session outcome
      rw [hstream, ← hbody] at hsent
      exact ⟨fun _ => Or.inl hcalls, fun _ => hsent⟩
  | text text =>
    have hwritten : (response.writeString text).frameData =
        some (responseBody calls (.text text)) := by
      unfold writeString writeData responseBody EndCall.bytes
      rw [hdata]
      by_cases hcalls : calls = []
      · simp [hcalls]
      · simp [hcalls]
    have hsent := sentOnce_of_some hwritten session outcome
    rw [show (response.writeString text).stream = streamId from hstream] at hsent
    exact ⟨fun _ => Or.inr ⟨text, rfl⟩, fun _ => hsent⟩

/-- **An empty response is never sent.**  A handler that redirects and writes nothing ends its
response, and nothing is submitted for the stream. -/
theorem empty_response_is_never_sent :
    ¬ SentOnce (HTTP2Session.new Platform.basic none true)
      (((([] : List WriteCall).foldl write (new Platform.basic 1 "today")).finish .plain
        (HTTP2Session.new Platform.basic none true) ⟨64, true, true⟩).2.1)
      1 (responseBody [] .plain) :=
  not_sentOnce_self _ _ _

end HTTP2ServerResponse

end KituraHTTP2
