import KituraHTTP2.Lib.Reader
import KituraHTTP2.Messages

/-!
# Reading the body of a request

`read(into:)` and `readAllData(into:)` are documented to return the number of bytes read.  Neither
of them keeps a position: each call appends the whole of `reqData`.  `read(into:)` then returns 0,
which tells a caller that nothing was read, and `readAllData(into:)` never returns 0 if the body is
not empty.

* **`request_readsOnce_iff`** — for which calls a request hands out its body once.
* `loop_read` — a loop around `read(into:)` is one call, which has counted nothing.
* `not_loop_readAllData` — a loop around `readAllData(into:)` does not end.
-/

namespace KituraHTTP2

open Reader

variable {P : Platform}

/-! ## The two methods -/

/-- `read(into:)`: the data after the call, and what is returned. -/
def HTTP2ServerRequest.read (request : HTTP2ServerRequest P) (data : Bytes) : Bytes × ℕ :=
  match request.reqData with
  | some reqData => (data ++ reqData, 0)
  | none => (data, 0)

/-- `readAllData(into:)`: the data after the call, and what is returned. -/
def HTTP2ServerRequest.readAllData (request : HTTP2ServerRequest P) (data : Bytes) : Bytes × ℕ :=
  match request.reqData with
  | some reqData => (data ++ reqData, reqData.length)
  | none => (data, 0)

/-- The method that a handler calls. -/
inductive ReadMethod
  | read
  | readAllData
deriving DecidableEq, Repr

/-- One call, with the data that the handler gives to it. -/
def HTTP2ServerRequest.call (request : HTTP2ServerRequest P) (method : ReadMethod) (data : Bytes) :
    Call UInt8 :=
  let result := match method with
    | .read => request.read data
    | .readAllData => request.readAllData data
  ⟨data, result.1, result.2⟩

/-- The calls of a handler, one after the other.  No call changes the request. -/
def HTTP2ServerRequest.calls (request : HTTP2ServerRequest P)
    (handler : List (ReadMethod × Bytes)) : List (Call UInt8) :=
  handler.map fun next => request.call next.1 next.2

/-! ## What a call does -/

/-- The number that a method returns. -/
def ReadMethod.returned (method : ReadMethod) (body : Bytes) : ℕ :=
  match method with
  | .read => 0
  | .readAllData => body.length

/-- **Every call appends the whole body.** -/
lemma HTTP2ServerRequest.call_eq (request : HTTP2ServerRequest P) (method : ReadMethod)
    (data : Bytes) :
    request.call method data = ⟨data, data ++ request.body, method.returned request.body⟩ := by
  cases hreqData : request.reqData with
  | none => cases method <;> simp [call, read, readAllData, body, ReadMethod.returned, hreqData]
  | some reqData =>
    cases method <;> simp [call, read, readAllData, body, ReadMethod.returned, hreqData]

@[simp]
lemma HTTP2ServerRequest.calls_cons (request : HTTP2ServerRequest P) (method : ReadMethod)
    (data : Bytes) (handler : List (ReadMethod × Bytes)) :
    request.calls ((method, data) :: handler) =
      ⟨data, data ++ request.body, method.returned request.body⟩ :: request.calls handler := by
  rw [calls, List.map_cons, request.call_eq]
  rfl

/-- A call of a reader that appends the whole body is the first, and returns its length. -/
lemma HTTP2ServerRequest.reads_cons {request : HTTP2ServerRequest P} {rest : Bytes}
    {method : ReadMethod} {data : Bytes} {handler : List (ReadMethod × Bytes)}
    (h : Reads rest (request.calls ((method, data) :: handler))) :
    ∃ rest', rest = request.body ++ rest' ∧ method.returned request.body = request.body.length ∧
      Reads rest' (request.calls handler) := by
  rw [calls_cons] at h
  rcases h.of_cons with ⟨piece, rest', rfl, hafter, hcount, -, hrest⟩
  have hpiece : request.body = piece := List.append_cancel_left hafter
  subst hpiece
  exact ⟨rest', rfl, hcount, hrest⟩

/-! ## When the body is handed out once -/

/-- The handler calls nothing, or `readAllData(into:)` once. -/
def ReadsAtOnce (handler : List (ReadMethod × Bytes)) : Prop :=
  handler = [] ∨ ∃ data, handler = [(.readAllData, data)]

lemma HTTP2ServerRequest.reads_of_empty {request : HTTP2ServerRequest P} (h : request.body = [])
    (handler : List (ReadMethod × Bytes)) : Reads request.body (request.calls handler) := by
  rw [h]
  refine Reads.of_nothing fun call hcall => ?_
  rcases List.mem_map.1 hcall with ⟨⟨method, data⟩, -, rfl⟩
  rw [request.call_eq, h]
  exact ⟨List.append_nil data, by cases method <;> rfl⟩

lemma HTTP2ServerRequest.reads_of_readsAtOnce (request : HTTP2ServerRequest P)
    {handler : List (ReadMethod × Bytes)} (h : ReadsAtOnce handler) :
    Reads request.body (request.calls handler) := by
  rcases h with rfl | ⟨data, rfl⟩
  · exact Reads.nil request.body
  · have hcall := Reads.cons data request.body (fun _ => rfl) (Reads.nil [])
    rw [List.append_nil] at hcall
    rw [calls_cons]
    exact hcall

/-- With a body, the first call must be the one that returns its length, and the last. -/
lemma HTTP2ServerRequest.readsAtOnce_of_reads {request : HTTP2ServerRequest P}
    {handler : List (ReadMethod × Bytes)} (hbody : request.body ≠ [])
    (h : Reads request.body (request.calls handler)) : ReadsAtOnce handler := by
  have hlength : request.body.length ≠ 0 := fun hzero => hbody (List.length_eq_zero_iff.1 hzero)
  match handler with
  | [] => exact Or.inl rfl
  | (.read, data) :: _ =>
    rcases reads_cons h with ⟨-, -, hreturned, -⟩
    exact absurd hreturned.symm hlength
  | [(.readAllData, data)] => exact Or.inr ⟨data, rfl⟩
  | (.readAllData, _) :: (method, data) :: handler =>
    -- nothing is left for the second call, and it appends the body again
    rcases reads_cons h with ⟨rest, hrest, -, hnext⟩
    rcases reads_cons hnext with ⟨rest', hrest', -, -⟩
    have hempty : request.body ++ rest = request.body ++ [] := by
      rw [← hrest, List.append_nil]
    have hrestNil : rest = [] := List.append_cancel_left hempty
    rw [hrestNil] at hrest'
    exact absurd (List.append_eq_nil_iff.1 hrest'.symm).1 hbody

/-- **The body is handed out once when it is empty, or when all there is is one call of
`readAllData(into:)`.** -/
theorem request_readsOnce_iff (request : HTTP2ServerRequest P)
    (handler : List (ReadMethod × Bytes)) :
    ReadsOnce request.body (request.calls handler) ↔
      request.body = [] ∨ ReadsAtOnce handler := by
  constructor
  · intro h
    by_cases hbody : request.body = []
    · exact Or.inl hbody
    · exact Or.inr (HTTP2ServerRequest.readsAtOnce_of_reads hbody h.reads)
  · rintro (hbody | hhandler)
    · exact (HTTP2ServerRequest.reads_of_empty hbody handler).once
    · exact (request.reads_of_readsAtOnce hhandler).once

/-- A request with a body of three bytes. -/
def abcRequest : HTTP2ServerRequest Platform.basic :=
  let urlURL : URLComponents := { path := "/" }
  (HTTP2ServerRequest.new (P := Platform.basic) [0x2f] urlURL "192.0.2.1").appendReqData
    [0x61, 0x62, 0x63]

/-- `read(into:)` has appended the three bytes, and says that it has read none. -/
theorem not_forall_readsOnce :
    ¬ ∀ (request : HTTP2ServerRequest Platform.basic) (handler : List (ReadMethod × Bytes)),
      ReadsOnce request.body (request.calls handler) := by
  intro h
  have hloop : Loop [] (abcRequest.calls [(.read, [])]) [0x61, 0x62, 0x63] 0 :=
    Loop.stop [] abcRequest.body
  exact absurd ((h abcRequest [(.read, [])]).loop [] [0x61, 0x62, 0x63] 0 hloop).2 (by decide)

/-! ## Loops

A loop around `read(into:)` ends with one copy of the body, and the number 0; one around
`readAllData(into:)` has another copy of the body with every turn.
-/

/-- A loop around `read(into:)` is one call, and has counted nothing. -/
theorem loop_read {request : HTTP2ServerRequest P} {data result : Bytes} {total : ℕ}
    {handler : List (ReadMethod × Bytes)} (hread : ∀ next ∈ handler, next.1 = .read)
    (hloop : Loop data (request.calls handler) result total) :
    handler = [(.read, data)] ∧ result = data ++ request.body ∧ total = 0 := by
  match handler with
  | [] => cases hloop
  | (method, data') :: handler =>
    have hmethod : method = .read := hread (method, data') List.mem_cons_self
    subst hmethod
    rw [HTTP2ServerRequest.calls_cons] at hloop
    generalize hcalls : request.calls handler = calls at hloop
    cases hloop with
    | stop =>
      have hnil : handler = [] := List.map_eq_nil_iff.1 hcalls
      exact ⟨by rw [hnil], rfl, rfl⟩
    | again hcount _ => exact absurd rfl hcount

/-- A loop around `readAllData(into:)` does not end, unless there is no body. -/
theorem not_loop_readAllData {request : HTTP2ServerRequest P} (hbody : request.body ≠ [])
    {handler : List (ReadMethod × Bytes)} (hread : ∀ next ∈ handler, next.1 = .readAllData)
    (data result : Bytes) (total : ℕ) : ¬ Loop data (request.calls handler) result total := by
  induction handler generalizing data total with
  | nil =>
    intro hloop
    cases hloop
  | cons next handler ih =>
    rcases next with ⟨method, data'⟩
    have hmethod : method = .readAllData := hread (method, data') List.mem_cons_self
    have hrest := fun next hnext => hread next (List.mem_cons_of_mem (method, data') hnext)
    subst hmethod
    rw [HTTP2ServerRequest.calls_cons]
    intro hloop
    generalize hcount : ReadMethod.readAllData.returned request.body = count at hloop
    generalize hcalls : request.calls handler = calls at hloop
    cases hloop with
    | stop => exact hbody (List.length_eq_zero_iff.1 hcount)
    | again _ hloop => exact ih hrest _ _ (hcalls ▸ hloop)

end KituraHTTP2
