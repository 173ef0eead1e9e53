import KituraHTTP2.HTTP2ServerResponse
import Mathlib.Data.List.GetD
import Mathlib.Data.List.Induction

/-!
# The header block of a response

`nghttp2Headers` puts the bytes of every name and value at the end of `headersStrings` and reads the
pairs for nghttp2 from its start.  The two meet where the array was empty before, so that what it
submits depends on the calls of `end()` before.

* `nghttp2Headers_eq` — the pairs submitted are the first ones of what was kept and what was added.
* **`all_values_listed_iff`** — a fresh response announces every value of its headers exactly when
  no header has two of them.
* **`header_block_current_iff`** — after any history, `end()` announces the current status and
  headers exactly when the strings kept from the calls before, and the current ones after them,
  begin with the current ones.
* **`announces_history_iff`** — what is kept, said by the history: the strings of the `end()` calls
  since the last `reset()`.
-/

namespace KituraHTTP2

variable {P : Platform}

namespace HTTP2ServerResponse

/-! ## What is appended, and what is read -/

/-- The strings of a list read two by two. -/
def pairsOf : List Bytes → List (Bytes × Bytes)
  | name :: value :: strings => (name, value) :: pairsOf strings
  | _ => []

/-- The strings that one header adds: its name and its first value. -/
def entryStrings (entry : String × List String) : List Bytes :=
  match entry.2.head? with
  | some firstValue => [utf8Encode entry.1, utf8Encode firstValue]
  | none => []

/-- The pseudo-header that every block begins with. -/
def statusStrings (response : HTTP2ServerResponse P) : List Bytes :=
  [utf8Encode ":status", decimal (response.statusCode.getD (-1))]

/-- The strings that a call of `nghttp2Headers` adds to `headersStrings`. -/
def currentStrings (response : HTTP2ServerResponse P) : List Bytes :=
  response.statusStrings ++ (P.entries response.headers).flatMap entryStrings

lemma pairsOf_append {strings : List Bytes} (heven : Even strings.length) (rest : List Bytes) :
    pairsOf (strings ++ rest) = pairsOf strings ++ pairsOf rest := by
  induction strings using pairsOf.induct with
  | case1 name value strings ih =>
    have hrest : Even strings.length := by
      simpa [Nat.even_add_one] using heven
    exact congrArg ((name, value) :: ·) (ih hrest)
  | case2 strings hshort =>
    match strings with
    | [] => rfl
    | [_] => simp at heven
    | _ :: _ :: _ => exact absurd rfl (hshort _ _ _)

/-- Lists of even length that give the same pairs are equal. -/
lemma pairsOf_injective {strings strings' : List Bytes} (heven : Even strings.length)
    (heven' : Even strings'.length) (hpairs : pairsOf strings = pairsOf strings') :
    strings = strings' := by
  induction strings using pairsOf.induct generalizing strings' with
  | case1 name value strings ih =>
    match strings' with
    | [] => simp [pairsOf] at hpairs
    | [_] => simp at heven'
    | name' :: value' :: strings' =>
      have hrest : Even strings.length := by
        simpa [Nat.even_add_one] using heven
      have hrest' : Even strings'.length := by
        simpa [Nat.even_add_one] using heven'
      simp only [pairsOf, List.cons.injEq, Prod.mk.injEq] at hpairs
      obtain ⟨⟨rfl, rfl⟩, htail⟩ := hpairs
      rw [ih hrest hrest' htail]
  | case2 strings hshort =>
    match strings, strings' with
    | [], [] => rfl
    | [], [_] => simp at heven'
    | [], _ :: _ :: _ => simp [pairsOf] at hpairs
    | [_], _ => simp at heven
    | _ :: _ :: _, _ => exact absurd rfl (hshort _ _ _)

lemma even_length_entryStrings (entries : List (String × List String)) :
    Even (entries.flatMap entryStrings).length := by
  induction entries with
  | nil => exact Even.zero
  | cons entry entries ih =>
    rw [List.flatMap_cons, List.length_append]
    refine Even.add ?_ ih
    unfold entryStrings
    cases entry.2.head? with
    | none => exact Even.zero
    | some firstValue => exact even_two

lemma even_length_arranged (response : HTTP2ServerResponse P)
    (entries : List (String × List String)) :
    Even (response.statusStrings ++ entries.flatMap entryStrings).length := by
  rw [List.length_append]
  exact even_two.add (even_length_entryStrings entries)

/-- The loop of `nghttp2Headers`.  The invariant is that the counter lies within the array, so that
every round reads two strings that are there. -/
lemma foldl_appendHeader (entries : List (String × List String)) (strings : List Bytes)
    (pairs : List (Bytes × Bytes)) (counter : ℕ) (hcounter : counter ≤ strings.length) :
    let added := entries.flatMap entryStrings
    let state := entries.foldl appendHeader (strings, pairs, counter)
    state.1 = strings ++ added ∧
      state.2.1 = pairs ++ pairsOf (((strings ++ added).drop counter).take added.length) := by
  induction entries generalizing strings pairs counter with
  | nil => simp [pairsOf]
  | cons entry entries ih =>
    dsimp only at ih ⊢
    rw [List.foldl_cons, List.flatMap_cons]
    rcases hfirst : entry.2.head? with _ | firstValue
    · have hround : appendHeader (strings, pairs, counter) entry = (strings, pairs, counter) := by
        simp only [appendHeader, hfirst]
      have hadded : entryStrings entry = [] := by simp only [entryStrings, hfirst]
      rw [hround, hadded]
      exact ih strings pairs counter hcounter
    · set name := utf8Encode entry.1
      set value := utf8Encode firstValue
      have hadded : entryStrings entry = [name, value] := by
        simp only [entryStrings, hfirst, name, value]
      set grown := strings ++ [name, value] with hgrown
      have hlength : grown.length = strings.length + 2 := by simp [hgrown]
      have hround : appendHeader (strings, pairs, counter) entry =
          (grown, pairs ++ [(grown.getD counter [], grown.getD (counter + 1) [])],
            counter + 2) := by
        simp only [appendHeader, hfirst, hgrown, name, value]
      obtain ⟨hstrings, hpairs⟩ := ih grown
        (pairs ++ [(grown.getD counter [], grown.getD (counter + 1) [])]) (counter + 2) (by omega)
      set added := entries.flatMap entryStrings
      have hall : strings ++ ([name, value] ++ added) = grown ++ added := by simp [hgrown]
      rw [hround, hadded, hall]
      refine ⟨hstrings, ?_⟩
      have hdrop : (grown ++ added).drop counter = grown.getD counter [] ::
          grown.getD (counter + 1) [] :: (grown ++ added).drop (counter + 2) := by
        have hc : counter + 1 < grown.length := by omega
        have hc' : counter + 1 < (grown ++ added).length := by
          rw [List.length_append]
          omega
        rw [List.drop_eq_getElem_cons (Nat.lt_of_succ_lt hc'), List.drop_eq_getElem_cons hc',
          List.getElem_append_left (Nat.lt_of_succ_lt hc), List.getElem_append_left hc,
          List.getD_eq_getElem _ _ (Nat.lt_of_succ_lt hc), List.getD_eq_getElem _ _ hc]
      rw [hpairs, hdrop, List.append_assoc]
      rfl

/-- **What `nghttp2Headers` does.**  It adds the current strings to the kept ones, and submits as
many pairs as it added strings for, from the start of the array. -/
theorem nghttp2Headers_eq (response : HTTP2ServerResponse P) :
    response.nghttp2Headers =
      ({ response with headersStrings := response.headersStrings ++ response.currentStrings },
        pairsOf ((response.headersStrings ++ response.currentStrings).take
          response.currentStrings.length)) := by
  set strings := response.headersStrings ++ response.statusStrings with hstrings
  set added := (P.entries response.headers).flatMap entryStrings with hadded
  have hlength : 2 ≤ strings.length := by simp [hstrings, statusStrings]
  have hcurrent : response.currentStrings = response.statusStrings ++ added := rfl
  have hall : response.headersStrings ++ response.currentStrings = strings ++ added := by
    rw [hcurrent, hstrings, List.append_assoc]
  obtain ⟨hloop, hpairs⟩ := foldl_appendHeader (P.entries response.headers) strings
    [(strings.getD 0 [], strings.getD 1 [])] 2 hlength
  have hfirst : (strings ++ added).take response.currentStrings.length =
      strings.getD 0 [] :: strings.getD 1 [] :: ((strings ++ added).drop 2).take added.length := by
    have hcount : response.currentStrings.length = added.length + 2 := by
      rw [hcurrent, List.length_append]
      exact Nat.add_comm _ _
    match hs : strings, hlength with
    | first :: second :: rest, _ =>
      rw [hcount]
      rfl
  rw [hall, hfirst]
  exact Prod.ext (congrArg (fun strings => { response with headersStrings := strings }) hloop)
    hpairs

/-- The block that `end()` submits. -/
def block (response : HTTP2ServerResponse P) : List (Bytes × Bytes) :=
  pairsOf ((response.headersStrings ++ response.currentStrings).take
    response.currentStrings.length)

/-- Ending a response with data: the response afterwards, what is submitted, and what is thrown. -/
lemma endResponse_eq {response : HTTP2ServerResponse P} {data : Bytes}
    (hdata : response.frameData = some data) (session : HTTP2Session P) (outcome : SendOutcome) :
    response.endResponse session outcome =
      ({ response with headersStrings := response.headersStrings ++ response.currentStrings },
        session.sendData ⟨response.stream, data, response.block, outcome.ptr, outcome.accepted⟩,
        if outcome.accepted && outcome.flushed then .ok () else .error .failedToSend) := by
  simp only [endResponse, hdata, nghttp2Headers_eq, block]

/-! ## What a block should list -/

/-- The pairs that a header stands for: one for every value, in their order. -/
def entryPairs (entry : String × List String) : List (Bytes × Bytes) :=
  entry.2.map fun value => (utf8Encode entry.1, utf8Encode value)

/-- The pair of the status code. -/
def statusPair (response : HTTP2ServerResponse P) : Bytes × Bytes :=
  (utf8Encode ":status", decimal (response.statusCode.getD (-1)))

/-- A list of pairs announces a response: the status first, then every value of every header, the
headers in some order, and nothing else. -/
def ListsResponse (response : HTTP2ServerResponse P) (pairs : List (Bytes × Bytes)) : Prop :=
  ∃ entries : List (String × List String), entries.Perm (P.entries response.headers) ∧
    pairs = response.statusPair :: entries.flatMap entryPairs

/-- No header has two values. -/
def SingleValued (P : Platform) (headers : P.HeadersContainer) : Prop :=
  ∀ entry ∈ P.entries headers, entry.2.length ≤ 1

instance (headers : P.HeadersContainer) : Decidable (SingleValued P headers) :=
  inferInstanceAs (Decidable (∀ entry ∈ P.entries headers, entry.2.length ≤ 1))

lemma pairsOf_entryStrings (entry : String × List String) :
    pairsOf (entryStrings entry) = (entryPairs entry).take 1 := by
  rcases entry with ⟨name, _ | ⟨value, values⟩⟩
  · rfl
  · rfl

lemma pairsOf_flatMap (entries : List (String × List String)) :
    pairsOf (entries.flatMap entryStrings) =
      entries.flatMap fun entry => (entryPairs entry).take 1 := by
  induction entries with
  | nil => rfl
  | cons entry entries ih =>
    have heven : Even (entryStrings entry).length := by
      simpa using even_length_entryStrings [entry]
    rw [List.flatMap_cons, List.flatMap_cons, pairsOf_append heven, pairsOf_entryStrings, ih]

lemma pairsOf_currentStrings (response : HTTP2ServerResponse P) :
    pairsOf response.currentStrings = response.statusPair ::
      (P.entries response.headers).flatMap fun entry => (entryPairs entry).take 1 := by
  rw [← pairsOf_flatMap]
  rfl

/-- Where no header has two values, taking the first ones takes all. -/
lemma flatMap_take_of_single {entries : List (String × List String)}
    (hsingle : ∀ entry ∈ entries, entry.2.length ≤ 1) :
    (entries.flatMap fun entry => (entryPairs entry).take 1) = entries.flatMap entryPairs := by
  refine List.flatMap_congr ?_
  intro entry hentry
  exact List.take_of_length_le (by simpa [entryPairs] using hsingle entry hentry)

lemma length_take_le (entries : List (String × List String)) :
    (entries.flatMap fun entry => (entryPairs entry).take 1).length ≤
      (entries.flatMap entryPairs).length := by
  induction entries with
  | nil => exact Nat.le_refl 0
  | cons entry entries ih =>
    simp only [List.flatMap_cons, List.length_append]
    exact Nat.add_le_add (List.length_take_le' 1 _) ih

/-- Taking the first values takes fewer pairs where some header has two. -/
lemma single_of_length_le {entries : List (String × List String)}
    (hlength : (entries.flatMap entryPairs).length ≤
      (entries.flatMap fun entry => (entryPairs entry).take 1).length) :
    ∀ entry ∈ entries, entry.2.length ≤ 1 := by
  induction entries with
  | nil => simp
  | cons entry entries ih =>
    have hfewer := length_take_le entries
    have hentry : (entryPairs entry).length = entry.2.length := by simp [entryPairs]
    simp only [List.flatMap_cons, List.length_append, List.length_take] at hlength
    rw [List.forall_mem_cons]
    exact ⟨by omega, ih (by omega)⟩

/-- The pairs that a fresh array gives list the response exactly when no header has two values. -/
lemma listsResponse_currentStrings_iff (response : HTTP2ServerResponse P) :
    response.ListsResponse (pairsOf response.currentStrings) ↔
      SingleValued P response.headers := by
  rw [pairsOf_currentStrings]
  constructor
  · rintro ⟨entries, hperm, hpairs⟩
    refine single_of_length_le (Nat.le_of_eq ?_)
    have hlength := congrArg List.length (List.cons.inj hpairs).2
    rw [hlength]
    exact ((hperm.flatMap_right entryPairs).length_eq).symm
  · intro hsingle
    exact ⟨_, List.Perm.refl _, congrArg _ (flatMap_take_of_single hsingle)⟩

lemma block_of_empty {response : HTTP2ServerResponse P} (hempty : response.headersStrings = []) :
    response.block = pairsOf response.currentStrings := by
  rw [block, hempty, List.nil_append, List.take_length]

/-- A call of `end()` announces its response: it submits one response, with a block that lists it.
-/
def Announces (response : HTTP2ServerResponse P) (session : HTTP2Session P)
    (outcome : SendOutcome) : Prop :=
  ∃ submission : Submission,
    (response.endResponse session outcome).2.1.submitted = session.submitted ++ [submission] ∧
      response.ListsResponse submission.headers

lemma announces_iff {response : HTTP2ServerResponse P} {data : Bytes}
    (hdata : response.frameData = some data) (session : HTTP2Session P) (outcome : SendOutcome) :
    response.Announces session outcome ↔ response.ListsResponse response.block := by
  have hsubmitted : (response.endResponse session outcome).2.1.submitted =
      session.submitted ++ [⟨response.stream, data, response.block, outcome.ptr,
        outcome.accepted⟩] := by
    rw [endResponse_eq hdata]
    rfl
  constructor
  · rintro ⟨submission, hsubmission, hlists⟩
    rw [hsubmitted, List.append_cancel_left_eq, List.singleton_inj] at hsubmission
    rw [← hsubmission] at hlists
    exact hlists
  · intro hlists
    exact ⟨_, hsubmitted, hlists⟩

/-- A fresh response for a stream, with its status code, headers and body set. -/
def filled (P : Platform) (streamId : StreamId) (date : String) (statusCode : ℤ)
    (headers : P.HeadersContainer) (data : Bytes) : HTTP2ServerResponse P :=
  { new P streamId date with
    statusCode := some statusCode, headers := headers, frameData := some data }

/-- **When every header value is announced.**  For a fresh response with any status code, any
headers and any body: what `end()` submits begins with the status and lists one pair for every value
of every header exactly when no header has two values. -/
theorem all_values_listed_iff (session : HTTP2Session P) (streamId : StreamId) (date : String)
    (statusCode : ℤ) (headers : P.HeadersContainer) (data : Bytes) (outcome : SendOutcome) :
    (filled P streamId date statusCode headers data).Announces session outcome ↔
      SingleValued P headers := by
  set response := filled P streamId date statusCode headers data
  have hfresh : response.headersStrings = [] := rfl
  have hdata : response.frameData = some data := rfl
  rw [announces_iff hdata, block_of_empty hfresh]
  exact listsResponse_currentStrings_iff response

/-- **A second cookie is lost.**  Of two `Set-Cookie` values only the first is announced. -/
theorem second_cookie_is_lost :
    ¬ (filled Platform.basic 1 "today" 200 [("Set-Cookie", ["a=1", "b=2"])] []).Announces
      (HTTP2Session.new Platform.basic none true) ⟨64, true, true⟩ := by
  rw [announces_iff rfl, block_of_empty rfl, listsResponse_currentStrings_iff]
  decide

/-! ## Histories of a response -/

/-- A change of the headers: `headers.append`, or an assignment, where `nil` removes. -/
inductive HeaderChange where
  | append (key : String) (values : List String)
  | assign (key : String) (values : Option (List String))
deriving DecidableEq, Repr

def HeaderChange.apply (headers : P.HeadersContainer) : HeaderChange → P.HeadersContainer
  | .append key values => P.append headers key values
  | .assign key values => P.assign headers key values

/-- What a handler does with its response. -/
inductive ResponseOp where
  | setStatus (statusCode : Option ℤ)
  | header (change : HeaderChange)
  | write (call : WriteCall)
  | finish (endCall : EndCall) (outcome : SendOutcome)
  | reset (date : String)
deriving DecidableEq, Repr

/-- One operation on the response, and what it does to the session. -/
def ResponseOp.apply (state : HTTP2ServerResponse P × HTTP2Session P) :
    ResponseOp → HTTP2ServerResponse P × HTTP2Session P
  | .setStatus statusCode => ({ state.1 with statusCode := statusCode }, state.2)
  | .header change => ({ state.1 with headers := change.apply state.1.headers }, state.2)
  | .write call => (state.1.write call, state.2)
  | .finish endCall outcome =>
    ((state.1.finish endCall state.2 outcome).1, (state.1.finish endCall state.2 outcome).2.1)
  | .reset date => (state.1.reset date, state.2)

/-- The operations of a list, in order. -/
def operate (state : HTTP2ServerResponse P × HTTP2Session P) (ops : List ResponseOp) :
    HTTP2ServerResponse P × HTTP2Session P :=
  ops.foldl ResponseOp.apply state

lemma operate_concat (state : HTTP2ServerResponse P × HTTP2Session P) (ops : List ResponseOp)
    (op : ResponseOp) : operate state (ops ++ [op]) = op.apply (operate state ops) := by
  simp only [operate, List.foldl_append, List.foldl_cons, List.foldl_nil]

def ResponseOp.isReset : ResponseOp → Bool
  | .reset _ => true
  | _ => false

def ResponseOp.isFinish : ResponseOp → Bool
  | .finish _ _ => true
  | _ => false

/-- The operations after the last `reset()`, the last one first; all of them where there was no
`reset()`. -/
def sinceReset (ops : List ResponseOp) : List ResponseOp :=
  ops.reverse.takeWhile fun op => !op.isReset

/-- Only `end()` adds to the kept strings. -/
lemma headersStrings_apply (state : HTTP2ServerResponse P × HTTP2Session P) {op : ResponseOp}
    (hfinish : op.isFinish = false) (hempty : state.1.headersStrings = []) :
    (op.apply state).1.headersStrings = [] := by
  cases op with
  | setStatus statusCode => exact hempty
  | header change => exact hempty
  | write call =>
    show (state.1.write call).headersStrings = []
    rw [write_eq]
    exact hempty
  | finish endCall outcome => exact absurd hfinish.symm Bool.false_ne_true
  | reset date => rfl

/-- No string is kept where no `end()` was called since the last `reset()`. -/
lemma headersStrings_operate (session : HTTP2Session P) (streamId : StreamId) (date : String)
    (ops : List ResponseOp) (hfirst : ∀ op ∈ sinceReset ops, op.isFinish = false) :
    (operate (new P streamId date, session) ops).1.headersStrings = [] := by
  induction ops using List.reverseRecOn with
  | nil => rfl
  | append_singleton ops op ih =>
    rw [operate_concat]
    rcases hreset : op.isReset with _ | _
    · have hsince : sinceReset (ops ++ [op]) = op :: sinceReset ops := by
        simp [sinceReset, hreset]
      rw [hsince, List.forall_mem_cons] at hfirst
      exact headersStrings_apply _ hfirst.1 (ih hfirst.2)
    · cases op with
      | reset date => rfl
      | _ => exact absurd hreset Bool.false_ne_true

/-! ## Blocks after other blocks -/

/-- What `end()` reads, the strings kept from before and the current ones after them, begins with
the current ones, the headers in some order. -/
def ReadsCurrent (response : HTTP2ServerResponse P) : Prop :=
  ∃ entries : List (String × List String), entries.Perm (P.entries response.headers) ∧
    (response.statusStrings ++ entries.flatMap entryStrings) <+:
      (response.headersStrings ++ response.currentStrings)

lemma readsCurrent_of_empty {response : HTTP2ServerResponse P}
    (hempty : response.headersStrings = []) : response.ReadsCurrent := by
  refine ⟨_, List.Perm.refl _, ?_⟩
  rw [hempty]
  exact List.prefix_refl _

/-- The strings of a response, its headers in some order. -/
lemma pairsOf_arranged (response : HTTP2ServerResponse P)
    {entries : List (String × List String)} (hsingle : ∀ entry ∈ entries, entry.2.length ≤ 1) :
    pairsOf (response.statusStrings ++ entries.flatMap entryStrings) =
      response.statusPair :: entries.flatMap entryPairs := by
  show response.statusPair :: pairsOf (entries.flatMap entryStrings) = _
  rw [pairsOf_flatMap, flatMap_take_of_single hsingle]

lemma length_arranged {response : HTTP2ServerResponse P} {entries : List (String × List String)}
    (hperm : entries.Perm (P.entries response.headers)) :
    (response.statusStrings ++ entries.flatMap entryStrings).length =
      response.currentStrings.length := by
  simp only [currentStrings, List.length_append, (hperm.flatMap_right entryStrings).length_eq]

/-- As many strings as the current ones, from the start of an array: they list the response exactly
when the array begins with its strings. -/
lemma listsResponse_take_iff {response : HTTP2ServerResponse P} {strings : List Bytes}
    (hsingle : SingleValued P response.headers)
    (hlength : response.currentStrings.length ≤ strings.length) :
    response.ListsResponse (pairsOf (strings.take response.currentStrings.length)) ↔
      ∃ entries : List (String × List String), entries.Perm (P.entries response.headers) ∧
        (response.statusStrings ++ entries.flatMap entryStrings) <+: strings := by
  refine exists_congr ?_
  intro entries
  refine and_congr_right ?_
  intro hperm
  have hsingle' : ∀ entry ∈ entries, entry.2.length ≤ 1 := by
    intro entry hentry
    exact hsingle entry (hperm.mem_iff.1 hentry)
  have hcount := length_arranged hperm
  rw [← pairsOf_arranged response hsingle', List.prefix_iff_eq_take, hcount]
  constructor
  · intro hpairs
    refine (pairsOf_injective ?_ (even_length_arranged _ _) hpairs).symm
    rw [List.length_take, Nat.min_eq_left hlength]
    exact even_length_arranged response _
  · intro heq
    rw [← heq]

lemma announces_iff_readsCurrent {response : HTTP2ServerResponse P}
    (hbody : response.frameData.isSome) (hsingle : SingleValued P response.headers)
    (session : HTTP2Session P) (outcome : SendOutcome) :
    response.Announces session outcome ↔ response.ReadsCurrent := by
  rcases Option.isSome_iff_exists.1 hbody with ⟨data, hdata⟩
  rw [announces_iff hdata]
  refine listsResponse_take_iff hsingle ?_
  rw [List.length_append]
  exact Nat.le_add_left _ _

/-- **When a header block is current.**  After any history of a response that has a body and no
header with two values, `end()` announces the response as it then is exactly when what it reads
begins with the current strings; in particular where no `end()` was called since the response was
created or last reset. -/
theorem header_block_current_iff (session : HTTP2Session P) (streamId : StreamId) (date : String)
    (ops : List ResponseOp) (outcome : SendOutcome) (response : HTTP2ServerResponse P)
    (session' : HTTP2Session P)
    (hops : operate (new P streamId date, session) ops = (response, session'))
    (hbody : response.frameData.isSome) (hsingle : SingleValued P response.headers) :
    (response.Announces session' outcome ↔ response.ReadsCurrent) ∧
      ((∀ op ∈ sinceReset ops, op.isFinish = false) → response.Announces session' outcome) := by
  have hiff := announces_iff_readsCurrent hbody hsingle session' outcome
  refine ⟨hiff, ?_⟩
  intro hfirst
  have hempty := headersStrings_operate session streamId date ops hfirst
  rw [hops] at hempty
  exact hiff.2 (readsCurrent_of_empty hempty)

/-- A response that was sent, reset and written again: an error page that is announced as one. -/
theorem header_block_current_errorPage :
    let ops : List ResponseOp := [.header (.assign "Etag" (some ["7"])), .write (.string "page"),
      .finish .plain ⟨64, false, false⟩, .reset "later", .setStatus (some 500)]
    let state := operate (new Platform.basic 1 "today",
      HTTP2Session.new Platform.basic none true) ops
    state.1.Announces state.2 ⟨96, true, true⟩ := by
  intro ops state
  have hsingle : SingleValued Platform.basic state.1.headers := by decide
  exact (header_block_current_iff _ 1 "today" ops ⟨96, true, true⟩ state.1 state.2 rfl (by decide)
    hsingle).2 (by decide)

/-- The strings that one operation leaves behind, one list for each `end()` since the last
`reset()`: an `end()` with a body adds those that are current when it is called. -/
def ResponseOp.endBlocks (response : HTTP2ServerResponse P) (blocks : List (List Bytes)) :
    ResponseOp → List (List Bytes)
  | .finish .plain _ =>
    if response.frameData.isSome then blocks ++ [response.currentStrings] else blocks
  | .finish (.text _) _ => blocks ++ [response.currentStrings]
  | .reset _ => []
  | _ => blocks

/-- The strings that a history leaves behind, after those in `blocks`. -/
def endBlocks (state : HTTP2ServerResponse P × HTTP2Session P) (blocks : List (List Bytes)) :
    List ResponseOp → List (List Bytes)
  | [] => blocks
  | op :: ops => endBlocks (op.apply state) (op.endBlocks state.1 blocks) ops

/-- The step: an operation leaves behind what it is said to. -/
lemma headersStrings_endBlocks_apply {state : HTTP2ServerResponse P × HTTP2Session P}
    {blocks : List (List Bytes)} (hkept : state.1.headersStrings = blocks.flatten)
    (op : ResponseOp) :
    (op.apply state).1.headersStrings = (op.endBlocks state.1 blocks).flatten := by
  cases op with
  | setStatus statusCode => exact hkept
  | header change => exact hkept
  | write call =>
    show (state.1.write call).headersStrings = _
    rw [write_eq]
    exact hkept
  | reset date => rfl
  | finish endCall outcome =>
    have hadds : state.1.headersStrings ++ state.1.currentStrings =
        (blocks ++ [state.1.currentStrings]).flatten := by
      rw [hkept, List.flatten_append, List.flatten_singleton]
    cases endCall with
    | plain =>
      show (state.1.endResponse state.2 outcome).1.headersStrings = _
      rw [ResponseOp.endBlocks]
      cases hdata : state.1.frameData with
      | none =>
        simp only [endResponse, hdata]
        exact hkept
      | some data =>
        rw [endResponse_eq hdata]
        exact hadds
    | text string =>
      have hdata : (state.1.writeString string).frameData =
          some (state.1.frameData.getD [] ++ utf8Encode string) := rfl
      show ((state.1.writeString string).endResponse state.2 outcome).1.headersStrings = _
      rw [endResponse_eq hdata]
      exact hadds

/-- **What is kept from the calls before**: the strings of each `end()` since the last `reset()`, as
they were when it was called. -/
lemma headersStrings_endBlocks {state : HTTP2ServerResponse P × HTTP2Session P}
    {blocks : List (List Bytes)} (hkept : state.1.headersStrings = blocks.flatten)
    (ops : List ResponseOp) :
    (operate state ops).1.headersStrings = (endBlocks state blocks ops).flatten := by
  induction ops generalizing state blocks with
  | nil => exact hkept
  | cons op ops ih => exact ih (headersStrings_endBlocks_apply hkept op)

/-- **When a header block is current, by the history.**  The strings of the `end()` calls since the
last `reset()`, with those that are current now after them, must begin with the current ones: what
the first of these calls announced, all later ones announce again, as far as their own strings
reach. -/
theorem announces_history_iff (session : HTTP2Session P) (streamId : StreamId) (date : String)
    (ops : List ResponseOp) (outcome : SendOutcome) (response : HTTP2ServerResponse P)
    (session' : HTTP2Session P)
    (hops : operate (new P streamId date, session) ops = (response, session'))
    (hbody : response.frameData.isSome) (hsingle : SingleValued P response.headers) :
    response.Announces session' outcome ↔
      ∃ entries : List (String × List String), entries.Perm (P.entries response.headers) ∧
        (response.statusStrings ++ entries.flatMap entryStrings) <+:
          (endBlocks (new P streamId date, session) [] ops ++ [response.currentStrings]).flatten := by
  have hnew : (new P streamId date).headersStrings = ([] : List (List Bytes)).flatten := rfl
  have hkept := @headersStrings_endBlocks P (new P streamId date, session) [] hnew ops
  rw [hops] at hkept
  rw [announces_iff_readsCurrent hbody hsingle, ReadsCurrent, hkept, List.flatten_append,
    List.flatten_singleton]

/-- **An error page with the old status.**  The first `end()` of a response could not be sent; its
handler makes the status 500 and ends it again, and what is announced is the first status. -/
theorem second_end_repeats_the_status :
    let ops : List ResponseOp := [.write (.string "page"), .finish .plain ⟨64, false, false⟩,
      .setStatus (some 500)]
    let state := operate (new Platform.basic 1 "today",
      HTTP2Session.new Platform.basic none true) ops
    SingleValued Platform.basic state.1.headers ∧
      state.1.statusCode = some 500 ∧ ¬ state.1.Announces state.2 ⟨96, true, true⟩ := by
  intro ops state
  have hsingle : SingleValued Platform.basic state.1.headers := by decide
  refine ⟨hsingle, rfl, ?_⟩
  have hdata : state.1.frameData = some (utf8Encode "page") := by decide
  rw [announces_iff hdata]
  rintro ⟨entries, -, hpairs⟩
  have hstatus := congrArg List.head? hpairs
  have hold : state.1.block.head? = some (utf8Encode ":status", utf8Encode "200") := by decide
  have hnew : state.1.statusPair = (utf8Encode ":status", utf8Encode "500") := by decide
  rw [hold, List.head?_cons, hnew] at hstatus
  exact absurd hstatus (by decide)

end HTTP2ServerResponse

end KituraHTTP2
