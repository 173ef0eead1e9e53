import KituraHTTP2.Platform

/-!
# Which request headers nghttp2 accepts

Before a field reaches `on_header_callback`, nghttp2 checks it (`nghttp2_http_on_header`), and
before the frame reaches `on_frame_recv_callback`, it checks the header list as a whole
(`nghttp2_http_on_request_headers`).  A field can be passed on, dropped, or make the whole request
malformed.

The callbacks of the session above rely on these checks without a word about them.  They read
`:path` and `:scheme` without a look at their form, and what they do about a field that is missing
decides whether a request is answered at all.  So which field lists can reach them has to be known
exactly, and neither the protocol nor the names of the functions say it: an ill-formed field of a
plain name is dropped and the request goes on, an ill-formed pseudo header field makes it malformed,
and whether a field must be there depends on the method.

`HttpStream` holds the flags nghttp2 keeps for a stream, `httpOnHeader` and `httpOnRequestHeaders`
are the two checks on a server, and `acceptRequest` runs them over the fields of one request: it
gives the fields that are passed on, or `none` where the request is malformed and the stream reset.
The proofs follow the flags: which field can have set a flag (`SetBy`), and which flags must be set
in the end.

* **`acceptRequest_path`** — an accepted request has a `:path`, or it is a CONNECT request.
* **`acceptRequest_names`** — what the names of its fields are made of.
-/

namespace KituraHTTP2.Nghttp2

/-! ## Characters -/

/-- The byte of an ASCII character. -/
def ascii (c : Char) : UInt8 := c.toNat.toUInt8

def isDigit (b : UInt8) : Bool := ascii '0' ≤ b && b ≤ ascii '9'

def isUpper (b : UInt8) : Bool := ascii 'A' ≤ b && b ≤ ascii 'Z'

def isLower (b : UInt8) : Bool := ascii 'a' ≤ b && b ≤ ascii 'z'

def downcase (b : UInt8) : UInt8 := if isUpper b then b - ascii 'A' + ascii 'a' else b

/-- `memieq` together with the comparison of the lengths -/
def caselessEq (a b : Bytes) : Bool := a.map downcase == b.map downcase

/-- `VALID_HD_NAME_CHARS` -/
def validNameChar (b : UInt8) : Bool :=
  isDigit b || isLower b || "!#$%&'*+-.^_\x60|~".toList.any fun c => b == ascii c

/-- `VALID_HD_VALUE_CHARS`: everything but control characters; HT and all bytes from 0x80 are in. -/
def validValueChar (b : UInt8) : Bool := b == 0x09 || (0x20 ≤ b && b != 0x7f)

/-- `VALID_AUTHORITY_CHARS` -/
def validAuthorityChar (b : UInt8) : Bool :=
  isDigit b || isLower b || isUpper b || "!$%&'()*+,-.:;=@[]_~".toList.any fun c => b == ascii c

lemma toNat_lt_of_alphanum {b : UInt8}
    (h : isDigit b = true ∨ isLower b = true ∨ isUpper b = true) : b.toNat < 128 := by
  simp only [isDigit, isLower, isUpper, Bool.and_eq_true, decide_eq_true_eq,
    UInt8.le_iff_toNat_le] at h
  have hdigit : (ascii '9').toNat = 57 := by decide
  have hlower : (ascii 'z').toNat = 122 := by decide
  have hupper : (ascii 'Z').toNat = 90 := by decide
  omega

lemma toNat_lt_of_any {b : UInt8} {cs : List Char}
    (hcs : (cs.all fun c => (ascii c).toNat < 128) = true)
    (h : (cs.any fun c => b == ascii c) = true) : b.toNat < 128 := by
  rcases List.any_eq_true.1 h with ⟨c, hc, hb⟩
  rw [beq_iff_eq] at hb
  exact hb ▸ of_decide_eq_true (List.all_eq_true.1 hcs c hc)

/-- An authority is ASCII. -/
lemma toNat_lt_of_validAuthorityChar {b : UInt8} (h : validAuthorityChar b = true) :
    b.toNat < 128 := by
  simp only [validAuthorityChar, Bool.or_eq_true] at h
  rcases h with ((h | h) | h) | h
  · exact toNat_lt_of_alphanum (Or.inl h)
  · exact toNat_lt_of_alphanum (Or.inr (Or.inl h))
  · exact toNat_lt_of_alphanum (Or.inr (Or.inr h))
  · exact toNat_lt_of_any (by decide) h

/-- A field name is ASCII. -/
lemma toNat_lt_of_validNameChar {b : UInt8} (h : validNameChar b = true) : b.toNat < 128 := by
  simp only [validNameChar, Bool.or_eq_true] at h
  rcases h with (h | h) | h
  · exact toNat_lt_of_alphanum (Or.inl h)
  · exact toNat_lt_of_alphanum (Or.inr (Or.inl h))
  · exact toNat_lt_of_any (by decide) h

/-- `lws` -/
def lws (value : Bytes) : Bool := value.all fun b => b == 0x20 || b == 0x09

/-- `nghttp2_check_header_name` -/
def checkHeaderName : Bytes → Bool
  | [] => false
  | b :: name =>
    if b = ascii ':' then !name.isEmpty && name.all validNameChar
    else (b :: name).all validNameChar

/-- `nghttp2_check_header_value` -/
def checkHeaderValue (value : Bytes) : Bool := value.all validValueChar

def checkAuthority (value : Bytes) : Bool := value.all validAuthorityChar

def checkScheme : Bytes → Bool
  | [] => false
  | b :: value => (isUpper b || isLower b) && value.all fun b =>
      isUpper b || isLower b || isDigit b || b == ascii '+' || b == ascii '-' || b == ascii '.'

/-- `parse_uint`, where a value above `INT64_MAX` is an error -/
def parseUint (value : Bytes) : Option ℕ :=
  if value.isEmpty || !value.all isDigit then none
  else
    let n := value.foldl (fun n b => 10 * n + (b - ascii '0').toNat) 0
    if n < 2 ^ 63 then some n else none

/-! ## The stream's flags -/

/-- What nghttp2 keeps of a request while its header fields arrive: `http_flags`, by name, and
`content_length`. -/
structure HttpStream where
  authority : Bool := false
  method : Bool := false
  path : Bool := false
  scheme : Bool := false
  host : Bool := false
  methHead : Bool := false
  methConnect : Bool := false
  methOptions : Bool := false
  pathRegular : Bool := false
  pathAsterisk : Bool := false
  schemeHttp : Bool := false
  pseudoHeaderDisallowed : Bool := false
  contentLength : Option ℕ := none
deriving DecidableEq, Repr

/-- What becomes of a header field: it is passed to `on_header_callback`, it is dropped
(`NGHTTP2_ERR_IGN_HTTP_HEADER`), or the request is malformed (`NGHTTP2_ERR_HTTP_HEADER`). -/
inductive HeaderVerdict where
  | emit (stream : HttpStream)
  | ignore (stream : HttpStream)
  | error

/-- `check_pseudo_header`: the field is the first of its name and not blank. -/
def checkPseudoHeader (seen : Bool) (value : Bytes) : Bool := !seen && !lws value

/-- The `NGHTTP2_TOKEN__METHOD` case. -/
def onMethod (stream : HttpStream) (value : Bytes) : Option HttpStream :=
  if !checkPseudoHeader stream.method value then none
  else if value = utf8Encode "HEAD" then some { stream with method := true, methHead := true }
  else if value = utf8Encode "CONNECT" then
    if stream.path || stream.scheme then none
    else some { stream with method := true, methConnect := true }
  else if value = utf8Encode "OPTIONS" then
    some { stream with method := true, methOptions := true }
  else some { stream with method := true }

/-- The `NGHTTP2_TOKEN__PATH` case. -/
def onPath (stream : HttpStream) (value : Bytes) : Option HttpStream :=
  if stream.methConnect || !checkPseudoHeader stream.path value then none
  else if value.head? = some (ascii '/') then
    some { stream with path := true, pathRegular := true }
  else if value = [ascii '*'] then some { stream with path := true, pathAsterisk := true }
  else some { stream with path := true }

/-- The `NGHTTP2_TOKEN__SCHEME` case. -/
def onScheme (stream : HttpStream) (value : Bytes) : Option HttpStream :=
  if stream.methConnect || !checkPseudoHeader stream.scheme value then none
  else if caselessEq (utf8Encode "http") value || caselessEq (utf8Encode "https") value then
    some { stream with scheme := true, schemeHttp := true }
  else some { stream with scheme := true }

/-- The names that a request must not contain. -/
def disallowedFields : List String :=
  ["connection", "keep-alive", "proxy-connection", "transfer-encoding", "upgrade"]

/-- The `switch` of `http_request_on_header`. -/
def onToken (stream : HttpStream) (name value : Bytes) : Option HttpStream :=
  if name = utf8Encode ":authority" then
    if checkPseudoHeader stream.authority value then some { stream with authority := true }
    else none
  else if name = utf8Encode ":method" then onMethod stream value
  else if name = utf8Encode ":path" then onPath stream value
  else if name = utf8Encode ":scheme" then onScheme stream value
  else if name = utf8Encode "host" then
    if checkPseudoHeader stream.host value then some { stream with host := true } else none
  else if name = utf8Encode "content-length" then
    if stream.contentLength.isSome then none
    else (parseUint value).map fun n => { stream with contentLength := some n }
  else if disallowedFields.any (fun field => name == utf8Encode field) then none
  else if name = utf8Encode "te" then
    if caselessEq (utf8Encode "trailers") value then some stream else none
  else if name.head? = some (ascii ':') then none
  else some stream

/-- `http_request_on_header` for the fields of a request -/
def httpRequestOnHeader (stream : HttpStream) (name value : Bytes) : Option HttpStream :=
  if name.head? = some (ascii ':') ∧ stream.pseudoHeaderDisallowed = true then none
  else
    (onToken stream name value).map fun stream =>
      if name.head? = some (ascii ':') then stream
      else { stream with pseudoHeaderDisallowed := true }

/-- The check of the value that `nghttp2_http_on_header` chooses by the name. -/
def checkValue (name value : Bytes) : Bool :=
  if name = utf8Encode ":authority" ∨ name = utf8Encode "host" then checkAuthority value
  else if name = utf8Encode ":scheme" then checkScheme value
  else checkHeaderValue value

/-- `nghttp2_http_on_header` on a server, for the fields of a request -/
def httpOnHeader (stream : HttpStream) (name value : Bytes) : HeaderVerdict :=
  if !checkHeaderName name then
    if name.head? = some (ascii ':') ∨ name.any isUpper then .error
    else .ignore { stream with pseudoHeaderDisallowed := true }
  else if !checkValue name value then
    if name.head? = some (ascii ':') then .error
    else .ignore { stream with pseudoHeaderDisallowed := true }
  else
    match httpRequestOnHeader stream name value with
    | some stream => .emit stream
    | none => .error

/-- `check_path` -/
def checkPath (stream : HttpStream) : Bool :=
  !stream.schemeHttp || stream.pathRegular || (stream.methOptions && stream.pathAsterisk)

/-- `nghttp2_http_on_request_headers` -/
def httpOnRequestHeaders (stream : HttpStream) : Bool :=
  if stream.methConnect then stream.authority
  else stream.method && stream.path && stream.scheme && (stream.authority || stream.host) &&
    checkPath stream

/-! ## A whole request -/

/-- The fields of a header block one after the other: the stream at the end, and the fields that are
passed on. -/
def inflateHeaders (stream : HttpStream) :
    List (Bytes × Bytes) → Option (HttpStream × List (Bytes × Bytes))
  | [] => some (stream, [])
  | (name, value) :: fields =>
    match httpOnHeader stream name value with
    | .emit stream =>
      (inflateHeaders stream fields).map fun rest => (rest.1, (name, value) :: rest.2)
    | .ignore stream => inflateHeaders stream fields
    | .error => none

/-- The fields of a request that reach `on_header_callback`; `none` where the request is
malformed. -/
def acceptRequest (fields : List (Bytes × Bytes)) : Option (List (Bytes × Bytes)) :=
  (inflateHeaders {} fields).bind fun rest =>
    if httpOnRequestHeaders rest.1 then some rest.2 else none

/-! ## What an accepted request has

A flag that is set at the end was set by one of the fields that are passed on.
-/

/-- The flags of `stream'` that are not flags of `stream` were set by a field in `emitted`. -/
structure SetBy (stream stream' : HttpStream) (emitted : List (Bytes × Bytes)) : Prop where
  path : stream'.path = true → stream.path = true ∨ ∃ value, (utf8Encode ":path", value) ∈ emitted
  connect : stream'.methConnect = true →
    stream.methConnect = true ∨ (utf8Encode ":method", utf8Encode "CONNECT") ∈ emitted

lemma SetBy.refl (stream : HttpStream) : SetBy stream stream [] := ⟨Or.inl, Or.inl⟩

lemma SetBy.cons {stream₁ stream₂ stream₃ : HttpStream} {field : Bytes × Bytes}
    {emitted : List (Bytes × Bytes)} (h₁ : SetBy stream₁ stream₂ [field])
    (h₂ : SetBy stream₂ stream₃ emitted) : SetBy stream₁ stream₃ (field :: emitted) := by
  constructor
  · intro hpath
    rcases h₂.path hpath with hpath | ⟨value, hmem⟩
    · rcases h₁.path hpath with hpath | ⟨value, hmem⟩
      · exact Or.inl hpath
      · exact Or.inr ⟨value, List.mem_cons.2 (Or.inl (List.mem_singleton.1 hmem))⟩
    · exact Or.inr ⟨value, List.mem_cons_of_mem _ hmem⟩
  · intro hconnect
    rcases h₂.connect hconnect with hconnect | hmem
    · rcases h₁.connect hconnect with hconnect | hmem
      · exact Or.inl hconnect
      · exact Or.inr (List.mem_cons.2 (Or.inl (List.mem_singleton.1 hmem)))
    · exact Or.inr (List.mem_cons_of_mem _ hmem)

/-- The same flags, but for those that `SetBy` does not look at. -/
lemma SetBy.of_eq {stream stream' : HttpStream} {emitted : List (Bytes × Bytes)}
    (hpath : stream'.path = stream.path) (hconnect : stream'.methConnect = stream.methConnect) :
    SetBy stream stream' emitted :=
  ⟨fun h => Or.inl (hpath ▸ h), fun h => Or.inl (hconnect ▸ h)⟩

lemma setBy_onMethod {stream stream' : HttpStream} {value : Bytes}
    (h : onMethod stream value = some stream') :
    SetBy stream stream' [(utf8Encode ":method", value)] := by
  obtain ⟨-, h⟩ := Option.ite_none_left_eq_some.1 h
  split at h
  · cases h
    exact .of_eq rfl rfl
  · split at h
    case isTrue hconnect =>
      obtain ⟨-, h⟩ := Option.ite_none_left_eq_some.1 h
      cases h
      exact ⟨Or.inl, fun _ => Or.inr (hconnect ▸ List.mem_cons_self)⟩
    case isFalse => split at h <;> cases h <;> exact .of_eq rfl rfl

lemma setBy_onPath {stream stream' : HttpStream} {value : Bytes}
    (h : onPath stream value = some stream') :
    SetBy stream stream' [(utf8Encode ":path", value)] := by
  obtain ⟨-, h⟩ := Option.ite_none_left_eq_some.1 h
  refine ⟨fun _ => Or.inr ⟨value, List.mem_cons_self⟩, ?_⟩
  split at h
  · cases h
    exact Or.inl
  · split at h <;> cases h <;> exact Or.inl

lemma setBy_onScheme {stream stream' : HttpStream} {value : Bytes} {field : Bytes × Bytes}
    (h : onScheme stream value = some stream') : SetBy stream stream' [field] := by
  obtain ⟨-, h⟩ := Option.ite_none_left_eq_some.1 h
  split at h <;> cases h <;> exact .of_eq rfl rfl

/-- The fields whose names are none of those three leave both flags alone. -/
lemma setBy_onToken {stream stream' : HttpStream} {name value : Bytes}
    (h : onToken stream name value = some stream') : SetBy stream stream' [(name, value)] := by
  -- `:authority`
  rcases ite_eq_iff.1 h with ⟨-, h⟩ | ⟨-, h⟩
  · obtain ⟨-, h⟩ := Option.ite_none_right_eq_some.1 h
    cases h
    exact .of_eq rfl rfl
  rcases ite_eq_iff.1 h with ⟨hmethod, h⟩ | ⟨-, h⟩
  · exact hmethod ▸ setBy_onMethod h
  rcases ite_eq_iff.1 h with ⟨hpath, h⟩ | ⟨-, h⟩
  · exact hpath ▸ setBy_onPath h
  rcases ite_eq_iff.1 h with ⟨-, h⟩ | ⟨-, h⟩
  · exact setBy_onScheme h
  -- `host`
  rcases ite_eq_iff.1 h with ⟨-, h⟩ | ⟨-, h⟩
  · obtain ⟨-, h⟩ := Option.ite_none_right_eq_some.1 h
    cases h
    exact .of_eq rfl rfl
  -- `content-length`
  rcases ite_eq_iff.1 h with ⟨-, h⟩ | ⟨-, h⟩
  · obtain ⟨-, h⟩ := Option.ite_none_left_eq_some.1 h
    obtain ⟨n, -, rfl⟩ := Option.map_eq_some_iff.1 h
    exact .of_eq rfl rfl
  obtain ⟨-, h⟩ := Option.ite_none_left_eq_some.1 h
  -- `te`, and every other name
  rcases ite_eq_iff.1 h with ⟨-, h⟩ | ⟨-, h⟩
  · obtain ⟨-, h⟩ := Option.ite_none_right_eq_some.1 h
    cases h
    exact .of_eq rfl rfl
  · obtain ⟨-, h⟩ := Option.ite_none_left_eq_some.1 h
    cases h
    exact .of_eq rfl rfl

lemma setBy_httpRequestOnHeader {stream stream' : HttpStream} {name value : Bytes}
    (h : httpRequestOnHeader stream name value = some stream') :
    SetBy stream stream' [(name, value)] := by
  obtain ⟨-, h⟩ := Option.ite_none_left_eq_some.1 h
  obtain ⟨token, htoken, rfl⟩ := Option.map_eq_some_iff.1 h
  have hset := setBy_onToken htoken
  split
  · exact hset
  · exact ⟨hset.path, hset.connect⟩

/-- A field that is passed on has passed all checks. -/
lemma httpOnHeader_emit {stream stream' : HttpStream} {name value : Bytes}
    (h : httpOnHeader stream name value = .emit stream') :
    httpRequestOnHeader stream name value = some stream' := by
  unfold httpOnHeader at h
  split at h
  · split at h <;> cases h
  · split at h
    · split at h <;> cases h
    · split at h
      case h_1 stream'' hnext =>
        cases h
        exact hnext
      case h_2 => cases h

lemma httpOnHeader_ignore {stream stream' : HttpStream} {name value : Bytes}
    (h : httpOnHeader stream name value = .ignore stream') :
    stream'.path = stream.path ∧ stream'.methConnect = stream.methConnect := by
  unfold httpOnHeader at h
  split at h
  · split at h <;> cases h
    exact ⟨rfl, rfl⟩
  · split at h
    · split at h <;> cases h
      exact ⟨rfl, rfl⟩
    · split at h <;> cases h

lemma setBy_inflateHeaders {stream stream' : HttpStream} {fields emitted : List (Bytes × Bytes)}
    (h : inflateHeaders stream fields = some (stream', emitted)) :
    SetBy stream stream' emitted := by
  induction fields generalizing stream emitted with
  | nil =>
    cases h
    exact SetBy.refl _
  | cons field fields ih =>
    obtain ⟨name, value⟩ := field
    simp only [inflateHeaders] at h
    split at h
    · next next hnext =>
      obtain ⟨⟨_, rest⟩, hrest, hpair⟩ := Option.map_eq_some_iff.1 h
      cases hpair
      exact (setBy_httpRequestOnHeader (httpOnHeader_emit hnext)).cons (ih hrest)
    · next next hnext =>
      obtain ⟨hpath, hconnect⟩ := httpOnHeader_ignore hnext
      have hrest := ih h
      exact ⟨hpath ▸ hrest.path, hconnect ▸ hrest.connect⟩
    · cases h

/-- **An accepted request has a `:path`, or it is a CONNECT request.** -/
theorem acceptRequest_path {fields emitted : List (Bytes × Bytes)}
    (h : acceptRequest fields = some emitted) :
    (utf8Encode ":method", utf8Encode "CONNECT") ∈ emitted ∨
      ∃ value, (utf8Encode ":path", value) ∈ emitted := by
  obtain ⟨⟨stream, rest⟩, hinflate, haccept⟩ := Option.bind_eq_some_iff.1 h
  split_ifs at haccept with hchecks
  cases haccept
  have hset := setBy_inflateHeaders hinflate
  unfold httpOnRequestHeaders at hchecks
  split_ifs at hchecks with hconnect
  · exact Or.inl ((hset.connect hconnect).resolve_left (by simp))
  · simp only [Bool.and_eq_true] at hchecks
    exact Or.inr ((hset.path hchecks.1.1.1.2).resolve_left (by simp))

/-- A browser's request is accepted as it is. -/
example : acceptRequest [(utf8Encode ":method", utf8Encode "GET"),
    (utf8Encode ":scheme", utf8Encode "https"), (utf8Encode ":path", utf8Encode "/"),
    (utf8Encode ":authority", utf8Encode "kitura.io:443")] =
    some [(utf8Encode ":method", utf8Encode "GET"),
    (utf8Encode ":scheme", utf8Encode "https"), (utf8Encode ":path", utf8Encode "/"),
    (utf8Encode ":authority", utf8Encode "kitura.io:443")] := by decide +kernel

/-- A request without a path is not, unless its method is CONNECT. -/
example : acceptRequest [(utf8Encode ":method", utf8Encode "GET"),
    (utf8Encode ":authority", utf8Encode "kitura.io")] = none := by decide +kernel

/-! ## The names of accepted fields -/

/-- The pseudo-headers of a request. -/
def requestPseudoHeaders : List Bytes :=
  [utf8Encode ":authority", utf8Encode ":method", utf8Encode ":path", utf8Encode ":scheme"]

/-- The name is a pseudo-header, or it is made of the characters of names. -/
def AcceptedName (name : Bytes) : Prop :=
  name ∈ requestPseudoHeaders ∨
    name.head? ≠ some (ascii ':') ∧ ∀ b ∈ name, validNameChar b = true

/-- Of the names that begin with a colon only the pseudo-headers are let through. -/
lemma onToken_pseudo {stream stream' : HttpStream} {name value : Bytes}
    (h : onToken stream name value = some stream') (hcolon : name.head? = some (ascii ':')) :
    name ∈ requestPseudoHeaders := by
  rcases ite_eq_iff.1 h with ⟨hname, -⟩ | ⟨-, h⟩
  · exact hname ▸ List.mem_cons_self
  rcases ite_eq_iff.1 h with ⟨hname, -⟩ | ⟨-, h⟩
  · exact hname ▸ List.mem_cons_of_mem _ List.mem_cons_self
  rcases ite_eq_iff.1 h with ⟨hname, -⟩ | ⟨-, h⟩
  · exact hname ▸ List.mem_cons_of_mem _ (List.mem_cons_of_mem _ List.mem_cons_self)
  rcases ite_eq_iff.1 h with ⟨hname, -⟩ | ⟨-, h⟩
  · exact hname ▸ List.mem_cons_of_mem _
      (List.mem_cons_of_mem _ (List.mem_cons_of_mem _ List.mem_cons_self))
  rcases ite_eq_iff.1 h with ⟨hname, -⟩ | ⟨-, h⟩
  · rw [hname] at hcolon
    exact absurd hcolon (by decide)
  rcases ite_eq_iff.1 h with ⟨hname, -⟩ | ⟨-, h⟩
  · rw [hname] at hcolon
    exact absurd hcolon (by decide)
  rcases Option.ite_none_left_eq_some.1 h with ⟨-, h⟩
  rcases ite_eq_iff.1 h with ⟨hname, -⟩ | ⟨-, h⟩
  · rw [hname] at hcolon
    exact absurd hcolon (by decide)
  · exact absurd hcolon (Option.ite_none_left_eq_some.1 h).1

/-- A field that is passed on has such a name. -/
lemma httpOnHeader_emit_name {stream stream' : HttpStream} {name value : Bytes}
    (h : httpOnHeader stream name value = .emit stream') : AcceptedName name := by
  have hpassed := httpOnHeader_emit h
  rcases Option.ite_none_left_eq_some.1 hpassed with ⟨-, hmap⟩
  rcases Option.map_eq_some_iff.1 hmap with ⟨token, htoken, -⟩
  by_cases hcolon : name.head? = some (ascii ':')
  · exact Or.inl (onToken_pseudo htoken hcolon)
  · refine Or.inr ⟨hcolon, ?_⟩
    have hname : checkHeaderName name = true := by
      by_contra hnot
      rw [httpOnHeader, Bool.eq_false_of_not_eq_true hnot, if_pos (by rfl)] at h
      split at h <;> cases h
    rcases name with _ | ⟨b, name⟩
    · exact absurd hname Bool.false_ne_true
    · have hb : ¬ b = ascii ':' := by
        rintro rfl
        exact hcolon rfl
      rw [checkHeaderName, if_neg hb] at hname
      exact List.all_eq_true.1 hname

lemma inflateHeaders_names {stream stream' : HttpStream} {fields emitted : List (Bytes × Bytes)}
    (h : inflateHeaders stream fields = some (stream', emitted)) :
    ∀ field ∈ emitted, AcceptedName field.1 := by
  induction fields generalizing stream emitted with
  | nil =>
    cases h
    simp
  | cons field fields ih =>
    rcases field with ⟨name, value⟩
    simp only [inflateHeaders] at h
    split at h
    · next next hnext =>
      rcases Option.map_eq_some_iff.1 h with ⟨⟨_, rest⟩, hrest, hpair⟩
      cases hpair
      exact List.forall_mem_cons.2 ⟨httpOnHeader_emit_name hnext, ih hrest⟩
    · exact ih h
    · cases h

/-- **The names of the fields of an accepted request.** -/
theorem acceptRequest_names {fields emitted : List (Bytes × Bytes)}
    (h : acceptRequest fields = some emitted) : ∀ field ∈ emitted, AcceptedName field.1 := by
  rcases Option.bind_eq_some_iff.1 h with ⟨⟨stream, rest⟩, hinflate, haccept⟩
  have hrest : rest = emitted := Option.some.inj (Option.ite_none_right_eq_some.1 haccept).2
  exact hrest ▸ inflateHeaders_names hinflate

end KituraHTTP2.Nghttp2
