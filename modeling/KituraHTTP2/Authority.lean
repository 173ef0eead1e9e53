import KituraHTTP2.HTTP2Session
import KituraHTTP2.Nghttp2.Http
import KituraHTTP2.Lib.Uri

/-!
# The host and the port of a request

`on_frame_recv` splits the `:authority` at every colon.  The first piece becomes the host and the
second, read as an integer by Swift, the port.

* `swiftInt_eq_some_iff` — which texts Swift reads as an integer: a sign is among them.
* **`port_in_range_iff`** — of an authority that nghttp2 accepts, the process survives the port and
  the port lies in `0...65535` exactly when the text between the first two colons is no number
  outside of it.
* **`host_and_port_iff`** — the host and the port of RFC 3986 are the ones that are assigned exactly
  when the host is not an IPv6 literal.
-/

namespace KituraHTTP2

open HTTP2Session Uri

/-! ## Integers -/

lemma digitsValue_eq_some_iff {acc n : ℕ} {cs : List Char} :
    digitsValue acc cs = some n ↔ (∀ c ∈ cs, c.isDigit) ∧
      cs.foldl (fun n c => 10 * n + (c.toNat - '0'.toNat)) acc = n := by
  induction cs generalizing acc with
  | nil => simp [digitsValue]
  | cons c cs ih =>
    rw [digitsValue, Option.ite_none_right_eq_some, ih, List.forall_mem_cons, and_assoc]
    rfl

/-- A text of decimal digits, and the number it writes. -/
structure Decimal (digits : List Char) : Prop where
  ne_nil : digits ≠ []
  digits : ∀ c ∈ digits, c.isDigit

lemma Decimal.digitsValue {digits : List Char} (h : Decimal digits) :
    digitsValue 0 digits = some (decimalValue digits) :=
  digitsValue_eq_some_iff.2 ⟨h.digits, rfl⟩

/-- What Swift reads in the text of an integer without its sign. -/
lemma magnitude_eq_some_iff {cs : List Char} {v : ℤ} :
    (match cs with
      | [] => none
      | cs => (digitsValue 0 cs).map Int.ofNat) = some v ↔
      Decimal cs ∧ v = decimalValue cs := by
  cases cs with
  | nil =>
    refine ⟨fun h => absurd h.symm (Option.some_ne_none _), ?_⟩
    rintro ⟨h, -⟩
    exact absurd rfl h.ne_nil
  | cons c cs =>
    show (digitsValue 0 (c :: cs)).map Int.ofNat = some v ↔ _
    rw [Option.map_eq_some_iff]
    constructor
    · rintro ⟨n, hn, rfl⟩
      rcases digitsValue_eq_some_iff.1 hn with ⟨hdigits, rfl⟩
      exact ⟨⟨List.cons_ne_nil _ _, hdigits⟩, rfl⟩
    · rintro ⟨h, rfl⟩
      exact ⟨_, h.digitsValue, rfl⟩

/-- The ways to write an integer: digits, with a sign or without. -/
def Writes (text : List Char) (v : ℤ) : Prop :=
  ∃ digits, Decimal digits ∧ ((text = '-' :: digits ∧ v = -decimalValue digits) ∨
    ((text = digits ∨ text = '+' :: digits) ∧ v = decimalValue digits))

/-- **Which texts Swift reads as an integer.** -/
theorem swiftInt_eq_some_iff {string : String} {v : ℤ} :
    swiftInt string = some v ↔ Writes string.toList v ∧ -2 ^ 63 ≤ v ∧ v < 2 ^ 63 := by
  simp only [swiftInt, Option.filter_eq_some_iff, decide_eq_true_eq]
  refine and_congr_left ?_
  intro _
  generalize string.toList = text
  split
  · next cs =>
    rw [Option.map_eq_some_iff]
    constructor
    · rintro ⟨u, hu, rfl⟩
      rcases magnitude_eq_some_iff.1 hu with ⟨hdigits, rfl⟩
      exact ⟨cs, hdigits, Or.inl ⟨rfl, rfl⟩⟩
    · rintro ⟨digits, hdigits, ⟨heq, rfl⟩ | ⟨heq | heq, rfl⟩⟩
      · have hcs := (List.cons.inj heq).2
        exact ⟨_, magnitude_eq_some_iff.2 ⟨hcs ▸ hdigits, rfl⟩, by rw [hcs]⟩
      · exact absurd (hdigits.digits '-' (heq ▸ List.mem_cons_self)) (by decide)
      · exact absurd (List.cons.inj heq).1 (by decide)
  · next cs =>
    refine magnitude_eq_some_iff.trans ?_
    constructor
    · rintro ⟨hdigits, rfl⟩
      exact ⟨cs, hdigits, Or.inr ⟨Or.inr rfl, rfl⟩⟩
    · rintro ⟨digits, hdigits, ⟨heq, rfl⟩ | ⟨heq | heq, rfl⟩⟩
      · exact absurd (List.cons.inj heq).1 (by decide)
      · exact absurd (hdigits.digits '+' (heq ▸ List.mem_cons_self)) (by decide)
      · rw [List.cons.injEq] at heq
        exact ⟨heq.2 ▸ hdigits, by rw [heq.2]⟩
  · next hminus hplus =>
    refine magnitude_eq_some_iff.trans ?_
    constructor
    · rintro ⟨hdigits, rfl⟩
      exact ⟨text, hdigits, Or.inr ⟨Or.inl rfl, rfl⟩⟩
    · rintro ⟨digits, hdigits, ⟨heq, rfl⟩ | ⟨heq | heq, rfl⟩⟩
      · exact absurd heq (hminus digits)
      · exact ⟨heq ▸ hdigits, by rw [heq]⟩
      · exact absurd heq (hplus digits)

/-! ## The port that is assigned -/

/-- The text between the first two colons of an authority. -/
def portText (authority : String) : Option String := (componentsSeparatedBy ':' authority)[1]?

/-- The text is a number, written so that Swift reads it, and it is not one of the ports. -/
def OutOfRange (text : String) : Prop :=
  ∃ digits, Decimal digits ∧
    ((text.toList = '-' :: digits ∧ 0 < decimalValue digits ∧ decimalValue digits ≤ 2 ^ 63) ∨
      ((text.toList = digits ∨ text.toList = '+' :: digits) ∧ 65535 < decimalValue digits ∧
        decimalValue digits < 2 ^ 63))

/-- What is assigned is nil or a port. -/
def IsPort (port : Option ℤ) : Prop := ∀ v, port = some v → 0 ≤ v ∧ v ≤ 65535

lemma outOfRange_iff {text : String} :
    OutOfRange text ↔ ∃ v, swiftInt text = some v ∧ ¬ (0 ≤ v ∧ v ≤ 65535) := by
  constructor
  · rintro ⟨digits, hdigits, ⟨htext, hpos, hmax⟩ | ⟨htext, hmin, hmax⟩⟩
    · refine ⟨-decimalValue digits, swiftInt_eq_some_iff.2 ⟨⟨digits, hdigits, ?_⟩, ?_⟩, ?_⟩
      · exact Or.inl ⟨htext, rfl⟩
      · omega
      · omega
    · refine ⟨decimalValue digits, swiftInt_eq_some_iff.2 ⟨⟨digits, hdigits, ?_⟩, ?_⟩, ?_⟩
      · exact Or.inr ⟨htext, rfl⟩
      · omega
      · omega
  · rintro ⟨v, hv, hrange⟩
    rcases swiftInt_eq_some_iff.1 hv with
      ⟨⟨digits, hdigits, ⟨htext, rfl⟩ | ⟨htext, rfl⟩⟩, hmin, hmax⟩
    · exact ⟨digits, hdigits, Or.inl ⟨htext, by omega, by omega⟩⟩
    · exact ⟨digits, hdigits, Or.inr ⟨htext, by omega, by omega⟩⟩

/-- The components that the session builds, where they are built. -/
lemma requestComponents_of_authority {requestPath : String} {scheme : Option String}
    {authority : String} {components : URLComponents} :
    requestComponents requestPath scheme (some authority) = some components ↔
      (∀ v, (portText authority).bind swiftInt = some v → 0 ≤ v) ∧
        components = ⟨requestPath, scheme, (componentsSeparatedBy ':' authority).head?,
          (portText authority).bind swiftInt⟩ := by
  have hset : requestComponents requestPath scheme (some authority) =
      URLComponents.setPort ⟨requestPath, scheme, (componentsSeparatedBy ':' authority).head?,
        none⟩ ((portText authority).bind swiftInt) := rfl
  rw [hset]
  rcases (portText authority).bind swiftInt with _ | v
  · simp only [URLComponents.setPort, Option.some.injEq, reduceCtorEq, false_implies, implies_true,
      true_and]
    exact eq_comm
  · simp only [URLComponents.setPort, Option.some.injEq, Option.ite_none_left_eq_some,
      Int.not_lt, forall_eq']
    exact and_congr_right fun _ => eq_comm

/-- The process goes on, and the port that was assigned is none or one there can be. -/
def AssignsPort (authority : String) : Prop :=
  ∀ requestPath scheme, ∃ components,
    requestComponents requestPath scheme (some authority) = some components ∧
      IsPort components.port

/-- **When the port of an authority is one.**  Of an authority that nghttp2 accepts, the process
survives the assignment of the port, and the port is nil or lies in `0...65535`, exactly when the
text between the first two colons is not a number outside of it. -/
theorem port_in_range_iff {value : Bytes} (hvalue : Nghttp2.checkAuthority value = true) :
    ∃ authority, utf8Decode value = some authority ∧
      (AssignsPort authority ↔ ∀ text, portText authority = some text → ¬ OutOfRange text) := by
  have hascii : ∀ b ∈ value, b.toNat < 128 := by
    intro b hb
    exact Nghttp2.toNat_lt_of_validAuthorityChar (List.all_eq_true.1 hvalue b hb)
  refine ⟨_, utf8Decode_of_ascii hascii, ?_⟩
  generalize String.ofList (value.map asciiChar) = authority
  constructor
  · intro hport text htext hout
    rcases outOfRange_iff.1 hout with ⟨v, hv, hrange⟩
    rcases hport "" none with ⟨components, hcomponents, hisPort⟩
    rcases requestComponents_of_authority.1 hcomponents with ⟨-, rfl⟩
    exact hrange (hisPort v (by simp [htext, hv]))
  · intro hrange requestPath scheme
    have hport : IsPort ((portText authority).bind swiftInt) := by
      intro v hv
      rcases Option.bind_eq_some_iff.1 hv with ⟨text, htext, hread⟩
      by_contra hnot
      exact hrange text htext (outOfRange_iff.2 ⟨v, hread, hnot⟩)
    refine ⟨_, requestComponents_of_authority.2 ⟨?_, rfl⟩, hport⟩
    intro v hv
    exact (hport v hv).1

theorem port_in_range_8090 : AssignsPort "kitura.io:8090" := by
  have hvalue : Nghttp2.checkAuthority (utf8Encode "kitura.io:8090") = true := by decide
  rcases port_in_range_iff hvalue with ⟨authority, hdecode, hiff⟩
  rw [utf8Decode_utf8Encode, Option.some.injEq] at hdecode
  subst hdecode
  refine hiff.2 ?_
  intro text htext hout
  have hport : portText "kitura.io:8090" = some "8090" := by decide
  have hread : swiftInt "8090" = some 8090 := by decide
  rw [hport, Option.some.injEq] at htext
  rcases outOfRange_iff.1 hout with ⟨v, hv, hrange⟩
  rw [← htext, hread, Option.some.injEq] at hv
  omega

/-- **A client can stop the server.**  nghttp2 accepts an authority with a negative port, which
Swift reads as an integer, and the process stops at its assignment. -/
theorem negative_port_stops_the_server :
    Nghttp2.checkAuthority (utf8Encode "kitura.io:-1") = true ∧
      utf8Decode (utf8Encode "kitura.io:-1") = some "kitura.io:-1" ∧
      requestComponents "/" (some "https") (some "kitura.io:-1") = none ∧
      ¬ AssignsPort "kitura.io:-1" := by
  have hstop : requestComponents "/" (some "https") (some "kitura.io:-1") = none := by decide
  refine ⟨by decide, utf8Decode_utf8Encode _, hstop, ?_⟩
  intro hassigns
  rcases hassigns "/" (some "https") with ⟨components, hcomponents, -⟩
  rw [hstop] at hcomponents
  exact absurd hcomponents.symm (Option.some_ne_none _)

/-! ## The host and the port of RFC 3986 -/

/-- `authority = host [ ":" port ]` -/
def authorityText (host : List Char) (port : Option (List Char)) : String :=
  String.ofList (host ++ match port with
    | some digits => ':' :: digits
    | none => [])

/-- `on_frame_recv` sets the host and the port to these. -/
def AssignsHostAndPort (authority : String) (host : List Char) (port : Option ℕ) : Prop :=
  ∀ requestPath scheme, ∃ components,
    requestComponents requestPath scheme (some authority) = some components ∧
      components.host = some (String.ofList host) ∧ components.port = port.map Int.ofNat

/-- The first piece has no colon. -/
lemma head_componentsSeparatedBy {host rest : List Char} (hcolon : ':' ∈ host) :
    (componentsSeparatedBy ':' (String.ofList (host ++ rest))).head? ≠
      some (String.ofList host) := by
  rcases List.eq_append_cons_of_mem hcolon with ⟨before, after, rfl, hbefore⟩
  intro hhead
  rw [componentsSeparatedBy, String.toList_ofList, List.append_assoc, List.cons_append,
    List.splitOn_append_cons_self_of_not_mem hbefore, List.map_cons, List.head?_cons,
    Option.some.injEq, String.ofList_inj] at hhead
  rw [hhead] at hbefore
  exact hbefore hcolon

/-- The pieces of an authority whose host has no colon. -/
lemma componentsSeparatedBy_authorityText {host : List Char} {port : Option (List Char)}
    (hhost : ':' ∉ host) (hport : ∀ digits, port = some digits → Decimal digits) :
    componentsSeparatedBy ':' (authorityText host port) =
      String.ofList host :: (port.map String.ofList).toList := by
  rcases port with _ | digits
  · show componentsSeparatedBy ':' (String.ofList (host ++ [])) = _
    rw [componentsSeparatedBy, String.toList_ofList, List.append_nil,
      List.splitOn_eq_singleton hhost]
    rfl
  · show componentsSeparatedBy ':' (String.ofList (host ++ ':' :: digits)) = _
    have hdigits := not_mem_colon_of_digits (hport digits rfl).digits
    rw [componentsSeparatedBy, String.toList_ofList,
      List.splitOn_append_cons_self_of_not_mem hhost, List.splitOn_eq_singleton hdigits]
    rfl

/-- **When the host and the port are split as RFC 3986 says.**  For an authority `host` or
`host:port`, whose port is a decimal number up to 65535: the host and the number are what is
assigned exactly when the host is not an IPv6 literal. -/
theorem host_and_port_iff {host : List Char} {port : Option (List Char)} (hhost : Host host)
    (hport : ∀ digits, port = some digits → Decimal digits ∧ decimalValue digits ≤ 65535) :
    AssignsHostAndPort (authorityText host port) host (port.map decimalValue) ↔
      ¬ IPv6Literal host := by
  constructor
  · intro hassigns hliteral
    rcases hassigns "" none with ⟨components, hcomponents, hset, -⟩
    rcases requestComponents_of_authority.1 hcomponents with ⟨-, rfl⟩
    exact head_componentsSeparatedBy hliteral.mem_colon hset
  · intro hliteral requestPath scheme
    have hpieces : componentsSeparatedBy ':' (authorityText host port) = _ :=
      componentsSeparatedBy_authorityText (hhost.not_mem_colon hliteral) fun digits hdigits =>
        (hport digits hdigits).1
    have hread : (portText (authorityText host port)).bind swiftInt =
        (port.map decimalValue).map Int.ofNat := by
      rw [portText, hpieces]
      rcases port with _ | digits
      · rfl
      · rcases hport digits rfl with ⟨hdecimal, hmax⟩
        refine swiftInt_eq_some_iff.2 ⟨⟨digits, hdecimal, Or.inr ⟨Or.inl ?_, rfl⟩⟩, ?_⟩
        · exact String.toList_ofList
        · show -2 ^ 63 ≤ (decimalValue digits : ℤ) ∧ (decimalValue digits : ℤ) < 2 ^ 63
          omega
    refine ⟨_, requestComponents_of_authority.2 ⟨?_, rfl⟩, ?_, hread⟩
    · rw [hread]
      intro v hv
      rcases Option.map_eq_some_iff.1 hv with ⟨n, -, rfl⟩
      exact Int.natCast_nonneg n
    · rw [hpieces]
      rfl

theorem host_and_port_kitura :
    AssignsHostAndPort "kitura.io:8090" "kitura.io".toList (some 8090) := by
  have hname : RegName "kitura.io".toList := by
    repeat (first | exact .nil | refine .char (by decide) ?_)
  have hport : ∀ digits, some "8090".toList = some digits →
      Decimal digits ∧ decimalValue digits ≤ 65535 := by
    rintro digits ⟨⟩
    exact ⟨⟨by decide, List.all_eq_true.1 (by decide)⟩, by decide⟩
  refine (host_and_port_iff (Or.inl hname) hport).2 ?_
  rintro ⟨address, -, heq⟩
  exact absurd (List.cons.inj heq).1 (by decide)

/-- **An IPv6 literal is cut at its first colon.** -/
theorem ipv6_literal_is_cut :
    IPv6Literal "[::1]".toList ∧
      requestComponents "/" (some "https") (some "[::1]:8090") =
        some ⟨"/", some "https", some "[", none⟩ ∧
      ¬ AssignsHostAndPort "[::1]:8090" "[::1]".toList (some 8090) := by
  have hcomponents : requestComponents "/" (some "https") (some "[::1]:8090") =
      some ⟨"/", some "https", some "[", none⟩ := by decide
  have hgroup : H16 ['1'] := ⟨by decide, by decide, List.all_eq_true.1 (by decide)⟩
  have haddress : IPv6Address "::1".toList :=
    Or.inr ⟨[], ['1'], rfl, Or.inr (Or.inl ⟨⟨[], by simp⟩, hgroup⟩)⟩
  refine ⟨⟨"::1".toList, haddress, rfl⟩, hcomponents, ?_⟩
  intro hassigns
  rcases hassigns "/" (some "https") with ⟨components, hsome, hhost, -⟩
  rw [hcomponents, Option.some.injEq] at hsome
  subst hsome
  exact absurd hhost (by decide)

end KituraHTTP2
