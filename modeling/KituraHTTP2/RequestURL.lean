import KituraHTTP2.BuiltRequest
import KituraHTTP2.Lib.Uri

/-!
# The URL of a request

`on_frame_recv` assigns the whole `:path` to the path of the `URLComponents`, query and all.
Foundation escapes in an assigned path every character that a path may not contain literally, the
question mark and the percent sign among them; so a query becomes part of the path, and what was
escaped is escaped again.

Which characters Foundation keeps is not in the source, and it has changed: a path may contain a
semicolon literally, but some versions escape it.  So the characters that are kept are a parameter,
of which no more is known than that they may stand in a path, and that the slash is one of them
(`WritesURL`).

* `afterAuthority_of_built` — what the URL of a request has after its authority.
* **`path_and_query_iff`** — the URL keeps the received path and query exactly when there is no
  query and every character of the path is kept.
-/

namespace KituraHTTP2

open Machine HTTP2Session Uri

variable {P : Platform}

/-- How Foundation writes the URL of components with a scheme of the web and a host name: in the
path every character is percent-encoded but the ones that are `kept`, and what is kept may stand in
a path literally. -/
structure WritesURL (P : Platform) (kept : Char → Bool) (absoluteString : P.URL → String) : Prop where
  literal : ∀ c, kept c → pathChar c
  slash : kept '/'
  writes : ∀ components url scheme host, P.url components = some url →
    components.scheme = some scheme → scheme = "http" ∨ scheme = "https" →
    components.host = some host → (∀ c ∈ host.toList, nameChar c) → components.port = none →
    (absoluteString url).toList = scheme.toList ++ ':' :: '/' :: '/' :: host.toList ++
      percentEncode kept components.path.toList

/-- A `:path`: a path, and a query after a question mark. -/
def pathAndQuery (path : List Char) (query : Option (List Char)) : List Char :=
  path ++ match query with
    | some query => '?' :: query
    | none => []

/-- The text of a URL has the path and the query, and after its authority what was received. -/
def KeepsPathAndQuery (url : String) (path : List Char) (query : Option (List Char)) : Prop :=
  Uri.path (afterAuthority url.toList) = path ∧ Uri.query (afterAuthority url.toList) = query ∧
    afterAuthority url.toList = pathAndQuery path query

lemma not_mem_colon_of_name {cs : List Char} (h : ∀ c ∈ cs, nameChar c) : ':' ∉ cs := by
  intro hmem
  exact absurd (h _ hmem) (by decide)

/-- The components of a request to a host name. -/
lemma requestComponents_of_name {requestPath host : String} {scheme : Option String}
    (hhost : ∀ c ∈ host.toList, nameChar c) :
    requestComponents requestPath scheme (some host) =
      some ⟨requestPath, scheme, some host, none⟩ := by
  have hpieces : componentsSeparatedBy ':' host = [host] := by
    rw [componentsSeparatedBy, List.splitOn_eq_singleton (not_mem_colon_of_name hhost)]
    exact congrArg (fun string => [string]) String.ofList_toList
  simp only [requestComponents, hpieces]
  rfl

/-- **What a request's URL has after its authority**: the `:path`, percent-encoded as a path. -/
theorem afterAuthority_of_built {kept : Char → Bool} {absoluteString : P.URL → String}
    (hwrites : WritesURL P kept absoluteString) {remoteAddress : Option String}
    {fields : List (Bytes × Bytes)} {request : HTTP2ServerRequest P}
    (hbuilt : Built remoteAddress fields request) {requestPath scheme host : String}
    (hpath : fieldValue fields ":path" = some requestPath)
    (hslash : requestPath.toList.head? = some '/')
    (hscheme : fieldValue fields ":scheme" = some scheme)
    (hweb : scheme = "http" ∨ scheme = "https")
    (hauthority : fieldValue fields ":authority" = some host)
    (hhost : ∀ c ∈ host.toList, nameChar c) :
    afterAuthority (absoluteString request.urlURL).toList =
      percentEncode kept requestPath.toList := by
  rcases hbuilt with ⟨path, components, url, hpath', hcomponents, hurl, hrequest⟩
  rw [hpath, Option.some.injEq] at hpath'
  rw [← hpath', hscheme, hauthority, requestComponents_of_name hhost, Option.some.injEq]
    at hcomponents
  have hrequestUrl : request.urlURL = url := congrArg HTTP2ServerRequest.urlURL hrequest
  subst hcomponents
  rw [hrequestUrl, hwrites.writes _ url scheme host hurl rfl hweb rfl hhost rfl]
  refine afterAuthority_append ?_ ?_ ?_
  · rcases hweb with rfl | rfl
    · decide
    · decide
  · intro c hc
    have hname := hhost c hc
    refine ⟨?_, ?_, ?_⟩
    · rintro rfl
      exact absurd hname (by decide)
    · rintro rfl
      exact absurd hname (by decide)
    · rintro rfl
      exact absurd hname (by decide)
  · show (percentEncode kept requestPath.toList).head? = some '/'
    rcases hchars : requestPath.toList with _ | ⟨c, cs⟩
    · rw [hchars] at hslash
      exact absurd hslash (by decide)
    · rw [hchars, List.head?_cons, Option.some.injEq] at hslash
      subst hslash
      rw [percentEncode_cons, if_pos hwrites.slash]
      rfl

section Session

variable {remoteAddress : Option String} {delegate upgraded : Bool} {events : List SessionEvent}
  {session : HTTP2Session P}

/-- **When the URL of a request keeps its path and its query.**  Take any run of the callbacks, and
a request that was handed over for a stream on which `:path` is a path with or without a query, the
scheme is one of the web and the authority a host name.  The URL has this path and this query, and
after its authority the received `:path`, exactly when there is no query and every character of the
path is one that Foundation keeps: in particular no question mark, no percent sign. -/
theorem path_and_query_iff {kept : Char → Bool} {absoluteString : P.URL → String}
    (hwrites : WritesURL P kept absoluteString) (hadm : Admissible upgraded events)
    (hrun : run HTTP2Session.step (HTTP2Session.new P remoteAddress delegate) events = some session)
    (hanswers : Along HTTP2Session.step (AnswersHandled upgraded)
      (HTTP2Session.new P remoteAddress delegate) events) {s : StreamId} {call : HandleCall P}
    (hcall : call ∈ session.handledFor s) {path : List Char} {query : Option (List Char)}
    {scheme host : String}
    (hpath : fieldValue (requestFields (streamEvents s events)) ":path" =
      some (String.ofList (pathAndQuery path query)))
    (hslash : path.head? = some '/')
    (hscheme : fieldValue (requestFields (streamEvents s events)) ":scheme" = some scheme)
    (hweb : scheme = "http" ∨ scheme = "https")
    (hauthority : fieldValue (requestFields (streamEvents s events)) ":authority" = some host)
    (hhost : ∀ c ∈ host.toList, nameChar c) :
    KeepsPathAndQuery (absoluteString call.request.urlURL) path query ↔
      query = none ∧ ∀ c ∈ path, kept c := by
  have hbuilt := handled_built hadm hrun hanswers s call hcall
  have hslash' : (String.ofList (pathAndQuery path query)).toList.head? = some '/' := by
    simp [pathAndQuery, hslash]
  have hafter := afterAuthority_of_built hwrites hbuilt hpath hslash' hscheme hweb hauthority hhost
  rw [String.toList_ofList] at hafter
  rw [KeepsPathAndQuery, hafter, percentEncode_eq_self_iff]
  constructor
  · rintro ⟨-, -, hliteral⟩
    rcases query with _ | query
    · exact ⟨rfl, fun c hc => hliteral c (List.mem_append_left _ hc)⟩
    · have hquestion := hliteral '?' (List.mem_append_right _ List.mem_cons_self)
      exact absurd (hwrites.literal '?' hquestion) (by decide)
  · rintro ⟨rfl, hliteral⟩
    have hsame : pathAndQuery path none = path := List.append_nil path
    have hpathChar : ∀ c ∈ path, pathChar c := fun c hc => hwrites.literal c (hliteral c hc)
    rw [hsame, percentEncode_of_allowed hliteral]
    exact ⟨path_of_pathChar hpathChar, query_of_pathChar hpathChar, hliteral⟩

end Session

/-! ## URLs with and without a query -/

/-- What a basic platform keeps of a path: the semicolon is escaped, as Foundation does. -/
def BasicPlatform.kept (c : Char) : Bool := pathChar c && c != ';'

/-- How the components of a basic platform are written. -/
def BasicPlatform.absoluteString (components : URLComponents) : String :=
  String.ofList ((components.scheme.getD "").toList ++ ':' :: '/' :: '/' ::
    (components.host.getD "").toList ++ percentEncode BasicPlatform.kept components.path.toList)

lemma writesURL_basic :
    WritesURL Platform.basic BasicPlatform.kept BasicPlatform.absoluteString where
  literal _ hkept := (Bool.and_eq_true_iff.1 hkept).1
  slash := by decide
  writes components url scheme host hurl hscheme _ hhost _ _ := by
    have hsame : components = url := by
      have hurl' : BasicPlatform.url components = some url := hurl
      simp only [BasicPlatform.url, hhost, Option.isSome_some, if_true] at hurl'
      exact Option.some.inj (Option.ite_none_right_eq_some.1 hurl').2
    rw [← hsame, BasicPlatform.absoluteString, String.toList_ofList, hscheme, hhost]
    rfl

/-- The callbacks for a request of the given `:path`, which ends with its headers. -/
def requestTo (path : String) : List SessionEvent :=
  fieldEvents requestFrame [(utf8Encode ":method", utf8Encode "GET"),
    (utf8Encode ":scheme", utf8Encode "https"), (utf8Encode ":path", utf8Encode path),
    (utf8Encode ":authority", utf8Encode "kitura.io")] ++ [.frameRecv requestFrame "today"]

theorem path_and_query_docs : ∃ session : HTTP2Session Platform.basic,
    run HTTP2Session.step (HTTP2Session.new Platform.basic none true) (requestTo "/docs/a.html") =
      some session ∧ session.handledFor 1 ≠ [] ∧ ∀ call ∈ session.handledFor 1,
        KeepsPathAndQuery (BasicPlatform.absoluteString call.request.urlURL)
          "/docs/a.html".toList none := by
  have hadm : Admissible false (requestTo "/docs/a.html") := by decide
  have hcount : (run HTTP2Session.step (HTTP2Session.new Platform.basic none true)
      (requestTo "/docs/a.html")).map (fun session => (session.handledFor 1).length) = some 1 := by
    decide
  rcases Option.map_eq_some_iff.1 hcount with ⟨session, hrun, hlength⟩
  refine ⟨session, hrun, ?_, ?_⟩
  · intro hnone
    rw [hnone] at hlength
    exact absurd hlength (by decide)
  · intro call hcall
    have hliteral : ∀ c ∈ "/docs/a.html".toList, BasicPlatform.kept c :=
      List.all_eq_true.1 (by decide)
    have hhost : ∀ c ∈ "kitura.io".toList, nameChar c := List.all_eq_true.1 (by decide)
    have hauthority : fieldValue (requestFields (streamEvents 1 (requestTo "/docs/a.html")))
        ":authority" = some "kitura.io" := by decide
    exact (path_and_query_iff writesURL_basic hadm hrun (answersHandled_request _ _ _) hcall
      (by decide) (by decide) (by decide) (Or.inr rfl) hauthority hhost).2
      ⟨rfl, hliteral⟩

/-- **A query becomes part of the path.**  Of a request for `/search?q=1%20` the URL has no query,
its question mark is escaped, and its percent sign is escaped again. -/
theorem query_is_escaped_into_the_path : ∃ session : HTTP2Session Platform.basic,
    run HTTP2Session.step (HTTP2Session.new Platform.basic none true)
      (requestTo "/search?q=1%20") = some session ∧
    (session.handledFor 1).map (fun call => BasicPlatform.absoluteString call.request.urlURL) =
      ["https://kitura.io/search%3Fq=1%2520"] ∧
    ∀ call ∈ session.handledFor 1,
      ¬ KeepsPathAndQuery (BasicPlatform.absoluteString call.request.urlURL)
        "/search".toList (some "q=1%20".toList) := by
  have htexts : (run HTTP2Session.step (HTTP2Session.new Platform.basic none true)
      (requestTo "/search?q=1%20")).map (fun session => (session.handledFor 1).map
        fun call => BasicPlatform.absoluteString call.request.urlURL) =
      some ["https://kitura.io/search%3Fq=1%2520"] := by decide
  rcases Option.map_eq_some_iff.1 htexts with ⟨session, hrun, htext⟩
  refine ⟨session, hrun, htext, ?_⟩
  intro call hcall hkeeps
  have hmem : BasicPlatform.absoluteString call.request.urlURL ∈
      ["https://kitura.io/search%3Fq=1%2520"] := htext ▸ List.mem_map_of_mem hcall
  rw [List.mem_singleton] at hmem
  rw [hmem] at hkeeps
  exact absurd hkeeps.2.1 (by decide)

end KituraHTTP2
