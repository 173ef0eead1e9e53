import KituraHTTP2.Nghttp2.Http
import Mathlib

/-!
# KituraNet's container of header fields

`HeadersContainer` is a class of KituraNet, of which the session uses the empty container, `append`,
the subscript and the iteration.  It is a dictionary from the names in lower case to the values and
the name as it was written.  An assignment replaces the entry of a name.  `append` adds to it, in
one of three ways: the values of `set-cookie` are a list that grows; some names keep the value that
they have; and for all others the new values are joined to the first old one with a comma.

Two sets of laws say as much of it as the results about headers need, of any platform.

* `HeadersLaws` — what is found under a name, for the requests.
* `EntriesLaws` — what an iteration gives, for the responses.

Each has a platform that obeys it, so that the results can be used at concrete headers: a dictionary
that is looked up (`Platform.kitura`), and a list of entries in the order of their names
(`Platform.listed`).
-/

namespace KituraHTTP2

variable {P : Platform}

/-! ## What is found under a name -/

/-- What `append` leaves under a key that held `old`. -/
def mergeValues (singleValued : String → Bool) (key : String) (old : Option (List String))
    (values : List String) : List String :=
  match old with
  | none => values
  | some old =>
    if key = "set-cookie" then old ++ values
    else if singleValued key then old
    else match old with
      | [] => values
      | first :: rest => (first ++ ", " ++ ", ".intercalate values) :: rest

/-- What KituraNet documents of `HeadersContainer`: keys are compared in lower case, `append` merges
as above, and an iteration gives every entry once. -/
structure HeadersLaws (P : Platform) (lowercased : String → String)
    (singleValued : String → Bool) : Prop where
  lookup_empty : ∀ key, P.lookup P.emptyHeaders key = none
  lookup_append_self : ∀ headers key key' values, lowercased key' = lowercased key →
    P.lookup (P.append headers key values) key' =
      some (mergeValues singleValued (lowercased key) (P.lookup headers key') values)
  lookup_append_other : ∀ headers key key' values, lowercased key' ≠ lowercased key →
    P.lookup (P.append headers key values) key' = P.lookup headers key'
  lookup_entry : ∀ headers, ∀ entry ∈ P.entries headers, ∀ key,
    lowercased key = lowercased entry.1 → P.lookup headers key = some entry.2
  exists_entry : ∀ headers key, (P.lookup headers key).isSome →
    ∃ entry ∈ P.entries headers, lowercased entry.1 = lowercased key
  nodup : ∀ headers, ((P.entries headers).map fun entry => lowercased entry.1).Nodup
  lowercased_token : ∀ name : String,
    (∀ b ∈ utf8Encode name, Nghttp2.validNameChar b) → lowercased name = name
  not_single_setCookie : singleValued "set-cookie" = false

/-! ## What an iteration gives -/

/-- What `append` makes of the entry of a name, which keeps its spelling where it keeps values. -/
def mergeEntry (lowercased : String → String) (singleValued : String → Bool)
    (old : Option (String × List String)) (key : String) (values : List String) :
    String × List String :=
  match old with
  | none => (key, values)
  | some (name, old) =>
    if lowercased key = "set-cookie" then (name, old ++ values)
    else if singleValued (lowercased key) then (name, old)
    else match old with
      | [] => (key, values)
      | first :: rest => (name, (first ++ ", " ++ ", ".intercalate values) :: rest)

/-- The entry of a name, as it would be compared. -/
def entryOf (lowercased : String → String) (entries : List (String × List String)) (key : String) :
    Option (String × List String) :=
  entries.find? fun entry => lowercased entry.1 = lowercased key

/-- The entry of a name has this name. -/
lemma mem_entryOf {lowercased : String → String} {entries : List (String × List String)}
    {key : String} {entry : String × List String} (h : entryOf lowercased entries key = some entry) :
    entry ∈ entries ∧ lowercased entry.1 = lowercased key := by
  have hname := List.find?_some h
  rw [decide_eq_true_iff] at hname
  exact ⟨List.mem_of_find?_eq_some h, hname⟩

/-- The entries of a `HeadersContainer`.  In which order they come is left open by Swift; here it
may depend on the entries with values and on nothing else, so that what two responses submit can be
compared at all. -/
structure EntriesLaws (P : Platform) (lowercased : String → String)
    (singleValued : String → Bool) : Prop where
  entries_empty : P.entries P.emptyHeaders = []
  nodup : ∀ headers, ((P.entries headers).map fun entry => lowercased entry.1).Nodup
  mem_assign : ∀ headers key values entry, entry ∈ P.entries (P.assign headers key values) ↔
    (entry ∈ P.entries headers ∧ lowercased entry.1 ≠ lowercased key) ∨
      (entry.1 = key ∧ values = some entry.2)
  mem_append : ∀ headers key values entry, entry ∈ P.entries (P.append headers key values) ↔
    (entry ∈ P.entries headers ∧ lowercased entry.1 ≠ lowercased key) ∨
      entry = mergeEntry lowercased singleValued (entryOf lowercased (P.entries headers) key) key
        values
  order : ∀ headers headers', (∀ entry : String × List String, entry.2 ≠ [] →
      (entry ∈ P.entries headers ↔ entry ∈ P.entries headers')) →
    (P.entries headers).filter (·.2 ≠ []) = (P.entries headers').filter (·.2 ≠ [])
  lowercased_setCookie : lowercased "Set-Cookie" = "set-cookie" ∧
    lowercased "set-cookie" = "set-cookie"

/-! ## KituraNet's rules on a dictionary -/

namespace HeadersTable

/-- `lowercased()`, for ASCII. -/
def lowercase (string : String) : String := String.ofList (string.toList.map Char.toLower)

lemma lowercase_lowercase (string : String) : lowercase (lowercase string) = lowercase string := by
  rw [lowercase, lowercase, String.toList_ofList, List.map_map]
  exact congrArg String.ofList (List.map_congr_left fun c _ => Char.toLower_toLower_eq_toLower c)

/-- A key of the dictionary. -/
abbrev Key := { key : String // lowercase key = key }

def Key.of (name : String) : Key := ⟨lowercase name, lowercase_lowercase name⟩

/-- The names that KituraNet keeps one value of. -/
def singleValued (key : String) : Bool :=
  key ∈ ["content-type", "content-length", "user-agent", "referer", "host", "authorization",
    "proxy-authorization", "if-modified-since", "if-unmodified-since", "from", "location",
    "max-forwards", "retry-after", "etag", "last-modified", "server", "age", "expires"]

def append (headers : AList fun _ : Key => List String) (key : String) (values : List String) :
    AList fun _ : Key => List String :=
  headers.insert (Key.of key)
    (mergeValues singleValued (lowercase key) (headers.lookup (Key.of key)) values)

def assign (headers : AList fun _ : Key => List String) (key : String) :
    Option (List String) → AList fun _ : Key => List String
  | some values => headers.insert (Key.of key) values
  | none => headers.erase (Key.of key)

end HeadersTable

/-- A platform whose containers are dictionaries. -/
def Platform.kitura : Platform where
  HeadersContainer := AList fun _ : HeadersTable.Key => List String
  emptyHeaders := ∅
  append := HeadersTable.append
  assign := HeadersTable.assign
  lookup := fun headers key => headers.lookup (HeadersTable.Key.of key)
  entries := fun headers => headers.entries.map fun entry => (entry.1.1, entry.2)
  URL := URLComponents
  url := BasicPlatform.url
  base64Decoded := fun string => Base64.decode string.toList

namespace HeadersTable

lemma Key.of_eq_iff {name name' : String} :
    Key.of name = Key.of name' ↔ lowercase name = lowercase name' := Subtype.ext_iff

lemma toLower_asciiChar : ∀ n < 128, Nghttp2.validNameChar (UInt8.ofNat n) = true →
    (asciiChar (UInt8.ofNat n)).toLower = asciiChar (UInt8.ofNat n) := by decide

lemma lowercase_token {name : String} (h : ∀ b ∈ utf8Encode name, Nghttp2.validNameChar b) :
    lowercase name = name := by
  have hdecode := utf8Decode_of_ascii fun b hb => Nghttp2.toNat_lt_of_validNameChar (h b hb)
  rw [utf8Decode_utf8Encode, Option.some.injEq] at hdecode
  rw [lowercase, hdecode, String.toList_ofList, List.map_map]
  refine congrArg String.ofList (List.map_congr_left ?_)
  intro b hb
  have hlower := toLower_asciiChar b.toNat (Nghttp2.toNat_lt_of_validNameChar (h b hb))
  rw [UInt8.ofNat_toNat] at hlower
  exact hlower (h b hb)

end HeadersTable

/-- The dictionaries obey the rules. -/
lemma headersLaws_kitura :
    HeadersLaws Platform.kitura HeadersTable.lowercase HeadersTable.singleValued where
  lookup_empty _ := rfl
  lookup_append_self headers key key' values hkey := by
    show AList.lookup (HeadersTable.Key.of key') (HeadersTable.append headers key values) = some
      (mergeValues _ _ (headers.lookup (HeadersTable.Key.of key')) values)
    rw [HeadersTable.Key.of_eq_iff.2 hkey]
    exact AList.lookup_insert headers
  lookup_append_other headers key key' values hkey :=
    AList.lookup_insert_ne (mt HeadersTable.Key.of_eq_iff.1 hkey)
  lookup_entry headers entry hentry key hkey := by
    rcases List.mem_map.1 hentry with ⟨pair, hpair, rfl⟩
    have hsame : HeadersTable.Key.of key = pair.1 := Subtype.ext (hkey.trans pair.1.2)
    show headers.lookup (HeadersTable.Key.of key) = some pair.2
    rw [hsame]
    exact AList.mem_lookup_iff.2 hpair
  exists_entry headers key hsome := by
    rcases Option.isSome_iff_exists.1 hsome with ⟨values, hvalues⟩
    refine ⟨_, List.mem_map_of_mem (AList.mem_lookup_iff.1 hvalues), ?_⟩
    exact HeadersTable.lowercase_lowercase key
  nodup headers := by
    have hkeys : (Platform.kitura.entries headers).map (fun entry =>
        HeadersTable.lowercase entry.1) = headers.keys.map Subtype.val := by
      show (headers.entries.map _).map _ = (headers.entries.map Sigma.fst).map Subtype.val
      rw [List.map_map, List.map_map]
      exact List.map_congr_left fun pair _ => pair.1.2
    rw [hkeys]
    exact (AList.keys_nodup headers).map Subtype.val_injective
  lowercased_token _ h := HeadersTable.lowercase_token h
  not_single_setCookie := by decide

/-! ## KituraNet's rules on a list of entries -/

/-- Entries in the order of their names in lower case, one for each name. -/
structure HeadersList where
  entries : List (String × List String)
  ordered : entries.Pairwise fun entry entry' =>
    HeadersTable.lowercase entry.1 < HeadersTable.lowercase entry'.1

namespace HeadersList

/-- The order of the entries, by their names in lower case. -/
abbrev Before (entry entry' : String × List String) : Prop :=
  HeadersTable.lowercase entry.1 ≤ HeadersTable.lowercase entry'.1

instance : Std.Total Before := ⟨fun _ _ => le_total _ _⟩

instance : IsTrans _ Before := ⟨fun _ _ _ => le_trans⟩

/-- Take the entry of a name out. -/
def remove (headers : HeadersList) (key : String) : HeadersList where
  entries := headers.entries.filter fun entry =>
    HeadersTable.lowercase entry.1 ≠ HeadersTable.lowercase key
  ordered := headers.ordered.filter _

lemma mem_remove {headers : HeadersList} {key : String} {entry : String × List String} :
    entry ∈ (headers.remove key).entries ↔
      entry ∈ headers.entries ∧ HeadersTable.lowercase entry.1 ≠ HeadersTable.lowercase key := by
  rw [remove, List.mem_filter, decide_eq_true_iff]

/-- An entry in the place of the one that has its name. -/
def put (headers : HeadersList) (entry : String × List String) : HeadersList where
  entries := (headers.remove entry.1).entries.orderedInsert Before entry
  ordered := by
    have hle := ((headers.remove entry.1).ordered.imp le_of_lt).orderedInsert (r := Before) entry
    have hne : ((headers.remove entry.1).entries.orderedInsert Before entry).Pairwise
        fun a b => HeadersTable.lowercase a.1 ≠ HeadersTable.lowercase b.1 := by
      refine ((List.perm_orderedInsert Before entry _).pairwise_iff fun h => h.symm).2 ?_
      refine List.pairwise_cons.2 ⟨fun other hother => ?_, ?_⟩
      · exact (mem_remove.1 hother).2.symm
      · exact (headers.remove entry.1).ordered.imp ne_of_lt
    exact (hle.and hne).imp fun h => lt_of_le_of_ne h.1 h.2

/-- The assignment through the subscript. -/
def assign (headers : HeadersList) (key : String) : Option (List String) → HeadersList
  | some values => headers.put (key, values)
  | none => headers.remove key

/-- `append` -/
def append (headers : HeadersList) (key : String) (values : List String) : HeadersList :=
  headers.put (mergeEntry HeadersTable.lowercase HeadersTable.singleValued
    (entryOf HeadersTable.lowercase headers.entries key) key values)

end HeadersList

end KituraHTTP2
