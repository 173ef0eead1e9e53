import Mathlib.Data.List.Nodup
import KituraHTTP2.Nghttp2.Http

/-!
# The static table and the tokens

The first 61 indices of a header block mean the fields of the static table, which both sides know
from the start.  nghttp2 gives each field name it knows a number, its token: for a name of the
static table the index where the name first appears there, and five more numbers for names that
matter elsewhere.  So a token is three things at once, a short name for comparisons, an index that
can be sent for the name, and the place from which the search for a value begins.

The program finds the token of a name through a nest of cases, by the length of the name, then by
its last letter, and only then by the other letters.  Here it is a list of the names in the order of
these cases (`tokenNames`), of which a name is found exactly where its case is reached.  Any other
name has no token, and is compared letter by letter wherever it is looked for.

That all this is sound rests on the list and the table agreeing with each other, entry by entry:
where the token of a name is below 61 the table has the name at that index, and no two names have
one token.  Both are facts about two long lists of numbers that were written by hand, and they are
checked by evaluation.  Then the encoder may take two fields to have the same name when their tokens
are equal, and may send the token as an index.

* `staticTable_of_lookupToken`, `lookupToken_staticTable` — the tokens and the table agree.
* `lookupToken_injective` — two names with one token are equal.
-/

namespace KituraHTTP2.Nghttp2

/-- The bytes of an ASCII text. -/
def asciiText (text : String) : Bytes := text.toList.map ascii

/-- `nghttp2_hd_static_entry` -/
structure StaticEntry where
  name : Bytes
  value : Bytes
  token : ℕ
  hash : UInt32
deriving DecidableEq

/-- `MAKE_STATIC_ENT` -/
def staticEnt (name value : String) (token : ℕ) (hash : UInt32) : StaticEntry :=
  ⟨asciiText name, asciiText value, token, hash⟩

/-- `static_table` -/
def staticTable : List StaticEntry :=
  [
    staticEnt ":authority" "" 0 3153725150, staticEnt ":method" "GET" 1 695666056,
    staticEnt ":method" "POST" 1 695666056, staticEnt ":path" "/" 3 3292848686,
    staticEnt ":path" "/index.html" 3 3292848686, staticEnt ":scheme" "http" 5 2510477674,
    staticEnt ":scheme" "https" 5 2510477674, staticEnt ":status" "200" 7 4000288983,
    staticEnt ":status" "204" 7 4000288983, staticEnt ":status" "206" 7 4000288983,
    staticEnt ":status" "304" 7 4000288983, staticEnt ":status" "400" 7 4000288983,
    staticEnt ":status" "404" 7 4000288983, staticEnt ":status" "500" 7 4000288983,
    staticEnt "accept-charset" "" 14 3664010344,
    staticEnt "accept-encoding" "gzip, deflate" 15 3379649177,
    staticEnt "accept-language" "" 16 1979086614, staticEnt "accept-ranges" "" 17 1713753958,
    staticEnt "accept" "" 18 136609321, staticEnt "access-control-allow-origin" "" 19 2710797292,
    staticEnt "age" "" 20 742476188, staticEnt "allow" "" 21 2930878514,
    staticEnt "authorization" "" 22 2436257726, staticEnt "cache-control" "" 23 1355326669,
    staticEnt "content-disposition" "" 24 3889184348, staticEnt "content-encoding" "" 25 65203592,
    staticEnt "content-language" "" 26 24973587, staticEnt "content-length" "" 27 1308181789,
    staticEnt "content-location" "" 28 2302364718, staticEnt "content-range" "" 29 3555523146,
    staticEnt "content-type" "" 30 4244048277, staticEnt "cookie" "" 31 2007449791,
    staticEnt "date" "" 32 3564297305, staticEnt "etag" "" 33 113792960,
    staticEnt "expect" "" 34 2530896728, staticEnt "expires" "" 35 1049544579,
    staticEnt "from" "" 36 2513272949, staticEnt "host" "" 37 2952701295,
    staticEnt "if-match" "" 38 3597694698, staticEnt "if-modified-since" "" 39 2213050793,
    staticEnt "if-none-match" "" 40 2536202615, staticEnt "if-range" "" 41 2340978238,
    staticEnt "if-unmodified-since" "" 42 3794814858, staticEnt "last-modified" "" 43 3226950251,
    staticEnt "link" "" 44 232457833, staticEnt "location" "" 45 200649126,
    staticEnt "max-forwards" "" 46 1826162134, staticEnt "proxy-authenticate" "" 47 2709445359,
    staticEnt "proxy-authorization" "" 48 2686392507, staticEnt "range" "" 49 4208725202,
    staticEnt "referer" "" 50 3969579366, staticEnt "refresh" "" 51 3572655668,
    staticEnt "retry-after" "" 52 3336180598, staticEnt "server" "" 53 1085029842,
    staticEnt "set-cookie" "" 54 1848371000,
    staticEnt "strict-transport-security" "" 55 4138147361,
    staticEnt "transfer-encoding" "" 56 3719590988, staticEnt "user-agent" "" 57 606444526,
    staticEnt "vary" "" 58 1085005381, staticEnt "via" "" 59 1762798611,
    staticEnt "www-authenticate" "" 60 779865858]

/-- `NGHTTP2_STATIC_TABLE_LENGTH` -/
def staticTableLength : ℕ := 61

/-- The names in the order of the cases of `lookup_token`, with their tokens.  A case there is a
length, a last byte and a comparison of the other bytes. -/
def tokenNames : List (String × ℕ) :=
  [
    ("te", 61), ("via", 59), ("age", 20), ("date", 32), ("etag", 33), ("link", 44), ("from", 36),
    ("host", 37), ("vary", 58), ("range", 49), (":path", 3), ("allow", 21), ("cookie", 31),
    ("server", 53), ("accept", 18), ("expect", 34), (":method", 1), (":scheme", 5),
    ("upgrade", 65), ("refresh", 51), ("referer", 50), (":status", 7), ("expires", 35),
    ("if-range", 41), ("if-match", 38), ("location", 45), ("keep-alive", 63), ("set-cookie", 54),
    ("connection", 62), ("user-agent", 57), (":authority", 0), ("retry-after", 52),
    ("content-type", 30), ("max-forwards", 46), ("last-modified", 43), ("content-range", 29),
    ("if-none-match", 40), ("cache-control", 23), ("authorization", 22), ("accept-ranges", 17),
    ("content-length", 27), ("accept-charset", 14), ("accept-language", 16),
    ("accept-encoding", 15), ("content-language", 26), ("www-authenticate", 60),
    ("content-encoding", 25), ("content-location", 28), ("proxy-connection", 64),
    ("if-modified-since", 39), ("transfer-encoding", 56), ("proxy-authenticate", 47),
    ("if-unmodified-since", 42), ("content-disposition", 24), ("proxy-authorization", 48),
    ("strict-transport-security", 55), ("access-control-allow-origin", 19)]

/-- `lookup_token`; `none` is its `-1`. -/
def lookupToken (name : Bytes) : Option ℕ :=
  (tokenNames.find? fun entry => asciiText entry.1 == name).map Prod.snd

/-! ## The tokens and the table -/

lemma length_staticTable : staticTable.length = staticTableLength := by decide

/-- A name of the table has the token that the table says. -/
lemma lookupToken_staticTable {ent : StaticEntry} (h : ent ∈ staticTable) :
    lookupToken ent.name = some ent.token := by
  have hall : ∀ ent ∈ staticTable, lookupToken ent.name = some ent.token := by decide +kernel
  exact hall ent h

/-- Where a token is an index, the table has its name there. -/
lemma tokenNames_staticTable : ∀ entry ∈ tokenNames, entry.2 < staticTableLength →
    ∃ ent, staticTable[entry.2]? = some ent ∧ ent.name = asciiText entry.1 ∧
      ent.token = entry.2 := by
  decide +kernel

/-- A token comes from a name of the list, and from no other one. -/
lemma mem_of_lookupToken {name : Bytes} {token : ℕ} (h : lookupToken name = some token) :
    ∃ text, (text, token) ∈ tokenNames ∧ asciiText text = name := by
  rw [lookupToken, Option.map_eq_some_iff] at h
  obtain ⟨⟨text, token'⟩, hfind, rfl⟩ := h
  exact ⟨text, List.mem_of_find?_eq_some hfind, by simpa using List.find?_some hfind⟩

/-- **A token below 61 is the index of its name**, so that it can be sent for the name. -/
theorem staticTable_of_lookupToken {name : Bytes} {token : ℕ} (h : lookupToken name = some token)
    (htoken : token < staticTableLength) :
    ∃ ent, staticTable[token]? = some ent ∧ ent.name = name ∧ ent.token = token := by
  obtain ⟨text, hmem, rfl⟩ := mem_of_lookupToken h
  exact tokenNames_staticTable (text, token) hmem htoken

/-- **Two names with one token are equal**, so that tokens can be compared in the place of names. -/
theorem lookupToken_injective {name name' : Bytes} {token : ℕ} (h : lookupToken name = some token)
    (h' : lookupToken name' = some token) : name = name' := by
  have hnodup : (tokenNames.map Prod.snd).Nodup := by decide
  obtain ⟨text, hmem, rfl⟩ := mem_of_lookupToken h
  obtain ⟨text', hmem', rfl⟩ := mem_of_lookupToken h'
  have heq := List.inj_on_of_nodup_map hnodup hmem hmem' rfl
  exact congrArg asciiText (congrArg Prod.fst heq)

end KituraHTTP2.Nghttp2
