import KituraHTTP2.Nghttp2.Hd.Context

/-!
# The search for a field

Before it sends a field, the encoder looks for an index of it, or at least of its name: in the
dynamic table by the hash map, and then in the static table from the index that the token gives.
What it finds decides how the field is sent, and a wrong index would be a wrong field on the other
side, without any error there.

**The hash.**  It is the hash of the name alone, so that all fields with one name are in one bucket,
and a name that has a token brings one along.  The loop over the bucket compares tokens first,
and compares hash and letters only where there is no token.  It remembers the first entry with the
name and goes on to look for one with the value too; a field that must never be indexed takes the
first name, since its value is sent as a literal in any case.

**The index.**  An entry that is found only knows its number, from which the index is reckoned in 32
bits, and the wrap of the numbers cancels out.

**The static table** comes first where both tables know the name but not the value.  Its entries
with one name follow each other, so the search begins at the token and ends at the first other
token.

All this is an optimisation of something simple, a search through the two tables from their
beginning (`searchFields`), and is proved to find the same.

* `hdMapFindLoop_eq` — what the loop over a bucket finds is what a search of its list finds.
* **`searchHdTable_eq`** — this finds what a search through the tables from their beginning finds
  (`searchFields`).
* `SearchResult.Points` — what is found is there.
-/

namespace KituraHTTP2.Nghttp2

/-- `nghttp2_hd_indexing_mode` -/
inductive IndexingMode where
  | withIndexing | withoutIndexing | neverIndexing
deriving DecidableEq, Repr

/-- `NGHTTP2_TOKEN_WWW_AUTHENTICATE`, the last token that is an index. -/
def tokenWwwAuthenticate : ℕ := 60

/-- `name_hash`: 32 bit FNV-1a.  Only names without a token need it. -/
def nameHash (name : Bytes) : UInt32 :=
  name.foldl (fun h b =>
    let h := h ^^^ b.toUInt32
    h + ((h <<< 1) + (h <<< 4) + (h <<< 7) + (h <<< 8) + (h <<< 24))) 2166136261

/-- The hash of a field in `deflate_nv`. -/
def fieldHash (name : Bytes) : Option ℕ → UInt32
  | none => nameHash name
  | some token =>
    if token ≤ tokenWwwAuthenticate then ((staticTable[token]?).map StaticEntry.hash).getD 0 else 0

/-- The loop of `hd_map_find`: the entry and `*exact_match`.  `res` is the first entry with the
name, if one has come. -/
def hdMapFindLoop (nv : Nv) (token : Option ℕ) (hash : UInt32) (nameOnly : Bool)
    (res : Option HdEntry) : List HdEntry → Option HdEntry × Bool
  | [] => (res, false)
  | p :: ents =>
    if token ≠ p.nv.token ∨ token = none ∧ (hash ≠ p.hash ∨ p.nv.name ≠ nv.name) then
      hdMapFindLoop nv token hash nameOnly res ents
    else if res = none ∧ nameOnly = true then (some p, false)
    else if p.nv.value = nv.value then (some p, true)
    else hdMapFindLoop nv token hash nameOnly (res.or (some p)) ents

/-- `hd_map_find` -/
def hdMapFind (map : HdMap) (nv : Nv) (token : Option ℕ) (hash : UInt32) (nameOnly : Bool) :
    Option HdEntry × Bool :=
  hdMapFindLoop nv token hash nameOnly none (map.table (HdMap.bucket hash))

/-- `search_result`, whose index `-1` is `none`. -/
structure SearchResult where
  index : Option ℕ
  nameValueMatch : Bool
deriving DecidableEq, Repr

/-- The loop of `search_static_table`, at the index `i`.  If no value is the right one, the first
index of the name is left. -/
def searchStaticLoop (nv : Nv) (token i : ℕ) : List StaticEntry → SearchResult
  | [] => ⟨some token, false⟩
  | ent :: ents =>
    if ent.token ≠ token then ⟨some token, false⟩
    else if ent.value = nv.value then ⟨some i, true⟩
    else searchStaticLoop nv token (i + 1) ents

/-- `search_static_table` -/
def searchStaticTable (nv : Nv) (token : ℕ) (nameOnly : Bool) : SearchResult :=
  if nameOnly then ⟨some token, false⟩
  else searchStaticLoop nv token token (staticTable.drop token)

/-- A token that is an index of the static table.  The names with the five other tokens are in
neither table from the start. -/
def staticToken (token : Option ℕ) : Option ℕ := token.filter (· ≤ tokenWwwAuthenticate)

/-- `search_hd_table` -/
def searchHdTable (context : HdContext) (nv : Nv) (token : Option ℕ) (indexingMode : IndexingMode)
    (map : HdMap) (hash : UInt32) : SearchResult :=
  let nameOnly := decide (indexingMode = .neverIndexing)
  let (ent, exactMatch) := hdMapFind map nv token hash nameOnly
  match if exactMatch then none else staticToken token with
  | some token => searchStaticTable nv token nameOnly
  | none =>
    match ent with
    | none => ⟨none, false⟩
    | some ent =>
      ⟨some (context.nextSeq - 1 - ent.seq + UInt32.ofNat staticTableLength).toNat, exactMatch⟩

/-! ## The search without the map -/

/-- A search through the dynamic table from its beginning, where the name of the static table goes
before one of the dynamic table. -/
def searchFields (fields : List HdNv) (nv : Nv) (nameOnly : Bool) : SearchResult :=
  match if nameOnly then none else
    fields.findIdx? fun field => field.name == nv.name && field.value == nv.value with
  | some j => ⟨some (j + staticTableLength), true⟩
  | none =>
    match staticToken (lookupToken nv.name) with
    | some token => searchStaticTable nv token nameOnly
    | none => ⟨(fields.findIdx? fun field => field.name == nv.name).map (· + staticTableLength),
        false⟩

/-- An entry with the hash of its name. -/
def Hashed (ent : HdEntry) : Prop := ent.hash = fieldHash ent.nv.name ent.nv.token

/-- An entry is skipped exactly if it has another name: equal tokens mean equal names, and without a
token the letters decide. -/
lemma skipped_iff {nv : Nv} {p : HdEntry} (htoken : p.nv.token = lookupToken p.nv.name)
    (hhash : Hashed p) :
    (lookupToken nv.name ≠ p.nv.token ∨ lookupToken nv.name = none ∧
      (fieldHash nv.name (lookupToken nv.name) ≠ p.hash ∨ p.nv.name ≠ nv.name)) ↔
      p.nv.name ≠ nv.name := by
  constructor
  · rintro (hne | ⟨-, hne | hne⟩) heq
    · exact hne (by rw [htoken, heq])
    · exact hne (by rw [hhash, htoken, heq])
    · exact hne heq
  · intro hne
    by_cases heq : lookupToken nv.name = p.nv.token
    · cases hname : lookupToken nv.name with
      | none => exact Or.inr ⟨rfl, Or.inr hne⟩
      | some token =>
        exact absurd (lookupToken_injective (htoken.symm.trans (heq.symm.trans hname)) hname) hne
    · exact Or.inl heq

variable {nv : Nv} {ents : List HdEntry}

/-- The entry has the name and the value. -/
def sameField (nv : Nv) (ent : HdEntry) : Bool :=
  ent.nv.name == nv.name && ent.nv.value == nv.value

/-- The entry has the name. -/
def sameName (nv : Nv) (ent : HdEntry) : Bool := ent.nv.name == nv.name

/-- What is found in a list of entries. -/
lemma hdMapFindLoop_eq
    (h : ∀ p ∈ ents, p.nv.token = lookupToken p.nv.name ∧ Hashed p) (res : Option HdEntry) :
    hdMapFindLoop nv (lookupToken nv.name) (fieldHash nv.name (lookupToken nv.name)) false res ents =
      match ents.find? (sameField nv) with
      | some p => (some p, true)
      | none => (res.or (ents.find? (sameName nv)), false) := by
  induction ents generalizing res with
  | nil => simp [hdMapFindLoop]
  | cons p ents ih =>
    have hp := h p List.mem_cons_self
    have hents := ih fun q hq => h q (List.mem_cons_of_mem p hq)
    simp only [hdMapFindLoop, skipped_iff hp.1 hp.2, List.find?_cons]
    by_cases hname : p.nv.name = nv.name
    · have hsame : sameName nv p = true := by simp [sameName, hname]
      by_cases hvalue : p.nv.value = nv.value
      · have hfield : sameField nv p = true := by simp [sameField, hname, hvalue]
        simp [hname, hvalue, hfield]
      · have hfield : sameField nv p = false := by simp [sameField, hvalue]
        simp only [hname, hvalue, hents, hsame, hfield, ne_eq, not_true, if_false,
          Bool.false_eq_true, and_false]
        cases res <;> simp
    · have hsame : sameName nv p = false := by simp [sameName, hname]
      have hfield : sameField nv p = false := by simp [sameField, hname]
      simp [hname, hents, hsame, hfield]

/-- The first entry with the name, whatever its value is. -/
lemma hdMapFindLoop_nameOnly
    (h : ∀ p ∈ ents, p.nv.token = lookupToken p.nv.name ∧ Hashed p) :
    hdMapFindLoop nv (lookupToken nv.name) (fieldHash nv.name (lookupToken nv.name)) true none ents =
      (ents.find? (sameName nv), false) := by
  induction ents with
  | nil => simp [hdMapFindLoop]
  | cons p ents ih =>
    have hp := h p List.mem_cons_self
    have hents := ih fun q hq => h q (List.mem_cons_of_mem p hq)
    simp only [hdMapFindLoop, skipped_iff hp.1 hp.2, List.find?_cons]
    by_cases hname : p.nv.name = nv.name
    · have hsame : sameName nv p = true := by simp [sameName, hname]
      simp [hname, hsame]
    · have hsame : sameName nv p = false := by simp [sameName, hname]
      simp [hname, hents, hsame]

/-! ## The search with the map -/

/-- The map is that of the table, and the entries have the hash of their name. -/
structure HdMap.For (map : HdMap) (context : HdContext) : Prop where
  holds : map.Holds context.entries
  hashed : ∀ ent ∈ context.entries, Hashed ent

/-- What has the name is in the bucket of the name, and in the same order as in the table. -/
lemma find?_bucket {map : HdMap} {context : HdContext} (hmap : map.For context)
    (h : context.Consistent) {p : HdEntry → Bool} (hp : ∀ ent, p ent = true → sameName nv ent = true) :
    (map.table (HdMap.bucket (fieldHash nv.name (lookupToken nv.name)))).find? p =
      context.entries.find? p := by
  rw [hmap.holds, ← List.head?_filter, ← List.head?_filter, List.filter_filter]
  refine congrArg List.head? (List.filter_congr fun ent hent => ?_)
  by_cases hpe : p ent = true
  · have hname : ent.nv.name = nv.name := by simpa [sameName] using hp ent hpe
    have hhash : ent.hash = fieldHash nv.name (lookupToken nv.name) := by
      rw [hmap.hashed ent hent, h.token ent hent, hname]
    simp [hpe, hhash]
  · simp [hpe]

/-- The index of an entry is reckoned from its number.  Both wrap around at `2 ^ 32`, and their
difference does not. -/
lemma index_of_seq {context : HdContext} (h : context.Consistent) {j : ℕ} {ent : HdEntry}
    (hj : context.entries[j]? = some ent) :
    (context.nextSeq - 1 - ent.seq + UInt32.ofNat staticTableLength).toNat =
      j + staticTableLength := by
  have hlt := (List.getElem?_eq_some_iff.1 hj).1
  have hlength := h.length_lt
  have hof : UInt32.ofNat (j + 1) = UInt32.ofNat j + 1 := UInt32.ofNat_add _ _
  have hcancel : ∀ seq n : UInt32, seq - 1 - (seq - (n + 1)) = n := by grind
  have hsum : UInt32.ofNat j + UInt32.ofNat staticTableLength =
      UInt32.ofNat (j + staticTableLength) := (UInt32.ofNat_add _ _).symm
  rw [h.seq j ent hj, hof, hcancel, hsum, UInt32.toNat_ofNat', Nat.mod_eq_of_lt]
  rw [staticTableLength]
  omega

/-- The first entry that meets a condition, and its index. -/
lemma find?_entries {context : HdContext} (h : context.Consistent) (p : HdEntry → Bool) :
    (context.entries.find? p).map (fun ent =>
        (context.nextSeq - 1 - ent.seq + UInt32.ofNat staticTableLength).toNat) =
      (context.entries.findIdx? p).map (· + staticTableLength) := by
  rw [List.find?_eq_bind_findIdx?_getElem?]
  cases hfind : context.entries.findIdx? p with
  | none => rfl
  | some j =>
    obtain ⟨hlt, -⟩ := List.findIdx?_eq_some_iff_getElem.1 hfind
    have hget := List.getElem?_eq_getElem hlt
    rw [Option.bind_some, hget, Option.map_some, Option.map_some, index_of_seq h hget]

/-- **The search with the map finds what a search through the tables finds.**  A bucket has the
entries of the table with one hash in their order, and all that have the name are among them, so
that the first of the bucket is the first of the table. -/
theorem searchHdTable_eq {context : HdContext} {map : HdMap} (h : context.Consistent)
    (hmap : map.For context) (nv : Nv) (indexingMode : IndexingMode) :
    searchHdTable context nv (lookupToken nv.name) indexingMode map
        (fieldHash nv.name (lookupToken nv.name)) =
      searchFields context.fields nv (decide (indexingMode = .neverIndexing)) := by
  have hents : ∀ p ∈ map.table (HdMap.bucket (fieldHash nv.name (lookupToken nv.name))),
      p.nv.token = lookupToken p.nv.name ∧ Hashed p := by
    intro p hp
    rw [hmap.holds, List.mem_filter] at hp
    exact ⟨h.token p hp.1, hmap.hashed p hp.1⟩
  have hfield : ∀ ent, sameField nv ent = true → sameName nv ent = true := by
    intro ent hent
    simp only [sameField, Bool.and_eq_true] at hent
    exact hent.1
  have hfields : ∀ p : HdNv → Bool, context.fields.findIdx? p =
      context.entries.findIdx? fun ent => p ent.nv := fun p => List.findIdx?_map
  have hname := find?_entries h (sameName nv)
  have hsame := find?_entries h (sameField nv)
  rw [searchHdTable, searchFields, hfields, hfields]
  cases hmode : decide (indexingMode = .neverIndexing) with
  | true =>
    simp only [hdMapFind, hdMapFindLoop_nameOnly hents, find?_bucket hmap h fun _ => id, if_true,
      Bool.false_eq_true, if_false]
    split
    · rfl
    · rw [show (fun ent : HdEntry => ent.nv.name == nv.name) = sameName nv from rfl, ← hname]
      cases context.entries.find? (sameName nv) <;> rfl
  | false =>
    simp only [hdMapFind, hdMapFindLoop_eq hents, find?_bucket hmap h fun _ => id,
      find?_bucket hmap h hfield, Bool.false_eq_true, if_false]
    rw [show (fun ent : HdEntry => ent.nv.name == nv.name && ent.nv.value == nv.value) =
      sameField nv from rfl]
    cases hfind : context.entries.find? (sameField nv) with
    | some ent =>
      rw [hfind] at hsame
      cases hidx : context.entries.findIdx? (sameField nv) with
      | none => rw [hidx] at hsame; cases hsame
      | some j =>
        rw [hidx, Option.map_some, Option.map_some, Option.some.injEq] at hsame
        simp only [if_true, hsame]
    | none =>
      rw [hfind] at hsame
      have hidx : context.entries.findIdx? (sameField nv) = none := by simpa using hsame.symm
      simp only [hidx, Bool.false_eq_true, if_false, Option.none_or]
      split
      · rfl
      · rw [show (fun ent : HdEntry => ent.nv.name == nv.name) = sameName nv from rfl, ← hname]
        cases context.entries.find? (sameName nv) <;> rfl

/-! ## What is found -/

/-- The index of the result is that of a field with the name, and the value too if that matched. -/
structure SearchResult.Points (res : SearchResult) (context : HdContext) (nv : Nv) : Prop where
  field : ∀ idx ∈ res.index, ∃ field, context.tableGet idx = some field ∧ field.name = nv.name ∧
    field.token = lookupToken nv.name ∧ field.noIndex = false ∧
    (res.nameValueMatch = true → field.value = nv.value)
  isSome : res.nameValueMatch = true → res.index.isSome

/-- The field at an index of the static table. -/
lemma tableGet_static (context : HdContext) {idx : ℕ} {ent : StaticEntry}
    (h : staticTable[idx]? = some ent) :
    context.tableGet idx = some ⟨ent.name, ent.value, some ent.token, false⟩ := by
  have hlt : idx < staticTableLength := by
    rw [← length_staticTable]
    exact (List.getElem?_eq_some_iff.1 h).1
  rw [HdContext.tableGet, if_neg (Nat.not_le.2 hlt), h, Option.map_some]

/-- The field at an index of the dynamic table. -/
lemma tableGet_fields (context : HdContext) (j : ℕ) :
    context.tableGet (j + staticTableLength) = context.fields[j]? := by
  rw [HdContext.tableGet, if_pos (Nat.le_add_left _ _), Nat.add_sub_cancel, Ringbuf.get_eq,
    HdContext.fields, List.getElem?_map]
  rfl

lemma searchStaticLoop_cases (nv : Nv) (token i : ℕ) (ents : List StaticEntry) :
    searchStaticLoop nv token i ents = ⟨some token, false⟩ ∨
      ∃ k ent, ents[k]? = some ent ∧ ent.token = token ∧ ent.value = nv.value ∧
        searchStaticLoop nv token i ents = ⟨some (i + k), true⟩ := by
  induction ents generalizing i with
  | nil => exact Or.inl rfl
  | cons ent ents ih =>
    rw [searchStaticLoop]
    by_cases htoken : ent.token = token
    · rw [if_neg (by simpa using htoken)]
      by_cases hvalue : ent.value = nv.value
      · rw [if_pos hvalue]
        exact Or.inr ⟨0, ent, rfl, htoken, hvalue, rfl⟩
      · rw [if_neg hvalue]
        rcases ih (i + 1) with hnone | ⟨k, ent', hk, htoken', hvalue', hfound⟩
        · exact Or.inl hnone
        · refine Or.inr ⟨k + 1, ent', hk, htoken', hvalue', ?_⟩
          rw [hfound, Nat.add_assoc, Nat.add_comm 1 k]
    · rw [if_pos htoken]
      exact Or.inl rfl

lemma points_searchStaticTable (context : HdContext) {nv : Nv} {token : ℕ}
    (htoken : lookupToken nv.name = some token) (hlt : token < staticTableLength)
    (nameOnly : Bool) : (searchStaticTable nv token nameOnly).Points context nv := by
  obtain ⟨ent, hent, hname, htoken'⟩ := staticTable_of_lookupToken htoken hlt
  have hfirst : SearchResult.Points ⟨some token, false⟩ context nv := by
    refine ⟨fun idx hidx => ?_, fun h => nomatch h⟩
    cases hidx
    refine ⟨_, tableGet_static context hent, hname, ?_, rfl, fun h => nomatch h⟩
    rw [htoken, htoken']
  rw [searchStaticTable]
  split
  · exact hfirst
  · rcases searchStaticLoop_cases nv token token (staticTable.drop token) with hnone | ⟨k, ent', hk,
      htoken'', hvalue, hfound⟩
    · rw [hnone]
      exact hfirst
    · rw [List.getElem?_drop] at hk
      have hname' := lookupToken_staticTable (List.mem_of_getElem? hk)
      rw [htoken''] at hname'
      rw [hfound]
      refine ⟨fun idx hidx => ?_, fun _ => rfl⟩
      cases hidx
      refine ⟨_, tableGet_static context hk, lookupToken_injective hname' htoken, ?_, rfl,
        fun _ => hvalue⟩
      rw [htoken, htoken'']

/-- **What is found is there**: at the index the table has a field with this name, and with this
value if that is what the search says. -/
theorem points_searchFields {context : HdContext} (h : context.Consistent) (nv : Nv)
    (nameOnly : Bool) : (searchFields context.fields nv nameOnly).Points context nv := by
  have hfield : ∀ {j : ℕ} {field : HdNv}, context.fields[j]? = some field →
      field.name = nv.name → ∃ field', context.tableGet (j + staticTableLength) = some field' ∧
        field' = field ∧ field.token = lookupToken nv.name ∧ field.noIndex = false := by
    intro j field hj hname
    obtain ⟨ent, hent, rfl⟩ := List.mem_map.1 (List.mem_of_getElem? hj)
    exact ⟨_, (tableGet_fields context j).trans hj, rfl, hname ▸ h.token ent hent,
      h.indexed ent hent⟩
  rw [searchFields]
  split
  · rename_i j hj
    split at hj
    · cases hj
    · obtain ⟨hlt, hboth, -⟩ := List.findIdx?_eq_some_iff_getElem.1 hj
      simp only [Bool.and_eq_true, beq_iff_eq] at hboth
      refine ⟨fun idx hidx => ?_, fun _ => rfl⟩
      cases hidx
      obtain ⟨field', hget, rfl, htoken, hindex⟩ :=
        hfield (List.getElem?_eq_getElem hlt) hboth.1
      exact ⟨_, hget, hboth.1, htoken, hindex, fun _ => hboth.2⟩
  · split
    · rename_i token htoken
      rw [staticToken, Option.filter_eq_some_iff, decide_eq_true_eq, tokenWwwAuthenticate] at htoken
      exact points_searchStaticTable context htoken.1 (by rw [staticTableLength]; omega) nameOnly
    · refine ⟨fun idx hidx => ?_, fun h => nomatch h⟩
      obtain ⟨j, hj, rfl⟩ := Option.map_eq_some_iff.1 hidx
      obtain ⟨hlt, hname, -⟩ := List.findIdx?_eq_some_iff_getElem.1 hj
      rw [beq_iff_eq] at hname
      obtain ⟨field', hget, rfl, htoken, hindex⟩ := hfield (List.getElem?_eq_getElem hlt) hname
      exact ⟨_, hget, hname, htoken, hindex, fun h => nomatch h⟩

/-- Only the name is looked up for a field that is never indexed. -/
lemma nameValueMatch_nameOnly (fields : List HdNv) (nv : Nv) :
    (searchFields fields nv true).nameValueMatch = false := by
  rw [searchFields]
  simp only [if_true]
  split
  · rfl
  · rfl

end KituraHTTP2.Nghttp2
