import Mathlib.Tactic.Ring
import KituraHTTP2.Lib.BoundedQueue
import KituraHTTP2.Nghttp2.Hd.Ringbuf
import KituraHTTP2.Nghttp2.Hd.StaticTable

/-!
# The dynamic table

Both sides of a connection keep the fields that were sent with indexing in a table of a limited size
(`HdContext`), where the newest field has the lowest index, 61.  A new field that does not fit
drives out the oldest ones.  What counts is not the number of the fields but their room, the bytes
of name and value and 32 more for each, and the peer may change the limit between two blocks.

**What is left.**  The entries after any of this are what `BoundedQueue.keep` leaves of the entries
before: the newest ones, as many as fit.  The loop that makes room is one for both uses (`evict`).
It subtracts the room of each entry that goes from `bufsize`, and stops when enough is free or
nothing is left; the two sides agree about their tables only because `bufsize` is at each time the
room of the entries (`HdContext.Consistent`), which no function of the program ever checks.  A field
that is larger than the whole table empties it and is not put there, and this is not an error.

**Numbers.**  Each entry has a number `seq`, which counts up and wraps around at `2 ^ 32`.  The
program reckons the index of an entry from it, and that is right because the entries have
consecutive numbers and there are fewer than `2 ^ 27` of them.

**The hash map.**  The side that encodes also keeps a map (`HdMap`), whose buckets are linked lists
through the entries, to find a field quickly.  An entry that goes must be taken out of its bucket as
well, or the map would point to memory that was freed; `HdMap.Holds` says that each bucket has
exactly the entries of the table that belong there, the newest first.

* **`entries_evict`** — the loop that makes room leaves the newest entries, as many as fit.
* **`addHdTableIncremental_spec`**, **`hdContextShrinkTableSize_spec`** — a new field, and a change
  of the size.  Both keep the table below its size (`HdContext.Valid`), and the hash map is that of
  the entries (`HdMap.Holds`).
-/

namespace KituraHTTP2.Nghttp2

open BoundedQueue

/-! ## Fields -/

/-- `nghttp2_nv`, of whose flags the header compression reads `NGHTTP2_NV_FLAG_NO_INDEX`. -/
structure Nv where
  name : Bytes
  value : Bytes
  noIndex : Bool
deriving DecidableEq, Repr

/-- `nghttp2_hd_nv` -/
structure HdNv where
  name : Bytes
  value : Bytes
  token : Option ℕ
  noIndex : Bool
deriving DecidableEq, Repr

/-- `entry_room`: an entry counts for 32 bytes more than its texts. -/
def entryRoom (namelen valuelen : ℕ) : ℕ := 32 + namelen + valuelen

/-- The room that a field takes up in a table. -/
def HdNv.room (nv : HdNv) : ℕ := entryRoom nv.name.length nv.value.length

/-- `nghttp2_hd_entry`: a field with its number and the hash of its name. -/
structure HdEntry where
  nv : HdNv
  seq : UInt32
  hash : UInt32
deriving DecidableEq, Repr

/-- The room that an entry takes up. -/
def HdEntry.room (ent : HdEntry) : ℕ := ent.nv.room

/-! ## The hash map -/

/-- `nghttp2_hd_map`: a list of entries in each of `HD_MAP_SIZE` buckets. -/
structure HdMap where
  table : Fin 128 → List HdEntry

namespace HdMap

/-- `hash & (HD_MAP_SIZE - 1)` -/
def bucket (hash : UInt32) : Fin 128 := Fin.ofNat 128 (hash &&& 127).toNat

/-- `hd_map_init` -/
def init : HdMap := ⟨fun _ => []⟩

/-- `hd_map_insert` -/
def insert (map : HdMap) (ent : HdEntry) : HdMap :=
  ⟨Function.update map.table (bucket ent.hash) (ent :: map.table (bucket ent.hash))⟩

/-- `hd_map_remove`, which looks for the address of the entry: no two entries of a table have the
same `seq`. -/
def remove (map : HdMap) (ent : HdEntry) : HdMap :=
  ⟨Function.update map.table (bucket ent.hash)
    ((map.table (bucket ent.hash)).eraseP fun ent' => ent'.seq == ent.seq)⟩

/-- The map holds exactly the entries, and in each bucket the newest one first. -/
def Holds (map : HdMap) (entries : List HdEntry) : Prop :=
  ∀ b, map.table b = entries.filter fun ent => bucket ent.hash = b

lemma holds_init : init.Holds [] := fun _ => rfl

lemma Holds.insert {map : HdMap} {entries : List HdEntry} (h : map.Holds entries)
    (ent : HdEntry) : (map.insert ent).Holds (ent :: entries) := by
  intro b
  simp only [HdMap.insert, List.filter_cons]
  by_cases hb : bucket ent.hash = b
  · subst hb
    rw [Function.update_self, h, if_pos (by simp)]
  · rw [Function.update_of_ne (Ne.symm hb), h, if_neg (by simpa using hb)]

/-- The oldest entry goes.  It is found in its bucket by its number, which no other entry has. -/
lemma Holds.remove {map : HdMap} {entries : List HdEntry} {ent : HdEntry}
    (h : map.Holds (entries ++ [ent])) (hseq : ∀ ent' ∈ entries, ent'.seq ≠ ent.seq) :
    (map.remove ent).Holds entries := by
  intro b
  simp only [HdMap.remove]
  by_cases hb : bucket ent.hash = b
  · subst hb
    have hrest : ∀ ent' ∈ entries.filter (fun ent' => bucket ent'.hash = bucket ent.hash),
        ¬ (ent'.seq == ent.seq) = true := by
      intro ent' hent'
      simpa using hseq ent' (List.mem_filter.1 hent').1
    rw [Function.update_self, h, List.filter_append, List.eraseP_append_right _ hrest]
    simp
  · rw [Function.update_of_ne (Ne.symm hb), h, List.filter_append]
    simp [hb]

end HdMap

/-! ## The table -/

/-- `nghttp2_hd_context`: the entries, the room that they take up, and how much of it there may be.
-/
structure HdContext where
  table : Ringbuf HdEntry
  bufsize : ℕ
  bufsizeMax : ℕ
  nextSeq : UInt32
  bad : Bool

namespace HdContext

/-- `hd_context_init`, with `NGHTTP2_HD_DEFAULT_MAX_BUFFER_SIZE`. -/
def init : HdContext where
  table := Ringbuf.init HdEntry (4096 / 32) (by decide)
  bufsize := 0
  bufsizeMax := 4096
  nextSeq := 0
  bad := false

/-- The entries, the newest first. -/
def entries (context : HdContext) : List HdEntry := context.table.contents

/-- The fields of the entries. -/
def fields (context : HdContext) : List HdNv := context.entries.map HdEntry.nv

/-- `get_max_index` -/
def maxIndex (context : HdContext) : ℕ := context.table.len + staticTableLength

/-- `nghttp2_hd_table_get`, which asserts that the index is valid.  The static table comes first. -/
def tableGet (context : HdContext) (idx : ℕ) : Option HdNv :=
  if staticTableLength ≤ idx then (context.table.get (idx - staticTableLength)).map HdEntry.nv
  else (staticTable[idx]?).map fun ent =>
    { name := ent.name, value := ent.value, token := some ent.token, noIndex := false }

/-- The oldest entry is taken away. -/
def popEntry (context : HdContext) (ent : HdEntry) : HdContext :=
  { context with
    bufsize := context.bufsize - ent.room
    table := context.table.popBack }

end HdContext

/-- The loop of `add_hd_table_incremental` that makes room, and with `room = 0` that of
`hd_context_shrink_table_size`.  A decoder has no map. -/
def evict (room : ℕ) (context : HdContext) (map : Option HdMap) : HdContext × Option HdMap :=
  if context.bufsizeMax < context.bufsize + room ∧ 0 < context.table.len then
    match context.table.get (context.table.len - 1) with
    | none => (context, map)
    | some ent => evict room (context.popEntry ent) (map.map fun map => map.remove ent)
  else (context, map)
termination_by context.table.len
decreasing_by
  simp only [HdContext.popEntry, Ringbuf.popBack]
  omega

/-- `add_hd_table_incremental`; `none` is `NGHTTP2_ERR_NOMEM`. -/
def addHdTableIncremental (context : HdContext) (nv : HdNv) (map : Option HdMap)
    (hash : UInt32) : Option (HdContext × Option HdMap) :=
  let (context, map) := evict nv.room context map
  if context.bufsizeMax < nv.room then some (context, map)
  else
    let newEnt := { nv := nv, seq := context.nextSeq, hash := hash }
    (context.table.pushFront newEnt).map fun table =>
      ({ context with
        table := table
        nextSeq := context.nextSeq + 1
        bufsize := context.bufsize + nv.room },
       map.map fun map => map.insert newEnt)

/-- `hd_context_shrink_table_size` -/
def hdContextShrinkTableSize (context : HdContext) (map : Option HdMap) :
    HdContext × Option HdMap := evict 0 context map

/-! ## What the table keeps to -/

namespace HdContext

/-- What holds of a table also while room is made: `bufsize` is the room of the entries, their
numbers are consecutive, and their fields have the token of their name and may be indexed. -/
structure Consistent (context : HdContext) : Prop where
  bufsize_eq : context.bufsize = total HdEntry.room context.entries
  bufsize_lt : context.bufsize < 2 ^ 32
  seq : ∀ (j : ℕ) (ent : HdEntry), context.entries[j]? = some ent →
    ent.seq = context.nextSeq - UInt32.ofNat (j + 1)
  token : ∀ ent ∈ context.entries, ent.nv.token = lookupToken ent.nv.name
  indexed : ∀ ent ∈ context.entries, ent.nv.noIndex = false

/-- **The invariant of a table.**  While room is made for a field the table may still be too large,
and is only `Consistent`. -/
structure Valid (context : HdContext) : Prop extends Consistent context where
  bufsize_le : context.bufsize ≤ context.bufsizeMax
  max_lt : context.bufsizeMax < 2 ^ 32

lemma valid_init : init.Valid where
  bufsize_eq := rfl
  bufsize_lt := by decide
  seq j ent h := by
    have hempty : init.entries = [] := Ringbuf.contents_init _ (by decide)
    simp [hempty] at h
  token _ h := nomatch h
  indexed _ h := nomatch h
  bufsize_le := Nat.zero_le _
  max_lt := by decide

variable {context : HdContext}

lemma length_entries (context : HdContext) : context.entries.length = context.table.len :=
  Ringbuf.length_contents _

/-- A table has fewer than `2 ^ 27` entries, since each takes up 32 bytes of room at least. -/
lemma Consistent.length_lt (h : context.Consistent) : 32 * context.entries.length < 2 ^ 32 := by
  have hroom : ∀ ent ∈ context.entries, 32 ≤ HdEntry.room ent := by
    intro ent _
    rw [HdEntry.room, HdNv.room, entryRoom]
    omega
  have hle := mul_length_le hroom
  have heq := h.bufsize_eq
  have hlt := h.bufsize_lt
  omega

/-- The entries have different numbers: there are too few of them for the numbers to wrap around. -/
lemma Consistent.seq_ne (h : context.Consistent) {entries : List HdEntry} {ent : HdEntry}
    (hentries : context.entries = entries ++ [ent]) : ∀ ent' ∈ entries, ent'.seq ≠ ent.seq := by
  intro ent' hmem heq
  obtain ⟨j, hj, hget⟩ := List.mem_iff_getElem.1 hmem
  have hlength := h.length_lt
  rw [hentries, List.length_append, List.length_singleton] at hlength
  have hj' := h.seq j ent' (by
    rw [hentries, List.getElem?_append_left hj, List.getElem?_eq_getElem hj, hget])
  have hlast := h.seq entries.length ent (by simp [hentries])
  have hof : UInt32.ofNat (j + 1) = UInt32.ofNat (entries.length + 1) := by
    rw [hj', hlast] at heq
    exact (UInt32.sub_right_inj _).1 heq
  have htoNat := congrArg UInt32.toNat hof
  rw [UInt32.toNat_ofNat', UInt32.toNat_ofNat', Nat.mod_eq_of_lt (by omega),
    Nat.mod_eq_of_lt (by omega)] at htoNat
  omega

lemma entries_popEntry (context : HdContext) (ent : HdEntry) :
    (context.popEntry ent).entries = context.entries.dropLast :=
  Ringbuf.contents_popBack _

/-- The entry at the last place is the oldest one, and the loop that makes room finds it. -/
lemma get_last (context : HdContext) :
    context.table.get (context.table.len - 1) = context.entries.getLast? := by
  rw [List.getLast?_eq_getElem?, ← length_entries, Ringbuf.get_eq]
  rfl

/-- Without the oldest entry the table is still consistent. -/
lemma Consistent.popEntry (h : context.Consistent) {entries : List HdEntry} {ent : HdEntry}
    (hentries : context.entries = entries ++ [ent]) : (context.popEntry ent).Consistent := by
  have hpop : (context.popEntry ent).entries = entries := by
    rw [entries_popEntry, hentries, List.dropLast_concat]
  have hmem : ∀ ent' ∈ entries, ent' ∈ context.entries := by
    intro ent' hent'
    rw [hentries]
    exact List.mem_append_left _ hent'
  have hsize : context.bufsize = total HdEntry.room entries + ent.room := by
    rw [h.bufsize_eq, hentries, total_append, total_cons, total_nil, Nat.add_zero]
  have hlt := h.bufsize_lt
  refine ⟨?_, ?_, ?_, ?_, ?_⟩
  · rw [hpop]
    simp only [HdContext.popEntry]
    omega
  · simp only [HdContext.popEntry]
    omega
  · intro j ent' hj
    rw [hpop] at hj
    have hlength := (List.getElem?_eq_some_iff.1 hj).1
    exact h.seq j ent' (by rw [hentries, List.getElem?_append_left hlength, hj])
  · rw [hpop]
    exact fun ent' hent' => h.token ent' (hmem ent' hent')
  · rw [hpop]
    exact fun ent' hent' => h.indexed ent' (hmem ent' hent')

end HdContext

open HdContext

/-- What is left when there is room for `room` more, if there can be. -/
def keepRoom (max room : ℕ) (entries : List HdEntry) : List HdEntry :=
  if room ≤ max then keep HdEntry.room (max - room) entries else []

/-- The oldest entry of a table that is too full is not left. -/
lemma keepRoom_concat {max room : ℕ} {entries : List HdEntry} {ent : HdEntry}
    (h : max < total HdEntry.room (entries ++ [ent]) + room) :
    keepRoom max room (entries ++ [ent]) = keepRoom max room entries := by
  rw [keepRoom, keepRoom]
  split
  · exact keep_concat (by omega)
  · rfl

/-- A context and a map in which room was made: the newest entries are left, beside which there is
room, and the table is still consistent. -/
structure Evicted (room : ℕ) (context : HdContext) (map : Option HdMap)
    (result : HdContext × Option HdMap) : Prop where
  consistent : result.1.Consistent
  entries : result.1.entries = keepRoom context.bufsizeMax room context.entries
  bufsizeMax : result.1.bufsizeMax = context.bufsizeMax
  nextSeq : result.1.nextSeq = context.nextSeq
  bad : result.1.bad = context.bad
  isSome : result.2.isSome = map.isSome
  holds : ∀ map' ∈ result.2, map'.Holds result.1.entries

/-- **The loop leaves the newest entries, as many as fit.**  It takes away one after the other from
the old end, so that the induction is on their number, and `keep` drops the same ones because the
rooms add up to `bufsize`. -/
theorem entries_evict (room : ℕ) {context : HdContext} {map : Option HdMap}
    (h : context.Consistent) (hmap : ∀ map' ∈ map, map'.Holds context.entries) :
    Evicted room context map (evict room context map) := by
  fun_induction evict room context map with
  | case1 context map hfull hget =>
    rw [get_last, List.getLast?_eq_none_iff] at hget
    have hlength := context.length_entries
    rw [hget, List.length_nil] at hlength
    omega
  | case2 context map hfull ent hget ih =>
    rw [get_last, List.getLast?_eq_some_iff] at hget
    obtain ⟨entries, hentries⟩ := hget
    have hpop : (context.popEntry ent).entries = entries := by
      rw [entries_popEntry, hentries, List.dropLast_concat]
    have hremove : ∀ map' ∈ map.map fun map => map.remove ent,
        map'.Holds (context.popEntry ent).entries := by
      intro map' hmap'
      obtain ⟨map'', hmap'', rfl⟩ := Option.map_eq_some_iff.1 hmap'
      rw [hpop]
      exact (hentries ▸ hmap map'' hmap'').remove (h.seq_ne hentries)
    have hrest := ih (h.popEntry hentries) hremove
    have htotal : context.bufsizeMax < total HdEntry.room (entries ++ [ent]) + room := by
      rw [← hentries, ← h.bufsize_eq]
      exact hfull.1
    refine ⟨hrest.consistent, ?_, hrest.bufsizeMax, hrest.nextSeq, hrest.bad, ?_, hrest.holds⟩
    · rw [hrest.entries, hpop, hentries, keepRoom_concat htotal]
      rfl
    · rw [hrest.isSome, Option.isSome_map]
  | case3 context map hfits =>
    refine ⟨h, ?_, rfl, rfl, rfl, rfl, hmap⟩
    rw [keepRoom]
    rcases Nat.eq_zero_or_pos context.table.len with hempty | hpos
    · have hentries : context.entries = [] := by
        rw [← List.length_eq_zero_iff, length_entries, hempty]
      rw [hentries, keep_nil, ite_self]
    · have hle : context.bufsize + room ≤ context.bufsizeMax := by omega
      have heq := h.bufsize_eq
      rw [if_pos (by omega), keep_eq_self (by omega)]

/-- A valid table with the entries `entries` and their map. -/
structure Becomes (context : HdContext) (map : Option HdMap) (entries : List HdEntry)
    (result : HdContext × Option HdMap) : Prop where
  valid : result.1.Valid
  entries : result.1.entries = entries
  bufsizeMax : result.1.bufsizeMax = context.bufsizeMax
  bad : result.1.bad = context.bad
  isSome : result.2.isSome = map.isSome
  holds : ∀ map' ∈ result.2, map'.Holds result.1.entries

/-- **A table becomes smaller**: the newest fields that fit are left.  The new size may also be
larger, and then all of them fit. -/
theorem hdContextShrinkTableSize_spec {context : HdContext} {map : Option HdMap}
    (h : context.Consistent) (hmax : context.bufsizeMax < 2 ^ 32)
    (hmap : ∀ map' ∈ map, map'.Holds context.entries) :
    Becomes context map (keep HdEntry.room context.bufsizeMax context.entries)
      (hdContextShrinkTableSize context map) := by
  have hevict := entries_evict 0 h hmap
  have hentries : (evict 0 context map).1.entries =
      keep HdEntry.room context.bufsizeMax context.entries := by
    rw [hevict.entries, keepRoom, if_pos (Nat.zero_le _), Nat.sub_zero]
  refine ⟨⟨hevict.consistent, ?_, ?_⟩, hentries, hevict.bufsizeMax, hevict.bad, hevict.isSome,
    hevict.holds⟩
  · have hle : total HdEntry.room (keep HdEntry.room context.bufsizeMax context.entries) ≤
        context.bufsizeMax := total_keep_le _ _
    rw [← hentries, ← hevict.consistent.bufsize_eq] at hle
    exact hevict.bufsizeMax ▸ hle
  · exact hevict.bufsizeMax ▸ hmax

/-- The table after its size was changed.  In between it may be too large, which is why
`entries_evict` does not ask for a valid one. -/
lemma HdContext.Valid.shrink {context : HdContext} (h : context.Valid) {size : ℕ}
    (hsize : size < 2 ^ 32) (map : Option HdMap) (hmap : ∀ map' ∈ map, map'.Holds context.entries) :
    Becomes { context with bufsizeMax := size } map (keep HdEntry.room size context.entries)
      (hdContextShrinkTableSize { context with bufsizeMax := size } map) :=
  hdContextShrinkTableSize_spec ⟨h.bufsize_eq, h.bufsize_lt, h.seq, h.token, h.indexed⟩ hsize hmap

/-- The table with one more entry, whose number is the next one. -/
lemma HdContext.Consistent.push {context : HdContext} (h : context.Consistent) {nv : HdNv}
    (htoken : nv.token = lookupToken nv.name) (hindex : nv.noIndex = false)
    (hsize : context.bufsize + nv.room < 2 ^ 32) (hash : UInt32) {table : Ringbuf HdEntry}
    (htable : table.contents = ⟨nv, context.nextSeq, hash⟩ :: context.entries) :
    Consistent { context with
      table := table
      nextSeq := context.nextSeq + 1
      bufsize := context.bufsize + nv.room } where
  bufsize_eq := by
    rw [HdContext.entries, htable, total_cons, ← h.bufsize_eq]
    exact Nat.add_comm _ _
  bufsize_lt := hsize
  seq j ent hj := by
    rw [HdContext.entries, htable] at hj
    cases j with
    | zero =>
      rw [List.getElem?_cons_zero, Option.some.injEq] at hj
      rw [← hj]
      exact (UInt32.add_sub_cancel context.nextSeq 1).symm
    | succ j =>
      have hof : UInt32.ofNat (j + 1 + 1) = UInt32.ofNat (j + 1) + 1 := UInt32.ofNat_add _ _
      have hcancel : ∀ seq n : UInt32, seq - n = seq + 1 - (n + 1) := by grind
      rw [h.seq j ent hj, hof]
      exact hcancel _ _
  token ent hent := by
    rw [HdContext.entries, htable, List.mem_cons] at hent
    rcases hent with rfl | hent
    · exact htoken
    · exact h.token ent hent
  indexed ent hent := by
    rw [HdContext.entries, htable, List.mem_cons] at hent
    rcases hent with rfl | hent
    · exact hindex
    · exact h.indexed ent hent

/-- **A field is put into the table**, before the others, and the newest fields that fit are left:
of the new one and the old ones together, so that a field that is too large leaves nothing.  There
is always memory for it. -/
theorem addHdTableIncremental_spec {context : HdContext} (map : Option HdMap) {nv : HdNv}
    (h : context.Valid) (hmap : ∀ map' ∈ map, map'.Holds context.entries)
    (htoken : nv.token = lookupToken nv.name) (hindex : nv.noIndex = false) (hash : UInt32) :
    ∃ result, addHdTableIncremental context nv map hash = some result ∧
      Becomes context map (keep HdEntry.room context.bufsizeMax
        (⟨nv, context.nextSeq, hash⟩ :: context.entries)) result := by
  have hevict := entries_evict nv.room h.toConsistent hmap
  have hmax := h.max_lt
  rw [addHdTableIncremental]
  rcases hresult : evict nv.room context map with ⟨context', map'⟩
  rw [hresult] at hevict
  obtain ⟨hconsistent, hentries, hbufsizeMax, hnextSeq, hbad, hisSome, hholds⟩ := hevict
  have hkeep : keep HdEntry.room context.bufsizeMax (⟨nv, context.nextSeq, hash⟩ ::
      context.entries) = if nv.room ≤ context.bufsizeMax then
        ⟨nv, context.nextSeq, hash⟩ :: keep HdEntry.room (context.bufsizeMax - nv.room)
          context.entries else [] := keep_cons _ _ _
  rw [keepRoom] at hentries
  simp only at hconsistent hentries hbufsizeMax hnextSeq hbad hholds ⊢
  split
  case isTrue hlarge =>
    rw [hbufsizeMax] at hlarge
    rw [if_neg (by omega)] at hentries hkeep
    refine ⟨_, rfl, ⟨hconsistent, ?_, by rwa [hbufsizeMax]⟩, ?_, hbufsizeMax, hbad, hisSome,
      hholds⟩
    · rw [hconsistent.bufsize_eq, hentries, total_nil]
      exact Nat.zero_le _
    · rw [hkeep, hentries]
  case isFalse hfits =>
    rw [hbufsizeMax, Nat.not_lt] at hfits
    rw [if_pos hfits] at hentries hkeep
    have hsize : context'.bufsize + nv.room ≤ context.bufsizeMax := by
      have htotal : total HdEntry.room (keep HdEntry.room (context.bufsizeMax - nv.room)
          context.entries) ≤ context.bufsizeMax - nv.room := total_keep_le _ _
      rw [← hentries, ← hconsistent.bufsize_eq] at htotal
      omega
    have hlength := hconsistent.length_lt
    rw [length_entries] at hlength
    obtain ⟨table, htable⟩ := Option.isSome_iff_exists.1 (Ringbuf.pushFront_isSome
      (show context'.table.len < 2 ^ 60 by omega) ⟨nv, context'.nextSeq, hash⟩)
    have hcontents := Ringbuf.contents_pushFront htable
    rw [htable]
    refine ⟨_, rfl, ⟨hconsistent.push htoken hindex (by omega) hash hcontents, ?_, ?_⟩, ?_,
      hbufsizeMax, hbad, ?_, ?_⟩
    · exact hbufsizeMax ▸ hsize
    · exact hbufsizeMax ▸ hmax
    · rw [hkeep, ← hentries, ← hnextSeq]
      exact hcontents
    · rw [Option.isSome_map, hisSome]
    · intro map'' hmap''
      obtain ⟨map₀, hmap₀, rfl⟩ := Option.map_eq_some_iff.1 hmap''
      change (map₀.insert _).Holds table.contents
      rw [hcontents]
      exact (hholds map₀ hmap₀).insert _

end KituraHTTP2.Nghttp2
