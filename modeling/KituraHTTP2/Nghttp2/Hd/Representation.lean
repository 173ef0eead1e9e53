import KituraHTTP2.Nghttp2.HuffmanEncode
import KituraHTTP2.Nghttp2.Hd.Length
import KituraHTTP2.Nghttp2.Hd.Search

/-!
# The representations of a header block

A header block is a sequence of representations: a change of the table's size, the index of a field,
or a literal field, whose name may be an index.  What they mean depends on the dynamic table, and
each of them may change it, so that a block can only be understood from its beginning, and only by
someone who has understood all the blocks before it.

`Rep` is a representation before it is written, and `Rep.bytes` is what is written.  `Rep.run` says
what it means for a table: the field that it is, and the table after it; where it refers to an index
that the table does not have it means nothing.  The table is a list of fields here, with a limit
(`HdTable`).  The ring buffer, the numbers of the entries and the hash map are below that: they are
what the two sides have to find their way in the list.

Encoder and decoder are each compared with this meaning and not with each other.  The encoder writes
representations whose run gives the fields it was asked to send, from its own table; the decoder
reads each representation as what its run gives, from its own table.  If the two tables are equal,
so is what they make of the block, and they stay equal.  The encoder of this library writes no other
byte strings than these, and its decoder reads them; it also reads some that the encoder never
writes, as texts may come with or without Huffman coding.

* `HdContext.tableGet_eq`, `Becomes.toTable_add`, `Becomes.toTable_resize` — what the functions of
  the context do to the list.
* **`Rep.length_bytes_le`** — a representation is not much longer than its texts, so that the
  session can bound the length of a block before it is encoded.
-/

namespace KituraHTTP2.Nghttp2

open BoundedQueue

/-- A text, and whether it is Huffman-coded.  Both sides agree on the text alone. -/
structure HdString where
  text : Bytes
  huffman : Bool
deriving DecidableEq, Repr

namespace HdString

/-- The text as it is sent. -/
def encoded (s : HdString) : Bytes := if s.huffman then huffEncoded s.text else s.text

/-- The length of what is sent, and the text. -/
def bytes (s : HdString) : Bytes :=
  encodeLength (if s.huffman then 0x80 else 0) s.encoded.length 7 ++ s.encoded

end HdString

/-- The name of a literal field: that of a field of the tables, or a new one. -/
inductive HdName where
  | index (idx : ℕ)
  | new (name : HdString)
deriving DecidableEq, Repr

/-- A representation; an index counts from 0. -/
inductive Rep where
  | tableSize (size : ℕ)
  | indexed (idx : ℕ)
  | literal (mode : IndexingMode) (name : HdName) (value : HdString)
deriving DecidableEq, Repr

/-- `pack_first_byte` -/
def packFirstByte : IndexingMode → UInt8
  | .withIndexing => 0x40
  | .withoutIndexing => 0
  | .neverIndexing => 0x10

/-- The bits of the first byte that an index has for itself. -/
def prefixlen : IndexingMode → ℕ
  | .withIndexing => 6
  | _ => 4

namespace Rep

/-- What is written. -/
def bytes : Rep → Bytes
  | tableSize size => encodeLength 0x20 size 5
  | indexed idx => encodeLength 0x80 (idx + 1) 7
  | literal mode (.index idx) value =>
    encodeLength (packFirstByte mode) (idx + 1) (prefixlen mode) ++ value.bytes
  | literal mode (.new name) value => packFirstByte mode :: (name.bytes ++ value.bytes)

end Rep

/-! ## What a representation means -/

/-- A table of fields, the newest first, and its size. -/
structure HdTable where
  fields : List HdNv
  max : ℕ
deriving DecidableEq, Repr

namespace HdTable

/-- The field at an index of both tables. -/
def get (table : HdTable) (idx : ℕ) : Option HdNv :=
  if staticTableLength ≤ idx then table.fields[idx - staticTableLength]?
  else (staticTable[idx]?).map fun ent => ⟨ent.name, ent.value, some ent.token, false⟩

/-- A new field, before the others.  If it is larger than the table it is not there afterwards, and
neither are they. -/
def add (table : HdTable) (nv : HdNv) : HdTable :=
  { table with fields := keep HdNv.room table.max (nv :: table.fields) }

/-- Another size, with as many of the newest fields as fit. -/
def resize (table : HdTable) (max : ℕ) : HdTable := ⟨keep HdNv.room max table.fields, max⟩

end HdTable

/-- The table of a context, in which neither the numbers nor the slots of its entries are left. -/
def HdContext.toTable (context : HdContext) : HdTable := ⟨context.fields, context.bufsizeMax⟩

lemma HdContext.tableGet_eq (context : HdContext) (idx : ℕ) :
    context.tableGet idx = context.toTable.get idx := by
  rw [tableGet, HdTable.get]
  split
  · rw [Ringbuf.get_eq, toTable, fields, List.getElem?_map]
    rfl
  · rfl

/-- The index of a field is below `get_max_index`, which the decoder compares it with. -/
lemma lt_of_tableGet {context : HdContext} {idx : ℕ} {field : HdNv}
    (h : context.tableGet idx = some field) : idx < context.maxIndex := by
  rw [HdContext.maxIndex]
  rw [HdContext.tableGet] at h
  split at h
  · obtain ⟨ent, hent, -⟩ := Option.map_eq_some_iff.1 h
    rw [Ringbuf.get_eq] at hent
    have hlt : idx - staticTableLength < context.entries.length :=
      (List.getElem?_eq_some_iff.1 hent).1
    rw [HdContext.length_entries] at hlt
    omega
  · omega

/-- A valid index is small enough for the integers of a header block. -/
lemma HdContext.index_lt {context : HdContext} (h : context.Consistent) {idx : ℕ} {field : HdNv}
    (hget : context.tableGet idx = some field) : idx + 1 < 2 ^ 32 := by
  have hlt := lt_of_tableGet hget
  have hlength := h.length_lt
  rw [length_entries] at hlength
  rw [maxIndex, staticTableLength] at hlt
  omega

/-- The fields of the entries that are left. -/
lemma fields_of_entries {context : HdContext} {cap : ℕ} {entries : List HdEntry}
    (h : context.entries = keep HdEntry.room cap entries) :
    context.fields = keep HdNv.room cap (entries.map HdEntry.nv) := by
  rw [HdContext.fields, h]
  exact map_keep (fun _ => rfl) cap entries

/-- The table with a new field. -/
lemma Becomes.toTable_add {context : HdContext} {map : Option HdMap} {ent : HdEntry}
    {result : HdContext × Option HdMap}
    (h : Becomes context map (keep HdEntry.room context.bufsizeMax (ent :: context.entries))
      result) : result.1.toTable = context.toTable.add ent.nv := by
  rw [HdContext.toTable, fields_of_entries h.entries, h.bufsizeMax]
  rfl

/-- The table of another size. -/
lemma Becomes.toTable_resize {context : HdContext} {max : ℕ} {map : Option HdMap}
    {result : HdContext × Option HdMap}
    (h : Becomes { context with bufsizeMax := max } map (keep HdEntry.room max context.entries)
      result) : result.1.toTable = context.toTable.resize max := by
  rw [HdContext.toTable, fields_of_entries h.entries, h.bufsizeMax]
  rfl

namespace Rep

/-- The name of a literal, and its token. -/
def nameOf (table : HdTable) : HdName → Option (Bytes × Option ℕ)
  | .index idx => (table.get idx).map fun nv => (nv.name, nv.token)
  | .new name => some (name.text, lookupToken name.text)

/-- **The meaning of a representation**: the field that it is, if it is one, and the table after it.
A literal without indexing leaves the table alone. -/
def run (table : HdTable) : Rep → Option (Option HdNv × HdTable)
  | tableSize size => some (none, table.resize size)
  | indexed idx => (table.get idx).map fun nv => (some nv, table)
  | literal mode name value => (nameOf table name).map fun (name, token) =>
    let nv := ⟨name, value.text, token, decide (mode = .neverIndexing)⟩
    (some nv, if mode = .withIndexing then table.add nv else table)

/-- The fields of a sequence of representations, and the table after them. -/
def runs (table : HdTable) : List Rep → Option (List HdNv × HdTable)
  | [] => some ([], table)
  | rep :: reps => (rep.run table).bind fun (nv, table) =>
    (runs table reps).map fun (nvs, table) => (nv.toList ++ nvs, table)

lemma runs_cons {table table' table'' : HdTable} {rep : Rep} {reps : List Rep} {nv : Option HdNv}
    {nvs : List HdNv} (h : rep.run table = some (nv, table'))
    (hreps : runs table' reps = some (nvs, table'')) :
    runs table (rep :: reps) = some (nv.toList ++ nvs, table'') := by
  simp only [runs, h, Option.bind_some, hreps, Option.map_some]

/-- A field, and not a change of the table's size. -/
def IsField : Rep → Prop
  | tableSize _ => False
  | _ => True

/-- `NGHTTP2_HD_MAX_NV`, a limit of this library for what it decodes. -/
def maxNv : ℕ := 65536

/-- The length of the texts. -/
def textLength : Rep → ℕ
  | literal _ (.new name) value => name.encoded.length + value.encoded.length
  | literal _ (.index _) value => value.encoded.length
  | _ => 0

/-- The texts are not longer than a decoder of this library allows. -/
def Short : Rep → Prop
  | literal _ (.new name) value => name.encoded.length ≤ maxNv ∧ value.encoded.length ≤ maxNv
  | literal _ (.index _) value => value.encoded.length ≤ maxNv
  | _ => True

end Rep

/-! ## The length of a representation -/

lemma length_encodeLength_le (first : UInt8) (width : ℕ) {n k : ℕ} (h : n < 128 ^ (k + 1)) :
    (encodeLength first n width).length ≤ k + 2 := by
  have hrest : countEncodedRest (n - (2 ^ width - 1)) ≤ k + 1 := countEncodedRest_le (by omega)
  simp only [length_encodeLength, countEncodedLength]
  split <;> omega

lemma HdString.length_bytes_le {s : HdString} (h : s.encoded.length < 2 ^ 28) :
    s.bytes.length ≤ 5 + s.encoded.length := by
  have hlength := length_encodeLength_le (if s.huffman then 0x80 else 0) 7 (k := 3) h
  rw [bytes, List.length_append]
  omega

/-- **A field takes twelve bytes at most** besides its texts: an index and the length of one text,
or the lengths of two and a byte before them, and each of these integers takes six bytes at most.
So `nghttp2_hd_deflate_bound` is right to count twelve. -/
theorem Rep.length_bytes_le {context : HdContext} (h : context.Consistent) {rep : Rep}
    {nv : Option HdNv} {table : HdTable} (hrun : rep.run context.toTable = some (nv, table))
    (hfield : rep.IsField) (htext : rep.textLength < 2 ^ 28) :
    rep.bytes.length ≤ 12 + rep.textLength := by
  have hindex : ∀ {idx : ℕ} {nv : HdNv} (first : UInt8) (width : ℕ),
      context.toTable.get idx = some nv → (encodeLength first (idx + 1) width).length ≤ 6 := by
    intro idx nv first width hget
    rw [← HdContext.tableGet_eq] at hget
    have hlt := HdContext.index_lt h hget
    exact length_encodeLength_le first _ (k := 4) (by omega)
  cases rep with
  | tableSize size => exact absurd hfield id
  | indexed idx =>
    obtain ⟨nv, hget, -⟩ := Option.map_eq_some_iff.1 hrun
    have hlength := hindex 0x80 7 hget
    rw [bytes]
    omega
  | literal mode name value =>
    obtain ⟨named, hname, -⟩ := Option.map_eq_some_iff.1 hrun
    cases name with
    | index idx =>
      obtain ⟨nv, hget, -⟩ := Option.map_eq_some_iff.1 hname
      have hlength := hindex (packFirstByte mode) (prefixlen mode) hget
      have hvalue := HdString.length_bytes_le (s := value) htext
      simp only [bytes, textLength, List.length_append]
      omega
    | new name =>
      simp only [textLength] at htext
      have hlength := HdString.length_bytes_le (s := name) (by omega)
      have hvalue := HdString.length_bytes_le (s := value) (by omega)
      simp only [bytes, textLength, List.length_cons, List.length_append]
      omega

end KituraHTTP2.Nghttp2
