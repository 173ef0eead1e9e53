import Mathlib.Data.List.Basic
import KituraHTTP2.Platform

/-!
# Chained buffers

nghttp2 writes frames and header blocks to a chain of buffers of fixed size, `nghttp2_bufs`: a write
that does not fit goes on in the next buffer, and a new one is allocated if the chain may still
grow.  A buffer is memory with two places in it, `pos`, where what was written begins, and `last`,
where it ends.  That both lie in the memory, in this order, is a part of the type `Buf`, and so is
of `Bufs` that a chain has at most `maxChunk` buffers.

**Slow and fast writes.**  A slow write looks for room first.  The functions whose names have `fast`
write to the current buffer without a look at its end, because a slow write has just found room
there; and those with `hold` put a byte at `last` and leave `last` where it is, so that the next
write can add bits to it.  In the program a write beyond the end would overwrite the memory behind
the buffer.  Here it is the error `invalidWrite`, so that the proofs have to show that it never
happens.

**What a write should do** is `Writes`: where the chain has room for the bytes they come after those
that were written before, and where it has not the result is `NGHTTP2_ERR_BUFFER_ERROR`.  The
encoder of header blocks relies on both halves, since it writes without reckoning how long a block
will be and learns from the error alone that it is too long.  The room counts the buffers that may
still be allocated, and each write takes from it just as many bytes as it was given, wherever the
buffers end.  So one write after the other is one write of all the bytes (`Writes.bind`).

**The layout** of the buffers matters once they are full: a frame is packed when its header block
has been written, and its header goes before the block, into the room that each buffer leaves at its
beginning (`Laid`).  No write touches that (`SameLayout`).

* **`writes_add`**, `writes_addb` — the writes do that, however the bytes fall on the buffers.
* `fastAddb_eq` — where the current buffer has room, a fast write is a slow one.
* `addbHold_cases` — a byte that is held is there for the next write, and does not count as written.
-/

namespace KituraHTTP2.Nghttp2

/-! ## A buffer -/

/-- `nghttp2_buf`: the memory from `begin` to `end`, and the places of `pos` and `last` in it. -/
structure Buf where
  mem : Bytes
  pos : ℕ
  last : ℕ
  pos_le : pos ≤ last
  last_le : last ≤ mem.length

namespace Buf

/-- `nghttp2_buf_len` -/
def len (buf : Buf) : ℕ := buf.last - buf.pos

/-- `nghttp2_buf_avail` -/
def avail (buf : Buf) : ℕ := buf.mem.length - buf.last

/-- The bytes from `pos` to `last`. -/
def contents (buf : Buf) : Bytes := (buf.mem.take buf.last).drop buf.pos

/-- The byte at `last`, which the next write may find.  It is not among the contents. -/
def held (buf : Buf) : UInt8 := buf.mem.getD buf.last 0

/-- `*last = b` -/
def hold (buf : Buf) (b : UInt8) : Buf :=
  { buf with
    mem := buf.mem.set buf.last b
    last_le := by rw [List.length_set]; exact buf.last_le }

/-- `*last++ = b` -/
def push (buf : Buf) (b : UInt8) (h : 0 < buf.avail) : Buf :=
  { buf.hold b with
    last := buf.last + 1
    pos_le := Nat.le_succ_of_le buf.pos_le
    last_le := by
      have hlast := buf.last_le
      simp only [hold, List.length_set, avail] at h ⊢
      omega }

/-- `nghttp2_cpymem(buf->last, data, len)` -/
def copy (buf : Buf) (data : Bytes) (_h : data.length ≤ buf.avail) : Buf where
  mem := buf.mem.take buf.last ++ data ++ buf.mem.drop (buf.last + data.length)
  pos := buf.pos
  last := buf.last + data.length
  pos_le := Nat.le_add_right_of_le buf.pos_le
  last_le := by
    have hlast := buf.last_le
    simp only [List.length_append, List.length_take, List.length_drop]
    omega

@[simp]
lemma avail_hold (buf : Buf) (b : UInt8) : (buf.hold b).avail = buf.avail := by
  simp [hold, avail]

@[simp]
lemma avail_push {buf : Buf} {b : UInt8} (h : 0 < buf.avail) :
    (buf.push b h).avail = buf.avail - 1 := by
  simp [push, hold, avail]
  omega

@[simp]
lemma contents_hold (buf : Buf) (b : UInt8) : (buf.hold b).contents = buf.contents := by
  simp [hold, contents, List.take_set_of_le]

lemma held_hold {buf : Buf} {b : UInt8} (h : 0 < buf.avail) : (buf.hold b).held = b := by
  simp only [avail] at h
  simp [hold, held, List.getD_eq_getElem?_getD, show buf.last < buf.mem.length by omega]

@[simp]
lemma contents_push {buf : Buf} {b : UInt8} (h : 0 < buf.avail) :
    (buf.push b h).contents = buf.contents ++ [b] := by
  have hlt : buf.last < buf.mem.length := by
    simp only [avail] at h
    omega
  have hpos : buf.pos ≤ (buf.mem.take buf.last).length := by
    rw [List.length_take]
    exact le_min buf.pos_le (Nat.le_trans buf.pos_le buf.last_le)
  have htake : (buf.mem.set buf.last b).take (buf.last + 1) = buf.mem.take buf.last ++ [b] := by
    rw [List.take_add_one, List.take_set_of_le (Nat.le_refl _), List.getElem?_set_self hlt]
    rfl
  change ((buf.mem.set buf.last b).take (buf.last + 1)).drop buf.pos = _
  rw [htake, List.drop_append_of_le_length hpos, contents]

@[simp]
lemma avail_copy {buf : Buf} {data : Bytes} (h : data.length ≤ buf.avail) :
    (buf.copy data h).avail = buf.avail - data.length := by
  have hlast := buf.last_le
  simp only [copy, avail, List.length_append, List.length_take, List.length_drop] at h ⊢
  omega

lemma length_copy {buf : Buf} {data : Bytes} (h : data.length ≤ buf.avail) :
    (buf.copy data h).mem.length = buf.mem.length := by
  have hlast := buf.last_le
  simp only [copy, avail, List.length_append, List.length_take, List.length_drop] at h ⊢
  omega

@[simp]
lemma contents_copy {buf : Buf} {data : Bytes} (h : data.length ≤ buf.avail) :
    (buf.copy data h).contents = buf.contents ++ data := by
  have hpos : buf.pos ≤ (buf.mem.take buf.last).length := by
    rw [List.length_take]
    exact le_min buf.pos_le (Nat.le_trans buf.pos_le buf.last_le)
  have hlength : (buf.mem.take buf.last ++ data).length = buf.last + data.length := by
    have hlast := buf.last_le
    simp only [List.length_append, List.length_take]
    omega
  have htake : (buf.copy data h).mem.take (buf.copy data h).last = buf.mem.take buf.last ++ data :=
    List.take_left' hlength
  rw [contents, htake]
  exact List.drop_append_of_le_length hpos

end Buf

/-! ## A chain of buffers -/

/-- What goes wrong in a write: `NGHTTP2_ERR_BUFFER_ERROR`, or a write beyond the end of a
buffer. -/
inductive BufsError where
  | bufferError | invalidWrite
deriving DecidableEq, Repr

/-- `nghttp2_mem`: what a block of each size holds when it is allocated. -/
structure Mem where
  malloc : ℕ → Bytes
  length_malloc : ∀ size, (malloc size).length = size

/-- `nghttp2_bufs`: the buffers before `cur`, `cur`, and the buffers after it.  The last ones are
left from an earlier use of the chain. -/
structure Bufs where
  prior : List Buf
  cur : Buf
  next : List Buf
  chunkLength : ℕ
  maxChunk : ℕ
  offset : ℕ
  mem : Mem
  used_le : prior.length + 1 + next.length ≤ maxChunk
  offset_le : offset ≤ chunkLength

/-- `buf_chain_new` and `nghttp2_buf_shift_right` -/
def Buf.new (mem : Mem) (chunkLength offset : ℕ) (h : offset ≤ chunkLength) : Buf where
  mem := mem.malloc chunkLength
  pos := offset
  last := offset
  pos_le := Nat.le_refl offset
  last_le := by rwa [mem.length_malloc]

namespace Bufs

/-- `nghttp2_bufs_init3` -/
def init (chunkLength maxChunk offset : ℕ) (mem : Mem) (h : 0 < maxChunk)
    (hoffset : offset ≤ chunkLength) : Bufs where
  prior := []
  cur := Buf.new mem chunkLength offset hoffset
  next := []
  chunkLength := chunkLength
  maxChunk := maxChunk
  offset := offset
  mem := mem
  used_le := h
  offset_le := hoffset

/-- `chunk_used` -/
def chunkUsed (bufs : Bufs) : ℕ := bufs.prior.length + 1 + bufs.next.length

/-- All that was written, over the ends of the buffers. -/
def contents (bufs : Bufs) : Bytes := (bufs.prior ++ bufs.cur :: bufs.next).flatMap Buf.contents

/-- `bufs_alloc_chain` -/
def allocChain (bufs : Bufs) : Except BufsError Bufs :=
  match h : bufs.next with
  | buf :: next =>
    .ok { bufs with
      prior := bufs.prior ++ [bufs.cur]
      cur := buf
      next := next
      used_le := by
        have hused := bufs.used_le
        simp only [h, List.length_cons, List.length_append, List.length_nil] at hused ⊢
        omega }
  | [] =>
    if hmax : bufs.maxChunk = bufs.chunkUsed then .error .bufferError
    else .ok { bufs with
      prior := bufs.prior ++ [bufs.cur]
      cur := Buf.new bufs.mem bufs.chunkLength bufs.offset bufs.offset_le
      next := []
      used_le := by
        have hused := bufs.used_le
        simp only [chunkUsed, h, List.length_append, List.length_cons, List.length_nil] at hmax hused ⊢
        omega }

/-- The write goes on in another buffer, so that fewer are left: this is why `add` ends. -/
lemma prior_of_allocChain {bufs bufs' : Bufs} (h : bufs.allocChain = .ok bufs') :
    bufs'.prior = bufs.prior ++ [bufs.cur] ∧ bufs'.maxChunk = bufs.maxChunk := by
  unfold allocChain at h
  split at h
  · cases h
    exact ⟨rfl, rfl⟩
  · split at h
    · cases h
    · cases h
      exact ⟨rfl, rfl⟩

/-- `nghttp2_bufs_add`: as much as fits into the current buffer is copied there, and the rest is
written to the next one. -/
def add (bufs : Bufs) (data : Bytes) : Except BufsError Bufs :=
  if data = [] then .ok bufs
  else if 0 < bufs.cur.avail then
    let nwrite := min bufs.cur.avail data.length
    add { bufs with cur := bufs.cur.copy (data.take nwrite) (by simp [nwrite]) } (data.drop nwrite)
  else
    match h : bufs.allocChain with
    | .ok bufs' => add bufs' data
    | .error error => .error error
termination_by (data.length, bufs.maxChunk - bufs.prior.length)
decreasing_by
  · left
    have hlength : 0 < data.length := List.length_pos_iff.2 ‹_›
    simp only [List.length_drop]
    omega
  · right
    have hused := bufs.used_le
    obtain ⟨hprior, hmax⟩ := prior_of_allocChain h
    simp only [hprior, hmax, List.length_append, List.length_cons, List.length_nil]
    omega

/-- `bufs_ensure_addb`: afterwards the current buffer has room for a byte. -/
def ensureAddb (bufs : Bufs) : Except BufsError Bufs :=
  if 0 < bufs.cur.avail then .ok bufs else bufs.allocChain

/-- `*cur->buf.last++ = b` -/
def push (bufs : Bufs) (b : UInt8) (h : 0 < bufs.cur.avail) : Bufs :=
  { bufs with cur := bufs.cur.push b h }

/-- `*cur->buf.last = b` -/
def hold (bufs : Bufs) (b : UInt8) : Bufs := { bufs with cur := bufs.cur.hold b }

/-- `nghttp2_bufs_fast_addb`, which writes without a look at the end of the buffer. -/
def fastAddb (bufs : Bufs) (b : UInt8) : Except BufsError Bufs :=
  if h : 0 < bufs.cur.avail then .ok (bufs.push b h) else .error .invalidWrite

/-- `nghttp2_bufs_fast_addb_hold` -/
def fastAddbHold (bufs : Bufs) (b : UInt8) : Except BufsError Bufs :=
  if 0 < bufs.cur.avail then .ok (bufs.hold b) else .error .invalidWrite

/-- `nghttp2_bufs_fast_orb`: bits are added to the byte that was held, and it is written. -/
def fastOrb (bufs : Bufs) (b : UInt8) : Except BufsError Bufs :=
  bufs.fastAddb (bufs.cur.held ||| b)

/-- `nghttp2_bufs_fast_orb_hold`: bits are added to the byte that was held, and it is held again. -/
def fastOrbHold (bufs : Bufs) (b : UInt8) : Except BufsError Bufs :=
  bufs.fastAddbHold (bufs.cur.held ||| b)

/-- `nghttp2_bufs_addb`: a fast write, after room was made for it. -/
def addb (bufs : Bufs) (b : UInt8) : Except BufsError Bufs :=
  bufs.ensureAddb.bind fun bufs => bufs.fastAddb b

/-- `nghttp2_bufs_addb_hold` -/
def addbHold (bufs : Bufs) (b : UInt8) : Except BufsError Bufs :=
  bufs.ensureAddb.bind fun bufs => bufs.fastAddbHold b

/-! ## What a write does -/

/-- The number of bytes that can still be written: in the current buffer, in those after it, and in
those that may be allocated, of which each leaves `offset` bytes free. -/
def room (bufs : Bufs) : ℕ :=
  bufs.cur.avail + (bufs.next.map Buf.avail).sum +
    (bufs.maxChunk - bufs.chunkUsed) * (bufs.chunkLength - bufs.offset)

/-- The buffers that are not in use yet are empty and have room. -/
structure Ready (bufs : Bufs) : Prop where
  empty : ∀ buf ∈ bufs.next, buf.contents = []
  avail : ∀ buf ∈ bufs.next, 0 < buf.avail
  fresh : bufs.offset < bufs.chunkLength

/-- The buffers have the size that new ones have, and leave `low` bytes free. -/
def Laid (bufs : Bufs) (low : ℕ) : Prop :=
  ∀ buf ∈ bufs.prior ++ bufs.cur :: bufs.next, buf.mem.length = bufs.chunkLength ∧ low ≤ buf.pos

/-- `bufs->head` -/
def head (bufs : Bufs) : Buf := bufs.prior.headD bufs.cur

/-- The layout of the buffers stays, so that a header can be put before what they hold. -/
structure SameLayout (bufs bufs' : Bufs) : Prop where
  chunkLength : bufs'.chunkLength = bufs.chunkLength
  maxChunk : bufs'.maxChunk = bufs.maxChunk
  offset : bufs'.offset = bufs.offset
  next : bufs.next = [] → bufs'.next = []
  laid : ∀ low ≤ bufs.offset, bufs.Laid low → bufs'.Laid low
  pos_head : bufs'.head.pos = bufs.head.pos

lemma SameLayout.trans {bufs bufs' bufs'' : Bufs} (h : SameLayout bufs bufs')
    (h' : SameLayout bufs' bufs'') : SameLayout bufs bufs'' :=
  ⟨h'.chunkLength.trans h.chunkLength, h'.maxChunk.trans h.maxChunk, h'.offset.trans h.offset,
    fun hnext => h'.next (h.next hnext), fun low hlow hlaid =>
      h'.laid low (h.offset ▸ hlow) (h.laid low hlow hlaid), h'.pos_head.trans h.pos_head⟩

/-- A write to the current buffer. -/
lemma SameLayout.cur {bufs : Bufs} {cur : Buf} (hlength : cur.mem.length = bufs.cur.mem.length)
    (hpos : cur.pos = bufs.cur.pos) : SameLayout bufs { bufs with cur := cur } where
  chunkLength := rfl
  maxChunk := rfl
  offset := rfl
  next h := h
  laid low hlow h buf hbuf := by
    simp only [List.mem_append, List.mem_cons] at hbuf
    rcases hbuf with hbuf | rfl | hbuf
    · exact h buf (by simp [hbuf])
    · have hcur := h bufs.cur (by simp)
      rwa [← hlength, ← hpos] at hcur
    · exact h buf (by simp [hbuf])
  pos_head := by
    simp only [head]
    cases bufs.prior with
    | nil => exact hpos
    | cons buf prior => rfl

/-- `data` was written to `bufs`: it comes after what was there, takes up as much room as it is
long, and the chain is as fit for the next write as before. -/
structure Written (bufs : Bufs) (data : Bytes) (bufs' : Bufs) : Prop where
  contents : bufs'.contents = bufs.contents ++ data
  room : bufs'.room + data.length = bufs.room
  ready : bufs'.Ready
  layout : SameLayout bufs bufs'

/-- The result of writing `data` to `bufs`, as it should be.  It depends on the room alone: what is
written never depends on where a buffer ends. -/
def Writes (result : Except BufsError Bufs) (bufs : Bufs) (data : Bytes) : Prop :=
  if data.length ≤ bufs.room then ∃ bufs', result = .ok bufs' ∧ Written bufs data bufs'
  else result = .error .bufferError

variable {bufs bufs' bufs'' : Bufs} {data data' : Bytes}

lemma Written.refl (h : bufs.Ready) : Written bufs [] bufs :=
  ⟨by simp, by simp, h, rfl, rfl, rfl, id, fun _ _ => id, rfl⟩

lemma Written.trans (h : Written bufs data bufs') (h' : Written bufs' data' bufs'') :
    Written bufs (data ++ data') bufs'' where
  contents := by rw [h'.contents, h.contents, List.append_assoc]
  room := by
    have hroom := h.room
    have hroom' := h'.room
    rw [List.length_append]
    omega
  ready := h'.ready
  layout := h.layout.trans h'.layout

lemma writes_nil (h : bufs.Ready) : Writes (.ok bufs) bufs [] := by
  have hempty : ([] : Bytes).length ≤ bufs.room := Nat.zero_le _
  rw [Writes, if_pos hempty]
  exact ⟨bufs, rfl, .refl h⟩

/-- What is written after `data` is written after what was there before `data`, too. -/
lemma Writes.after {result : Except BufsError Bufs} (h : Written bufs data bufs')
    (hresult : Writes result bufs' data') : Writes result bufs (data ++ data') := by
  have hroom := h.room
  unfold Writes at hresult ⊢
  rw [List.length_append]
  by_cases hdata : data'.length ≤ bufs'.room
  · rw [if_pos hdata] at hresult
    obtain ⟨bufs'', hok, hwritten⟩ := hresult
    rw [if_pos (by omega)]
    exact ⟨bufs'', hok, h.trans hwritten⟩
  · rw [if_neg hdata] at hresult
    rw [if_neg (by omega)]
    exact hresult

/-- One write after the other is one write.  If there is no room for the first there is none for
both, so that the error may come early. -/
lemma Writes.bind {result : Except BufsError Bufs} {write : Bufs → Except BufsError Bufs}
    (h : Writes result bufs data)
    (hwrite : ∀ bufs', Written bufs data bufs' → Writes (write bufs') bufs' data') :
    Writes (result.bind write) bufs (data ++ data') := by
  unfold Writes at h
  by_cases hdata : data.length ≤ bufs.room
  · rw [if_pos hdata] at h
    obtain ⟨bufs', rfl, hwritten⟩ := h
    exact Writes.after hwritten (hwrite bufs' hwritten)
  · rw [if_neg hdata] at h
    rw [Writes, if_neg (by rw [List.length_append]; omega), h]
    rfl

lemma contents_new (mem : Mem) (chunkLength offset : ℕ) (h : offset ≤ chunkLength) :
    (Buf.new mem chunkLength offset h).contents = [] := by
  simp [Buf.contents, Buf.new]

lemma avail_new (mem : Mem) (chunkLength offset : ℕ) (h : offset ≤ chunkLength) :
    (Buf.new mem chunkLength offset h).avail = chunkLength - offset := by
  simp [Buf.avail, Buf.new, mem.length_malloc]

/-- The head stays the head. -/
lemma pos_head_concat (bufs : Bufs) (cur : Buf) :
    ((bufs.prior ++ [bufs.cur]).headD cur).pos = bufs.head.pos := by
  rw [head]
  cases bufs.prior <;> rfl

/-- The next buffer is taken, or one is allocated, and it has room; or there is no room at all.
This is the only place where the chain runs out. -/
lemma allocChain_cases (h : bufs.Ready) (hcur : ¬ 0 < bufs.cur.avail) :
    (∃ bufs', bufs.allocChain = .ok bufs' ∧ Written bufs [] bufs' ∧ 0 < bufs'.cur.avail) ∨
      bufs.allocChain = .error .bufferError ∧ bufs.room = 0 := by
  have hfull : bufs.cur.avail = 0 := Nat.eq_zero_of_not_pos hcur
  unfold allocChain
  split
  · rename_i buf next hnext
    refine Or.inl ⟨_, rfl, ⟨?_, ?_, ?_, rfl, rfl, rfl, ?_, ?_, ?_⟩, h.avail buf (by simp [hnext])⟩
    · simp [Bufs.contents, hnext]
    · simp [room, chunkUsed, hnext, hfull]
      omega
    · exact ⟨fun b hb => h.empty b (by simp [hnext, hb]),
        fun b hb => h.avail b (by simp [hnext, hb]), h.fresh⟩
    · simp [hnext]
    · intro low hlow hlaid
      simpa [Laid, hnext] using hlaid
    · exact pos_head_concat bufs _
  · rename_i hnext
    split
    · rename_i hmax
      exact Or.inr ⟨rfl, by simp [room, hnext, hfull, hmax]⟩
    · rename_i hmax
      have hused := bufs.used_le
      have havail := avail_new bufs.mem bufs.chunkLength bufs.offset bufs.offset_le
      refine Or.inl ⟨_, rfl, ⟨?_, ?_, ?_, rfl, rfl, rfl, fun _ => rfl, ?_, ?_⟩, ?_⟩
      · simp [Bufs.contents, hnext, contents_new]
      · have hcount : bufs.maxChunk - (bufs.prior.length + 1) =
            bufs.maxChunk - (bufs.prior.length + 2) + 1 := by
          simp only [chunkUsed, hnext, List.length_nil] at hmax hused
          omega
        simp only [room, chunkUsed, hnext, hfull, havail, List.map_nil, List.sum_nil,
          List.length_nil, List.length_append, List.length_cons, Nat.add_zero, Nat.zero_add]
        rw [hcount, Nat.add_mul]
        omega
      · exact ⟨by simp, by simp, h.fresh⟩
      · intro low hlow hlaid buf hbuf
        simp only [List.mem_append, List.mem_cons, List.not_mem_nil, or_false] at hbuf
        rcases hbuf with (hbuf | rfl) | rfl
        · exact hlaid buf (by simp [hbuf])
        · exact hlaid bufs.cur (by simp)
        · exact ⟨bufs.mem.length_malloc _, hlow⟩
      · exact pos_head_concat bufs _
      · exact havail ▸ Nat.sub_pos_of_lt h.fresh

lemma Ready.next_contents (h : bufs.Ready) : bufs.next.flatMap Buf.contents = [] :=
  List.flatMap_eq_nil_iff.2 h.empty

/-- A write to the current buffer that fits there: the case in which no other buffer is touched. -/
lemma written_copy (h : bufs.Ready) (hdata : data.length ≤ bufs.cur.avail) :
    Written bufs data { bufs with cur := bufs.cur.copy data hdata } where
  contents := by simp [Bufs.contents, h.next_contents]
  room := by
    simp only [room, chunkUsed, Buf.avail_copy]
    omega
  ready := ⟨h.empty, h.avail, h.fresh⟩
  layout := SameLayout.cur (Buf.length_copy hdata) rfl

lemma avail_le_room (bufs : Bufs) : bufs.cur.avail ≤ bufs.room := by
  rw [room]
  omega

/-- **Bytes are written one after the other, over as many buffers as it takes.**  The induction is
on the calls: each copies what the current buffer can hold, or takes the next one, and what is left
to write is a write of its own, to which the bytes before are added. -/
theorem writes_add (h : bufs.Ready) (data : Bytes) : Writes (bufs.add data) bufs data := by
  fun_induction bufs.add data with
  | case1 bufs => exact writes_nil h
  | case2 bufs data hdata havail nwrite ih =>
    have hcopy : (data.take nwrite).length ≤ bufs.cur.avail := by simp [nwrite]
    have hwritten := written_copy h hcopy
    have hrest := Writes.after hwritten (ih hwritten.ready)
    rwa [List.take_append_drop] at hrest
  | case3 bufs data hdata havail bufs' halloc ih =>
    rcases allocChain_cases h havail with ⟨bufs'', hok, hwritten, -⟩ | ⟨herror, -⟩
    · cases halloc.symm.trans hok
      exact Writes.after hwritten (ih hwritten.ready)
    · cases halloc.symm.trans herror
  | case4 bufs data hdata havail error halloc =>
    rcases allocChain_cases h havail with ⟨bufs'', hok, -, -⟩ | ⟨herror, hroom⟩
    · cases halloc.symm.trans hok
    · cases halloc.symm.trans herror
      have hlength : 0 < data.length := List.length_pos_iff.2 hdata
      rw [Writes, if_neg (by omega)]

/-- A buffer with room is at hand, or there is no room at all. -/
lemma ensureAddb_cases (h : bufs.Ready) :
    (∃ bufs', bufs.ensureAddb = .ok bufs' ∧ Written bufs [] bufs' ∧ 0 < bufs'.cur.avail) ∨
      bufs.ensureAddb = .error .bufferError ∧ bufs.room = 0 := by
  rw [ensureAddb]
  split
  case isTrue havail => exact Or.inl ⟨bufs, rfl, .refl h, havail⟩
  case isFalse havail => exact allocChain_cases h havail

@[simp]
lemma avail_push (havail : 0 < bufs.cur.avail) (b : UInt8) :
    (bufs.push b havail).cur.avail = bufs.cur.avail - 1 := Buf.avail_push havail

@[simp]
lemma avail_hold (bufs : Bufs) (b : UInt8) : (bufs.hold b).cur.avail = bufs.cur.avail :=
  Buf.avail_hold bufs.cur b

lemma held_hold (havail : 0 < bufs.cur.avail) (b : UInt8) : (bufs.hold b).cur.held = b :=
  Buf.held_hold havail

lemma fastAddb_eq_ok (havail : 0 < bufs.cur.avail) (b : UInt8) :
    bufs.fastAddb b = .ok (bufs.push b havail) := by
  rw [fastAddb, dif_pos havail]

/-- **A fast write is a slow one** where the current buffer has room, so that nothing has to be
proved twice of the encoder of Huffman codes, which makes both. -/
lemma fastAddb_eq (havail : 0 < bufs.cur.avail) (b : UInt8) : bufs.fastAddb b = bufs.addb b := by
  rw [addb, ensureAddb, if_pos havail]
  rfl

lemma fastAddbHold_eq (havail : 0 < bufs.cur.avail) (b : UInt8) :
    bufs.fastAddbHold b = bufs.addbHold b := by
  rw [addbHold, ensureAddb, if_pos havail]
  rfl

lemma written_push (h : bufs.Ready) (havail : 0 < bufs.cur.avail) (b : UInt8) :
    Written bufs [b] (bufs.push b havail) where
  contents := by simp [Bufs.contents, push, h.next_contents]
  room := by
    simp only [room, chunkUsed, push, Buf.avail_push, List.length_singleton]
    omega
  ready := ⟨h.empty, h.avail, h.fresh⟩
  layout := SameLayout.cur List.length_set rfl

/-- A byte is written. -/
lemma writes_addb (h : bufs.Ready) (b : UInt8) : Writes (bufs.addb b) bufs [b] := by
  rw [addb]
  rcases ensureAddb_cases h with ⟨bufs', hok, hwritten, havail⟩ | ⟨herror, hroom⟩
  · rw [hok, Except.bind, fastAddb_eq_ok havail]
    refine Writes.after hwritten ?_
    have hroom := bufs'.avail_le_room
    rw [Writes, if_pos (by rw [List.length_singleton]; omega)]
    exact ⟨_, rfl, written_push hwritten.ready havail b⟩
  · rw [herror, Writes, if_neg (by rw [List.length_singleton]; omega)]
    rfl

/-- The byte at `last` does not count as written, so that a write may end with one. -/
lemma Written.hold (h : Written bufs data bufs') (b : UInt8) :
    Written bufs data (bufs'.hold b) where
  contents := by
    rw [← h.contents]
    simp [Bufs.contents, Bufs.hold]
  room := by
    rw [← h.room]
    simp [Bufs.room, Bufs.hold, chunkUsed]
  ready := ⟨h.ready.empty, h.ready.avail, h.ready.fresh⟩
  layout := h.layout.trans (SameLayout.cur List.length_set rfl)

/-- A byte is put at `last`, and the next write may find it there. -/
lemma addbHold_cases (h : bufs.Ready) (b : UInt8) :
    (∃ bufs', bufs.addbHold b = .ok bufs' ∧ Written bufs [] bufs' ∧ 0 < bufs'.cur.avail ∧
      bufs'.cur.held = b) ∨ bufs.addbHold b = .error .bufferError ∧ bufs.room = 0 := by
  rw [addbHold]
  rcases ensureAddb_cases h with ⟨bufs', hok, hwritten, havail⟩ | ⟨herror, hroom⟩
  · rw [hok, Except.bind, fastAddbHold, if_pos havail]
    exact Or.inl ⟨_, rfl, hwritten.hold b, by simpa using havail, held_hold havail b⟩
  · rw [herror]
    exact Or.inr ⟨rfl, hroom⟩

end Bufs

end KituraHTTP2.Nghttp2
