import Mathlib.Data.List.Basic
import Mathlib.Data.Nat.Bitwise
import Mathlib.Data.Nat.ModEq

/-!
# The ring buffer of a header table

The dynamic table of a header block grows at one end and loses its oldest entries at the other, so
nghttp2 keeps it in a ring buffer: a new entry goes to the slot before `first`, and the oldest one
is given up by making `len` smaller.  Nothing is moved, and an index of the table is the distance
from `first`.

**Slots.**  The size is a power of two, so that an index is taken modulo the size by a mask.
`first` is a `size_t` that counts down from 0 and wraps around at `2 ^ 64`; as the size divides `2 ^
64`, the wrap does not disturb the indices (`slot_eq`).  The program relies on this at the very
first entry, which is put into the slot before 0.

**Memory.**  A slot that was not written yet holds what the allocator left there, which nobody may
read.  It is `none` here, and the type `Ringbuf` says that the slots in use hold an element, so that
`get` fails for an index that is out of range and for no other reason.  When the buffer is full it
is replaced by one of twice the size, to which the elements are copied in their order (`reserve`);
the size stays below `2 ^ 60`, far above what a table of 32 bits can ask for.

What the operations mean is said of `Ringbuf.contents`, the list of the elements with the newest
first.  Everything above this module speaks of that list, and of neither slots nor masks.

* `slot_eq`, `add_mod_injective` — the mask takes a place modulo the size, and the slots in use are
  different.
* **`contents_pushFront`**, `contents_popBack`, `contents_init` — what the operations do to the
  list.
* `get_eq` — an element is found by its place in the list.
-/

namespace KituraHTTP2.Nghttp2

/-- `size_t` arithmetic. -/
def sizeMax : ℕ := 2 ^ 64

/-- `nghttp2_hd_ringbuf`, where a slot of `buffer` that was not written yet is `none`. -/
structure Ringbuf (α : Type*) where
  buffer : List (Option α)
  mask : ℕ
  first : ℕ
  len : ℕ
  size_pow : ∃ k ≤ 60, mask + 1 = 2 ^ k
  length_buffer : buffer.length = mask + 1
  len_le : len ≤ mask + 1
  filled : ∀ i < len, ((buffer[((first + i) % sizeMax) &&& mask]?).join).isSome

namespace Ringbuf

variable {α : Type*}

/-- `for (size = 1; size < bufsize; size <<= 1);` from `1 <<< k` on, with the exponent. -/
def exponentFrom (bufsize k : ℕ) : ℕ := if 1 <<< k < bufsize then exponentFrom bufsize (k + 1) else k
termination_by bufsize - 1 <<< k
decreasing_by
  rw [Nat.shiftLeft_eq, Nat.one_mul] at *
  rw [Nat.shiftLeft_eq, Nat.one_mul, Nat.pow_succ]
  have hpos : 0 < 2 ^ k := Nat.two_pow_pos k
  omega

/-- The place of an element in the buffer. -/
def slot (mask first idx : ℕ) : ℕ := ((first + idx) % sizeMax) &&& mask

/-- `hd_ringbuf_get`, which asserts that the index is below `len`. -/
def get (ringbuf : Ringbuf α) (idx : ℕ) : Option α :=
  if idx < ringbuf.len then (ringbuf.buffer[slot ringbuf.mask ringbuf.first idx]?).join else none

/-- The elements, the newest first. -/
def contents (ringbuf : Ringbuf α) : List α := (List.range ringbuf.len).filterMap ringbuf.get

/-! ## Slots -/

/-- The size is large enough. -/
lemma le_two_pow_exponentFrom (bufsize k : ℕ) : bufsize ≤ 2 ^ exponentFrom bufsize k := by
  fun_induction exponentFrom bufsize k with
  | case1 k _ ih => exact ih
  | case2 k h =>
    rw [Nat.shiftLeft_eq, Nat.one_mul] at h
    omega

/-- And it is not larger than it has to be, so that the new buffer stays within memory. -/
lemma exponentFrom_le {bufsize k m : ℕ} (h : bufsize ≤ 2 ^ m) (hk : k ≤ m) :
    exponentFrom bufsize k ≤ m := by
  fun_induction exponentFrom bufsize k with
  | case1 k hlt ih =>
    rw [Nat.shiftLeft_eq, Nat.one_mul] at hlt
    refine ih (Nat.lt_of_le_of_ne hk ?_)
    rintro rfl
    omega
  | case2 k => exact hk

/-- The mask takes the place modulo the size, in spite of the wrap of `size_t`. -/
lemma slot_eq {mask k : ℕ} (hk : k ≤ 64) (hmask : mask + 1 = 2 ^ k) (first idx : ℕ) :
    slot mask first idx = (first + idx) % (mask + 1) := by
  have hdvd : 2 ^ k ∣ sizeMax := Nat.pow_dvd_pow 2 hk
  have hsub : mask = 2 ^ k - 1 := by omega
  rw [slot, hsub, Nat.and_two_pow_sub_one_eq_mod, Nat.mod_mod_of_dvd _ hdvd]
  congr 1
  omega

/-- Two places that are less than a round apart are different: no two elements share a slot. -/
lemma add_mod_injective {size first i j : ℕ} (hi : i < size) (hj : j < size)
    (h : (first + i) % size = (first + j) % size) : i = j := by
  have hmod : i ≡ j [MOD size] := Nat.ModEq.add_left_cancel' first h
  rwa [Nat.ModEq, Nat.mod_eq_of_lt hi, Nat.mod_eq_of_lt hj] at hmod

/-- Before the first slot.  The element that was at `idx` is at `idx + 1` from there, also where
`first` was 0. -/
lemma slot_pred (mask first idx : ℕ) :
    slot mask ((first + sizeMax - 1) % sizeMax) (idx + 1) = slot mask first idx := by
  have hsum : (first + sizeMax - 1) % sizeMax + (idx + 1) ≡ first + idx [MOD sizeMax] := by
    have hpos : 1 ≤ first + sizeMax := by
      rw [sizeMax]
      omega
    calc (first + sizeMax - 1) % sizeMax + (idx + 1)
        ≡ first + sizeMax - 1 + (idx + 1) [MOD sizeMax] := (Nat.mod_modEq _ _).add_right _
      _ = first + idx + sizeMax := by omega
      _ ≡ first + idx [MOD sizeMax] := Nat.add_modEq_right
  rw [slot, slot, hsum]

/-! ## The list of the elements -/

lemma get_isSome {ringbuf : Ringbuf α} {idx : ℕ} (h : idx < ringbuf.len) :
    (ringbuf.get idx).isSome := by
  rw [get, if_pos h]
  exact ringbuf.filled idx h

lemma get_of_le {ringbuf : Ringbuf α} {idx : ℕ} (h : ringbuf.len ≤ idx) : ringbuf.get idx = none :=
  if_neg (Nat.not_lt.2 h)

lemma map_some_contents (ringbuf : Ringbuf α) :
    ringbuf.contents.map some = (List.range ringbuf.len).map ringbuf.get := by
  have hfilled : ∀ l : List ℕ, (∀ i ∈ l, i < ringbuf.len) →
      (l.filterMap ringbuf.get).map some = l.map ringbuf.get := by
    intro l hl
    induction l with
    | nil => rfl
    | cons i l ih =>
      obtain ⟨a, ha⟩ := Option.isSome_iff_exists.1 (get_isSome (hl i List.mem_cons_self))
      rw [List.filterMap_cons_some ha, List.map_cons, List.map_cons, ha,
        ih fun j hj => hl j (List.mem_cons_of_mem i hj)]
  exact hfilled _ fun i hi => List.mem_range.1 hi

@[simp] lemma length_contents (ringbuf : Ringbuf α) : ringbuf.contents.length = ringbuf.len := by
  have hlength := congrArg List.length ringbuf.map_some_contents
  simpa using hlength

/-- **An element is found by its place in the list**, and an index beyond the list finds nothing. -/
theorem get_eq (ringbuf : Ringbuf α) (idx : ℕ) : ringbuf.get idx = ringbuf.contents[idx]? := by
  by_cases h : idx < ringbuf.len
  · have hidx := congrArg (·[idx]?) ringbuf.map_some_contents
    have hlt : idx < ringbuf.contents.length := by rwa [length_contents]
    simp only [List.getElem?_map, List.getElem?_range h, Option.map_some,
      List.getElem?_eq_getElem hlt, Option.some.injEq] at hidx
    rw [List.getElem?_eq_getElem hlt, hidx]
  · rw [get_of_le (Nat.not_lt.1 h), List.getElem?_eq_none]
    rw [length_contents]
    omega

/-- A list with the same elements at the same places is the list of the elements. -/
lemma contents_eq {ringbuf : Ringbuf α} {l : List α} (h : ∀ idx, ringbuf.get idx = l[idx]?) :
    ringbuf.contents = l :=
  List.ext_getElem? fun idx => (get_eq ringbuf idx).symm.trans (h idx)

/-! ## The operations -/

/-- `hd_ringbuf_init`; a block of more than `2 ^ 60` pointers cannot be allocated. -/
def init (α : Type*) (bufsize : ℕ) (h : bufsize ≤ 2 ^ 60) : Ringbuf α where
  buffer := List.replicate (2 ^ exponentFrom bufsize 0) none
  mask := 2 ^ exponentFrom bufsize 0 - 1
  first := 0
  len := 0
  size_pow := ⟨exponentFrom bufsize 0, exponentFrom_le h (Nat.zero_le 60),
    Nat.sub_add_cancel (Nat.two_pow_pos _)⟩
  length_buffer := by
    rw [List.length_replicate, Nat.sub_add_cancel (Nat.two_pow_pos _)]
  len_le := Nat.zero_le _
  filled := by simp

/-- `hd_ringbuf_reserve`; `none` is `NGHTTP2_ERR_NOMEM`.  The elements are copied to the beginning
of the new buffer. -/
def reserve (ringbuf : Ringbuf α) (bufsize : ℕ) : Option (Ringbuf α) :=
  if hsize : bufsize ≤ ringbuf.mask + 1 then some ringbuf
  else if hmem : bufsize ≤ 2 ^ 60 then
    some {
      buffer := (List.range ringbuf.len).map ringbuf.get ++
        List.replicate (2 ^ exponentFrom bufsize 0 - ringbuf.len) none
      mask := 2 ^ exponentFrom bufsize 0 - 1
      first := 0
      len := ringbuf.len
      size_pow := ⟨exponentFrom bufsize 0, exponentFrom_le hmem (Nat.zero_le 60),
        Nat.sub_add_cancel (Nat.two_pow_pos _)⟩
      length_buffer := by
        have hle := le_two_pow_exponentFrom bufsize 0
        have hlen := ringbuf.len_le
        simp only [List.length_append, List.length_map, List.length_range, List.length_replicate]
        omega
      len_le := by
        have hle := le_two_pow_exponentFrom bufsize 0
        have hlen := ringbuf.len_le
        omega
      filled := by
        intro i hi
        have hle := le_two_pow_exponentFrom bufsize 0
        have hk := exponentFrom_le hmem (Nat.zero_le 60)
        have hlen := ringbuf.len_le
        have hmask : 2 ^ exponentFrom bufsize 0 - 1 + 1 = 2 ^ exponentFrom bufsize 0 :=
          Nat.sub_add_cancel (Nat.two_pow_pos _)
        have hslot : slot (2 ^ exponentFrom bufsize 0 - 1) 0 i = i := by
          rw [slot_eq (by omega) hmask, Nat.zero_add, hmask, Nat.mod_eq_of_lt (by omega)]
        rw [← slot, hslot, List.getElem?_append_left (by simpa using hi), List.getElem?_map,
          List.getElem?_range hi]
        exact get_isSome hi }
  else none

lemma reserve_spec {ringbuf ringbuf' : Ringbuf α} {bufsize : ℕ}
    (h : ringbuf.reserve bufsize = some ringbuf') :
    ringbuf'.len = ringbuf.len ∧ bufsize ≤ ringbuf'.mask + 1 ∧
      ringbuf'.contents = ringbuf.contents := by
  rw [reserve] at h
  split at h
  case isTrue hsize =>
    cases h
    exact ⟨rfl, hsize, rfl⟩
  case isFalse hsize =>
    split at h
    case isFalse => cases h
    case isTrue hmem =>
      have hle := le_two_pow_exponentFrom bufsize 0
      have hk := exponentFrom_le hmem (Nat.zero_le 60)
      have hmask : 2 ^ exponentFrom bufsize 0 - 1 + 1 = 2 ^ exponentFrom bufsize 0 :=
        Nat.sub_add_cancel (Nat.two_pow_pos _)
      have hlen := ringbuf.len_le
      cases h
      refine ⟨rfl, by simpa only [hmask] using hle, contents_eq fun idx => ?_⟩
      rw [← get_eq]
      by_cases hidx : idx < ringbuf.len
      · have hslot : slot (2 ^ exponentFrom bufsize 0 - 1) 0 idx = idx := by
          rw [slot_eq (by omega) hmask, Nat.zero_add, hmask, Nat.mod_eq_of_lt (by omega)]
        rw [get, if_pos hidx, hslot, List.getElem?_append_left (by simpa using hidx),
          List.getElem?_map, List.getElem?_range hidx]
        rfl
      · have hnone : ringbuf.get idx = none := get_of_le (Nat.not_lt.1 hidx)
        rw [hnone]
        exact get_of_le (Nat.not_lt.1 hidx)

/-- What is put before the first slot is the new first element, and the others move on by one. -/
lemma get_put {ringbuf : Ringbuf α} (h : ringbuf.len + 1 ≤ ringbuf.mask + 1) (ent : α) {idx : ℕ}
    (hidx : idx < ringbuf.len + 1) :
    ((ringbuf.buffer.set (slot ringbuf.mask ((ringbuf.first + sizeMax - 1) % sizeMax) 0)
      (some ent))[slot ringbuf.mask ((ringbuf.first + sizeMax - 1) % sizeMax) idx]?).join =
      (ent :: ringbuf.contents)[idx]? := by
  obtain ⟨k, hk, hmask⟩ := ringbuf.size_pow
  have hfirst : slot ringbuf.mask ((ringbuf.first + sizeMax - 1) % sizeMax) 0 <
      ringbuf.buffer.length := by
    rw [slot_eq (by omega) hmask, ringbuf.length_buffer]
    exact Nat.mod_lt _ (by omega)
  cases idx with
  | zero =>
    rw [List.getElem?_set_self hfirst]
    rfl
  | succ idx =>
    have hne : slot ringbuf.mask ((ringbuf.first + sizeMax - 1) % sizeMax) 0 ≠
        slot ringbuf.mask ((ringbuf.first + sizeMax - 1) % sizeMax) (idx + 1) := by
      rw [slot_eq (by omega) hmask, slot_eq (by omega) hmask]
      intro heq
      exact absurd (add_mod_injective (by omega) (by omega) heq) (by omega)
    rw [List.getElem?_set_ne hne, slot_pred, List.getElem?_cons_succ, ← get_eq, get,
      if_pos (by omega)]

/-- `buffer[--first & mask] = ent; ++len` -/
def put (ringbuf : Ringbuf α) (ent : α) (h : ringbuf.len + 1 ≤ ringbuf.mask + 1) : Ringbuf α where
  buffer := ringbuf.buffer.set
    (slot ringbuf.mask ((ringbuf.first + sizeMax - 1) % sizeMax) 0) (some ent)
  mask := ringbuf.mask
  first := (ringbuf.first + sizeMax - 1) % sizeMax
  len := ringbuf.len + 1
  size_pow := ringbuf.size_pow
  length_buffer := by rw [List.length_set, ringbuf.length_buffer]
  len_le := h
  filled := by
    intro idx hidx
    have hlt : idx < (ent :: ringbuf.contents).length := by
      rw [List.length_cons, length_contents]
      exact hidx
    rw [← slot, get_put h ent hidx, List.getElem?_eq_getElem hlt]
    rfl

/-- `hd_ringbuf_push_front`; `none` is `NGHTTP2_ERR_NOMEM`. -/
def pushFront (ringbuf : Ringbuf α) (ent : α) : Option (Ringbuf α) :=
  match h : ringbuf.reserve (ringbuf.len + 1) with
  | none => none
  | some ringbuf' => some (ringbuf'.put ent (by
      obtain ⟨hlen, hsize, -⟩ := reserve_spec h
      omega))

/-- `hd_ringbuf_pop_back` -/
def popBack (ringbuf : Ringbuf α) : Ringbuf α :=
  { ringbuf with
    len := ringbuf.len - 1
    len_le := Nat.le_trans (Nat.sub_le _ _) ringbuf.len_le
    filled := fun i hi => ringbuf.filled i (Nat.lt_of_lt_of_le hi (Nat.sub_le _ _)) }

lemma contents_init (bufsize : ℕ) (h : bufsize ≤ 2 ^ 60) :
    (init α bufsize h).contents = [] := rfl

lemma contents_put {ringbuf : Ringbuf α} (h : ringbuf.len + 1 ≤ ringbuf.mask + 1) (ent : α) :
    (ringbuf.put ent h).contents = ent :: ringbuf.contents := by
  refine contents_eq fun idx => ?_
  by_cases hidx : idx < ringbuf.len + 1
  · rw [get, if_pos (show idx < (ringbuf.put ent h).len from hidx)]
    exact get_put h ent hidx
  · rw [get_of_le (show (ringbuf.put ent h).len ≤ idx from Nat.not_lt.1 hidx),
      List.getElem?_eq_none]
    rw [List.length_cons, length_contents]
    omega

/-- **An element is put before the others**, and the buffer grows if it has to.  The slot that is
written is not one of those in use, since fewer of them are in use than there are. -/
theorem contents_pushFront {ringbuf ringbuf' : Ringbuf α} {ent : α}
    (h : ringbuf.pushFront ent = some ringbuf') :
    ringbuf'.contents = ent :: ringbuf.contents := by
  unfold pushFront at h
  split at h
  · cases h
  · rename_i ringbuf'' hreserve
    cases h
    rw [contents_put, (reserve_spec hreserve).2.2]

/-- There is memory for it: a table of 32 bits never has as many entries. -/
lemma pushFront_isSome {ringbuf : Ringbuf α} (h : ringbuf.len < 2 ^ 60) (ent : α) :
    (ringbuf.pushFront ent).isSome := by
  have hreserve : ringbuf.reserve (ringbuf.len + 1) ≠ none := by
    rw [reserve]
    split
    · simp
    · rw [dif_pos (Nat.succ_le_of_lt h)]
      simp
  unfold pushFront
  split
  · contradiction
  · rfl

lemma contents_popBack (ringbuf : Ringbuf α) :
    ringbuf.popBack.contents = ringbuf.contents.dropLast := by
  refine contents_eq fun idx => ?_
  rw [List.getElem?_dropLast, ← get_eq, length_contents]
  by_cases hidx : idx < ringbuf.len - 1
  · rw [if_pos hidx, get, get, if_pos (show idx < ringbuf.popBack.len from hidx),
      if_pos (by omega)]
    rfl
  · rw [if_neg hidx, get_of_le (show ringbuf.popBack.len ≤ idx from Nat.not_lt.1 hidx)]

end Ringbuf

end KituraHTTP2.Nghttp2
