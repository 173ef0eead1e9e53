import Mathlib.Data.List.Basic
import Mathlib.Data.List.Flatten
import Mathlib.Data.List.Forall2
import Mathlib.Algebra.Order.Ring.Nat

/-!
# Handing out a body in chunks

A source of `length` bytes is asked for its bytes by a reader who brings a buffer each time.  It
remembers an offset, fills the buffer from there with what is left, and says of the last chunk that
it is the last.  The offset is moved on after every chunk but the last, so a reader must stop there
(`UntilLast`).

`Complete` is what the reader may expect, whatever the sizes of the buffers.

* **`complete_handOut`** — a source that moves its offset this way provides it.
-/

namespace Chunks

/-- A part of the source: so many bytes from the offset on. -/
structure Chunk where
  offset : ℕ
  count : ℕ
  last : Bool
deriving DecidableEq, Repr

/-- The chunk for a buffer of `size` bytes: what is left, or as much as the buffer takes. -/
def chunk (length offset size : ℕ) : Chunk where
  offset := offset
  count := min (length - offset) size
  last := min (length - offset) size = length - offset

/-- The chunks for one buffer after the other.  After the last chunk the offset stays. -/
def handOut (length : ℕ) : ℕ → List ℕ → List Chunk
  | _, [] => []
  | offset, size :: sizes =>
    let first := chunk length offset size
    first :: handOut length (if first.last then offset else offset + first.count) sizes

/-- The reader stops at the last chunk. -/
def UntilLast (chunks : List Chunk) : Prop := ∀ chunk ∈ chunks.dropLast, chunk.last = false

instance (chunks : List Chunk) : Decidable (UntilLast chunks) :=
  inferInstanceAs (Decidable (∀ chunk ∈ chunks.dropLast, chunk.last = false))

/-- The bytes of the chunks, by their positions in the source. -/
def positions (chunks : List Chunk) : List ℕ :=
  chunks.flatMap fun chunk => List.range' chunk.offset chunk.count

/-- **What a reader may expect** of the chunks for its buffers, from the position `start` on. -/
structure Complete (length start : ℕ) (sizes : List ℕ) (chunks : List Chunk) : Prop where
  /-- every buffer is filled with as much as is left -/
  counts : List.Forall₂ (fun size chunk => chunk.count = min (length - chunk.offset) size)
    sizes chunks
  first : ∀ chunk ∈ chunks.head?, chunk.offset = start
  consecutive : chunks.IsChain fun chunk next => next.offset = chunk.offset + chunk.count
  /-- the last chunk is the one that ends with the source -/
  last_iff : ∀ chunk ∈ chunks, chunk.last = true ↔ chunk.offset + chunk.count = length
  progress : ∀ chunk ∈ chunks, chunk.last = false → 0 < chunk.count
  /-- the whole source was handed out, each byte once, exactly when there was a last chunk -/
  covers_iff : chunks ≠ [] → ((∃ chunk ∈ chunks, chunk.last = true) ↔
    positions chunks = List.range' start (length - start))
  once : (∃ chunk ∈ chunks, chunk.last = true) →
    chunks.countP Chunk.last = 1 ∧ ∃ chunk ∈ chunks.getLast?, chunk.last = true
  bounded : chunks.length ≤ max 1 (length - start)
  finishes : sizes ≠ [] → length - start ≤ sizes.sum → ∃ chunk ∈ chunks, chunk.last = true

variable {length start size : ℕ} {sizes : List ℕ} {chunks : List Chunk}

lemma chunk_last_iff (hstart : start ≤ length) :
    (chunk length start size).last = true ↔ start + (chunk length start size).count = length := by
  simp only [chunk, decide_eq_true_eq]
  omega

/-- A chunk that is not the last fills its buffer. -/
lemma count_of_not_last (h : (chunk length start size).last = false) :
    (chunk length start size).count = size ∧ size < length - start := by
  simp only [chunk, decide_eq_false_iff_not] at h ⊢
  omega

/-- No buffer, no chunk. -/
lemma complete_nil : Complete length start [] [] where
  counts := List.Forall₂.nil
  first := by simp
  consecutive := List.IsChain.nil
  last_iff := by simp
  progress := by simp
  covers_iff := fun h => absurd rfl h
  once := by simp
  bounded := Nat.zero_le _
  finishes := fun h => absurd rfl h

/-- One buffer. -/
lemma complete_singleton (hstart : start ≤ length) (hsize : 1 ≤ size) :
    Complete length start [size] [chunk length start size] where
  counts := List.Forall₂.cons rfl List.Forall₂.nil
  first := by simp [chunk]
  consecutive := List.IsChain.singleton _
  last_iff := by
    rintro _ hmem
    rw [List.mem_singleton] at hmem
    subst hmem
    exact chunk_last_iff hstart
  progress := by
    intro _ hmem hlast
    rw [List.mem_singleton] at hmem
    subst hmem
    have hcount := count_of_not_last hlast
    omega
  covers_iff := by
    intro _
    simp only [List.mem_singleton, exists_eq_left, positions, List.flatMap_cons, List.flatMap_nil,
      List.append_nil]
    rw [chunk_last_iff hstart]
    constructor
    · intro hend
      have hcount : (chunk length start size).count = length - start := by omega
      rw [hcount]
      rfl
    · intro hrange
      have hlength := congrArg List.length hrange
      rw [List.length_range', List.length_range'] at hlength
      omega
  once := by
    intro hlast
    simp only [List.mem_singleton, exists_eq_left] at hlast
    simp [hlast]
  bounded := Nat.le_max_left _ _
  finishes := by
    intro _ hsum
    rw [List.sum_singleton] at hsum
    refine ⟨_, List.mem_singleton_self _, (chunk_last_iff hstart).2 ?_⟩
    simp only [chunk]
    omega

/-- A buffer before the others, whose chunk is not the last. -/
lemma Complete.cons (hstart : start ≤ length) (hsize : 1 ≤ size)
    (hlast : (chunk length start size).last = false) (hsizes : sizes ≠ [])
    (h : Complete length (start + (chunk length start size).count) sizes chunks) :
    Complete length start (size :: sizes) (chunk length start size :: chunks) := by
  have hcount := count_of_not_last hlast
  have hchunks : chunks ≠ [] := by
    rintro rfl
    exact hsizes (List.forall₂_nil_right_iff.1 h.counts)
  have hexists : (∃ part ∈ chunk length start size :: chunks, part.last = true) ↔
      ∃ part ∈ chunks, part.last = true := by
    simp [hlast]
  constructor
  · exact List.Forall₂.cons rfl h.counts
  · intro part hpart
    rw [List.head?_cons, Option.mem_some_iff] at hpart
    exact hpart ▸ rfl
  · rcases chunks with _ | ⟨next, chunks⟩
    · exact absurd rfl hchunks
    · exact List.isChain_cons_cons.2 ⟨h.first next rfl, h.consecutive⟩
  · exact List.forall_mem_cons.2 ⟨chunk_last_iff hstart, h.last_iff⟩
  · refine List.forall_mem_cons.2 ⟨fun _ => ?_, h.progress⟩
    omega
  · intro _
    have hrange : List.range' start (length - start) =
        List.range' start (chunk length start size).count ++
          List.range' (start + (chunk length start size).count)
            (length - (start + (chunk length start size).count)) := by
      rw [List.range'_append_1]
      congr 1
      omega
    have hpositions : positions (chunk length start size :: chunks) =
        List.range' start (chunk length start size).count ++ positions chunks := rfl
    rw [hexists, h.covers_iff hchunks, hrange, hpositions, List.append_right_inj]
  · intro hsome
    rcases h.once (hexists.1 hsome) with ⟨honce, hend⟩
    refine ⟨?_, ?_⟩
    · rw [List.countP_cons_of_neg (by simp [hlast])]
      exact honce
    · rcases hend with ⟨part, hpart, hpartLast⟩
      exact ⟨part, List.mem_getLast?_cons hpart, hpartLast⟩
  · have hbound := h.bounded
    rw [List.length_cons]
    omega
  · intro _ hsum
    rw [List.sum_cons] at hsum
    exact hexists.2 (h.finishes hsizes (by omega))

/-- **A source that moves its offset after every chunk but the last is complete**, for a reader who
stops at the last chunk. -/
theorem complete_handOut (hstart : start ≤ length) (hsizes : ∀ size ∈ sizes, 1 ≤ size)
    (huntil : UntilLast (handOut length start sizes)) :
    Complete length start sizes (handOut length start sizes) := by
  induction sizes generalizing start with
  | nil => exact complete_nil
  | cons size sizes ih =>
    rw [List.forall_mem_cons] at hsizes
    rcases sizes with _ | ⟨next, sizes⟩
    · exact complete_singleton hstart hsizes.1
    · have hnot : (chunk length start size).last = false := huntil _ List.mem_cons_self
      have hcount := count_of_not_last hnot
      have hout : handOut length start (size :: next :: sizes) = chunk length start size ::
          handOut length (start + (chunk length start size).count) (next :: sizes) := by
        rw [handOut, hnot]
        rfl
      rw [hout] at huntil ⊢
      refine Complete.cons hstart hsizes.1 hnot (List.cons_ne_nil _ _) (ih ?_ hsizes.2 ?_)
      · omega
      · intro chunk hmem
        exact huntil chunk (List.mem_cons_of_mem _ hmem)

end Chunks
