import Mathlib.Data.List.Basic

/-!
# Readers

A reader hands out a source in pieces.  Each call appends a piece to a buffer of the caller and
returns how long the piece was; it returns 0 when nothing is left, so that the caller can read in a
loop.  The caller may give every call another buffer, so the contract is about what each call
appends.

* `Reads` — the contract, for a sequence of calls.
* **`Reads.of_loop`** — a loop that reads until 0 has one copy of the source, and its length.
-/

namespace Reader

variable {α : Type*}

/-- What is seen of one call: the caller's buffer before and after it, and the returned number. -/
structure Call (α : Type*) where
  before : List α
  after : List α
  count : ℕ

/-- **The contract of a reader.**  Each call takes its piece from the front of what the calls before
it have left, and returns its length; and a call that returns 0 finds nothing left. -/
inductive Reads : List α → List (Call α) → Prop
  | nil (rest : List α) : Reads rest []
  | cons (data piece : List α) {rest : List α} {calls : List (Call α)}
      (hend : piece.length = 0 → rest = []) (h : Reads rest calls) :
      Reads (piece ++ rest) (⟨data, data ++ piece, piece.length⟩ :: calls)

/-- A loop that reads into one buffer until a call returns 0: its calls, the buffer at the end, and
the sum of what was returned. -/
inductive Loop : List α → List (Call α) → List α → ℕ → Prop
  | stop (before after : List α) : Loop before [⟨before, after, 0⟩] after 0
  | again {before after result : List α} {count total : ℕ} {calls : List (Call α)}
      (hcount : count ≠ 0) (h : Loop after calls result total) :
      Loop before (⟨before, after, count⟩ :: calls) result (count + total)

/-- What a call that keeps to the contract has done, and what is left for the ones after it. -/
lemma Reads.of_cons {source : List α} {call : Call α} {calls : List (Call α)}
    (h : Reads source (call :: calls)) : ∃ piece rest, source = piece ++ rest ∧
      call.after = call.before ++ piece ∧ call.count = piece.length ∧
      (call.count = 0 → rest = []) ∧ Reads rest calls := by
  cases h with
  | cons data piece hend h => exact ⟨piece, _, rfl, rfl, rfl, hend, h⟩

/-- Calls that append nothing and return 0 keep to the contract when nothing is left. -/
lemma Reads.of_nothing {calls : List (Call α)}
    (h : ∀ call ∈ calls, call.after = call.before ∧ call.count = 0) : Reads [] calls := by
  induction calls with
  | nil => exact Reads.nil []
  | cons call calls ih =>
    have hcalls := ih fun call' hcall => h call' (List.mem_cons_of_mem call hcall)
    rcases call with ⟨before, after, count⟩
    have hcall : after = before ∧ count = 0 := h ⟨before, after, count⟩ List.mem_cons_self
    rcases hcall with ⟨rfl, rfl⟩
    simpa using Reads.cons after [] (fun _ => rfl) hcalls

/-- **A loop over a reader ends with exactly one copy of the source, and the right number.** -/
theorem Reads.of_loop {source data result : List α} {calls : List (Call α)} {total : ℕ}
    (h : Reads source calls) (hloop : Loop data calls result total) :
    result = data ++ source ∧ total = source.length := by
  induction hloop generalizing source with
  | stop before after =>
    rcases h.of_cons with ⟨piece, rest, rfl, hafter, hcount, hend, -⟩
    have hpiece : piece = [] := List.length_eq_zero_iff.1 hcount.symm
    have hrest : rest = [] := hend rfl
    subst hpiece hrest
    exact ⟨hafter, rfl⟩
  | again hcount _ ih =>
    rcases h.of_cons with ⟨piece, rest, rfl, hafter, hlength, -, hrest⟩
    simp only at hafter hlength
    rcases ih hrest with ⟨rfl, rfl⟩
    subst hafter hlength
    exact ⟨List.append_assoc _ _ _, List.length_append.symm⟩

/-- **Reading each element once.**  The calls keep to the contract, and where they are those of a
loop until 0, it has exactly one copy of the source, and its length. -/
structure ReadsOnce (source : List α) (calls : List (Call α)) : Prop where
  reads : Reads source calls
  loop : ∀ data result total, Loop data calls result total →
    result = data ++ source ∧ total = source.length

/-- The loop is right because the contract is kept. -/
lemma Reads.once {source : List α} {calls : List (Call α)} (h : Reads source calls) :
    ReadsOnce source calls where
  reads := h
  loop _ _ _ hloop := h.of_loop hloop

end Reader
