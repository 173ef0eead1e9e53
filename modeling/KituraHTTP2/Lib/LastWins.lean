import Mathlib.Data.List.Basic

/-!
# Entries of which the last one counts

A list of entries says one after the other what the values of some keys are, and of several entries
with the same key the last one counts.  Such a list may be merged as it comes in: `put` writes an
entry to the place of the one with the same key, if there is one.

* **`foldl_put`** — for a reader to whom entries with different keys do not matter to each other,
  the merged list means the same.
* `entriesOf_put_same`, `entriesOf_put_other` — the entries of a key.
-/

namespace LastWins

variable {α κ σ : Type*} [DecidableEq κ] {key : α → κ}

/-- The entry takes the place of the first one with its key, or comes to the end. -/
def put (key : α → κ) (l : List α) (x : α) : List α :=
  match l.findIdx? fun y => key y = key x with
  | some i => l.set i x
  | none => l ++ [x]

/-- The first entry of a key, and what is before and after it. -/
lemma exists_of_findIdx? {k : κ} {l : List α} {i : ℕ}
    (h : (l.findIdx? fun y => key y = k) = some i) :
    ∃ front y back, l = front ++ y :: back ∧ key y = k ∧ l[i]? = some y ∧
      ∀ x, l.set i x = front ++ x :: back := by
  induction l generalizing i with
  | nil => cases h
  | cons a l ih =>
    rw [List.findIdx?_cons] at h
    by_cases ha : key a = k
    · rw [if_pos (by simpa using ha), Option.some.injEq] at h
      subst h
      exact ⟨[], a, l, rfl, ha, rfl, fun _ => rfl⟩
    · rw [if_neg (by simpa using ha)] at h
      obtain ⟨j, hj, rfl⟩ := Option.map_eq_some_iff.1 h
      obtain ⟨front, y, back, hl, hy, hget, hset⟩ := ih hj
      exact ⟨a :: front, y, back, by rw [hl]; rfl, hy, hget, fun x => by
        rw [List.set_cons_succ, hset]; rfl⟩

/-- The entries of the key `k`. -/
def entriesOf (key : α → κ) (k : κ) (l : List α) : List α := l.filter fun y => key y = k

@[simp] lemma entriesOf_append (k : κ) (l l' : List α) :
    entriesOf key k (l ++ l') = entriesOf key k l ++ entriesOf key k l' := List.filter_append l l'

lemma entriesOf_cons (k : κ) (x : α) (l : List α) :
    entriesOf key k (x :: l) = if key x = k then x :: entriesOf key k l else entriesOf key k l := by
  simp only [entriesOf, List.filter_cons, decide_eq_true_eq]

lemma entriesOf_eq_nil {k : κ} {l : List α} :
    entriesOf key k l = [] ↔ ∀ y ∈ l, key y ≠ k := by
  simp [entriesOf, List.filter_eq_nil_iff]

/-- A key that has one entry at most. -/
def Single (key : α → κ) (k : κ) (l : List α) : Prop := (entriesOf key k l).length ≤ 1

/-- What is before and after the only entry of a key. -/
lemma Single.around {k : κ} {front back : List α} {y : α} (h : Single key k (front ++ y :: back))
    (hy : key y = k) : entriesOf key k front = [] ∧ entriesOf key k back = [] := by
  rw [Single, entriesOf_append, entriesOf_cons, if_pos hy, List.length_append,
    List.length_cons] at h
  rw [← List.length_eq_zero_iff, ← List.length_eq_zero_iff]
  omega

/-- The entry is now the only one of its key. -/
lemma entriesOf_put_same {l : List α} {x : α} (h : Single key (key x) l) :
    entriesOf key (key x) (put key l x) = [x] := by
  unfold put
  split
  · rename_i i hfind
    obtain ⟨front, y, back, rfl, hy, -, hset⟩ := exists_of_findIdx? hfind
    obtain ⟨hfront, hback⟩ := h.around hy
    rw [hset, entriesOf_append, entriesOf_cons, if_pos rfl, hfront, hback, List.nil_append]
  · rename_i hfind
    have hnone : entriesOf key (key x) l = [] := by
      rw [entriesOf_eq_nil]
      simpa [List.findIdx?_eq_none_iff] using hfind
    rw [entriesOf_append, hnone, entriesOf_cons, if_pos rfl]
    rfl

/-- The entries of the other keys are the same. -/
lemma entriesOf_put_other {l : List α} {x : α} {k : κ} (hk : key x ≠ k) :
    entriesOf key k (put key l x) = entriesOf key k l := by
  unfold put
  split
  · rename_i i hfind
    obtain ⟨front, y, back, rfl, hy, -, hset⟩ := exists_of_findIdx? hfind
    rw [hset, entriesOf_append, entriesOf_append, entriesOf_cons, entriesOf_cons, if_neg hk,
      if_neg (hy ▸ hk)]
  · rw [entriesOf_append, entriesOf_cons, if_neg hk]
    exact List.append_nil _

lemma mem_of_mem_put {l : List α} {x y : α} (h : y ∈ put key l x) : y = x ∨ y ∈ l := by
  unfold put at h
  split at h
  · exact (List.mem_or_eq_of_mem_set h).symm
  · rw [List.mem_append, List.mem_singleton] at h
    exact h.symm

lemma length_put_le (l : List α) (x : α) : (put key l x).length ≤ l.length + 1 := by
  unfold put
  split <;> simp

/-! ## The meaning of the entries -/

section Fold

variable {f : σ → α → σ}

omit [DecidableEq κ] in
/-- An entry may come later, behind entries of other keys. -/
lemma foldl_comm (hcomm : ∀ s x y, key x ≠ key y → f (f s x) y = f (f s y) x) {x : α}
    {l : List α} (hl : ∀ y ∈ l, key y ≠ key x) (s : σ) :
    l.foldl f (f s x) = f (l.foldl f s) x := by
  induction l generalizing s with
  | nil => rfl
  | cons y l ih =>
    have hy : key x ≠ key y := (hl y List.mem_cons_self).symm
    rw [List.foldl_cons, hcomm s x y hy, ih fun z hz => hl z (List.mem_cons_of_mem y hz),
      List.foldl_cons]

/-- **The merged list means the same.** -/
theorem foldl_put (hover : ∀ s x y, key x = key y → f (f s x) y = f s y)
    (hcomm : ∀ s x y, key x ≠ key y → f (f s x) y = f (f s y) x) {l : List α} {x : α}
    (h : Single key (key x) l) (s : σ) : (put key l x).foldl f s = f (l.foldl f s) x := by
  unfold put
  split
  · rename_i i hfind
    obtain ⟨front, y, back, rfl, hy, -, hset⟩ := exists_of_findIdx? hfind
    have hback := entriesOf_eq_nil.1 (h.around hy).2
    have hback' : ∀ z ∈ back, key z ≠ key y := fun z hz => hy ▸ hback z hz
    rw [hset, List.foldl_append, List.foldl_append, List.foldl_cons, List.foldl_cons,
      foldl_comm hcomm hback, foldl_comm hcomm hback', hover _ _ _ hy]
  · rw [List.foldl_append]
    rfl

end Fold

end LastWins
