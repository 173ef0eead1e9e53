import Mathlib

/-!
# Queues with a capacity

A queue holds elements of different weights, the newest first.  When its weight is above the
capacity, the oldest elements go until it is not.

`keep weight cap l` is what remains: the elements from the front, as long as they fit.  Both ways to
make room are instances of it: a new element `x` gives `keep weight cap (x :: l)`, and another
capacity gives `keep weight cap' l`.

* `total_keep_le` — the capacity is kept.
* **`keep_keep`** — after several changes of the capacity, only the smallest one counts.
-/

namespace BoundedQueue

variable {α : Type*} {weight : α → ℕ}

/-- The weight of a queue. -/
def total (weight : α → ℕ) (l : List α) : ℕ := (l.map weight).sum

/-- The elements from the front, as long as they fit. -/
def keep (weight : α → ℕ) (cap : ℕ) : List α → List α
  | [] => []
  | x :: l => if weight x ≤ cap then x :: keep weight (cap - weight x) l else []

@[simp] lemma total_nil : total weight [] = 0 := rfl

@[simp] lemma total_cons (x : α) (l : List α) :
    total weight (x :: l) = weight x + total weight l := by
  simp [total]

@[simp] lemma total_append (l l' : List α) :
    total weight (l ++ l') = total weight l + total weight l' := by
  simp [total]

@[simp] lemma keep_nil (cap : ℕ) : keep weight cap [] = [] := rfl

lemma keep_cons (cap : ℕ) (x : α) (l : List α) :
    keep weight cap (x :: l) = if weight x ≤ cap then x :: keep weight (cap - weight x) l else [] :=
  rfl

lemma keep_initial (cap : ℕ) (l : List α) : keep weight cap l <+: l := by
  induction l generalizing cap with
  | nil => simp
  | cons x l ih =>
    rw [keep_cons]
    split
    · exact List.cons_prefix_cons.2 ⟨rfl, ih _⟩
    · exact List.nil_prefix

/-- **The capacity is kept.** -/
lemma total_keep_le (cap : ℕ) (l : List α) : total weight (keep weight cap l) ≤ cap := by
  induction l generalizing cap with
  | nil => simp
  | cons x l ih =>
    rw [keep_cons]
    split
    · have hrest := ih (cap - weight x)
      rw [total_cons]
      omega
    · simp

/-- Where everything fits, everything remains. -/
lemma keep_eq_self {cap : ℕ} {l : List α} (h : total weight l ≤ cap) : keep weight cap l = l := by
  induction l generalizing cap with
  | nil => rfl
  | cons x l ih =>
    rw [total_cons] at h
    rw [keep_cons, if_pos (by omega), ih (by omega)]

lemma keep_concat {cap : ℕ} {l : List α} {x : α} (h : cap < total weight (l ++ [x])) :
    keep weight cap (l ++ [x]) = keep weight cap l := by
  induction l generalizing cap with
  | nil =>
    simp only [List.nil_append, total_cons, total_nil, Nat.add_zero] at h
    rw [List.nil_append, keep_cons, if_neg (by omega), keep_nil]
  | cons y l ih =>
    rw [List.cons_append, total_cons] at h
    rw [List.cons_append, keep_cons, keep_cons]
    split
    · rw [ih (by omega)]
    · rfl

/-- **Only the smallest capacity counts.** -/
theorem keep_keep (cap cap' : ℕ) (l : List α) :
    keep weight cap (keep weight cap' l) = keep weight (min cap cap') l := by
  induction l generalizing cap cap' with
  | nil => rfl
  | cons x l ih =>
    rw [keep_cons, keep_cons]
    by_cases hcap' : weight x ≤ cap'
    · rw [if_pos hcap', keep_cons]
      by_cases hcap : weight x ≤ cap
      · rw [if_pos hcap, if_pos (by omega), ih, Nat.sub_min_sub_right]
      · rw [if_neg hcap, if_neg (by omega)]
    · rw [if_neg hcap', if_neg (by omega), keep_nil]

/-- A queue of elements that weigh at least `w` each is not longer than its capacity allows. -/
lemma mul_length_le {w : ℕ} {l : List α} (h : ∀ x ∈ l, w ≤ weight x) :
    w * l.length ≤ total weight l := by
  induction l with
  | nil => simp
  | cons x l ih =>
    have hx := h x List.mem_cons_self
    have hl := ih fun y hy => h y (List.mem_cons_of_mem x hy)
    rw [List.length_cons, total_cons, Nat.mul_add]
    omega

/-- What remains of images are the images of what remains. -/
lemma map_keep {β : Type*} {weight' : β → ℕ} {f : α → β} (h : ∀ x, weight' (f x) = weight x)
    (cap : ℕ) (l : List α) : (keep weight cap l).map f = keep weight' cap (l.map f) := by
  induction l generalizing cap with
  | nil => rfl
  | cons x l ih =>
    rw [List.map_cons, keep_cons, keep_cons, h]
    split
    · rw [List.map_cons, ih]
    · rfl

end BoundedQueue
