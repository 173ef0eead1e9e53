import Mathlib.Data.List.Basic

/-!
# Objects by reference

A `Store α` holds the objects of one class; a `Ref` is what a variable of that class holds.
Objects are allocated at the end and never moved, so a reference stays good, and two references
denote the same object exactly when they are equal.  Copying a record that holds a reference
shares the object: an update through one copy is seen through the other, and this is the point of
having the store at all.
-/

/-- A reference to an object of some store. -/
abbrev Ref := ℕ

/-- The objects of one class, by reference. -/
structure Store (α : Type*) where
  /-- the objects, in the order of their allocation -/
  cells : List α

namespace Store

variable {α : Type*}

/-- No object allocated yet. -/
def empty : Store α := ⟨[]⟩

/-- The object behind a reference. -/
def get? (st : Store α) (r : Ref) : Option α := st.cells[r]?

/-- The reference the next allocation gives. -/
def fresh (st : Store α) : Ref := st.cells.length

/-- Allocate an object, at the reference `st.fresh`. -/
def alloc (st : Store α) (a : α) : Store α := ⟨st.cells ++ [a]⟩

/-- Change the object behind a reference, in place. -/
def update (st : Store α) (r : Ref) (f : α → α) : Store α := ⟨st.cells.modify r f⟩

/-- `r` denotes an object of the store. -/
def Valid (st : Store α) (r : Ref) : Prop := r < st.fresh

lemma get?_eq_none_iff {st : Store α} {r : Ref} : st.get? r = none ↔ ¬ st.Valid r := by
  simp [get?, Valid, fresh]

lemma Valid.exists_get? {st : Store α} {r : Ref} (h : st.Valid r) : ∃ a, st.get? r = some a :=
  ⟨st.cells.get ⟨r, h⟩, List.getElem?_eq_getElem h⟩

lemma valid_of_get? {st : Store α} {r : Ref} {a : α} (h : st.get? r = some a) : st.Valid r := by
  by_contra hr
  rw [get?_eq_none_iff.2 hr] at h
  cases h

lemma Valid.ne_fresh {st : Store α} {r : Ref} (h : st.Valid r) : r ≠ st.fresh := Nat.ne_of_lt h

/-! ## Allocation -/

@[simp]
lemma fresh_alloc (st : Store α) (a : α) : (st.alloc a).fresh = st.fresh + 1 := by
  simp [alloc, fresh]

@[simp]
lemma get?_alloc_fresh (st : Store α) (a : α) : (st.alloc a).get? st.fresh = some a := by
  simp [get?, alloc, fresh]

lemma get?_alloc_of_valid {st : Store α} {r : Ref} (h : st.Valid r) (a : α) :
    (st.alloc a).get? r = st.get? r := by
  simp only [get?, alloc]
  exact List.getElem?_append_left h

lemma Valid.alloc {st : Store α} {r : Ref} (h : st.Valid r) (a : α) : (st.alloc a).Valid r := by
  unfold Valid at h ⊢
  rw [fresh_alloc]
  exact Nat.lt_succ_of_lt h

@[simp]
lemma valid_alloc_fresh (st : Store α) (a : α) : (st.alloc a).Valid st.fresh := by
  unfold Valid
  rw [fresh_alloc]
  exact Nat.lt_succ_self _

/-! ## Updates in place -/

@[simp]
lemma fresh_update (st : Store α) (r : Ref) (f : α → α) : (st.update r f).fresh = st.fresh := by
  simp [update, fresh]

@[simp]
lemma valid_update {st : Store α} {r r' : Ref} {f : α → α} :
    (st.update r f).Valid r' ↔ st.Valid r' := by
  unfold Valid
  rw [fresh_update]

@[simp]
lemma get?_update_self (st : Store α) (r : Ref) (f : α → α) :
    (st.update r f).get? r = (st.get? r).map f := by
  simp [get?, update]

lemma get?_update_of_ne {st : Store α} {r r' : Ref} (h : r ≠ r') (f : α → α) :
    (st.update r f).get? r' = st.get? r' := by
  simp [get?, update, h]

/-! ## Properties of all objects -/

/-- Every object of the store has the property. -/
def All (p : α → Prop) (st : Store α) : Prop := ∀ r a, st.get? r = some a → p a

variable {p : α → Prop} {st : Store α}

lemma All.alloc (h : st.All p) {a : α} (ha : p a) : (st.alloc a).All p := by
  intro r b hget
  by_cases hr : st.Valid r
  · exact h r b (get?_alloc_of_valid hr a ▸ hget)
  · have hlast : r = st.fresh := by
      have hvalid := valid_of_get? hget
      simp only [Valid, fresh_alloc] at hr hvalid
      exact Nat.le_antisymm (Nat.lt_succ_iff.1 hvalid) (Nat.le_of_not_lt hr)
    rw [hlast, get?_alloc_fresh, Option.some.injEq] at hget
    exact hget ▸ ha

lemma All.update (h : st.All p) {f : α → α} (hf : ∀ a, p a → p (f a)) (r : Ref) :
    (st.update r f).All p := by
  intro r' b hget
  by_cases hr : r = r'
  · rw [hr, get?_update_self, Option.map_eq_some_iff] at hget
    rcases hget with ⟨a, ha, rfl⟩
    exact hf a (h r' a ha)
  · exact h r' b (get?_update_of_ne hr f ▸ hget)

end Store
