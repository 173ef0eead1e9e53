import KituraHTTP2.Lib.Machine
import Mathlib.Data.Set.Card
import Mathlib.Order.Interval.Finset.Defs

/-!
# Tables about objects that open and close

A system opens objects under growing identifiers, closes them, and keeps a table with what it knows
about them.  A `Table` is what such a system is about: which objects are open, the last identifier
that was used, and the keys of the table.  An entry comes with its object and goes with it; and some
events write an entry of their own (`Change.write`), for whatever identifier.

`Tracks` says that a machine does nothing else.  From it:

* **`gone_run`** — an object that was closed does not come back;
* **`keys_opened_iff`** — the keys are open objects throughout a run exactly when every entry was
  written for an object that was open then;
* **`leaked_run`** — an entry that was written for a closed object stays for ever.
-/

namespace LiveTable

open Machine

/-- The open objects, the last identifier that was used, and the keys of the table. -/
@[ext]
structure Table (ι : Type*) where
  opened : Set ι
  last : ι
  keys : Set ι

/-- What can happen to the objects and the table. -/
inductive Change (ι : Type*) where
  | keep
  | start (i : ι)
  | close (i : ι)
  | write (i : ι)

variable {ι : Type*}

/-- New identifiers are larger than the ones before, and what is closed was open. -/
def Change.Allowed [LT ι] (t : Table ι) : Change ι → Prop
  | .keep => True
  | .start i => t.last < i
  | .close i => i ∈ t.opened
  | .write _ => True

/-- The entry comes with its object and goes with it. -/
def Table.apply (t : Table ι) : Change ι → Table ι
  | .keep => t
  | .start i => ⟨insert i t.opened, i, insert i t.keys⟩
  | .close i => ⟨t.opened \ {i}, t.last, t.keys \ {i}⟩
  | .write i => ⟨t.opened, t.last, insert i t.keys⟩

namespace Table

variable {t : Table ι} {c : Change ι}

/-- Keys that are open stay so, where entries are written for open objects only. -/
lemma keys_subset_apply (h : t.keys ⊆ t.opened) (hwrite : ∀ i, c = .write i → i ∈ t.opened) :
    (t.apply c).keys ⊆ (t.apply c).opened := by
  cases c with
  | keep => exact h
  | start i => exact Set.insert_subset_insert h
  | close i => exact Set.sdiff_subset_sdiff_left h
  | write i => exact Set.insert_subset (hwrite i rfl) h

variable [Preorder ι] {b i : ι}

/-- The open objects have identifiers from `b` to the last one. -/
structure Within (b : ι) (t : Table ι) : Prop where
  last : b ≤ t.last
  opened : t.opened ⊆ Set.Icc b t.last

/-- The identifier was used, or passed over, and its object is not open. -/
structure Gone (i : ι) (t : Table ι) : Prop where
  le_last : i ≤ t.last
  not_opened : i ∉ t.opened

lemma Within.apply (h : t.Within b) (hc : c.Allowed t) : (t.apply c).Within b := by
  cases c with
  | keep => exact h
  | start i =>
    have hlt : t.last < i := hc
    refine ⟨h.last.trans hlt.le, ?_⟩
    rintro j (rfl | hj)
    · exact ⟨h.last.trans hlt.le, le_refl j⟩
    · exact ⟨(h.opened hj).1, (h.opened hj).2.trans hlt.le⟩
  | close i => exact ⟨h.last, fun j hj => h.opened hj.1⟩
  | write i => exact ⟨h.last, h.opened⟩

lemma Gone.apply (h : t.Gone i) (hc : c.Allowed t) : (t.apply c).Gone i := by
  cases c with
  | keep => exact h
  | start j =>
    have hlt : t.last < j := hc
    refine ⟨h.le_last.trans hlt.le, ?_⟩
    rintro (rfl | hmem)
    · exact absurd h.le_last hlt.not_ge
    · exact h.not_opened hmem
  | close j => exact ⟨h.le_last, fun hmem => h.not_opened hmem.1⟩
  | write j => exact ⟨h.le_last, h.not_opened⟩

/-- An object that is closed is gone. -/
lemma Within.gone (h : t.Within b) (hc : c.Allowed t) (hopen : i ∈ t.opened)
    (hclosed : i ∉ (t.apply c).opened) : (t.apply c).Gone i := by
  refine ⟨?_, hclosed⟩
  cases c with
  | keep => exact (h.opened hopen).2
  | start j =>
    have hlt : t.last < j := hc
    exact (h.opened hopen).2.trans hlt.le
  | close j => exact (h.opened hopen).2
  | write j => exact (h.opened hopen).2

/-- The entry of an object that is gone stays. -/
lemma Gone.mem_keys_apply (h : t.Gone i) (hc : c.Allowed t) (hkey : i ∈ t.keys) :
    i ∈ (t.apply c).keys := by
  cases c with
  | keep => exact hkey
  | start j => exact Or.inr hkey
  | close j =>
    refine ⟨hkey, ?_⟩
    rintro rfl
    exact h.not_opened hc
  | write j => exact Or.inr hkey

/-- A table whose keys are open is not larger than the number of open objects. -/
lemma Within.ncard_keys_le [LocallyFiniteOrder ι] (h : t.Within b) (hkeys : t.keys ⊆ t.opened) :
    t.keys.Finite ∧ t.keys.ncard ≤ t.opened.ncard := by
  have hfinite : t.opened.Finite := (Set.finite_Icc b t.last).subset h.opened
  exact ⟨hfinite.subset hkeys, Set.ncard_le_ncard hkeys hfinite⟩

end Table

/-! ## Machines with such a table -/

variable {σ ε : Type*} [Preorder ι]

/-- Every step of the machine is one change of its table, and the events that write an entry are
those of `writes`. -/
structure Tracks (step : σ → ε → Option σ) (table : σ → Table ι) (writes : ε → ι → Prop) :
    Prop where
  step : ∀ {s e s'}, step s e = some s' → ∃ c : Change ι, c.Allowed (table s) ∧
    table s' = (table s).apply c ∧ ∀ i, writes e i ↔ c = .write i

namespace Tracks

variable {step : σ → ε → Option σ} {table : σ → Table ι} {writes : ε → ι → Prop}
  {s s' : σ} {es : List ε} {b i : ι}

lemma within_run (h : Tracks step table writes) (hs : (table s).Within b)
    (hrun : run step s es = some s') : (table s').Within b := by
  have hstep : ∀ s e s', (table s).Within b → step s e = some s' → (table s').Within b := by
    intro s e s' hs hstep
    rcases h.step hstep with ⟨c, hc, htable, -⟩
    exact htable ▸ hs.apply hc
  exact run_preserves hstep hs hrun

/-- **What is gone does not come back.** -/
theorem gone_run (h : Tracks step table writes) (hs : (table s).Gone i)
    (hrun : run step s es = some s') : (table s').Gone i := by
  have hstep : ∀ s e s', (table s).Gone i → step s e = some s' → (table s').Gone i := by
    intro s e s' hs hstep
    rcases h.step hstep with ⟨c, hc, htable, -⟩
    exact htable ▸ hs.apply hc
  exact run_preserves hstep hs hrun

/-- **What was written for a closed object stays.** -/
theorem leaked_run (h : Tracks step table writes) (hs : (table s).Gone i)
    (hkey : i ∈ (table s).keys) (hrun : run step s es = some s') : i ∈ (table s').keys := by
  have hstep : ∀ s e s', ((table s).Gone i ∧ i ∈ (table s).keys) → step s e = some s' →
      (table s').Gone i ∧ i ∈ (table s').keys := by
    rintro s e s' ⟨hs, hkey⟩ hstep
    rcases h.step hstep with ⟨c, hc, htable, -⟩
    exact htable ▸ ⟨hs.apply hc, hs.mem_keys_apply hc hkey⟩
  exact (run_preserves hstep ⟨hs, hkey⟩ hrun).2

/-- **When the keys are open objects.**  Throughout a run, exactly when every entry that an event of
the run wrote was for an object that was open when the event came. -/
theorem keys_opened_iff (h : Tracks step table writes) (hs : (table s).keys ⊆ (table s).opened)
    (hrun : run step s es = some s') :
    Throughout step (fun s => (table s).keys ⊆ (table s).opened) s es ↔
      Along step (fun s e => ∀ i, writes e i → i ∈ (table s).opened) s es := by
  constructor
  · intro hall
    refine along_iff_forall.2 ?_
    rintro before e after mid rfl hmid i hwrite
    rcases run_append_eq_some.1 hrun with ⟨_, hmid', hrest⟩
    rw [hmid, Option.some.injEq] at hmid'
    subst hmid'
    rcases run_cons_eq_some.1 hrest with ⟨next, hstep, -⟩
    rcases h.step hstep with ⟨c, -, htable, hwrites⟩
    have hnext : (table next).keys ⊆ (table next).opened :=
      hall (before ++ [e]) after next (List.append_cons ..)
        (run_concat_eq_some.2 ⟨mid, hmid, hstep⟩)
    rw [htable, (hwrites i).1 hwrite] at hnext
    exact hnext (Set.mem_insert i _)
  · rintro halong before after mid rfl hmid
    have hstep : ∀ s e s', (table s).keys ⊆ (table s).opened →
        (∀ i, writes e i → i ∈ (table s).opened) → step s e = some s' →
        (table s').keys ⊆ (table s').opened := by
      intro s e s' hs hwrite hstep
      rcases h.step hstep with ⟨c, -, htable, hwrites⟩
      rw [htable]
      exact Table.keys_subset_apply hs fun i hc => hwrite i ((hwrites i).2 hc)
    exact run_preserves_along hstep hs (along_append.1 halong).1 hmid

end Tracks

end LiveTable
