import KituraHTTP2.Lib.Machine

/-!
# Machines whose events each belong to one key

Many systems keep one table for many clients, connections or streams: every event carries a key,
and is meant to touch only what belongs to that key.  `view s i` says what of the state `s` belongs
to the key `i`, and `lstep` is the machine that a single key would run on its own.

`KeyedMachine` collects the two facts that make this separation real — an event moves the view of
its own key as `lstep` does, and leaves every other view alone — under an invariant `good`.  From
them:

* **`run_view`** — what belongs to `i` after a run is what `lstep` makes of the events of `i`;
* **`view_history`** — a relation between the events of `i` and its view is proved event by event;
* **`run_filter`** — dropping the events of all other keys changes nothing for `i`;
* **`run_interleaving`** — every interleaving of the same events per key can happen, and ends with
  the same views.
-/

namespace Keyed

open Machine

variable {σ ε ι ν : Type*}

/-- A machine whose events act on the view of their own key only, as long as `good` holds. -/
structure KeyedMachine (step : σ → ε → Option σ) (key : ε → ι) (view : σ → ι → ν)
    (lstep : ν → ε → Option ν) (good : σ → Prop) : Prop where
  /-- `good` is an invariant of the machine -/
  good_step : ∀ {s e s'}, good s → step s e = some s' → good s'
  /-- an event moves the view of its own key as the local machine does -/
  own : ∀ {s e}, good s → (step s e).map (view · (key e)) = lstep (view s (key e)) e
  /-- an event leaves every other view alone -/
  frame : ∀ {s e s' i}, good s → step s e = some s' → key e ≠ i → view s' i = view s i

section Events

variable [DecidableEq ι]

/-- The events of the key `i`, in their order. -/
def eventsOf (key : ε → ι) (i : ι) (es : List ε) : List ε := es.filter fun e => key e = i

@[simp]
lemma eventsOf_nil (key : ε → ι) (i : ι) : eventsOf key i [] = [] := rfl

lemma eventsOf_cons_own (key : ε → ι) (e : ε) (es : List ε) :
    eventsOf key (key e) (e :: es) = e :: eventsOf key (key e) es := by
  simp [eventsOf]

lemma eventsOf_cons_other {key : ε → ι} {i : ι} {e : ε} (h : key e ≠ i) (es : List ε) :
    eventsOf key i (e :: es) = eventsOf key i es := by
  simp [eventsOf, h]

lemma eventsOf_append (key : ε → ι) (i : ι) (es fs : List ε) :
    eventsOf key i (es ++ fs) = eventsOf key i es ++ eventsOf key i fs :=
  List.filter_append ..

lemma mem_eventsOf {key : ε → ι} {i : ι} {es : List ε} {e : ε} :
    e ∈ eventsOf key i es ↔ e ∈ es ∧ key e = i := by
  simp [eventsOf]

end Events

namespace KeyedMachine

variable {step : σ → ε → Option σ} {key : ε → ι} {view : σ → ι → ν}
  {lstep : ν → ε → Option ν} {good : σ → Prop}

lemma good_run (h : KeyedMachine step key view lstep good) {s s' : σ} {es : List ε}
    (hs : good s) (hrun : run step s es = some s') : good s' :=
  run_preserves (fun _ _ _ hg => h.good_step hg) hs hrun

lemma lstep_view (h : KeyedMachine step key view lstep good) {s s' : σ} {e : ε} (hs : good s)
    (hstep : step s e = some s') : lstep (view s (key e)) e = some (view s' (key e)) := by
  rw [← h.own hs, hstep, Option.map_some]

/-- The converse for the events of one key: where the local machine runs, the whole one does. -/
theorem run_of_local (h : KeyedMachine step key view lstep good) {s : σ} {es : List ε} {i : ι}
    {v : ν} (hs : good s) (hkey : ∀ e ∈ es, key e = i) (hrun : run lstep (view s i) es = some v) :
    ∃ s', run step s es = some s' ∧ view s' i = v := by
  induction es generalizing s with
  | nil =>
    rw [run_nil, Option.some.injEq] at hrun
    exact ⟨s, rfl, hrun⟩
  | cons e es ih =>
    obtain ⟨w, hw, hrest⟩ := run_cons_eq_some.1 hrun
    obtain rfl : key e = i := hkey e List.mem_cons_self
    rw [← h.own hs, Option.map_eq_some_iff] at hw
    obtain ⟨t, ht, rfl⟩ := hw
    obtain ⟨s', hs', hv⟩ := ih (h.good_step hs ht)
      (fun e' he' => hkey e' (List.mem_cons_of_mem _ he')) hrest
    exact ⟨s', run_cons_eq_some.2 ⟨t, ht, hs'⟩, hv⟩

variable [DecidableEq ι]

/-- **A run is local runs.**  After a run, the view of `i` is what the local machine makes of the
events of `i`. -/
theorem run_view (h : KeyedMachine step key view lstep good) {s s' : σ} {es : List ε}
    (hs : good s) (hrun : run step s es = some s') (i : ι) :
    run lstep (view s i) (eventsOf key i es) = some (view s' i) := by
  induction es generalizing s with
  | nil =>
    rw [run_nil, Option.some.injEq] at hrun
    simp [hrun]
  | cons e es ih =>
    obtain ⟨t, ht, hrest⟩ := run_cons_eq_some.1 hrun
    have htail := ih (h.good_step hs ht) hrest
    by_cases hk : key e = i
    · subst hk
      rw [eventsOf_cons_own, run_cons_eq_some]
      exact ⟨view t (key e), h.lstep_view hs ht, htail⟩
    · rw [eventsOf_cons_other hk, ← h.frame hs ht hk]
      exact htail

/-- **What holds of one key.**  A relation between the events of `i` and its view holds after a run
along which `P` holds, if the events of `i` keep it; what the others do to the view is nothing. -/
theorem view_history (h : KeyedMachine step key view lstep good) {s s' : σ} {es : List ε} {i : ι}
    {P : σ → ε → Prop} {I : List ε → ν → Prop} (hs : good s) (hnil : I [] (view s i))
    (hstep : ∀ {before mid e v}, run step s before = some mid → P mid e → key e = i →
      I (eventsOf key i before) (view mid i) → lstep (view mid i) e = some v →
      I (eventsOf key i before ++ [e]) v)
    (hrun : run step s es = some s') (halong : Along step P s es) :
    I (eventsOf key i es) (view s' i) := by
  induction es using List.reverseRecOn generalizing s' with
  | nil =>
    rw [run_nil, Option.some.injEq] at hrun
    exact hrun ▸ hnil
  | append_singleton es e ih =>
    obtain ⟨mid, hmid, hlast⟩ := run_concat_eq_some.1 hrun
    obtain ⟨hbefore, hP⟩ := along_append.1 halong
    have hgood := h.good_run hs hmid
    rw [eventsOf_append]
    by_cases hk : key e = i
    · subst hk
      rw [eventsOf_cons_own, eventsOf_nil]
      exact hstep hmid (hP mid hmid).1 rfl (ih hmid hbefore) (h.lstep_view hgood hlast)
    · rw [eventsOf_cons_other hk, eventsOf_nil, List.append_nil, h.frame hgood hlast hk]
      exact ih hmid hbefore

/-- **Other keys do not matter.**  The run that keeps only the events of `i` ends with the same
view of `i` as the whole run. -/
theorem run_filter (h : KeyedMachine step key view lstep good) {s s' : σ} {es : List ε}
    (hs : good s) (hrun : run step s es = some s') (i : ι) :
    ∃ t, run step s (eventsOf key i es) = some t ∧ view t i = view s' i :=
  h.run_of_local hs (fun _ he => (mem_eventsOf.1 he).2) (h.run_view hs hrun i)

/-- Where every key can take its own events, the whole machine can take all of them. -/
theorem run_of_locals (h : KeyedMachine step key view lstep good) {s : σ} {es : List ε}
    (hs : good s) (hlocal : ∀ i, ∃ v, run lstep (view s i) (eventsOf key i es) = some v) :
    ∃ s', run step s es = some s' := by
  induction es generalizing s with
  | nil => exact ⟨s, rfl⟩
  | cons e es ih =>
    obtain ⟨v, hv⟩ := hlocal (key e)
    rw [eventsOf_cons_own, run_cons_eq_some] at hv
    obtain ⟨w, hw, -⟩ := hv
    rw [← h.own hs, Option.map_eq_some_iff] at hw
    obtain ⟨t, ht, rfl⟩ := hw
    have htail : ∀ i, ∃ v, run lstep (view t i) (eventsOf key i es) = some v := by
      intro i
      obtain ⟨v, hv⟩ := hlocal i
      by_cases hk : key e = i
      · subst hk
        rw [eventsOf_cons_own, run_cons_eq_some] at hv
        obtain ⟨w', hw', hrest⟩ := hv
        rw [h.lstep_view hs ht, Option.some.injEq] at hw'
        exact ⟨v, hw' ▸ hrest⟩
      · rw [eventsOf_cons_other hk, ← h.frame hs ht hk] at hv
        exact ⟨v, hv⟩
    obtain ⟨s', hs'⟩ := ih (h.good_step hs ht) htail
    exact ⟨s', run_cons_eq_some.2 ⟨t, ht, hs'⟩⟩

/-- **Interleavings agree.**  If a machine can take the events of `es`, it can take those of every
other interleaving `fs` of the same events per key, and ends with the same views. -/
theorem run_interleaving (h : KeyedMachine step key view lstep good) {s s₁ : σ}
    {es fs : List ε} (hs : good s) (h₁ : run step s es = some s₁)
    (hsame : ∀ i, eventsOf key i fs = eventsOf key i es) :
    ∃ s₂, run step s fs = some s₂ ∧ ∀ i, view s₂ i = view s₁ i := by
  obtain ⟨s₂, h₂⟩ := h.run_of_locals hs fun i =>
    ⟨view s₁ i, (hsame i).symm ▸ h.run_view hs h₁ i⟩
  refine ⟨s₂, h₂, fun i => ?_⟩
  have hv₂ := h.run_view hs h₂ i
  rw [hsame i, h.run_view hs h₁ i, Option.some.injEq] at hv₂
  exact hv₂.symm

end KeyedMachine

end Keyed
