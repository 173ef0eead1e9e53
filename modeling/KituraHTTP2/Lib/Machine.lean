import Mathlib.Data.List.Induction

/-!
# Partial step machines and their runs

A system that reacts to events is a partial function `step : σ → ε → Option σ`: from a state and
an event it gives the next state, or `none` where the event cannot happen there (or where the
process stops).  `run step s es` takes the events of `es` in order.

Four rules carry every fact about a run from facts about one step.

* **`run_preserves`** — what each step preserves, a run preserves.
* **`run_history`** — what each step preserves may speak of the events so far, and of the state of
  a second machine that takes the same events.
* **`run_preserves_along`** — the first rule for runs whose every step meets a condition on the
  state it starts from and its event (`Along`).
* **`run_good_or_bad`** — where the first step that misses the condition does lasting harm, the
  condition decides how the run ends.

The rest splits runs: at the front (`run_cons`), in the middle (`run_append`), at the end
(`run_concat`).
-/

namespace Machine

variable {σ ε : Type*} {step : σ → ε → Option σ}

/-- Take the events of `es` one after the other, as long as each of them can happen. -/
def run (step : σ → ε → Option σ) (s : σ) : List ε → Option σ
  | [] => some s
  | e :: es => (step s e).bind fun s' => run step s' es

@[simp]
lemma run_nil (s : σ) : run step s [] = some s := rfl

lemma run_cons (s : σ) (e : ε) (es : List ε) :
    run step s (e :: es) = (step s e).bind fun s' => run step s' es := rfl

/-- The first step of a run, and the run that is left. -/
lemma run_cons_eq_some {s s'' : σ} {e : ε} {es : List ε} :
    run step s (e :: es) = some s'' ↔ ∃ s', step s e = some s' ∧ run step s' es = some s'' := by
  rw [run_cons, Option.bind_eq_some_iff]

lemma run_append (s : σ) (es fs : List ε) :
    run step s (es ++ fs) = (run step s es).bind fun s' => run step s' fs := by
  induction es generalizing s with
  | nil => rfl
  | cons e es ih =>
    simp only [List.cons_append, run_cons, Option.bind_assoc]
    exact congrArg _ (funext fun s' => ih s')

/-- A run over `es ++ fs` stops in the middle in a state that a run over `es` reaches. -/
lemma run_append_eq_some {s s'' : σ} {es fs : List ε} :
    run step s (es ++ fs) = some s'' ↔
      ∃ s', run step s es = some s' ∧ run step s' fs = some s'' := by
  rw [run_append, Option.bind_eq_some_iff]

/-- The last step of a run, and the run before it. -/
lemma run_concat_eq_some {s s'' : σ} {es : List ε} {e : ε} :
    run step s (es ++ [e]) = some s'' ↔
      ∃ s', run step s es = some s' ∧ step s' e = some s'' := by
  simp only [run_append_eq_some, run_cons_eq_some, run_nil, Option.some.injEq,
    exists_eq_right]

/-! ## What a run preserves -/

/-- **The invariant rule.**  A property that every step preserves holds at the end of every run
that starts with it. -/
theorem run_preserves {Inv : σ → Prop}
    (hstep : ∀ s e s', Inv s → step s e = some s' → Inv s')
    {s s' : σ} {es : List ε} (hs : Inv s) (hrun : run step s es = some s') : Inv s' := by
  induction es generalizing s with
  | nil =>
    rw [run_nil, Option.some.injEq] at hrun
    exact hrun ▸ hs
  | cons e es ih =>
    obtain ⟨t, ht, hrest⟩ := run_cons_eq_some.1 hrun
    exact ih (hstep s e t hs ht) hrest

/-- **The history rule**, for two machines that take the same events: a relation between the events
so far and the two states that holds at the start and is preserved by every common step holds
throughout. -/
theorem run_history {τ : Type*} {step₂ : τ → ε → Option τ} (Inv : List ε → σ → τ → Prop)
    {s₀ : σ} {t₀ : τ} (hinit : Inv [] s₀ t₀)
    (hstep : ∀ es s t e s' t', Inv es s t → step s e = some s' → step₂ t e = some t' →
      Inv (es ++ [e]) s' t')
    {es : List ε} {s : σ} {t : τ} (hs : run step s₀ es = some s) (ht : run step₂ t₀ es = some t) :
    Inv es s t := by
  induction es using List.reverseRecOn generalizing s t with
  | nil =>
    rw [run_nil, Option.some.injEq] at hs ht
    exact hs ▸ ht ▸ hinit
  | append_singleton es e ih =>
    obtain ⟨s', hs', hse⟩ := run_concat_eq_some.1 hs
    obtain ⟨t', ht', hte⟩ := run_concat_eq_some.1 ht
    exact hstep es s' t' e s t (ih hs' ht') hse hte

/-- Every step of the run over `es` starts in a state that meets `P` with its event. -/
def Along (step : σ → ε → Option σ) (P : σ → ε → Prop) : σ → List ε → Prop
  | _, [] => True
  | s, e :: es => P s e ∧ ∀ s', step s e = some s' → Along step P s' es

@[simp]
lemma along_nil {P : σ → ε → Prop} (s : σ) : Along step P s [] := trivial

lemma along_cons {P : σ → ε → Prop} {s : σ} {e : ε} {es : List ε} :
    Along step P s (e :: es) ↔ P s e ∧ ∀ s', step s e = some s' → Along step P s' es :=
  Iff.rfl

lemma along_append {P : σ → ε → Prop} {s : σ} {es fs : List ε} :
    Along step P s (es ++ fs) ↔
      Along step P s es ∧ ∀ s', run step s es = some s' → Along step P s' fs := by
  induction es generalizing s with
  | nil => simp
  | cons e es ih =>
    simp only [List.cons_append, along_cons, ih, run_cons_eq_some]
    constructor
    · rintro ⟨hP, hall⟩
      refine ⟨⟨hP, fun s' hs' => (hall s' hs').1⟩, ?_⟩
      rintro s'' ⟨s', hs', hrun⟩
      exact (hall s' hs').2 s'' hrun
    · rintro ⟨⟨hP, hall⟩, hrest⟩
      exact ⟨hP, fun s' hs' => ⟨hall s' hs', fun s'' hrun => hrest s'' ⟨s', hs', hrun⟩⟩⟩

/-- The condition at each place of the run. -/
lemma along_iff_forall {P : σ → ε → Prop} {s : σ} {es : List ε} :
    Along step P s es ↔ ∀ before e after mid, es = before ++ e :: after →
      run step s before = some mid → P mid e := by
  constructor
  · rintro h before e after mid rfl hmid
    exact ((along_append.1 h).2 mid hmid).1
  · intro h
    induction es generalizing s with
    | nil => trivial
    | cons e es ih =>
      refine ⟨h [] e es s rfl rfl, ?_⟩
      intro s' hs'
      refine ih ?_
      rintro before e' after mid rfl hmid
      exact h (e :: before) e' after mid rfl (run_cons_eq_some.2 ⟨s', hs', hmid⟩)

/-- `P` holds in every state of the run over `es`, at its start and at its end too. -/
def Throughout (step : σ → ε → Option σ) (P : σ → Prop) (s : σ) (es : List ε) : Prop :=
  ∀ before after mid, es = before ++ after → run step s before = some mid → P mid

/-- A condition that the events meet in every state. -/
lemma along_of_forall {P : σ → ε → Prop} {es : List ε} (h : ∀ e ∈ es, ∀ s, P s e) (s : σ) :
    Along step P s es := by
  induction es generalizing s with
  | nil => trivial
  | cons e es ih =>
    have htail : ∀ e' ∈ es, ∀ s, P s e' := fun e' he' => h e' (List.mem_cons_of_mem _ he')
    exact ⟨h e List.mem_cons_self s, fun s' _ => ih htail s'⟩

/-- What can be decided for every step can be decided along a run. -/
instance Along.decidable {P : σ → ε → Prop} [inst : ∀ s e, Decidable (P s e)] :
    (s : σ) → (es : List ε) → Decidable (Along step P s es)
  | _, [] => isTrue trivial
  | s, e :: es =>
    match hs : step s e with
    | none => decidable_of_iff (P s e)
        ⟨fun h => ⟨h, fun _ hs' => (nomatch hs.symm.trans hs')⟩, And.left⟩
    | some s' =>
      have : Decidable (Along step P s' es) := Along.decidable s' es
      decidable_of_iff (P s e ∧ Along step P s' es)
        ⟨fun h => ⟨h.1, fun _ hs' => Option.some.inj (hs.symm.trans hs') ▸ h.2⟩,
          fun h => ⟨h.1, h.2 s' hs⟩⟩

/-- **The invariant rule under a condition.**  A property preserved by the steps that meet `P`
holds at the end of every run all of whose steps meet `P`. -/
theorem run_preserves_along {Inv : σ → Prop} {P : σ → ε → Prop}
    (hstep : ∀ s e s', Inv s → P s e → step s e = some s' → Inv s')
    {s s' : σ} {es : List ε} (hs : Inv s) (hP : Along step P s es)
    (hrun : run step s es = some s') : Inv s' := by
  induction es generalizing s with
  | nil =>
    rw [run_nil, Option.some.injEq] at hrun
    exact hrun ▸ hs
  | cons e es ih =>
    obtain ⟨t, ht, hrest⟩ := run_cons_eq_some.1 hrun
    exact ih (hstep s e t hs hP.1 ht) (hP.2 t ht) hrest

/-- A condition follows from another along a run where it follows from it in the states of an
invariant. -/
lemma Along.of_invariant {Inv : σ → Prop} {P Q : σ → ε → Prop}
    (hstep : ∀ s e s', Inv s → P s e → step s e = some s' → Inv s')
    (hPQ : ∀ s e, Inv s → P s e → Q s e) {s : σ} {es : List ε} (hs : Inv s)
    (h : Along step P s es) : Along step Q s es := by
  induction es generalizing s with
  | nil => trivial
  | cons e es ih =>
    exact ⟨hPQ s e hs h.1, fun s' hs' => ih (hstep s e s' hs h.1 hs') (h.2 s' hs')⟩

/-- **The rule for a condition that decides.**  Where the steps that meet `P` keep the states good,
and the first step that does not makes them bad for ever, a run ends in a good state if all its
steps meet `P`, and in a bad state if not. -/
theorem run_good_or_bad (Good Bad : σ → Prop) {P : σ → ε → Prop}
    (hgood : ∀ s e s', Good s → P s e → step s e = some s' → Good s')
    (hbreak : ∀ s e s', Good s → ¬ P s e → step s e = some s' → Bad s')
    (hbad : ∀ s e s', Bad s → step s e = some s' → Bad s')
    {s s' : σ} {es : List ε} (hs : Good s) (hrun : run step s es = some s') :
    (Along step P s es ∧ Good s') ∨ (¬ Along step P s es ∧ Bad s') := by
  induction es generalizing s with
  | nil =>
    rw [run_nil, Option.some.injEq] at hrun
    exact Or.inl ⟨trivial, hrun ▸ hs⟩
  | cons e es ih =>
    obtain ⟨t, ht, hrest⟩ := run_cons_eq_some.1 hrun
    by_cases hP : P s e
    · rcases ih (hgood s e t hs hP ht) hrest with ⟨halong, hend⟩ | ⟨hnot, hend⟩
      · refine Or.inl ⟨⟨hP, fun s₁ hs₁ => ?_⟩, hend⟩
        rw [ht, Option.some.injEq] at hs₁
        exact hs₁ ▸ halong
      · exact Or.inr ⟨fun halong => hnot (halong.2 t ht), hend⟩
    · have hend : Bad s' := run_preserves hbad (hbreak s e t hs hP ht) hrest
      exact Or.inr ⟨fun halong => hP halong.1, hend⟩

end Machine
