import Mathlib.Data.List.Basic
import Mathlib.Logic.Relation

/-!
# Incremental readers

A reader is a state machine that takes its input in pieces of any size.  In one turn it uses some of
the input and goes on, hands out a result, waits for more when the input is used up in the middle of
something, or fails.  As long as there is input it makes another turn; in the states that are
`ready` it can make one without input, and does so if the turn before asked for it (`busy`).

`Reader.feed` makes turns until the input is used up.  What comes of the input does not depend on
the pieces if one more law holds of every turn that is made: with more input the turn does the same,
and where it would have waited it does what the waiting state does with the rest.  Some readers obey
it in all states (`Cuts`); of others it is a matter of the states that a certain input leads to
(`CutsAt`).

* **`feed_append`** — if all turns obey the law it does not matter how the input is cut.
* **`Through.cut`** — and it is enough to look at the turns that are made when the input comes at
  once.
* **`feed_preserves`** — what every turn preserves is preserved.
* `Leads` — turns from one state and input to another; `Through` — what holds of all states in which
  a turn is made.
* `Reads` — what the reader makes of some data, whatever comes after it.
-/

namespace Incremental

variable {σ α β ε : Type*}

/-- The end of a turn. -/
inductive Turn (σ α β ε : Type*) where
  | next (s : σ) (rest : List α) (busy : Bool)
  | emit (s : σ) (out : β) (rest : List α)
  | wait (s : σ) (rest : List α)
  | fail (error : ε)

/-- The same turn, had there been more input. -/
def Turn.append (turn : σ → List α → Turn σ α β ε) (more : List α) :
    Turn σ α β ε → Turn σ α β ε
  | next s rest busy => next s (rest ++ more) busy
  | emit s out rest => emit s out (rest ++ more)
  | wait s _ => turn s more
  | fail error => fail error

/-- What holds of the end of a turn, case by case. -/
def Turn.Sat (next : σ → List α → Bool → Prop) (emit : σ → β → List α → Prop)
    (wait : σ → List α → Prop) (fail : ε → Prop) : Turn σ α β ε → Prop
  | .next s rest busy => next s rest busy
  | .emit s out rest => emit s out rest
  | .wait s rest => wait s rest
  | .fail error => fail error

/-- **A reader.**  The laws hold in the states that meet `inv`, where there is input or the state is
`ready`; `cost` bounds the number of turns. -/
structure Reader (σ α β ε : Type*) where
  turn : σ → List α → Turn σ α β ε
  cost : σ → List α → ℕ
  inv : σ → Prop
  ready : σ → Prop
  cost_next : ∀ {s s' input rest busy}, turn s input = .next s' rest busy →
    cost s' rest < cost s input
  cost_emit : ∀ {s s' input out rest}, turn s input = .emit s' out rest →
    cost s' rest < cost s input
  inv_next : ∀ {s s' input rest busy}, inv s → input ≠ [] ∨ ready s →
    turn s input = .next s' rest busy → inv s' ∧ (busy = true → ready s')
  inv_emit : ∀ {s s' input out rest}, inv s → input ≠ [] ∨ ready s →
    turn s input = .emit s' out rest → inv s'
  inv_wait : ∀ {s s' input rest}, inv s → input ≠ [] ∨ ready s →
    turn s input = .wait s' rest → inv s'

namespace Reader

variable (r : Reader σ α β ε)

/-- The results `out` before those of `result`. -/
def before (out : List β) (result : List β × Except ε σ) : List β × Except ε σ :=
  (out ++ result.1, result.2)

/-- Turns until the input is used up: the results, and the state or the error at the end. -/
def feed (s : σ) (input : List α) (busy : Bool) : List β × Except ε σ :=
  if input = [] ∧ busy = false then ([], .ok s)
  else
    match h : r.turn s input with
    | .next s' rest busy' => feed s' rest busy'
    | .emit s' out rest => before [out] (feed s' rest false)
    | .wait s' _ => ([], .ok s')
    | .fail error => ([], .error error)
termination_by r.cost s input
decreasing_by
  · exact r.cost_next h
  · exact r.cost_emit h

/-- The input of a turn in the state `s` can be cut in two. -/
def CutsAt (s : σ) : Prop :=
  ∀ {input more}, input ≠ [] ∨ r.ready s → more ≠ [] →
    r.turn s (input ++ more) = (r.turn s input).append r.turn more

/-- The input of every turn can be cut in two. -/
def Cuts : Prop := ∀ {s}, r.inv s → r.CutsAt s

/-- There is a turn to make. -/
def Goes (input : List α) (busy : Bool) : Prop := input ≠ [] ∨ busy = true

/-- `P` holds in every state in which a turn is made, until the input is used up. -/
inductive Through (P : σ → Prop) : σ → List α → Bool → Prop
  | stop (s : σ) : Through P s [] false
  | next {s input busy s' rest busy'} (h : Goes input busy) (hP : P s)
      (hturn : r.turn s input = .next s' rest busy') (hrest : Through P s' rest busy') :
      Through P s input busy
  | emit {s input busy s' out rest} (h : Goes input busy) (hP : P s)
      (hturn : r.turn s input = .emit s' out rest) (hrest : Through P s' rest false) :
      Through P s input busy
  | wait {s input busy s' rest} (h : Goes input busy) (hP : P s)
      (hturn : r.turn s input = .wait s' rest) : Through P s input busy
  | fail {s input busy error} (h : Goes input busy) (hP : P s)
      (hturn : r.turn s input = .fail error) : Through P s input busy

/-- A turn in a state that meets `P`, after which the reader goes on. -/
def Step (P : σ → Prop) (c c' : σ × List α × Bool) : Prop :=
  Goes c.2.1 c.2.2 ∧ P c.1 ∧ r.turn c.1 c.2.1 = .next c'.1 c'.2.1 c'.2.2

/-- Turns in states that meet `P`, after which the reader goes on. -/
def Leads (P : σ → Prop) : σ × List α × Bool → σ × List α × Bool → Prop :=
  Relation.ReflTransGen (r.Step P)

variable {r}

lemma feed_nil (s : σ) : r.feed s [] false = ([], .ok s) := by
  rw [feed, if_pos ⟨rfl, rfl⟩]

variable {s s' s'' : σ} {input rest more : List α} {busy busy' : Bool}

lemma Goes.not (h : Goes input busy) : ¬ (input = [] ∧ busy = false) := by
  rintro ⟨rfl, rfl⟩
  rcases h with h | h
  · exact h rfl
  · cases h

lemma feed_next (h : Goes input busy) (hturn : r.turn s input = .next s' rest busy') :
    r.feed s input busy = r.feed s' rest busy' := by
  rw [feed, if_neg h.not]
  split <;> rename_i hsplit <;> cases hturn.symm.trans hsplit
  rfl

lemma feed_emit {out : β} (h : Goes input busy) (hturn : r.turn s input = .emit s' out rest) :
    r.feed s input busy = before [out] (r.feed s' rest false) := by
  rw [feed, if_neg h.not]
  split <;> rename_i hsplit <;> cases hturn.symm.trans hsplit
  rfl

lemma feed_wait (h : Goes input busy) (hturn : r.turn s input = .wait s' rest) :
    r.feed s input busy = ([], .ok s') := by
  rw [feed, if_neg h.not]
  split <;> rename_i hsplit <;> cases hturn.symm.trans hsplit
  rfl

lemma feed_fail {error : ε} (h : Goes input busy) (hturn : r.turn s input = .fail error) :
    r.feed s input busy = ([], .error error) := by
  rw [feed, if_neg h.not]
  split <;> rename_i hsplit <;> cases hturn.symm.trans hsplit
  rfl

/-- The two ways to feed are the same while a turn is left to make. -/
lemma feed_busy (h : input ≠ []) (busy : Bool) : r.feed s input busy = r.feed s input false := by
  have hgoes : ∀ busy, Goes input busy := fun _ => Or.inl h
  cases hturn : r.turn s input with
  | next s' rest busy' => rw [feed_next (hgoes _) hturn, feed_next (hgoes _) hturn]
  | emit s' out rest => rw [feed_emit (hgoes _) hturn, feed_emit (hgoes _) hturn]
  | wait s' rest => rw [feed_wait (hgoes _) hturn, feed_wait (hgoes _) hturn]
  | fail error => rw [feed_fail (hgoes _) hturn, feed_fail (hgoes _) hturn]

/-- What comes after a first part, unless that failed. -/
def andThen (r : Reader σ α β ε) (first : List β × Except ε σ) (more : List α) :
    List β × Except ε σ :=
  match first.2 with
  | .ok s' => before first.1 (r.feed s' more false)
  | .error error => (first.1, .error error)

lemma andThen_before (out : List β) (first : List β × Except ε σ) (more : List α) :
    r.andThen (before out first) more = before out (r.andThen first more) := by
  rcases first with ⟨outs, s | s⟩ <;> simp [andThen, before]

/-- The rule of induction over the turns. -/
theorem feed_induct {P : σ → List α → Bool → Prop}
    (stop : ∀ s, P s [] false)
    (next : ∀ s input busy s' rest busy', Goes input busy →
      r.turn s input = .next s' rest busy' → P s' rest busy' → P s input busy)
    (emit : ∀ s input busy s' out rest, Goes input busy →
      r.turn s input = .emit s' out rest → P s' rest false → P s input busy)
    (wait : ∀ s input busy s' rest, Goes input busy → r.turn s input = .wait s' rest →
      P s input busy)
    (fail : ∀ s input busy error, Goes input busy → r.turn s input = .fail error →
      P s input busy)
    (s : σ) (input : List α) (busy : Bool) : P s input busy := by
  generalize hcost : r.cost s input = n
  induction n using Nat.strongRecOn generalizing s input busy with
  | ind n ih =>
    by_cases hstop : input = [] ∧ busy = false
    · obtain ⟨rfl, rfl⟩ := hstop
      exact stop s
    · have hgoes : Goes input busy := by
        by_cases hinput : input = []
        · refine Or.inr ?_
          by_contra hne
          exact hstop ⟨hinput, by simpa using hne⟩
        · exact Or.inl hinput
      cases hturn : r.turn s input with
      | next s' rest busy' =>
        exact next s input busy s' rest busy' hgoes hturn
          (ih _ (hcost ▸ r.cost_next hturn) s' rest busy' rfl)
      | emit s' out rest =>
        exact emit s input busy s' out rest hgoes hturn
          (ih _ (hcost ▸ r.cost_emit hturn) s' rest false rfl)
      | wait s' rest => exact wait s input busy s' rest hgoes hturn
      | fail error => exact fail s input busy error hgoes hturn

/-- A turn that is made is one that the laws speak of. -/
lemma Goes.ready (h : Goes input busy) (hbusy : busy = true → r.ready s) :
    input ≠ [] ∨ r.ready s := h.imp_right hbusy

/-- **The input can be cut in two**, where this is so for each turn on the first part. -/
theorem feed_append (h : r.Through r.CutsAt s input busy) (hs : r.inv s)
    (hbusy : busy = true → r.ready s) (more : List α) :
    r.feed s (input ++ more) busy = r.andThen (r.feed s input busy) more := by
  by_cases hmore : more = []
  · subst hmore
    rw [List.append_nil]
    rcases hfirst : r.feed s input busy with ⟨out, error | s'⟩
    · rfl
    · simp [andThen, before, feed_nil]
  have hgoes : ∀ input busy, Goes (input ++ more) busy := fun input busy => Or.inl (by simp [hmore])
  induction h with
  | stop s => simp [feed_nil, andThen, before]
  | next hturns hcuts hturn _ ih =>
    have hready := hturns.ready hbusy
    have happend := hcuts hready hmore
    have hinv := r.inv_next hs hready hturn
    rw [hturn, Turn.append] at happend
    rw [feed_next (hgoes _ _) happend, feed_next hturns hturn, ih hinv.1 hinv.2]
  | emit hturns hcuts hturn _ ih =>
    have hready := hturns.ready hbusy
    have happend := hcuts hready hmore
    have hinv := r.inv_emit hs hready hturn
    rw [hturn, Turn.append] at happend
    rw [feed_emit (hgoes _ _) happend, feed_emit hturns hturn, ih hinv (by simp), andThen_before]
  | @wait s input busy s' rest hturns hcuts hturn =>
    have happend := hcuts (hturns.ready hbusy) hmore
    rw [hturn, Turn.append] at happend
    have hrest : r.feed s (input ++ more) busy = r.feed s' more false := by
      cases hturn' : r.turn s' more with
      | next s'' rest' busy' =>
        rw [feed_next (hgoes _ _) (happend.trans hturn'), feed_next (Or.inl hmore) hturn']
      | emit s'' out rest' =>
        rw [feed_emit (hgoes _ _) (happend.trans hturn'), feed_emit (Or.inl hmore) hturn']
      | wait s'' rest' =>
        rw [feed_wait (hgoes _ _) (happend.trans hturn'), feed_wait (Or.inl hmore) hturn']
      | fail error =>
        rw [feed_fail (hgoes _ _) (happend.trans hturn'), feed_fail (Or.inl hmore) hturn']
    rw [hrest, feed_wait hturns hturn]
    simp [andThen, before]
  | fail hturns hcuts hturn =>
    have happend := hcuts (hturns.ready hbusy) hmore
    rw [hturn, Turn.append] at happend
    rw [feed_fail (hgoes _ _) happend, feed_fail hturns hturn]
    rfl

/-! ### The states in which turns are made -/

section Through

variable {P Q : σ → Prop}

/-- The turn that is made first. -/
lemma Through.first (h : r.Through P s input busy) (hgoes : Goes input busy) : P s := by
  cases h with
  | stop s => exact absurd ⟨rfl, rfl⟩ hgoes.not
  | next _ hP => exact hP
  | emit _ hP => exact hP
  | wait _ hP => exact hP
  | fail _ hP => exact hP

/-- The turns after one. -/
lemma Through.of_next (h : r.Through P s input busy) (hgoes : Goes input busy)
    (hturn : r.turn s input = .next s' rest busy') : r.Through P s' rest busy' := by
  cases h with
  | stop s => exact absurd ⟨rfl, rfl⟩ hgoes.not
  | next _ _ hturn' hrest =>
    cases hturn.symm.trans hturn'
    exact hrest
  | emit _ _ hturn' => cases hturn.symm.trans hturn'
  | wait _ _ hturn' => cases hturn.symm.trans hturn'
  | fail _ _ hturn' => cases hturn.symm.trans hturn'

lemma Through.of_emit {out : β} (h : r.Through P s input busy) (hgoes : Goes input busy)
    (hturn : r.turn s input = .emit s' out rest) : r.Through P s' rest false := by
  cases h with
  | stop s => exact absurd ⟨rfl, rfl⟩ hgoes.not
  | next _ _ hturn' => cases hturn.symm.trans hturn'
  | emit _ _ hturn' hrest =>
    cases hturn.symm.trans hturn'
    exact hrest
  | wait _ _ hturn' => cases hturn.symm.trans hturn'
  | fail _ _ hturn' => cases hturn.symm.trans hturn'

/-- The same turns, had they been made on the second part of some input. -/
lemma through_congr (hmore : more ≠ []) (hP : P s')
    (h : r.Through P s input busy) (hgoes : Goes input busy)
    (hturn : r.turn s input = r.turn s' more) : r.Through P s' more false := by
  have hgoes' : Goes more false := Or.inl hmore
  cases hturn' : r.turn s' more with
  | next s'' rest' busy' => exact .next hgoes' hP hturn' (h.of_next hgoes (hturn.trans hturn'))
  | emit s'' out rest' => exact .emit hgoes' hP hturn' (h.of_emit hgoes (hturn.trans hturn'))
  | wait s'' rest' => exact .wait hgoes' hP hturn'
  | fail error => exact .fail hgoes' hP hturn'

/-- **The turns on all the input are those on its parts**: it is enough that `P` holds of them, and
is kept where the first part is used up. -/
theorem Through.cut (hcuts : ∀ {s}, r.inv s → P s → r.CutsAt s)
    (hwait : ∀ {s input s' rest}, r.inv s → P s → r.turn s input = .wait s' rest → P s')
    (h : r.Through P s (input ++ more) busy) (hs : r.inv s) (hbusy : busy = true → r.ready s) :
    r.Through P s input busy ∧
      ∀ s', (r.feed s input busy).2 = .ok s' → r.Through P s' more false := by
  by_cases hmore : more = []
  · subst hmore
    rw [List.append_nil] at h
    exact ⟨h, fun s' _ => .stop s'⟩
  have hgoes : ∀ input busy, Goes (input ++ more) busy := fun input busy => Or.inl (by simp [hmore])
  revert h hs hbusy
  refine feed_induct (r := r) (P := fun s input busy => r.Through P s (input ++ more) busy →
    r.inv s → (busy = true → r.ready s) → r.Through P s input busy ∧
      ∀ s', (r.feed s input busy).2 = .ok s' → r.Through P s' more false) ?_ ?_ ?_ ?_ ?_ s input busy
  · intro s h hs hbusy
    refine ⟨.stop s, fun s' hfeed => ?_⟩
    rw [feed_nil] at hfeed
    cases hfeed
    exact h
  · intro s input busy s' rest busy' hturns hturn ih h hs hbusy
    have hready := hturns.ready hbusy
    have hP := h.first (hgoes _ _)
    have happend := hcuts hs hP hready hmore
    have hinv := r.inv_next hs hready hturn
    rw [hturn, Turn.append] at happend
    obtain ⟨hrest, hfeed⟩ := ih (h.of_next (hgoes _ _) happend) hinv.1 hinv.2
    rw [feed_next hturns hturn]
    exact ⟨.next hturns hP hturn hrest, hfeed⟩
  · intro s input busy s' out rest hturns hturn ih h hs hbusy
    have hready := hturns.ready hbusy
    have hP := h.first (hgoes _ _)
    have happend := hcuts hs hP hready hmore
    rw [hturn, Turn.append] at happend
    obtain ⟨hrest, hfeed⟩ := ih (h.of_emit (hgoes _ _) happend) (r.inv_emit hs hready hturn) (by simp)
    rw [feed_emit hturns hturn]
    exact ⟨.emit hturns hP hturn hrest, hfeed⟩
  · intro s input busy s' rest hturns hturn h hs hbusy
    have hP := h.first (hgoes _ _)
    have happend := hcuts hs hP (hturns.ready hbusy) hmore
    rw [hturn, Turn.append] at happend
    refine ⟨.wait hturns hP hturn, fun s'' hfeed => ?_⟩
    rw [feed_wait hturns hturn] at hfeed
    cases hfeed
    exact through_congr hmore (hwait hs hP hturn) h (hgoes _ _) happend
  · intro s input busy error hturns hturn h hs hbusy
    refine ⟨.fail hturns (h.first (hgoes _ _)) hturn, fun s' hfeed => ?_⟩
    rw [feed_fail hturns hturn] at hfeed
    cases hfeed

/-- What follows from the invariant holds in every state in which a turn is made. -/
lemma Through.of_inv (h : r.Through P s input busy) (hQ : ∀ {s}, r.inv s → P s → Q s)
    (hs : r.inv s) (hbusy : busy = true → r.ready s) : r.Through Q s input busy := by
  induction h with
  | stop s => exact .stop s
  | next hturns hP hturn _ ih =>
    have hinv := r.inv_next hs (hturns.ready hbusy) hturn
    exact .next hturns (hQ hs hP) hturn (ih hinv.1 hinv.2)
  | emit hturns hP hturn _ ih =>
    exact .emit hturns (hQ hs hP) hturn (ih (r.inv_emit hs (hturns.ready hbusy) hturn) (by simp))
  | wait hturns hP hturn => exact .wait hturns (hQ hs hP) hturn
  | fail hturns hP hturn => exact .fail hturns (hQ hs hP) hturn

/-- What holds in all states. -/
lemma through_of_forall (hP : ∀ s, P s) (s : σ) (input : List α) (busy : Bool) :
    r.Through P s input busy :=
  feed_induct (P := fun s input busy => r.Through P s input busy) .stop
    (fun s _ _ _ _ _ hturns hturn ih => .next hturns (hP s) hturn ih)
    (fun s _ _ _ _ _ hturns hturn ih => .emit hturns (hP s) hturn ih)
    (fun s _ _ _ _ hturns hturn => .wait hturns (hP s) hturn)
    (fun s _ _ _ hturns hturn => .fail hturns (hP s) hturn) s input busy

/-- A reader of which the input of every turn can be cut. -/
lemma Cuts.through (h : r.Cuts) (hs : r.inv s) (input : List α) (hbusy : busy = true → r.ready s) :
    r.Through r.CutsAt s input busy :=
  (through_of_forall (P := fun _ => True) (fun _ => trivial) s input busy).of_inv
    (fun hs _ => h hs) hs hbusy

/-- The input of such a reader can be cut anywhere. -/
lemma Cuts.feed_append (h : r.Cuts) (hs : r.inv s) (hbusy : busy = true → r.ready s)
    (more : List α) :
    r.feed s (input ++ more) busy = r.andThen (r.feed s input busy) more :=
  Reader.feed_append (h.through hs input hbusy) hs hbusy more

end Through

section Leads

variable {P : σ → Prop}

lemma Leads.single (hgoes : Goes input busy) (hP : P s)
    (hturn : r.turn s input = .next s' rest busy') :
    r.Leads P (s, input, busy) (s', rest, busy') :=
  Relation.ReflTransGen.single ⟨hgoes, hP, hturn⟩

/-- What is fed after the turns. -/
lemma Leads.feed (h : r.Leads P (s, input, busy) (s', rest, busy')) :
    r.feed s input busy = r.feed s' rest busy' := by
  have hall : ∀ {c c'}, r.Leads P c c' → r.feed c.1 c.2.1 c.2.2 = r.feed c'.1 c'.2.1 c'.2.2 := by
    intro c c' h
    induction h with
    | refl => rfl
    | tail _ hstep ih =>
      obtain ⟨hgoes, -, hturn⟩ := hstep
      exact ih.trans (feed_next hgoes hturn)
  exact hall h

/-- The turns before. -/
lemma Leads.through (h : r.Leads P (s, input, busy) (s', rest, busy'))
    (hrest : r.Through P s' rest busy') : r.Through P s input busy := by
  have hall : ∀ {c c'}, r.Leads P c c' → r.Through P c'.1 c'.2.1 c'.2.2 →
      r.Through P c.1 c.2.1 c.2.2 := by
    intro c c' h hrest
    induction h using Relation.ReflTransGen.head_induction_on with
    | refl => exact hrest
    | head hstep _ ih =>
      obtain ⟨hgoes, hP, hturn⟩ := hstep
      exact .next hgoes hP hturn ih
  exact hall h hrest

end Leads

/-! ### What is preserved -/

/-- **What every turn preserves is preserved**, and what holds of every error of a turn holds of the
error at the end. -/
theorem feed_preserves (Good : ε → Prop) (hfail : ∀ s input error, r.inv s →
      input ≠ [] ∨ r.ready s → r.turn s input = .fail error → Good error)
    (hs : r.inv s) (input : List α) (busy : Bool) (hbusy : busy = true → r.ready s) :
    match (r.feed s input busy).2 with
    | .ok s' => r.inv s'
    | .error error => Good error := by
  revert hs hbusy
  refine feed_induct (r := r) (P := fun s input busy => r.inv s → (busy = true → r.ready s) →
    match (r.feed s input busy).2 with
    | .ok s' => r.inv s'
    | .error error => Good error) ?_ ?_ ?_ ?_ ?_ s input busy
  · intro s hs _
    rw [feed_nil]
    exact hs
  · intro s input busy s' rest busy' hturns hturn ih hs hbusy
    have hinv := r.inv_next hs (hturns.ready hbusy) hturn
    rw [feed_next hturns hturn]
    exact ih hinv.1 hinv.2
  · intro s input busy s' out rest hturns hturn ih hs hbusy
    rw [feed_emit hturns hturn]
    exact ih (r.inv_emit hs (hturns.ready hbusy) hturn) (by simp)
  · intro s input busy s' rest hturns hturn hs hbusy
    rw [feed_wait hturns hturn]
    exact r.inv_wait hs (hturns.ready hbusy) hturn
  · intro s input busy error hturns hturn hs hbusy
    rw [feed_fail hturns hturn]
    exact hfail s input error hs (hturns.ready hbusy) hturn

/-- The reader comes from `s` to `s'` by `data`, and hands out `out`. -/
def Reads (r : Reader σ α β ε) (s : σ) (data : List α) (out : List β) (s' : σ) : Prop :=
  ∀ rest, r.feed s (data ++ rest) false = before out (r.feed s' rest false)

section Reads

variable {data data' : List α} {out out' : List β}

lemma Reads.refl (s : σ) : r.Reads s [] [] s := fun _ => rfl

lemma Reads.trans {s'' : σ} (h : r.Reads s data out s')
    (h' : r.Reads s' data' out' s'') : r.Reads s (data ++ data') (out ++ out') s'' := by
  intro rest
  rw [List.append_assoc, h, h']
  simp [before]

/-- A turn that uses up the data. -/
lemma reads_next (hdata : data ≠ []) (h : ∀ rest, r.turn s (data ++ rest) = .next s' rest false) :
    r.Reads s data [] s' := by
  intro rest
  rw [feed_next (Or.inl (by simp [hdata])) (h rest)]
  simp [before]

/-- A turn that uses up the data and hands out `b`. -/
lemma reads_emit {b : β} (hdata : data ≠ []) (h : ∀ rest, r.turn s (data ++ rest) = .emit s' b rest) :
    r.Reads s data [b] s' :=
  fun rest => feed_emit (Or.inl (by simp [hdata])) (h rest)

/-- A turn before the ones that use up the data. -/
lemma reads_after (hinput : input ≠ []) (hturn : ∀ rest, r.turn s (input ++ rest) =
      .next s' (data ++ rest) busy)
    (h : ∀ rest, r.feed s' (data ++ rest) busy = before out (r.feed s'' rest false)) :
    r.Reads s input out s'' := by
  intro rest
  rw [feed_next (Or.inl (by simp [hinput])) (hturn rest), h]

lemma Reads.feed (h : r.Reads s data out s') :
    r.feed s data false = (out, .ok s') := by
  have hrest := h []
  rw [List.append_nil, feed_nil] at hrest
  rw [hrest]
  simp [before]

lemma Reads.inv (h : r.Reads s data out s') (hs : r.inv s) :
    r.inv s' := by
  have hinv := feed_preserves (fun _ => True) (fun _ _ _ _ _ _ => trivial) hs data false (by simp)
  rwa [h.feed] at hinv

end Reads

/-! ## A reader with a visitor -/

/-- The end of a visit: the input is used up, the visitor wants no more, or the reader failed. -/
inductive Visit (σ α τ ε : Type*) where
  | ended (t : τ) (s : σ)
  | stopped (t : τ) (s : σ) (rest : List α)
  | failed (t : τ) (error : ε)

section Visit

variable {τ : Type*} (f : τ → β → τ × Bool)

/-- Turns until the input is used up, where each result is handed to `f`, which may stop the
reader. -/
def visit (r : Reader σ α β ε) (f : τ → β → τ × Bool) (t : τ) (s : σ) (input : List α)
    (busy : Bool) : Visit σ α τ ε :=
  if input = [] ∧ busy = false then .ended t s
  else
    match h : r.turn s input with
    | .next s' rest busy' => visit r f t s' rest busy'
    | .emit s' out rest =>
      if (f t out).2 then visit r f (f t out).1 s' rest false else .stopped (f t out).1 s' rest
    | .wait s' _ => .ended t s'
    | .fail error => .failed t error
termination_by r.cost s input
decreasing_by
  · exact r.cost_next h
  · exact r.cost_emit h

lemma visit_nil (t : τ) (s : σ) : r.visit f t s [] false = .ended t s := by
  rw [visit, if_pos ⟨rfl, rfl⟩]

lemma visit_next (t : τ) (h : Goes input busy) (hturn : r.turn s input = .next s' rest busy') :
    r.visit f t s input busy = r.visit f t s' rest busy' := by
  rw [visit, if_neg h.not]
  split <;> rename_i hsplit <;> cases hturn.symm.trans hsplit
  rfl

lemma visit_emit {out : β} (t : τ) (h : Goes input busy)
    (hturn : r.turn s input = .emit s' out rest) :
    r.visit f t s input busy =
      if (f t out).2 then r.visit f (f t out).1 s' rest false else .stopped (f t out).1 s' rest := by
  rw [visit, if_neg h.not]
  split <;> rename_i hsplit <;> cases hturn.symm.trans hsplit
  rfl

lemma visit_wait (t : τ) (h : Goes input busy) (hturn : r.turn s input = .wait s' rest) :
    r.visit f t s input busy = .ended t s' := by
  rw [visit, if_neg h.not]
  split <;> rename_i hsplit <;> cases hturn.symm.trans hsplit
  rfl

lemma visit_fail {error : ε} (t : τ) (h : Goes input busy)
    (hturn : r.turn s input = .fail error) : r.visit f t s input busy = .failed t error := by
  rw [visit, if_neg h.not]
  split <;> rename_i hsplit <;> cases hturn.symm.trans hsplit
  rfl

/-- Where a turn leaves the end of its input, so does a visit. -/
lemma suffix_visit
    (hnext : ∀ {s input s' rest busy}, r.turn s input = .next s' rest busy → rest <:+ input)
    (hemit : ∀ {s input s' out rest}, r.turn s input = .emit s' out rest → rest <:+ input)
    (t : τ) {t' : τ} (h : r.visit f t s input busy = .stopped t' s' rest) : rest <:+ input := by
  revert t
  refine feed_induct (r := r) (P := fun s input busy => ∀ t,
    r.visit f t s input busy = .stopped t' s' rest → rest <:+ input) ?_ ?_ ?_ ?_ ?_ s input busy
  · intro s t h
    rw [visit_nil] at h
    cases h
  · intro s input busy s'' rest'' busy' hturns hturn ih t h
    rw [visit_next f t hturns hturn] at h
    exact (ih t h).trans (hnext hturn)
  · intro s input busy s'' out rest'' hturns hturn ih t h
    rw [visit_emit f t hturns hturn] at h
    split at h
    · exact (ih _ h).trans (hemit hturn)
    · cases h
      exact hemit hturn
  · intro s input busy s'' rest'' hturns hturn t h
    rw [visit_wait f t hturns hturn] at h
    cases h
  · intro s input busy error hturns hturn t h
    rw [visit_fail f t hturns hturn] at h
    cases h

/-- What comes of more input after a first part. -/
def Visit.andThen (r : Reader σ α β ε) (f : τ → β → τ × Bool) (more : List α) :
    Visit σ α τ ε → Visit σ α τ ε
  | .ended t s => r.visit f t s more false
  | .stopped t s rest => .stopped t s (rest ++ more)
  | .failed t error => .failed t error

/-- **The input of a visit can be cut in two.** -/
theorem visit_append (hcuts : r.Cuts) (hs : r.inv s) (hbusy : busy = true → r.ready s) (t : τ)
    (more : List α) :
    r.visit f t s (input ++ more) busy = (r.visit f t s input busy).andThen r f more := by
  by_cases hmore : more = []
  · subst hmore
    rw [List.append_nil]
    cases hfirst : r.visit f t s input busy with
    | ended t' s' => rw [Visit.andThen, visit_nil]
    | stopped t' s' rest => rw [Visit.andThen, List.append_nil]
    | failed t' error => rfl
  have hgoes : ∀ input busy, Goes (input ++ more) busy := fun input busy => Or.inl (by simp [hmore])
  revert hs hbusy t
  refine feed_induct (r := r) (P := fun s input busy => r.inv s → (busy = true → r.ready s) →
    ∀ t, r.visit f t s (input ++ more) busy = (r.visit f t s input busy).andThen r f more)
    ?_ ?_ ?_ ?_ ?_ s input busy
  · intro s _ _ t
    rw [visit_nil, Visit.andThen, List.nil_append]
  · intro s input busy s' rest busy' hturns hturn ih hs hbusy t
    have hready := hturns.ready hbusy
    have happend := hcuts hs hready hmore
    have hinv := r.inv_next hs hready hturn
    rw [hturn, Turn.append] at happend
    rw [visit_next f t (hgoes _ _) happend, visit_next f t hturns hturn, ih hinv.1 hinv.2]
  · intro s input busy s' out rest hturns hturn ih hs hbusy t
    have hready := hturns.ready hbusy
    have happend := hcuts hs hready hmore
    have hinv := r.inv_emit hs hready hturn
    rw [hturn, Turn.append] at happend
    rw [visit_emit f t (hgoes _ _) happend, visit_emit f t hturns hturn]
    split
    · exact ih hinv (by simp) _
    · rfl
  · intro s input busy s' rest hturns hturn hs hbusy t
    have happend := hcuts hs (hturns.ready hbusy) hmore
    rw [hturn, Turn.append] at happend
    rw [visit_wait f t hturns hturn, Visit.andThen]
    cases hturn' : r.turn s' more with
    | next s'' rest' busy' =>
      rw [visit_next f t (hgoes _ _) (happend.trans hturn'), visit_next f t (Or.inl hmore) hturn']
    | emit s'' out rest' =>
      rw [visit_emit f t (hgoes _ _) (happend.trans hturn'), visit_emit f t (Or.inl hmore) hturn']
    | wait s'' rest' =>
      rw [visit_wait f t (hgoes _ _) (happend.trans hturn'), visit_wait f t (Or.inl hmore) hturn']
    | fail error =>
      rw [visit_fail f t (hgoes _ _) (happend.trans hturn'), visit_fail f t (Or.inl hmore) hturn']
  · intro s input busy error hturns hturn hs hbusy t
    have happend := hcuts hs (hturns.ready hbusy) hmore
    rw [hturn, Turn.append] at happend
    rw [visit_fail f t (hgoes _ _) happend, visit_fail f t hturns hturn]
    rfl

/-- The results are handed to the visitor until it wants no more. -/
def offer (f : τ → β → τ × Bool) (t : τ) : List β → τ × Bool
  | [] => (t, true)
  | out :: outs => if (f t out).2 then offer f (f t out).1 outs else ((f t out).1, false)

/-- **A visit follows the reader**: the visitor sees its results, and the reader comes to the same
end with what the visitor has left of the input. -/
theorem visit_feed (t : τ) (s : σ) (input : List α) (busy : Bool) :
    match r.visit f t s input busy with
    | .ended t' s' =>
      offer f t (r.feed s input busy).1 = (t', true) ∧ (r.feed s input busy).2 = .ok s'
    | .stopped t' s' rest =>
      offer f t (r.feed s input busy).1 = (t', false) ∧
        (r.feed s input busy).2 = (r.feed s' rest false).2
    | .failed t' error =>
      offer f t (r.feed s input busy).1 = (t', true) ∧ (r.feed s input busy).2 = .error error := by
  revert t
  refine feed_induct (r := r) (P := fun s input busy => ∀ t,
    match r.visit f t s input busy with
    | .ended t' s' =>
      offer f t (r.feed s input busy).1 = (t', true) ∧ (r.feed s input busy).2 = .ok s'
    | .stopped t' s' rest =>
      offer f t (r.feed s input busy).1 = (t', false) ∧
        (r.feed s input busy).2 = (r.feed s' rest false).2
    | .failed t' error =>
      offer f t (r.feed s input busy).1 = (t', true) ∧ (r.feed s input busy).2 = .error error)
    ?_ ?_ ?_ ?_ ?_ s input busy
  · intro s t
    rw [visit_nil, feed_nil]
    exact ⟨rfl, rfl⟩
  · intro s input busy s' rest busy' hturns hturn ih t
    rw [visit_next f t hturns hturn, feed_next hturns hturn]
    exact ih t
  · intro s input busy s' out rest hturns hturn ih t
    rw [visit_emit f t hturns hturn, feed_emit hturns hturn]
    by_cases hgo : (f t out).2
    · simp only [before, List.singleton_append, offer, hgo, if_true]
      exact ih _
    · simp only [before, List.singleton_append, offer, hgo]
      exact ⟨rfl, rfl⟩
  · intro s input busy s' rest hturns hturn t
    rw [visit_wait f t hturns hturn, feed_wait hturns hturn]
    exact ⟨rfl, rfl⟩
  · intro s input busy error hturns hturn t
    rw [visit_fail f t hturns hturn, feed_fail hturns hturn]
    exact ⟨rfl, rfl⟩

/-- The state after a visit meets the invariant. -/
lemma visit_preserves (hs : r.inv s) (input : List α) (busy : Bool)
    (hbusy : busy = true → r.ready s) (t : τ) :
    match r.visit f t s input busy with
    | .ended _ s' => r.inv s'
    | .stopped _ s' _ => r.inv s'
    | .failed _ _ => True := by
  revert hs hbusy t
  refine feed_induct (r := r) (P := fun s input busy => r.inv s → (busy = true → r.ready s) → ∀ t,
    match r.visit f t s input busy with
    | .ended _ s' => r.inv s'
    | .stopped _ s' _ => r.inv s'
    | .failed _ _ => True) ?_ ?_ ?_ ?_ ?_ s input busy
  · intro s hs _ t
    rw [visit_nil]
    exact hs
  · intro s input busy s' rest busy' hturns hturn ih hs hbusy t
    have hinv := r.inv_next hs (hturns.ready hbusy) hturn
    rw [visit_next f t hturns hturn]
    exact ih hinv.1 hinv.2 t
  · intro s input busy s' out rest hturns hturn ih hs hbusy t
    have hinv := r.inv_emit hs (hturns.ready hbusy) hturn
    rw [visit_emit f t hturns hturn]
    by_cases hgo : (f t out).2
    · simp only [hgo, if_true]
      exact ih hinv (by simp) _
    · simp only [hgo]
      exact hinv
  · intro s input busy s' rest hturns hturn hs hbusy t
    rw [visit_wait f t hturns hturn]
    exact r.inv_wait hs (hturns.ready hbusy) hturn
  · intro s input busy error hturns hturn hs hbusy t
    rw [visit_fail f t hturns hturn]
    trivial

end Visit

end Reader

end Incremental
