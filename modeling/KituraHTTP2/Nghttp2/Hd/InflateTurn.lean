import KituraHTTP2.Nghttp2.Hd.Inflate

/-!
# The turns of the decoder

Each turn of the decoder reads one byte, one integer or one text.  The lemmas about `withLen` and
`withString` say what becomes of a turn, whether the input is enough for it or not: it goes on in
another state, hands out a field, waits for the rest, or fails.  What is to be shown of a turn is
named for these four ends, and then every state of the decoder is a short case.

Two things are shown of all states here, valid or not.  The loop of the decoder has no counter of
its own; it ends because each turn uses up input, or comes nearer to a state that does.  And the
decoder never puts anything before what it has not read: the session counts what is left of a frame
by the place where the decoder stopped.

* **`cost_turn`** — the loop of the decoder ends.
* `shortens_turn` — a turn takes what it reads from the beginning of the input.
-/

namespace KituraHTTP2.Nghttp2

open BoundedQueue Incremental

/-! ## An integer -/

section Sat

variable {N : HdInflater → Bytes → Bool → Prop} {E : HdInflater → HdNv → Bytes → Prop}
  {W : HdInflater → Bytes → Prop} {F : InflateError → Prop}

/-- What becomes of a turn with an integer. -/
lemma sat_withLen {inflater : HdInflater} {input : Bytes} {width maxlen : ℕ} (hwidth : 0 < width)
    {next : HdInflater → Bytes → HdTurn} (hread : input = [] → F .invalidRead)
    (hcomp : F .headerComp)
    (hwait : ∀ left shift, left ≠ 0 → left ≤ maxlen →
      W { inflater with left := left, shift := shift } [])
    (hnext : ∀ left shift rest, left ≤ maxlen → rest <:+ input ∧ rest.length < input.length →
      (next { inflater with left := left, shift := shift } rest).Sat N E W F) :
    (withLen inflater input width maxlen next).Sat N E W F := by
  rw [withLen, hdInflateReadLen]
  by_cases hinput : input = []
  · rw [if_pos hinput]
    exact hread hinput
  rw [if_neg hinput]
  cases hlength : decodeLength inflater.left inflater.shift input width with
  | none => exact hcomp
  | some r =>
    obtain ⟨-, hopen, hfin⟩ := le_of_decodeLength hwidth hlength
    rcases r with ⟨res, shift, fin, rest⟩
    by_cases hle : maxlen < res
    · simp only [hle, if_true]
      exact hcomp
    · simp only [hle, if_false]
      cases fin with
      | false =>
        obtain ⟨rfl, hres⟩ := hopen rfl
        exact hwait res shift hres (Nat.not_lt.1 hle)
      | true => exact hnext res shift rest (Nat.not_lt.1 hle) (hfin rfl)

/-! ## A text -/

/-- The two ways to read a text, told by what both have in common: how long the result may be, and
that it can be read in pieces. -/
structure Decodes (factor : ℕ)
    (decode : HuffDecodeContext → Bytes → Bool → Option (HuffDecodeContext × Bytes)) : Prop where
  append : ∀ ctx src src' final, decode ctx (src ++ src') final =
    (decode ctx src false).bind fun next =>
      (decode next.1 src' final).map fun rest => (rest.1, next.2 ++ rest.2)
  length_le : ∀ ctx src final ctx' out, decode ctx src final = some (ctx', out) →
    out.length ≤ factor * src.length

lemma decodes_huff : Decodes 2 hdHuffDecode where
  append := hdHuffDecode_append
  length_le _ _ _ _ _ := length_hdHuffDecode_le

/-- A text without Huffman coding is copied. -/
def hdCopy (ctx : HuffDecodeContext) (src : Bytes) (_final : Bool) :
    Option (HuffDecodeContext × Bytes) := some (ctx, src)

lemma decodes_copy : Decodes 1 hdCopy where
  append _ _ _ _ := rfl
  length_le ctx src final ctx' out h := by
    cases h
    omega

/-- Reading a text either way. -/
def readString (decode : HuffDecodeContext → Bytes → Bool → Option (HuffDecodeContext × Bytes))
    (inflater : HdInflater) (buf : StringBuf) (input : Bytes) :
    Except InflateError (HdInflater × StringBuf × Bytes) :=
  match decode inflater.huffDecodeCtx (input.take (min input.length inflater.left))
      (decide (inflater.left ≤ input.length)) with
  | none => .error .headerComp
  | some (ctx, out) =>
    if buf.cap < buf.data.length + out.length then .error .invalidWrite
    else .ok ({ inflater with
        huffDecodeCtx := ctx, left := inflater.left - min input.length inflater.left },
      { buf with data := buf.data ++ out }, input.drop (min input.length inflater.left))

lemma hdInflateReadHuff_eq : hdInflateReadHuff = readString hdHuffDecode := rfl

lemma hdInflateRead_eq : hdInflateRead = readString hdCopy := by
  funext inflater buf input
  simp only [hdInflateRead, readString, hdCopy, List.length_take]
  congr 2
  simp

variable {factor : ℕ}
  {decode : HuffDecodeContext → Bytes → Bool → Option (HuffDecodeContext × Bytes)}
  {put : HdInflater → StringBuf → HdInflater} {next : HdInflater → Bytes → HdTurn}

/-- There is room for what is left of a text, and for the zero byte. -/
def StringBuf.Fits (buf : StringBuf) (factor left : ℕ) : Prop :=
  buf.data.length + factor * left < buf.cap

/-- What becomes of a turn with a text. -/
lemma sat_withString (hdecode : Decodes factor decode) {inflater : HdInflater} {buf : StringBuf}
    {input : Bytes} (hput : ∀ inflater buf, (put inflater buf).left = inflater.left)
    (hcomp : F .headerComp) (hwrite : ¬ buf.Fits factor inflater.left → F .invalidWrite)
    (hwait : ∀ ctx out left, left ≠ 0 →
      (buf.Fits factor inflater.left → StringBuf.Fits ⟨buf.cap, buf.data ++ out⟩ factor left) →
      W (put { inflater with huffDecodeCtx := ctx, left := left } ⟨buf.cap, buf.data ++ out⟩) [])
    (hnext : ∀ ctx out, (next (put { inflater with huffDecodeCtx := ctx, left := 0 }
      ⟨buf.cap, buf.data ++ out⟩) (input.drop inflater.left)).Sat N E W F) :
    (withString put next (readString decode inflater buf input)).Sat N E W F := by
  rw [readString]
  cases hresult : decode inflater.huffDecodeCtx (input.take (min input.length inflater.left))
      (decide (inflater.left ≤ input.length)) with
  | none => exact hcomp
  | some result =>
    rcases result with ⟨ctx, out⟩
    have hout := hdecode.length_le _ _ _ _ _ hresult
    rw [List.length_take, Nat.min_eq_left (Nat.min_le_left _ _)] at hout
    have hfits : buf.Fits factor inflater.left → StringBuf.Fits ⟨buf.cap, buf.data ++ out⟩ factor
        (inflater.left - min input.length inflater.left) := by
      intro hbuf
      have hsplit : factor * inflater.left = factor * min input.length inflater.left +
          factor * (inflater.left - min input.length inflater.left) := by
        rw [← Nat.mul_add]
        congr 1
        omega
      simp only [StringBuf.Fits, List.length_append] at hbuf ⊢
      omega
    by_cases hover : buf.cap < buf.data.length + out.length
    · simp only [withString, hover, if_true]
      refine hwrite fun hbuf => ?_
      have hlt := hfits hbuf
      simp only [StringBuf.Fits, List.length_append] at hlt
      omega
    simp only [withString, hover, if_false, hput]
    by_cases hleft : inflater.left - min input.length inflater.left = 0
    · have hmin : min input.length inflater.left = inflater.left := by omega
      simp only [hmin, Nat.sub_self, ne_eq, not_true, if_false]
      by_cases hcap : buf.cap ≤ (buf.data ++ out).length
      · simp only [hcap, if_true]
        refine hwrite fun hbuf => ?_
        have hlt := hfits hbuf
        simp only [StringBuf.Fits] at hlt
        omega
      · simp only [hcap, if_false]
        exact hnext ctx out
    · have hdrop : input.drop (min input.length inflater.left) = [] := by
        rw [List.drop_eq_nil_iff]
        omega
      simp only [hleft, ne_eq, not_false_iff, if_true, hdrop]
      exact hwait ctx out _ hleft hfits

end Sat

/-! ## The loop ends -/

/-- The states that a turn can leave without a look at the input, and those it can reach so. -/
def HdInflateState.weight : HdInflateState → ℕ
  | expectTableSize | inflateStart | opcode | newnameReadNamehuff | newnameReadName => 1
  | readValuehuff | readValue => 2
  | _ => 0

/-- A bound on the number of turns: each byte pays for several states, and each state is nearer to
the next byte than the one before. -/
def HdInflater.cost (inflater : HdInflater) (input : Bytes) : ℕ :=
  3 * input.length + inflater.state.weight

/-- The states in which a block may end. -/
def HdInflater.AtEnd (inflater : HdInflater) : Bool :=
  inflater.state == .opcode || inflater.state == .inflateStart

/-- A turn after which fewer are possible; where it waits, it has used up the input. -/
def Cheaper (inflater : HdInflater) (input : Bytes) : HdTurn → Prop :=
  Turn.Sat (fun inflater' rest _ => inflater'.cost rest < inflater.cost input)
    (fun inflater' _ rest => inflater'.cost rest < inflater.cost input)
    (fun inflater' rest => rest = [] ∧ inflater'.AtEnd = false) (fun _ => True)

lemma cheaper_opcode {inflater : HdInflater} (h : inflater.state.weight = 1) (b : UInt8)
    (rest : Bytes) : Cheaper inflater (b :: rest) (turnOpcode inflater b rest) := by
  have hcost : inflater.cost (b :: rest) = 3 * (rest.length + 1) + 1 := by
    rw [HdInflater.cost, h, List.length_cons]
  rw [turnOpcode, Cheaper, hcost]
  split_ifs
  all_goals simp only [Turn.Sat, HdInflater.cost, List.length_cons, HdInflateState.weight]
  all_goals omega

lemma cheaper_readNamelen (inflater : HdInflater) {inflater' : HdInflater}
    (hend : inflater'.AtEnd = false) (input : Bytes) :
    Cheaper inflater input (turnReadNamelen inflater' input) := by
  refine sat_withLen (by decide) (fun _ => trivial) trivial (fun _ _ _ _ => ⟨rfl, hend⟩) ?_
  intro left shift rest hle hlt
  simp only [startName]
  split
  all_goals simp only [Turn.Sat, HdInflater.cost, HdInflateState.weight]
  all_goals omega

lemma cheaper_readValuelen (inflater : HdInflater) {inflater' : HdInflater}
    (hend : inflater'.AtEnd = false) (input : Bytes) :
    Cheaper inflater input (turnReadValuelen inflater' input) := by
  refine sat_withLen (by decide) (fun _ => trivial) trivial (fun _ _ _ _ => ⟨rfl, hend⟩) ?_
  intro left shift rest hle hlt
  simp only [startValue]
  split
  all_goals simp only [Turn.Sat, HdInflater.cost, HdInflateState.weight]
  all_goals omega

lemma cheaper_readName {factor : ℕ}
    {decode : HuffDecodeContext → Bytes → Bool → Option (HuffDecodeContext × Bytes)}
    (hdecode : Decodes factor decode) {inflater : HdInflater} (h : inflater.state.weight = 1)
    (hend : inflater.AtEnd = false) (input : Bytes) :
    Cheaper inflater input (turnReadName (readString decode inflater inflater.namebuf input)) := by
  refine sat_withString hdecode (fun _ _ => rfl) trivial (fun _ => trivial)
    (fun _ _ _ _ _ => ⟨rfl, hend⟩) fun ctx out => ?_
  have hcost : inflater.cost input = 3 * input.length + 1 := by rw [HdInflater.cost, h]
  simp only [Turn.Sat, hcost]
  simp only [HdInflater.cost, HdInflateState.weight, List.length_drop]
  omega

/-- The last turn of a literal field. -/
lemma commitValue_cases (inflater : HdInflater) (rest : Bytes) :
    (∃ error, commitValue inflater rest = .fail error) ∨
      ∃ (inflater' : HdInflater) (nv : HdNv),
        commitValue inflater rest = .emit { inflater' with state := .opcode } nv rest := by
  rw [commitValue]
  split
  · exact Or.inl ⟨_, rfl⟩
  · exact Or.inr ⟨_, _, rfl⟩

lemma cheaper_readValue {factor : ℕ}
    {decode : HuffDecodeContext → Bytes → Bool → Option (HuffDecodeContext × Bytes)}
    (hdecode : Decodes factor decode) {inflater : HdInflater} (h : inflater.state.weight = 2)
    (hend : inflater.AtEnd = false) (input : Bytes) :
    Cheaper inflater input (turnReadValue (readString decode inflater inflater.valuebuf input)) := by
  refine sat_withString hdecode (fun _ _ => rfl) trivial (fun _ => trivial)
    (fun _ _ _ _ _ => ⟨rfl, hend⟩) fun ctx out => ?_
  have hcost : inflater.cost input = 3 * input.length + 2 := by rw [HdInflater.cost, h]
  rcases commitValue_cases _ (input.drop inflater.left) with ⟨error, hfail⟩ | ⟨inflater', nv, hemit⟩
  · rw [hfail]
    trivial
  · simp only [hemit, Turn.Sat, hcost]
    simp only [HdInflater.cost, HdInflateState.weight, List.length_drop]
    omega

/-- **There are only finitely many turns**: each of them makes what is left cheaper. -/
theorem cost_turn (inflater : HdInflater) (input : Bytes) :
    Cheaper inflater input (hdInflateTurn inflater input) := by
  have hend : inflater.state ≠ .opcode → inflater.state ≠ .inflateStart →
      inflater.AtEnd = false := by
    intro hopcode hstart
    simp [HdInflater.AtEnd, hopcode, hstart]
  cases hstate : inflater.state <;>
    simp only [hdInflateTurn, hstate, ne_eq, reduceCtorEq, not_false_iff, true_implies] at hend ⊢
  case expectTableSize =>
    cases input with
    | nil => trivial
    | cons b rest =>
      simp only [withByte]
      split
      · trivial
      · exact cheaper_opcode (by rw [hstate]; rfl) b rest
  case inflateStart | opcode =>
    cases input with
    | nil => trivial
    | cons b rest => exact cheaper_opcode (by rw [hstate]; rfl) b rest
  case readTableSize =>
    refine sat_withLen (by decide) (fun _ => trivial) trivial (fun _ _ _ _ => ⟨rfl, hend⟩) ?_
    intro left shift rest hle hlt
    simp only [Turn.Sat, HdInflater.cost, hstate, HdInflateState.weight]
    omega
  case readIndex =>
    have hwidth : 0 < indexPrefixlen inflater := by
      rw [indexPrefixlen]
      split_ifs <;> decide
    refine sat_withLen hwidth (fun _ => trivial) trivial (fun _ _ _ _ => ⟨rfl, hend⟩) ?_
    intro left shift rest hle hlt
    split
    · trivial
    · simp only
      split
      · split
        · trivial
        · simp only [Turn.Sat, HdInflater.cost, hstate, HdInflateState.weight]
          omega
      · simp only [Turn.Sat, HdInflater.cost, hstate, HdInflateState.weight]
        omega
  case newnameCheckNamelen =>
    cases input with
    | nil => trivial
    | cons b rest => exact cheaper_readNamelen inflater rfl _
  case newnameReadNamelen => exact cheaper_readNamelen inflater hend _
  case newnameReadNamehuff => exact cheaper_readName decodes_huff (by rw [hstate]; rfl) hend input
  case newnameReadName =>
    rw [hdInflateRead_eq]
    exact cheaper_readName decodes_copy (by rw [hstate]; rfl) hend input
  case checkValuelen =>
    cases input with
    | nil => trivial
    | cons b rest => exact cheaper_readValuelen inflater rfl _
  case readValuelen => exact cheaper_readValuelen inflater hend _
  case readValuehuff => exact cheaper_readValue decodes_huff (by rw [hstate]; rfl) hend input
  case readValue =>
    rw [hdInflateRead_eq]
    exact cheaper_readValue decodes_copy (by rw [hstate]; rfl) hend input

/-! ## What is left of the input -/

/-- A turn that takes what it reads from the beginning of the input. -/
def Shortens (input : Bytes) : HdTurn → Prop :=
  Turn.Sat (fun _ rest _ => rest <:+ input) (fun _ _ rest => rest <:+ input)
    (fun _ rest => rest <:+ input) (fun _ => True)

lemma shortens_opcode (inflater : HdInflater) (b : UInt8) (rest : Bytes) :
    Shortens (b :: rest) (turnOpcode inflater b rest) := by
  rw [turnOpcode, Shortens]
  split_ifs <;> first | trivial | exact List.suffix_refl _ | exact List.suffix_cons b rest

lemma shortens_withLen {inflater : HdInflater} {input : Bytes} {width maxlen : ℕ}
    (hwidth : 0 < width) {next : HdInflater → Bytes → HdTurn}
    (h : ∀ inflater rest, rest <:+ input → Shortens input (next inflater rest)) :
    Shortens input (withLen inflater input width maxlen next) :=
  sat_withLen hwidth (fun _ => trivial) trivial (fun _ _ _ _ => List.nil_suffix)
    fun _ _ _ _ hrest => h _ _ hrest.1

lemma shortens_withString {factor : ℕ}
    {decode : HuffDecodeContext → Bytes → Bool → Option (HuffDecodeContext × Bytes)}
    (hdecode : Decodes factor decode) {inflater : HdInflater} {buf : StringBuf} {input : Bytes}
    {put : HdInflater → StringBuf → HdInflater} {next : HdInflater → Bytes → HdTurn}
    (hput : ∀ inflater buf, (put inflater buf).left = inflater.left)
    (h : ∀ inflater rest, rest <:+ input → Shortens input (next inflater rest)) :
    Shortens input (withString put next (readString decode inflater buf input)) :=
  sat_withString hdecode hput trivial (fun _ => trivial) (fun _ _ _ _ _ => List.nil_suffix)
    fun _ _ => h _ _ (List.drop_suffix _ _)

lemma shortens_commitValue (inflater : HdInflater) {input rest : Bytes} (h : rest <:+ input) :
    Shortens input (commitValue inflater rest) := by
  rcases commitValue_cases inflater rest with ⟨error, hfail⟩ | ⟨inflater', nv, hemit⟩
  · rw [hfail]
    trivial
  · rw [hemit]
    exact h

lemma shortens_readNamelen (inflater : HdInflater) (input : Bytes) :
    Shortens input (turnReadNamelen inflater input) := by
  refine shortens_withLen (by decide) fun inflater rest hrest => ?_
  simp only [startName]
  split <;> exact hrest

lemma shortens_readValuelen (inflater : HdInflater) (input : Bytes) :
    Shortens input (turnReadValuelen inflater input) := by
  refine shortens_withLen (by decide) fun inflater rest hrest => ?_
  simp only [startValue]
  split <;> exact hrest

/-- **A turn leaves the end of the input**, so that the session knows how much was read. -/
theorem shortens_turn (inflater : HdInflater) (input : Bytes) :
    Shortens input (hdInflateTurn inflater input) := by
  cases hstate : inflater.state <;> simp only [hdInflateTurn, hstate]
  case expectTableSize =>
    cases input with
    | nil => trivial
    | cons b rest =>
      simp only [withByte]
      split
      · trivial
      · exact shortens_opcode inflater b rest
  case inflateStart | opcode =>
    cases input with
    | nil => trivial
    | cons b rest => exact shortens_opcode inflater b rest
  case readTableSize =>
    exact shortens_withLen (by decide) fun inflater rest hrest => hrest
  case readIndex =>
    have hwidth : 0 < indexPrefixlen inflater := by
      rw [indexPrefixlen]
      split_ifs <;> decide
    refine shortens_withLen hwidth fun inflater rest hrest => ?_
    split
    · trivial
    · simp only
      split
      · split
        · trivial
        · exact hrest
      · exact hrest
  case newnameCheckNamelen =>
    cases input with
    | nil => trivial
    | cons b rest => exact shortens_readNamelen _ _
  case newnameReadNamelen => exact shortens_readNamelen inflater input
  case newnameReadNamehuff =>
    exact shortens_withString decodes_huff (fun _ _ => rfl) fun inflater rest hrest => hrest
  case newnameReadName =>
    rw [hdInflateRead_eq]
    exact shortens_withString decodes_copy (fun _ _ => rfl) fun inflater rest hrest => hrest
  case checkValuelen =>
    cases input with
    | nil => trivial
    | cons b rest => exact shortens_readValuelen _ _
  case readValuelen => exact shortens_readValuelen inflater input
  case readValuehuff =>
    exact shortens_withString decodes_huff (fun _ _ => rfl) fun inflater rest hrest =>
      shortens_commitValue inflater hrest
  case readValue =>
    rw [hdInflateRead_eq]
    exact shortens_withString decodes_copy (fun _ _ => rfl) fun inflater rest hrest =>
      shortens_commitValue inflater hrest

end KituraHTTP2.Nghttp2
