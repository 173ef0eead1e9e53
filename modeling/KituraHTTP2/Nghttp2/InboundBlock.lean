import KituraHTTP2.Nghttp2.Inbound

/-!
# The header block of a frame

`inflate_header_block` decodes a piece of a header block and hands each field to the session as soon
as it is complete.  The session may stop it, where the field is such that the stream is reset; the
rest of the block is then decoded without handing its fields on, because the dynamic table must stay
what the peer believes it to be.

The function is a visit of the decoder, with the session as the visitor (`Reader.visit`).  So what
is known of visits holds of it.  A block that comes in two pieces is decoded as one, with the fields
in their order, the stop, and the error where it was; and the decoder stays valid.

* `recvHeaderBlock_eq_visit` — the function is a visit.
* **`recvHeaderBlock_append`**, `recvPiece_append` — two pieces are one.
* `turnHeaderBlock_data`, `turnHeaderBlock_pad` — what a turn of the loop makes of a piece, with
  data before the padding or without.
-/

namespace KituraHTTP2.Nghttp2

open Incremental

variable {τ : Type} (handlers : Handlers τ)

/-! ## A header block and its decoder -/

section Block

variable (frame : BlockFrame) (ignore : Bool)

/-- What `inflate_header_block` does after a call of the decoder. -/
def afterRecv (upper : τ) (final : Bool) :
    HdInflater × Except InflateError Inflated → BlockResult τ
  | (_, .error _) => .comp (handlers.headerComp upper frame ignore)
  | (inflater, .ok r) =>
    let next := visitField handlers frame ignore upper r.nv
    if !next.2 then .stopped inflater next.1 r.rest
    else if r.final then .done (some (hdInflateEndHeaders inflater)) next.1
    else if r.nv = none ∧ r.rest = [] then .done (some inflater) next.1
    else recvHeaderBlock handlers frame ignore next.1 inflater r.rest final

lemma recvHeaderBlock_eq_afterRecv (upper : τ) (inflater : HdInflater) (input : Bytes)
    (final : Bool) :
    recvHeaderBlock handlers frame ignore upper inflater input final =
      afterRecv handlers frame ignore upper final (hdInflateHdNv inflater input final) := by
  rw [recvHeaderBlock]
  split
  · rename_i heq
    rw [heq, afterRecv]
  · rename_i heq
    rw [heq, afterRecv]
    simp only [dite_eq_ite]

/-- What a visit of the decoder comes to: with the last piece the block must be complete. -/
def endVisit (final : Bool) : Reader.Visit HdInflater UInt8 τ InflateError → BlockResult τ
  | .ended upper inflater =>
    if final = false then .done (some inflater) upper
    else if inflater.AtEnd then .done (some (hdInflateEndHeaders inflater)) upper
    else .comp (handlers.headerComp upper frame ignore)
  | .stopped upper inflater rest => .stopped inflater upper rest
  | .failed upper _ => .comp (handlers.headerComp upper frame ignore)

/-- **`inflate_header_block` is a visit of the decoder.** -/
theorem recvHeaderBlock_eq_visit (upper : τ) {inflater : HdInflater} (h : inflater.Valid)
    (input : Bytes) (final : Bool) :
    recvHeaderBlock handlers frame ignore upper inflater input final =
      endVisit handlers frame ignore final
        (hdReader.visit (visitor handlers frame ignore) upper inflater input false) := by
  have hcall : ∀ {inflater : HdInflater}, inflater.Valid → ∀ upper input,
      recvHeaderBlock handlers frame ignore upper inflater input final =
        afterRecv handlers frame ignore upper final
          (hdInflateLoop final inflater input false) := by
    intro inflater hvalid upper input
    rw [recvHeaderBlock_eq_afterRecv, hdInflateHdNv, hvalid.good]
    rfl
  rw [hcall h]
  have hready : false = true → inflater.Ready := by simp
  revert h hready upper
  refine Reader.feed_induct (r := hdReader) (P := fun inflater input busy => ∀ upper,
    inflater.Valid → (busy = true → inflater.Ready) →
      afterRecv handlers frame ignore upper final (hdInflateLoop final inflater input busy) =
        endVisit handlers frame ignore final
          (hdReader.visit (visitor handlers frame ignore) upper inflater input busy))
    ?_ ?_ ?_ ?_ ?_ inflater input false
  · intro inflater upper h _
    rw [Reader.visit_nil, hdInflateLoop_nil]
    cases final with
    | false => simp [endVisit, afterRecv, visitField]
    | true => cases hend : inflater.AtEnd <;> simp [endVisit, afterRecv, visitField, hend]
  · intro inflater input busy inflater' rest busy' hgoes hturn ih upper h hready
    have hvalid := hdReader.inv_next h (hgoes.ready hready) hturn
    rw [Reader.visit_next _ _ hgoes hturn, hdInflateLoop_next hgoes hturn]
    exact ih upper hvalid.1 hvalid.2
  · intro inflater input busy inflater' nv rest hgoes hturn ih upper h hready
    have hvalid := hdReader.inv_emit h (hgoes.ready hready) hturn
    rw [Reader.visit_emit _ _ hgoes hturn, hdInflateLoop_emit hgoes hturn]
    have hrest := ih (visitor handlers frame ignore upper nv).1 hvalid (by simp)
    rw [← hcall hvalid] at hrest
    by_cases hgo : (visitor handlers frame ignore upper nv).2
    · simp [afterRecv, visitField, hgo, hrest]
    · simp [afterRecv, visitField, hgo, endVisit]
  · intro inflater input busy inflater' rest hgoes hturn upper h _
    have hcost := cost_turn inflater input
    rw [show hdInflateTurn inflater input = _ from hturn] at hcost
    obtain ⟨rfl, hend⟩ := hcost
    rw [Reader.visit_wait _ _ hgoes hturn, hdInflateLoop_wait hgoes hturn]
    cases final with
    | false => simp [endVisit, afterRecv, visitField]
    | true => simp [endVisit, afterRecv, hend]
  · intro inflater input busy error hgoes hturn upper h _
    rw [Reader.visit_fail _ _ hgoes hturn, hdInflateLoop_fail hgoes hturn]
    rfl

/-- What comes of more input after a piece of a block. -/
def BlockResult.andThen (more : Bytes) (final : Bool) : BlockResult τ → BlockResult τ
  | .done inflater upper => recvPiece handlers frame ignore upper inflater more final
  | .stopped inflater upper rest => .stopped inflater upper (rest ++ more)
  | .comp upper => .comp upper

/-- The decoder after a piece of a block is valid, and after the last one it is at the beginning.
The fields of an ignored block stop nothing. -/
lemma valid_recvHeaderBlock (upper : τ) {inflater : HdInflater} (h : inflater.Valid)
    (input : Bytes) (final : Bool) :
    match recvHeaderBlock handlers frame ignore upper inflater input final with
    | .done inflater' _ => ∃ inflater₁, inflater' = some inflater₁ ∧ inflater₁.Valid ∧
        (final = true → inflater₁.state = .inflateStart)
    | .stopped inflater' _ _ => inflater'.Valid
    | .comp _ => True := by
  have hpreserves := Reader.visit_preserves (r := hdReader) (visitor handlers frame ignore) h
    input false (by simp) upper
  rw [recvHeaderBlock_eq_visit handlers frame ignore upper h]
  cases hvisit : hdReader.visit (visitor handlers frame ignore) upper inflater input false with
  | ended upper' inflater' =>
    rw [hvisit] at hpreserves
    cases final with
    | false => exact ⟨inflater', rfl, hpreserves, fun hfinal => absurd hfinal Bool.false_ne_true⟩
    | true =>
      cases hend : inflater'.AtEnd with
      | false => simp [endVisit, hend]
      | true =>
        simp only [endVisit, hend, Bool.true_eq_false, if_false, if_true]
        exact ⟨_, rfl, HdInflater.Valid.endHeaders hpreserves, fun _ => rfl⟩
  | stopped upper' inflater' rest =>
    rw [hvisit] at hpreserves
    exact hpreserves
  | failed upper' error => trivial

/-- Nothing to decode. -/
lemma recvHeaderBlock_nil (upper : τ) {inflater : HdInflater} (h : inflater.Valid) :
    recvHeaderBlock handlers frame ignore upper inflater [] false = .done (some inflater) upper := by
  rw [recvHeaderBlock_eq_visit handlers frame ignore upper h, Reader.visit_nil]
  rfl

/-- The end of a block that has ended. -/
lemma recvHeaderBlock_end (upper : τ) {inflater : HdInflater} (h : inflater.Valid)
    (hstate : inflater.state = .inflateStart) :
    recvHeaderBlock handlers frame ignore upper inflater [] true = .done (some inflater) upper := by
  have hend : inflater.AtEnd = true := by simp [HdInflater.AtEnd, hstate]
  have hsame : hdInflateEndHeaders inflater = inflater := by
    rw [hdInflateEndHeaders, ← hstate]
  rw [recvHeaderBlock_eq_visit handlers frame ignore upper h, Reader.visit_nil]
  simp [endVisit, hend, hsame]

/-- **A block can be cut in two.** -/
theorem recvHeaderBlock_append (upper : τ) {inflater : HdInflater} (h : inflater.Valid)
    (input more : Bytes) (final : Bool) :
    recvHeaderBlock handlers frame ignore upper inflater (input ++ more) final =
      (recvHeaderBlock handlers frame ignore upper inflater input false).andThen handlers frame
        ignore more final := by
  have hpreserves := Reader.visit_preserves (r := hdReader) (visitor handlers frame ignore) h
    input false (by simp) upper
  rw [recvHeaderBlock_eq_visit handlers frame ignore upper h,
    recvHeaderBlock_eq_visit handlers frame ignore upper h,
    Reader.visit_append _ cuts_hdReader h (by simp)]
  cases hvisit : hdReader.visit (visitor handlers frame ignore) upper inflater input false with
  | ended upper' inflater' =>
    rw [hvisit] at hpreserves
    change _ = recvPiece handlers frame ignore upper' (some inflater') more final
    have hmore := recvHeaderBlock_eq_visit handlers frame ignore upper' hpreserves more final
    rw [recvPiece.eq_def]
    split
    · exact hmore.symm
    · rename_i hnone
      obtain ⟨rfl, rfl⟩ : more = [] ∧ final = false := by simpa using hnone
      exact hmore.symm.trans (recvHeaderBlock_nil handlers frame ignore upper' hpreserves)
  | stopped upper' inflater' rest => rfl
  | failed upper' error => rfl

variable {inflater : Option HdInflater}

/-- **A piece can be cut in two.** -/
theorem recvPiece_append (upper : τ) (h : ∀ inflater₁ ∈ inflater, inflater₁.Valid)
    (input more : Bytes) (final : Bool) :
    recvPiece handlers frame ignore upper inflater (input ++ more) final =
      (recvPiece handlers frame ignore upper inflater input false).andThen handlers frame ignore
        more final := by
  by_cases hinput : input = []
  · subst hinput
    rfl
  · have hlength : 0 < input.length := List.length_pos_iff.2 hinput
    have hlength' : 0 < (input ++ more).length := by
      rw [List.length_append]
      omega
    rw [recvPiece.eq_def, if_pos (Or.inl hlength'), recvPiece.eq_def, if_pos (Or.inl hlength)]
    cases inflater with
    | none => rfl
    | some inflater₁ => exact recvHeaderBlock_append handlers frame ignore upper (h _ rfl) _ _ _

/-- When a block has ended there is nothing more to decode. -/
lemma recvPiece_end (upper : τ) (h : ∀ inflater₁ ∈ inflater, inflater₁.Valid) {input : Bytes}
    {final : Bool} {inflater' : Option HdInflater} {upper' : τ}
    (hdone : recvPiece handlers frame ignore upper inflater input final = .done inflater' upper') :
    recvPiece handlers frame ignore upper' inflater' [] final = .done inflater' upper' := by
  cases final with
  | false => rfl
  | true =>
    rw [recvPiece.eq_def, if_pos (Or.inr rfl)] at hdone
    cases inflater with
    | none => cases hdone
    | some inflater₁ =>
      have hvalid := valid_recvHeaderBlock handlers frame ignore upper (h _ rfl) input true
      simp only at hdone
      rw [hdone] at hvalid
      obtain ⟨inflater₂, rfl, hvalid₂, hstart⟩ := hvalid
      exact recvHeaderBlock_end handlers frame ignore upper' hvalid₂ (hstart rfl)

/-- The decoder that is left is valid. -/
def BlockResult.Valid : BlockResult τ → Prop
  | .done inflater _ => ∀ inflater₁ ∈ inflater, inflater₁.Valid
  | .stopped inflater _ _ => inflater.Valid
  | .comp _ => True

/-- The decoder after a piece. -/
lemma valid_recvPiece (upper : τ) (h : ∀ inflater₁ ∈ inflater, inflater₁.Valid) (input : Bytes)
    (final : Bool) : (recvPiece handlers frame ignore upper inflater input final).Valid := by
  by_cases hpiece : 0 < input.length ∨ final = true
  · rw [recvPiece.eq_def, if_pos hpiece]
    cases inflater with
    | none => trivial
    | some inflater₁ =>
      have hvalid := valid_recvHeaderBlock handlers frame ignore upper (h _ rfl) input final
      simp only
      cases hresult : recvHeaderBlock handlers frame ignore upper inflater₁ input final with
      | done inflater' upper' =>
        rw [hresult] at hvalid
        obtain ⟨inflater₂, rfl, hvalid₂, -⟩ := hvalid
        intro inflater₃ hinflater₃
        cases hinflater₃
        exact hvalid₂
      | stopped inflater' upper' rest =>
        rw [hresult] at hvalid
        exact hvalid
      | comp upper' => trivial
  · rw [recvPiece.eq_def, if_neg hpiece]
    exact h

/-- A visit of the decoder leaves the end of the input. -/
lemma suffix_visit_hdReader {f : τ → HdNv → τ × Bool} {upper upper' : τ}
    {inflater inflater' : HdInflater} {input rest : Bytes}
    (h : hdReader.visit f upper inflater input false = .stopped upper' inflater' rest) :
    rest <:+ input := by
  refine Reader.suffix_visit (r := hdReader) f ?_ ?_ upper h
  · intro inflater input inflater' rest busy hturn
    have hshortens := shortens_turn inflater input
    rw [show hdInflateTurn inflater input = _ from hturn] at hshortens
    exact hshortens
  · intro inflater input inflater' nv rest hturn
    have hshortens := shortens_turn inflater input
    rw [show hdInflateTurn inflater input = _ from hturn] at hshortens
    exact hshortens

/-- What is left of a piece after its callback failed. -/
lemma suffix_recvPiece (upper : τ) (h : ∀ inflater₁ ∈ inflater, inflater₁.Valid)
    {input : Bytes} {final : Bool} {inflater' : HdInflater} {upper' : τ} {rest : Bytes}
    (hstopped : recvPiece handlers frame ignore upper inflater input final =
      .stopped inflater' upper' rest) : rest <:+ input := by
  by_cases hpiece : 0 < input.length ∨ final = true
  · rw [recvPiece.eq_def, if_pos hpiece] at hstopped
    cases inflater with
    | none => cases hstopped
    | some inflater₁ =>
      simp only [recvHeaderBlock_eq_visit handlers frame ignore upper (h _ rfl)] at hstopped
      cases hvisit : hdReader.visit (visitor handlers frame ignore) upper inflater₁ input false with
      | ended upper₁ inflater₂ =>
        rw [hvisit, endVisit] at hstopped
        split_ifs at hstopped
      | stopped upper₁ inflater₂ rest₁ =>
        rw [hvisit] at hstopped
        cases hstopped
        exact suffix_visit_hdReader hvisit
      | failed upper₁ error =>
        rw [hvisit] at hstopped
        cases hstopped
  · rw [recvPiece.eq_def, if_neg hpiece] at hstopped
    cases hstopped

/-- The fields of an ignored block stop nothing. -/
lemma recvHeaderBlock_ignore (upper : τ) (inflater : HdInflater) (input : Bytes) (final : Bool) :
    ∀ inflater' upper' rest, recvHeaderBlock handlers frame true upper inflater input final ≠
      .stopped inflater' upper' rest := by
  have hgo : ∀ upper nv, (visitField handlers frame true upper nv).2 = true := by
    intro upper nv
    cases nv <;> rfl
  fun_induction recvHeaderBlock handlers frame true upper inflater input final with
  | case1 => simp
  | case2 upper inflater input inflater' r h next hstop => simp [next, hgo] at hstop
  | case3 => simp
  | case4 => simp
  | case5 upper inflater input inflater' r h next hgo' hfinal hstop ih => exact ih

/-- The fields of an ignored block stop nothing. -/
lemma recvPiece_ignore (upper : τ) (inflater : Option HdInflater) (input : Bytes) (final : Bool) :
    ∀ inflater' upper' rest, recvPiece handlers frame true upper inflater input final ≠
      .stopped inflater' upper' rest := by
  intro inflater' upper' rest
  rw [recvPiece.eq_def]
  split
  · cases inflater with
    | none => simp
    | some inflater₁ =>
      exact recvHeaderBlock_ignore handlers frame upper inflater₁ input final inflater' upper' rest
  · simp

end Block

/-! ## A piece of a header block -/

namespace Inbound

variable {s s' : Inbound τ} {block : Block} {input more rest : Bytes} {busy : Bool}

/-- Of the bytes that are read, those before the padding are data; `none` if the padding is more
than the payload. -/
lemma effectiveReadlen_eq (trailPadlen : ℕ) {payloadleft readlen : ℕ} (h : readlen ≤ payloadleft) :
    effectiveReadlen trailPadlen (payloadleft - readlen) readlen =
      if payloadleft < trailPadlen then none
      else some (min readlen (payloadleft - trailPadlen)) := by
  unfold effectiveReadlen
  by_cases hpad : payloadleft < trailPadlen
  · rw [if_pos hpad, if_pos (by omega), if_pos (by omega)]
  · rw [if_neg hpad]
    split
    · rw [if_neg (by omega)]
      congr 1
      omega
    · congr 1
      omega

/-- The length of the padding after a block. -/
def trail (block : Block) : ℕ := frameTrailPadlen block.frame.hd.flags block.padlen

/-- `dataleft` bytes of the payload are not padding, and `input` begins with them. -/
def piece (s : Inbound τ) (block : Block) (dataleft : ℕ) (input : Bytes) : BlockResult τ :=
  recvPiece handlers block.frame block.ignore s.upper s.inflater (input.take dataleft)
    (block.frame.endHeaders && decide (dataleft ≤ input.length))

/-- All that is left of the payload is padding. -/
lemma turnHeaderBlock_pad (s : Inbound τ) (block : Block) (h : block.payloadleft < trail block) (input : Bytes) :
    s.turnHeaderBlock handlers block input =
      s.afterPiece handlers block (block.payloadleft - min input.length block.payloadleft)
        (input.drop (min input.length block.payloadleft)) := by
  have hreadlen := effectiveReadlen_eq (trail block)
    (Nat.min_le_right input.length block.payloadleft)
  rw [if_pos h, trail] at hreadlen
  simp only [turnHeaderBlock, hreadlen]

/-- There is data before the padding. -/
lemma turnHeaderBlock_data (s : Inbound τ) (block : Block) {dataleft : ℕ}
    (h : block.payloadleft = dataleft + trail block) (input : Bytes) :
    s.turnHeaderBlock handlers block input =
      s.afterBlock handlers block input (min input.length dataleft)
        (s.piece handlers block dataleft input) := by
  have hreadlen := effectiveReadlen_eq (trail block)
    (Nat.min_le_right input.length block.payloadleft)
  have hmin : min (min input.length block.payloadleft) (block.payloadleft - trail block) =
      min input.length dataleft := by
    omega
  have htake : input.take (min input.length dataleft) = input.take dataleft := by
    rw [List.take_eq_take_iff]
    omega
  have hfinal : (block.payloadleft - min input.length dataleft == trail block) =
      decide (dataleft ≤ input.length) := by
    rw [Bool.eq_iff_iff, beq_iff_eq, decide_eq_true_eq]
    omega
  rw [if_neg (by omega), hmin, trail] at hreadlen
  rw [trail] at hfinal
  simp only [turnHeaderBlock, hreadlen, htake, hfinal, piece]

end Inbound

end KituraHTTP2.Nghttp2
