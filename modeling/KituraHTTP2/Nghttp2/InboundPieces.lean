import KituraHTTP2.Nghttp2.InboundSafe

/-!
# Input that comes in pieces

A turn of the loop of `nghttp2_session_mem_recv` reads the header of a frame, a field of a fixed
length, a payload, or a piece of a header block.  If there is less input than it needs it takes what
there is, and the session is left in a state that waits for the rest.  With the rest it must come to
what it would have come to at once, and here this is shown for each of these ways to read.

The fields and payloads are collected in `sbuf` or counted down in `payloadleft`, and go on by
adding the lengths.  A header block is harder.  The decoder is called for each piece of it, and may
fail, or be stopped by the application, in the middle of one; what it is given is without the
padding, so that a piece may end before, in or after the padding; and with the last byte of the
block it is told that nothing is to come.  Six cases remain, by where the first piece ends and how
the decoder does.

* `readSbuf_append`, `readPayload_append` — so many bytes in two pieces.
* `turnClientMagic_append` — the client magic in two pieces.
* **`turnHeaderBlock_append`** — a header block in two pieces.
* `endSettings_congr` — SETTINGS do not depend on the state in which their entries were collected.
-/

namespace KituraHTTP2.Nghttp2

open Incremental

variable {τ : Type} (handlers : Handlers τ)

/-! ## Reading so many bytes -/

section Reading

variable {σ β ε : Type*} {mark payloadleft : ℕ} {sbuf input more : Bytes} {wait part : Bytes → σ}
  {full done : Bytes → Except ε (σ × Bool)} {turn : σ → Bytes → Turn σ UInt8 β ε}

/-- The bytes can come in two pieces. -/
lemma readSbuf_append
    (hturn : ∀ sbuf input, turn (wait sbuf) input = readSbuf mark sbuf input wait full)
    (sbuf input more : Bytes) :
    readSbuf mark sbuf (input ++ more) wait full =
      (readSbuf mark sbuf input wait full).append turn more := by
  by_cases hless : input.length < mark - sbuf.length
  · -- the first piece is used up, and the second one goes on where it ends
    have hmin : min input.length (mark - sbuf.length) = input.length := by omega
    have hmin' : min (input ++ more).length (mark - sbuf.length) =
        input.length + min more.length (mark - (sbuf ++ input).length) := by
      simp only [List.length_append]
      omega
    have hwait : readSbuf (β := β) mark sbuf input wait full = .wait (wait (sbuf ++ input)) [] := by
      simp only [readSbuf, hmin, List.take_length, List.drop_length]
      rw [if_pos (by rw [List.length_append]; omega)]
    rw [hwait, Turn.append, hturn]
    simp only [readSbuf, hmin', List.take_length_add_append, List.drop_length_add_append,
      List.append_assoc]
  · have hmin : min input.length (mark - sbuf.length) = mark - sbuf.length := by omega
    have hmin' : min (input ++ more).length (mark - sbuf.length) = mark - sbuf.length := by
      rw [List.length_append]
      omega
    have hfull : ¬ (sbuf ++ input.take (mark - sbuf.length)).length < mark := by
      rw [List.length_append, List.length_take]
      omega
    simp only [readSbuf, hmin, hmin', List.take_append_of_le_length (Nat.not_lt.1 hless),
      List.drop_append_of_le_length (Nat.not_lt.1 hless), if_neg hfull]
    cases full (sbuf ++ input.take (mark - sbuf.length)) <;> rfl

/-- No more is read than what is left of the payload. -/
lemma readPayload_congr {part' : Bytes → σ} {done' : Bytes → Except ε (σ × Bool)}
    (hpart : ∀ bytes, bytes.length ≤ payloadleft → part bytes = part' bytes)
    (hdone : ∀ bytes, bytes.length ≤ payloadleft → done bytes = done' bytes) :
    readPayload (β := β) payloadleft input part done = readPayload payloadleft input part' done' := by
  have hlength : (input.take (min input.length payloadleft)).length ≤ payloadleft := by
    rw [List.length_take]
    omega
  simp only [readPayload, hpart _ hlength, hdone _ hlength]

/-- The payload can come in two pieces. -/
lemma readPayload_append
    (hturn : ∀ bytes more, bytes.length < payloadleft → turn (part bytes) more =
      readPayload (payloadleft - bytes.length) more (fun more => part (bytes ++ more))
        (fun more => done (bytes ++ more))) :
    readPayload payloadleft (input ++ more) part done =
      (readPayload payloadleft input part done).append turn more := by
  by_cases hless : input.length < payloadleft
  · have hmin : min input.length payloadleft = input.length := by omega
    have hmin' : min (input ++ more).length payloadleft =
        input.length + min more.length (payloadleft - input.length) := by
      rw [List.length_append]
      omega
    have hwait : readPayload (β := β) payloadleft input part done = .wait (part input) [] := by
      simp only [readPayload, hmin, List.take_length, List.drop_length]
      rw [if_pos (by omega)]
    rw [hwait, Turn.append, hturn input more hless]
    simp only [readPayload, hmin', List.take_length_add_append, List.drop_length_add_append,
      Nat.sub_sub]
  · have hmin : min input.length payloadleft = payloadleft := by omega
    have hmin' : min (input ++ more).length payloadleft = payloadleft := by
      rw [List.length_append]
      omega
    simp only [readPayload, hmin, hmin', List.take_append_of_le_length (Nat.not_lt.1 hless),
      List.drop_append_of_le_length (Nat.not_lt.1 hless), Nat.sub_self, ne_eq, not_true_eq_false,
      if_false]
    cases done (input.take payloadleft) <;> rfl

end Reading

/-! ## A piece of a header block -/

namespace Inbound

variable {s s' : Inbound τ} {block : Block} {input more rest : Bytes} {busy : Bool}

/-- The block after `n` bytes of its payload. -/
def after (block : Block) (n : ℕ) : Block :=
  { block with payloadleft := block.payloadleft - n }

/-- The turn when the input ends before the payload. -/
lemma afterPiece_part (s : Inbound τ) (h : input.length < block.payloadleft) :
    s.afterPiece handlers block (block.payloadleft - min input.length block.payloadleft)
        (input.drop (min input.length block.payloadleft)) =
      .wait { s with state := .readHeaderBlock (after block input.length) } [] := by
  have hmin : min input.length block.payloadleft = input.length := by omega
  rw [hmin, afterPiece, if_pos (by omega), List.drop_length, after]

/-- What is left of the input after the payload. -/
lemma afterPiece_append (s : Inbound τ) (h : block.payloadleft ≤ input.length) :
    s.afterPiece handlers block (block.payloadleft - min (input ++ more).length block.payloadleft)
        ((input ++ more).drop (min (input ++ more).length block.payloadleft)) =
      (s.afterPiece handlers block (block.payloadleft - min input.length block.payloadleft)
        (input.drop (min input.length block.payloadleft))).append (turn handlers) more := by
  have hmin : min input.length block.payloadleft = block.payloadleft := by omega
  have hmin' : min (input ++ more).length block.payloadleft = block.payloadleft := by
    rw [List.length_append]
    omega
  rw [hmin, hmin', List.drop_append_of_le_length h, Nat.sub_self, afterPiece, afterPiece]
  split
  · contradiction
  · rfl

/-- The data goes on in the next piece of the input. -/
lemma piece_append (hvalid : ∀ inflater ∈ s.inflater, inflater.Valid) {dataleft : ℕ}
    (h : input.length < dataleft) :
    s.piece handlers block dataleft (input ++ more) =
      (s.piece handlers block dataleft input).andThen handlers block.frame block.ignore
        (more.take (dataleft - input.length))
        (block.frame.endHeaders && decide (dataleft - input.length ≤ more.length)) := by
  have hless : ¬ dataleft ≤ input.length := Nat.not_le.2 h
  have hfinal : (dataleft ≤ (input ++ more).length) ↔ dataleft - input.length ≤ more.length := by
    rw [List.length_append]
    omega
  rw [piece, piece, List.take_append, List.take_of_length_le h.le, decide_eq_false hless,
    Bool.and_false, decide_eq_decide.2 hfinal]
  exact recvPiece_append handlers block.frame block.ignore s.upper hvalid input _ _

/-- The data ends in this piece of the input. -/
lemma piece_of_le {dataleft : ℕ} (h : dataleft ≤ input.length) :
    s.piece handlers block dataleft (input ++ more) = s.piece handlers block dataleft input := by
  have h' : dataleft ≤ (input ++ more).length := by
    rw [List.length_append]
    omega
  rw [piece, piece, List.take_append_of_le_length h, decide_eq_true h, decide_eq_true h']

/-- What is left of the payload when its first piece is used up. -/
lemma afterPiece_more (s : Inbound τ) (h : input.length < block.payloadleft) :
    s.afterPiece handlers block (block.payloadleft - min (input ++ more).length block.payloadleft)
        ((input ++ more).drop (min (input ++ more).length block.payloadleft)) =
      s.afterPiece handlers (after block input.length)
        ((after block input.length).payloadleft -
          min more.length (after block input.length).payloadleft)
        (more.drop (min more.length (after block input.length).payloadleft)) := by
  have hmin : min (input ++ more).length block.payloadleft =
      input.length + min more.length (block.payloadleft - input.length) := by
    rw [List.length_append]
    omega
  rw [hmin, List.drop_length_add_append, Nat.sub_add_eq]
  rfl

/-- Nothing of the state but the settings in flight is left after a piece. -/
lemma afterBlock_congr (h : s.inflight = s'.inflight) (input : Bytes) (dataReadlen : ℕ)
    (result : BlockResult τ) :
    s.afterBlock handlers block input dataReadlen result =
      s'.afterBlock handlers block input dataReadlen result := by
  cases s
  cases s'
  cases h
  cases result <;> rfl

/-- The block goes on after its first piece. -/
lemma afterBlock_more (s : Inbound τ) {dataleft : ℕ} (h : input.length < dataleft)
    (hdata : dataleft ≤ block.payloadleft) {result : BlockResult τ}
    (hresult : ∀ inflater upper rest, result = .stopped inflater upper rest →
      rest.length ≤ min more.length (dataleft - input.length)) :
    s.afterBlock handlers block (input ++ more) (min (input ++ more).length dataleft) result =
      s.afterBlock handlers (after block input.length) more
        (min more.length (dataleft - input.length)) result := by
  have hmin : min (input ++ more).length block.payloadleft =
      input.length + min more.length (block.payloadleft - input.length) := by
    rw [List.length_append]
    omega
  cases result with
  | done inflater upper => exact afterPiece_more handlers _ (by omega)
  | stopped inflater upper rest =>
    have hrest := hresult inflater upper rest rfl
    have hproclen : min (input ++ more).length dataleft - rest.length =
        input.length + (min more.length (dataleft - input.length) - rest.length) := by
      rw [List.length_append]
      omega
    simp only [afterBlock, after, hproclen, List.drop_length_add_append, Nat.sub_add_eq]
  | comp upper =>
    simp only [afterBlock, hmin, List.drop_length_add_append, Nat.sub_add_eq]
    rfl

/-- The block is not decoded any more, and the rest of its payload is ignored. -/
lemma afterBlock_comp (s : Inbound τ) (upper : τ) (h : input.length < block.payloadleft)
    (dataReadlen dataReadlen' : ℕ) :
    s.afterBlock handlers block (input ++ more) dataReadlen (.comp upper) =
      (s.afterBlock handlers block input dataReadlen' (.comp upper)).append (turn handlers) more := by
  have hmin : min input.length block.payloadleft = input.length := by omega
  have hmin' : min (input ++ more).length block.payloadleft =
      input.length + min more.length (block.payloadleft - input.length) := by
    rw [List.length_append]
    omega
  have hne : block.payloadleft - input.length ≠ 0 := by omega
  simp only [afterBlock, hmin, hmin', List.drop_length_add_append, Nat.sub_add_eq, if_neg hne,
    Turn.append, turn, readPayload, List.length_take, min_eq_left (Nat.min_le_left _ _)]
  by_cases hzero : block.payloadleft - input.length -
      min more.length (block.payloadleft - input.length) = 0
  · simp only [hzero, ne_eq, not_true_eq_false, if_true, if_false, endIgnore]
    split <;> rfl
  · simp only [hzero, ne_eq, not_false_eq_true, if_true, if_false]

/-- The whole payload has come, and the input goes on after it. -/
lemma afterBlock_append (s : Inbound τ) {dataleft : ℕ} (h : block.payloadleft ≤ input.length)
    (hdata : dataleft ≤ block.payloadleft) (result : BlockResult τ) :
    s.afterBlock handlers block (input ++ more) (min (input ++ more).length dataleft) result =
      (s.afterBlock handlers block input (min input.length dataleft) result).append
        (turn handlers) more := by
  have hmin : min input.length block.payloadleft = block.payloadleft := by omega
  have hmin' : min (input ++ more).length block.payloadleft = block.payloadleft := by
    rw [List.length_append]
    omega
  have hdatalen : min input.length dataleft = dataleft := by omega
  have hdatalen' : min (input ++ more).length dataleft = dataleft := by
    rw [List.length_append]
    omega
  cases result with
  | done inflater upper => exact afterPiece_append handlers _ h
  | stopped inflater upper rest =>
    simp only [afterBlock, hdatalen, hdatalen', Turn.append]
    rw [List.drop_append_of_le_length (by omega)]
  | comp upper =>
    simp only [afterBlock, hmin, hmin', Nat.sub_self, if_true, Turn.append]
    rw [List.drop_append_of_le_length h]

/-- The data has come, and a part of the padding. -/
lemma afterBlock_pad (hvalid : ∀ inflater ∈ s.inflater, inflater.Valid) {dataleft : ℕ}
    (hblock : block.payloadleft = dataleft + trail block) (hdata : dataleft ≤ input.length)
    (hpart : input.length < block.payloadleft) :
    s.afterBlock handlers block (input ++ more) (min (input ++ more).length dataleft)
        (s.piece handlers block dataleft input) =
      (s.afterBlock handlers block input (min input.length dataleft)
        (s.piece handlers block dataleft input)).append (turn handlers) more := by
  have hdatalen : min input.length dataleft = dataleft := by omega
  have hdatalen' : min (input ++ more).length dataleft = dataleft := by
    rw [List.length_append]
    omega
  cases hpiece : s.piece handlers block dataleft input with
  | done inflater upper =>
    have hend := recvPiece_end handlers block.frame block.ignore s.upper hvalid hpiece
    simp only [afterBlock, afterPiece_part handlers _ hpart, Turn.append]
    change _ = turnHeaderBlock handlers _ (after block input.length) more
    rcases Nat.lt_or_ge (block.payloadleft - input.length) (trail block) with hpad | hzero
    · rw [turnHeaderBlock_pad handlers _ (after block input.length) hpad]
      exact afterPiece_more handlers _ hpart
    · -- there is nothing to decode before the padding, but if the block ends here the decoder is told
      have heq : block.payloadleft - input.length = 0 + trail block := by omega
      rw [turnHeaderBlock_data handlers _ (after block input.length) heq]
      rw [decide_eq_true hdata, Bool.and_true] at hend
      have hpiece' : piece handlers { s with
          state := .readHeaderBlock (after block input.length)
          inflater := inflater
          upper := upper } (after block input.length) 0 more = .done inflater upper := by
        simp only [piece, List.take_zero, Nat.zero_le, decide_true, Bool.and_true]
        exact hend
      rw [hpiece']
      exact afterPiece_more handlers _ hpart
  | stopped inflater upper rest =>
    simp only [afterBlock, hdatalen, hdatalen', Turn.append]
    rw [List.drop_append_of_le_length (by omega)]
  | comp upper => exact afterBlock_comp handlers s upper hpart _ _

/-- **A piece of a header block can come in two pieces.** -/
lemma turnHeaderBlock_append (hvalid : ∀ inflater ∈ s.inflater, inflater.Valid) :
    s.turnHeaderBlock handlers block (input ++ more) =
      (s.turnHeaderBlock handlers block input).append (turn handlers) more := by
  rcases Nat.lt_or_ge block.payloadleft (trail block) with hpad | hdata
  · rw [turnHeaderBlock_pad handlers s block hpad, turnHeaderBlock_pad handlers s block hpad]
    rcases Nat.lt_or_ge input.length block.payloadleft with hpart | hall
    · rw [afterPiece_part handlers s hpart, Turn.append]
      change _ = turnHeaderBlock handlers _ (after block input.length) more
      have hpad' : block.payloadleft - input.length < trail block := by omega
      rw [turnHeaderBlock_pad handlers _ (after block input.length) hpad']
      exact afterPiece_more handlers s hpart
    · exact afterPiece_append handlers s hall
  · obtain ⟨dataleft, hdataleft⟩ := Nat.exists_eq_add_of_le' hdata
    have hle : dataleft ≤ block.payloadleft := by omega
    rw [turnHeaderBlock_data handlers s block hdataleft, turnHeaderBlock_data handlers s block hdataleft]
    rcases Nat.lt_or_ge input.length block.payloadleft with hpart | hall
    · rcases Nat.lt_or_ge input.length dataleft with hless | hge
      · rw [piece_append handlers hvalid hless]
        cases hpiece : s.piece handlers block dataleft input with
        | done inflater upper =>
          have hvalid' := valid_recvPiece handlers block.frame block.ignore s.upper hvalid
            (input.take dataleft) (block.frame.endHeaders && decide (dataleft ≤ input.length))
          rw [show recvPiece handlers block.frame block.ignore s.upper s.inflater
            (input.take dataleft) (block.frame.endHeaders && decide (dataleft ≤ input.length)) = _
            from hpiece] at hvalid'
          rw [afterBlock_more handlers s hless hle]
          · simp only [afterBlock, afterPiece_part handlers _ hpart, Turn.append]
            change _ = turnHeaderBlock handlers _ (after block input.length) more
            have heq : block.payloadleft - input.length = (dataleft - input.length) + trail block := by
              omega
            rw [turnHeaderBlock_data handlers _ (after block input.length) heq more]
            exact afterBlock_congr handlers rfl _ _ _
          · intro inflater' upper' rest hstopped
            have hlength := (suffix_recvPiece handlers block.frame block.ignore upper hvalid'
              hstopped).length_le
            rw [List.length_take] at hlength
            omega
        | stopped inflater upper rest =>
          have hproclen : min (input ++ more).length dataleft -
              (rest ++ more.take (dataleft - input.length)).length = input.length - rest.length := by
            simp only [List.length_append, List.length_take]
            omega
          have hall : min input.length dataleft = input.length := by omega
          simp only [BlockResult.andThen, afterBlock, hproclen, hall, Turn.append]
          rw [List.drop_append_of_le_length (Nat.sub_le _ _)]
        | comp upper => exact afterBlock_comp handlers s upper hpart _ _
      · rw [piece_of_le handlers hge]
        exact afterBlock_pad handlers hvalid hdataleft hge hpart
    · rw [piece_of_le handlers (hle.trans hall)]
      exact afterBlock_append handlers s hall hle _

end Inbound

/-! ## The client magic, and SETTINGS -/

namespace Inbound

variable {s : Inbound τ} {input more : Bytes}

/-- The client magic can come in two pieces. -/
lemma turnClientMagic_append (s : Inbound τ) {payloadleft : ℕ}
    (hle : payloadleft ≤ clientMagic.length) :
    s.turnClientMagic payloadleft (input ++ more) =
      (s.turnClientMagic payloadleft input).append (turn handlers) more := by
  rcases Nat.lt_or_ge input.length payloadleft with hpart | hall
  · have hmin : min input.length payloadleft = input.length := by omega
    have hmin' : min (input ++ more).length payloadleft =
        input.length + min more.length (payloadleft - input.length) := by
      rw [List.length_append]
      omega
    have hdrop : clientMagic.length - payloadleft + input.length =
        clientMagic.length - (payloadleft - input.length) := by omega
    have hlength : ((clientMagic.drop (clientMagic.length - payloadleft)).take input.length).length =
        input.length := by
      rw [List.length_take, List.length_drop]
      omega
    simp only [turnClientMagic, hmin, hmin', List.take_length_add_append,
      List.drop_length_add_append, List.take_length, List.drop_length, Nat.sub_add_eq]
    rw [List.take_add, List.drop_drop, hdrop]
    by_cases hmagic : (clientMagic.drop (clientMagic.length - payloadleft)).take input.length = input
    · -- the second piece is compared with what is left of the magic
      have hne : payloadleft - input.length ≠ 0 := by omega
      simp only [hmagic, ne_eq, not_true_eq_false, if_false, hne, not_false_eq_true, if_true,
        Turn.append, turn, turnClientMagic, List.append_cancel_left_eq]
    · have hmagic' : ∀ x y : Bytes,
          (clientMagic.drop (clientMagic.length - payloadleft)).take input.length ++ x ≠
            input ++ y :=
        fun x y h => hmagic (List.append_inj h hlength).1
      rw [if_pos (hmagic' _ _), if_pos hmagic, Turn.append]
  · have hmin : min input.length payloadleft = payloadleft := by omega
    have hmin' : min (input ++ more).length payloadleft = payloadleft := by
      rw [List.length_append]
      omega
    simp only [turnClientMagic, hmin, hmin', List.take_append_of_le_length hall,
      List.drop_append_of_le_length hall, Nat.sub_self, ne_eq, not_true_eq_false, if_false]
    split <;> rfl

/-- What comes of SETTINGS does not depend on the state in which they were read. -/
lemma reset_onSettingsReceived {s s' : Inbound τ} (h : s.reset = s'.reset) (hd : FrameHd)
    (iv : List SettingsEntry) :
    (s.onSettingsReceived handlers hd iv).map reset =
      (s'.onSettingsReceived handlers hd iv).map reset := by
  obtain ⟨state, inflater, inflight, upper⟩ := s
  obtain ⟨state', inflater', inflight', upper'⟩ := s'
  cases h
  unfold onSettingsReceived
  split
  · rfl
  · split
    · split
      · rfl
      · cases inflight with
        | nil => rfl
        | cons iv' inflight =>
          simp only [updateLocalSettings]
          split <;> rfl
    · rw [Option.map_map, Option.map_map]
      rfl

lemma endSettings_congr {s s' : Inbound τ} (h : s.reset = s'.reset) (hd : FrameHd)
    (iv : List SettingsEntry) : s.endSettings handlers hd iv = s'.endSettings handlers hd iv := by
  have hend : ∀ s : Inbound τ, s.endSettings handlers hd iv =
      ((s.onSettingsReceived handlers hd iv).map reset).elim (.error .flooded)
        fun s => .ok (s, false) := by
    intro s
    rw [endSettings]
    cases s.onSettingsReceived handlers hd iv <;> rfl
  rw [hend, hend, reset_onSettingsReceived handlers h]

end Inbound

end KituraHTTP2.Nghttp2
