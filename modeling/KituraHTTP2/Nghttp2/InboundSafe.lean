import KituraHTTP2.Nghttp2.InboundInvariant

/-!
# Whatever comes, nothing is read or written out of bounds

Each turn of the loop of `nghttp2_session_mem_recv` keeps the invariant, and leaves fewer turns to
be made: what was read leads to at most five turns without input.  So the loop comes to an end, and
no piece of input makes it read beyond what is in `sbuf`, or write beyond the array that it has
allocated for the entries of SETTINGS.

The session above may do what it likes.  It may stop a header block, ignore a frame, refuse DATA,
and queue a GOAWAY; where it refuses to queue one more ACK the call fails, as it does where the
client magic is wrong, and these are the only ways in which it fails.

A call reads nothing at all where the session does not want to read any more, because a GOAWAY was
sent or received and no streams are left (`nghttp2_session_want_read`); the bytes count as consumed.

* `sound_turn` — what a turn preserves.
* `memRecv`, `memRecvAll` — a call, and several of them.
* **`memRecvAll_safe`** — no calls read or write out of bounds.
-/

namespace KituraHTTP2.Nghttp2

open Incremental

variable {τ : Type} (handlers : Handlers τ)

/-! ## Reading so many bytes -/

section Reading

variable {σ β ε : Type*} {mark payloadleft : ℕ} {sbuf input more : Bytes} {wait part : Bytes → σ}
  {full done : Bytes → Except ε (σ × Bool)} {turn : σ → Bytes → Turn σ UInt8 β ε}

/-- There is enough in `sbuf`. -/
structure Filled (mark : ℕ) (sbuf sbuf' : Bytes) : Prop where
  le : mark ≤ sbuf'.length
  eq : sbuf.length ≤ mark → sbuf'.length = mark

lemma readSbuf_sat (mark : ℕ) (sbuf input : Bytes) (wait : Bytes → σ)
    (full : Bytes → Except ε (σ × Bool)) :
    (readSbuf (β := β) mark sbuf input wait full).Sat
      (fun s rest busy => ∃ sbuf', full sbuf' = .ok (s, busy) ∧ Filled mark sbuf sbuf' ∧
        sbuf'.length + rest.length = sbuf.length + input.length)
      (fun _ _ _ => False)
      (fun s _ => ∃ sbuf', s = wait sbuf' ∧ sbuf'.length < mark)
      (fun error => ∃ sbuf', full sbuf' = .error error ∧ Filled mark sbuf sbuf') := by
  have hlength : (sbuf ++ input.take (min input.length (mark - sbuf.length))).length =
      sbuf.length + min input.length (mark - sbuf.length) := by
    rw [List.length_append, List.length_take]
    omega
  simp only [readSbuf]
  split
  · rename_i hless
    exact ⟨_, rfl, hless⟩
  · rename_i hge
    have hfilled : Filled mark sbuf (sbuf ++ input.take (min input.length (mark - sbuf.length))) :=
      ⟨Nat.not_lt.1 hge, fun hle => by omega⟩
    split
    · rename_i hok
      refine ⟨_, hok, hfilled, ?_⟩
      rw [hlength, List.length_drop]
      omega
    · rename_i herror
      exact ⟨_, herror, hfilled⟩

lemma readPayload_sat (payloadleft : ℕ) (input : Bytes) (part : Bytes → σ)
    (done : Bytes → Except ε (σ × Bool)) :
    (readPayload (β := β) payloadleft input part done).Sat
      (fun s rest busy => ∃ bytes, done bytes = .ok (s, busy) ∧ rest.length ≤ input.length)
      (fun _ _ _ => False)
      (fun s _ => ∃ bytes, s = part bytes)
      (fun error => ∃ bytes, done bytes = .error error) := by
  simp only [readPayload]
  split
  · exact ⟨_, rfl⟩
  · split
    · rename_i hok
      refine ⟨_, hok, ?_⟩
      rw [List.length_drop]
      exact Nat.sub_le _ _
    · rename_i herror
      exact ⟨_, herror⟩

end Reading

/-! ## Every turn is sound -/

namespace Inbound

variable {s s' : Inbound τ} {input : Bytes} {mark payloadleft : ℕ} {sbuf : Bytes} {busy : Bool}

/-- A bound on the number of turns: a byte in `sbuf` can still be read, and what is read once leads
to at most five turns without input. -/
def cost (s : Inbound τ) (input : Bytes) : ℕ := 6 * (input.length + s.state.held) + s.state.rank

lemma Goes.ok (h : Goes s s') (hs : s.Ok) : s'.Ok := ⟨h.begins.ok, h.decodes hs.decodes⟩

lemma Ok.of_state (hs : s.Ok) {state : InboundState} (hstate : s.state = state) : state.Ok :=
  hstate ▸ hs.state

/-- The decoder stays as it is. -/
lemma Ok.to (hs : s.Ok) (hstate : s'.state.Ok) (hinflater : s'.inflater = s.inflater)
    (hinflight : s'.inflight = s.inflight) : s'.Ok :=
  ⟨hstate, ⟨hinflater ▸ hs.decodes.valid, hinflight ▸ hs.decodes.inflight⟩⟩

/-- A turn after which fewer are possible, which keeps the invariant, and which reads and writes
what there is. -/
def Sound (s : Inbound τ) (input : Bytes) : Turn (Inbound τ) UInt8 Empty InboundError → Prop :=
  Turn.Sat (fun s' rest _ => s'.cost rest < s.cost input ∧ (s.Ok → s'.Ok)) (fun _ _ _ => True)
    (fun s' _ => s.Ok → s'.Ok) (fun error => s.Ok → error ≠ .invalidAccess)

/-- What comes after `mark` bytes. -/
structure Full (s : Inbound τ) (mark : ℕ)
    (full : Bytes → Except InboundError (Inbound τ × Bool)) : Prop where
  begins : ∀ sbuf s' busy, full sbuf = .ok (s', busy) → s'.state.held = 0 ∧ s'.state.rank ≤ 5
  empty : ∀ s' busy, full [] = .ok (s', busy) → mark ≠ 0 ∨ s'.state.rank < s.state.rank
  ok : s.Ok → ∀ sbuf, sbuf.length = mark → full sbuf ≠ .error .invalidAccess ∧
    ∀ s' busy, full sbuf = .ok (s', busy) → s'.Ok

lemma sound_readSbuf {wait : Bytes → Inbound τ}
    {full : Bytes → Except InboundError (Inbound τ × Bool)} (hheld : s.state.held = sbuf.length)
    (hle : s.Ok → sbuf.length ≤ mark)
    (hwait : ∀ sbuf', sbuf'.length < mark → s.Ok → (wait sbuf').Ok) (hfull : s.Full mark full)
    (input : Bytes) : s.Sound input (readSbuf mark sbuf input wait full) := by
  have hread := readSbuf_sat (β := Empty) mark sbuf input wait full
  cases hturn : readSbuf (β := Empty) mark sbuf input wait full with
  | next s' rest busy =>
    rw [hturn] at hread
    obtain ⟨sbuf', hok, hfilled, hlength⟩ := hread
    have hbegins := hfull.begins sbuf' s' busy hok
    refine ⟨?_, fun hs => ?_⟩
    · rw [cost, cost, hheld, hbegins.1]
      rcases Nat.eq_zero_or_pos sbuf'.length with hzero | hpos
      · -- nothing was read
        rw [List.length_eq_zero_iff.1 hzero] at hok
        have hle := hfilled.le
        rcases hfull.empty s' busy hok with hmark | hrank <;> omega
      · omega
    · exact (hfull.ok hs sbuf' (hfilled.eq (hle hs))).2 s' busy hok
  | emit s' out rest => trivial
  | wait s' rest =>
    rw [hturn] at hread
    obtain ⟨sbuf', rfl, hless⟩ := hread
    exact hwait sbuf' hless
  | fail error =>
    rw [hturn] at hread
    obtain ⟨sbuf', herror, hfilled⟩ := hread
    rintro hs rfl
    exact (hfull.ok hs sbuf' (hfilled.eq (hle hs))).1 herror

lemma sound_readPayload {part : Bytes → Inbound τ}
    {done : Bytes → Except InboundError (Inbound τ × Bool)} (hrank : 0 < s.state.rank)
    (hpart : ∀ bytes, s.Ok → (part bytes).Ok)
    (hdone : ∀ bytes s' busy, done bytes = .ok (s', busy) →
      s'.state.held = 0 ∧ s'.state.rank = 0 ∧ (s.Ok → s'.Ok))
    (herror : ∀ bytes, done bytes = .error .invalidAccess → ¬ s.Ok) (payloadleft : ℕ) (input : Bytes) :
    s.Sound input (readPayload payloadleft input part done) := by
  have hread := readPayload_sat (β := Empty) payloadleft input part done
  cases hturn : readPayload (β := Empty) payloadleft input part done with
  | next s' rest busy =>
    rw [hturn] at hread
    obtain ⟨bytes, hok, hlength⟩ := hread
    obtain ⟨hheld, hzero, hs'⟩ := hdone bytes s' busy hok
    refine ⟨?_, hs'⟩
    rw [cost, cost, hheld, hzero]
    omega
  | emit s' out rest => trivial
  | wait s' rest =>
    rw [hturn] at hread
    obtain ⟨bytes, rfl⟩ := hread
    exact hpart bytes
  | fail error =>
    rw [hturn] at hread
    obtain ⟨bytes, hfail⟩ := hread
    rintro hs rfl
    exact herror bytes hfail hs

/-- The header of a frame is read. -/
lemma full_withHead {receive : FrameHd → Inbound τ × Bool}
    (h : ∀ hd, Goes s (receive hd).1) :
    s.Full frameHdlen fun sbuf => withHead sbuf receive where
  begins sbuf s' busy hok := by
    obtain ⟨hd, rfl, -⟩ := withHead_cases hok
    exact ⟨(h hd).begins.held, (h hd).begins.rank⟩
  empty s' busy _ := Or.inl (by decide)
  ok hs sbuf hsbuf := by
    refine ⟨withHead_ne receive hsbuf, fun s' busy hok => ?_⟩
    obtain ⟨hd, rfl, -⟩ := withHead_cases hok
    exact (h hd).ok hs

lemma sound_readNbyte {hd : FrameHd} {padlen : ℕ}
    (hstate : s.state = .readNbyte hd payloadleft padlen mark sbuf) (input : Bytes) :
    s.Sound input (s.turn handlers input) := by
  have hok : s.Ok → nbyteMark hd padlen = some mark ∧ sbuf.length < mark := fun hs => hs.of_state hstate
  simp only [turn, hstate]
  refine sound_readSbuf (by rw [hstate]; rfl) (fun hs => (hok hs).2.le) ?_ ⟨?_, ?_, ?_⟩ input
  · exact fun sbuf' hless hs => hs.to ⟨(hok hs).1, hless⟩ rfl rfl
  · intro sbuf' s' busy hreceive
    rcases (receiveNbyte_cases handlers hreceive).1 with hgoes | ⟨rfl, -⟩
    · exact ⟨hgoes.begins.held, hgoes.begins.rank⟩
    · exact ⟨rfl, by simp⟩
  · intro s' busy hreceive
    have hrank := (receiveNbyte_cases handlers hreceive).2 rfl
    rw [hstate]
    exact Or.inr (lt_of_le_of_lt hrank (by simp))
  · intro hs sbuf' hsbuf'
    refine ⟨receiveNbyte_ne handlers s (hok hs).1 hsbuf' (payloadleft - mark), ?_⟩
    intro s' busy hreceive
    rcases (receiveNbyte_cases handlers hreceive).1 with hgoes | ⟨rfl, htype⟩
    · exact hgoes.ok hs
    · have hmark := (hok hs).1
      have hge : 8 ≤ sbuf'.length := by
        rw [hsbuf']
        simp [nbyteMark, htype, FrameType.toUInt8] at hmark
        omega
      exact hs.to hge rfl rfl

lemma sound_readSettings {hd : FrameHd} {inbound : Option InboundSettings}
    (hstate : s.state = .readSettings hd inbound payloadleft mark sbuf) (input : Bytes) :
    s.Sound input (s.turn handlers input) := by
  have hok : s.Ok → SettingsOk inbound payloadleft mark sbuf := fun hs => hs.of_state hstate
  have hle : s.Ok → sbuf.length ≤ mark := by
    intro hs
    rcases hok hs with ⟨-, -, rfl, rfl⟩ | ⟨n, iv, inbound', -, -, -, -, -, -, hless⟩
    · exact le_rfl
    · exact hless.le
  simp only [turn, hstate]
  refine sound_readSbuf (by rw [hstate]; rfl) hle ?_ ⟨?_, ?_, ?_⟩ input
  · intro sbuf' hless hs
    refine hs.to ?_ rfl rfl
    rcases hok hs with ⟨-, -, rfl, -⟩ | ⟨n, iv, inbound', h₁, h₂, h₃, h₄, h₅, h₆, -⟩
    · exact absurd hless (Nat.not_lt_zero _)
    · exact Or.inr ⟨n, iv, inbound', h₁, h₂, h₃, h₄, h₅, h₆, hless⟩
  · intro sbuf' s' busy hreceive
    have hcases := receiveEntry_cases handlers hreceive
    exact ⟨hcases.1, by omega⟩
  · intro s' busy hreceive
    rcases (receiveEntry_cases handlers hreceive).2 with hzero | ⟨-, hne⟩
    · rw [hstate, hzero]
      exact Or.inr (by simp)
    · exact absurd rfl hne
  · intro hs sbuf' hsbuf'
    have hentry := receiveEntry_ne handlers hd hs.decodes (hok hs) hsbuf'
    exact ⟨hentry.1, fun s' busy hreceive => (hentry.2 s' busy hreceive).ok hs⟩

lemma sound_readPadData {hd : FrameHd}
    (hstate : s.state = .readPadData hd payloadleft sbuf) (input : Bytes) :
    s.Sound input (s.turn handlers input) := by
  have hok : s.Ok → sbuf = [] := fun hs => hs.of_state hstate
  simp only [turn, hstate]
  refine sound_readSbuf (by rw [hstate]; rfl) (fun hs => by rw [hok hs]; exact Nat.zero_le _) ?_
    ⟨?_, fun _ _ _ => Or.inl one_ne_zero, ?_⟩ input
  · intro sbuf' hless hs
    exact hs.to (List.length_eq_zero_iff.1 (Nat.lt_one_iff.1 hless)) rfl rfl
  · intro sbuf' s' busy hreceive
    have hgoes := receivePadData_cases handlers hreceive
    exact ⟨hgoes.begins.held, hgoes.begins.rank⟩
  · intro hs sbuf' hsbuf'
    refine ⟨receivePadData_ne handlers s hd payloadleft hsbuf', fun s' busy hreceive => ?_⟩
    exact (receivePadData_cases handlers hreceive).ok hs

lemma sound_afterPiece (block : Block) (payloadleft : ℕ) {rest : Bytes} {s₁ : Inbound τ}
    (hrest : rest.length ≤ input.length) (hrank : 0 < s.state.rank)
    (hdecodes : s.Decodes → s₁.Decodes) :
    s.Sound input (s₁.afterPiece handlers block payloadleft rest) := by
  have hcost : ∀ s' : Inbound τ, s'.state.held = 0 → s'.state.rank = 0 →
      s'.cost rest < s.cost input := by
    intro s' hheld hzero
    rw [cost, cost, hheld, hzero]
    omega
  have hhead : (0 : ℕ) < frameHdlen := by decide
  have hdecodes' : s.Ok → s₁.Decodes := fun hs => hdecodes hs.decodes
  unfold afterPiece
  split
  · exact fun hs => ⟨trivial, ⟨(hdecodes' hs).valid, (hdecodes' hs).inflight⟩⟩
  · unfold endPiece
    split <;>
      exact ⟨hcost _ rfl rfl, fun hs => ⟨hhead, ⟨(hdecodes' hs).valid, (hdecodes' hs).inflight⟩⟩⟩

lemma sound_readHeaderBlock {block : Block} (hstate : s.state = .readHeaderBlock block)
    (input : Bytes) : s.Sound input (s.turn handlers input) := by
  have hdrop : ∀ n, (input.drop n).length ≤ input.length := by
    intro n
    rw [List.length_drop]
    exact Nat.sub_le _ _
  have hrank : 0 < s.state.rank := by
    rw [hstate, InboundState.rank]
    split <;> decide
  simp only [turn, hstate]
  rcases Nat.lt_or_ge block.payloadleft (trail block) with hpad | hdata
  · rw [turnHeaderBlock_pad handlers s block hpad]
    exact sound_afterPiece handlers block _ (hdrop _) hrank id
  obtain ⟨dataleft, hdataleft⟩ := Nat.exists_eq_add_of_le' hdata
  rw [turnHeaderBlock_data handlers s block hdataleft]
  have hvalid : s.Decodes → (s.piece handlers block dataleft input).Valid :=
    fun hs => valid_recvPiece handlers block.frame block.ignore s.upper hs.valid _ _
  cases hpiece : s.piece handlers block dataleft input with
  | done inflater upper =>
    rw [hpiece] at hvalid
    exact sound_afterPiece handlers block _ (hdrop _) hrank fun hs => ⟨hvalid hs, hs.inflight⟩
  | stopped inflater upper rest =>
    rw [hpiece] at hvalid
    -- the fields of a block that is ignored stop nothing
    have hignore : block.ignore = false := by
      by_contra hne
      rw [piece, Bool.eq_true_of_not_eq_false hne] at hpiece
      exact recvPiece_ignore handlers block.frame s.upper s.inflater _ _ _ _ _ hpiece
    have hlength := hdrop (min input.length dataleft - rest.length)
    refine ⟨?_, fun hs => ⟨trivial, fun inflater' hinflater' => ?_, hs.decodes.inflight⟩⟩
    · simp only [cost, hstate, InboundState.held, InboundState.rank, hignore, if_true]
      rw [if_neg (by decide)]
      omega
    · cases hinflater'
      exact hvalid hs.decodes
  | comp upper =>
    unfold afterBlock
    simp only
    split
    · refine ⟨?_, fun hs => ⟨show (0 : ℕ) < frameHdlen by decide, by simp [reset],
        hs.decodes.inflight⟩⟩
      have hlength := hdrop (min input.length block.payloadleft)
      rw [cost, cost]
      change 6 * (_ + 0) + 0 < _
      omega
    · exact fun hs => ⟨trivial, by simp, hs.decodes.inflight⟩

lemma sound_readData {hd : FrameHd} {padlen : ℕ}
    (hstate : s.state = .readData hd payloadleft padlen) (input : Bytes) :
    s.Sound input (s.turn handlers input) := by
  have hcost : ∀ (s' : Inbound τ) n, s'.state.held = 0 → s'.state.rank ≤ 1 →
      s'.cost (input.drop n) < s.cost input := by
    intro s' n hheld hrank
    have hstart : s.cost input = 6 * (input.length + 0) + 2 := by
      rw [cost, hstate]
      rfl
    rw [hstart, cost, hheld, List.length_drop]
    omega
  have hhead : (0 : ℕ) < frameHdlen := by decide
  simp only [turn, hstate, turnData]
  split
  · split
    · intro hs
      refine hs.to ?_ rfl rfl
      dsimp only
      split <;> trivial
    · split
      · exact ⟨hcost _ _ rfl (Nat.zero_le _), fun hs => hs.to hhead rfl rfl⟩
      · exact ⟨hcost _ _ rfl (Nat.zero_le _), fun hs => hs.to hhead rfl rfl⟩
  · exact ⟨hcost _ 0 rfl le_rfl, fun hs => hs.to trivial rfl rfl⟩

/-- **Every turn is sound.** -/
lemma sound_turn (s : Inbound τ) (input : Bytes) : s.Sound input (s.turn handlers input) := by
  have hhead : (0 : ℕ) < frameHdlen := by decide
  cases hstate : s.state with
  | readClientMagic payloadleft =>
    simp only [turn, hstate, turnClientMagic]
    split
    · exact fun _ => by decide
    · split
      · have hok : s.Ok → payloadleft ≤ clientMagic.length := fun hs => hs.of_state hstate
        exact fun hs => hs.to ((Nat.sub_le _ _).trans (hok hs)) rfl rfl
      · refine ⟨?_, fun hs => hs.to hhead rfl rfl⟩
        simp only [cost, hstate, InboundState.held, InboundState.rank, List.length_nil,
          List.length_drop]
        omega
  | readFirstSettings sbuf =>
    have hok : s.Ok → sbuf.length < frameHdlen := fun hs => hs.of_state hstate
    simp only [turn, hstate]
    refine sound_readSbuf (by rw [hstate]; rfl) (fun hs => (hok hs).le) ?_
      (full_withHead fun hd => goes_receiveFirstSettings handlers s hd) input
    exact fun sbuf' hless hs => hs.to hless rfl rfl
  | readHead sbuf =>
    have hok : s.Ok → sbuf.length < frameHdlen := fun hs => hs.of_state hstate
    simp only [turn, hstate]
    refine sound_readSbuf (by rw [hstate]; rfl) (fun hs => (hok hs).le) ?_
      (full_withHead fun hd => goes_receiveHead handlers s hd) input
    exact fun sbuf' hless hs => hs.to hless rfl rfl
  | readNbyte hd payloadleft padlen mark sbuf => exact sound_readNbyte handlers hstate input
  | readHeaderBlock block => exact sound_readHeaderBlock handlers hstate input
  | expectContinuation frame ignore sbuf =>
    have hok : s.Ok → sbuf.length < frameHdlen := fun hs => hs.of_state hstate
    simp only [turn, hstate]
    refine sound_readSbuf (by rw [hstate]; rfl) (fun hs => (hok hs).le) ?_
      (full_withHead fun hd => goes_receiveContinuation handlers s frame ignore hd) input
    exact fun sbuf' hless hs => hs.to hless rfl rfl
  | ignPayload type payloadleft =>
    simp only [turn, hstate]
    refine sound_readPayload (by rw [hstate]; exact Nat.one_pos) ?_ ?_ ?_ payloadleft input
    · exact fun bytes hs => hs.to trivial rfl rfl
    · intro bytes s' busy hdone
      cases hdone
      unfold endIgnore
      split
      · exact ⟨rfl, rfl, fun hs => ⟨hhead, ⟨by simp [reset], hs.decodes.inflight⟩⟩⟩
      · exact ⟨rfl, rfl, (goes_reset s).ok⟩
    · intro bytes herror
      cases herror
  | frameSizeError type payloadleft =>
    simp only [turn, hstate]
    refine ⟨?_, fun hs => hs.to trivial rfl rfl⟩
    simp only [cost, hstate, InboundState.held, InboundState.rank]
    omega
  | readSettings hd inbound payloadleft mark sbuf =>
    exact sound_readSettings handlers hstate input
  | readGoawayDebug hd payloadleft lbuf =>
    have hok : s.Ok → 8 ≤ lbuf.length := fun hs => hs.of_state hstate
    simp only [turn, hstate]
    refine sound_readPayload (by rw [hstate]; exact Nat.one_pos) ?_ ?_ ?_ payloadleft input
    · intro bytes hs
      refine hs.to ?_ rfl rfl
      have hge := hok hs
      change 8 ≤ (lbuf ++ bytes).length
      rw [List.length_append]
      omega
    · intro bytes s' busy hdone
      unfold processGoaway at hdone
      split at hdone
      · cases hdone
      · obtain ⟨upper, rfl⟩ := processFrame_cases handlers hdone
        exact ⟨rfl, rfl, fun hs => hs.to hhead rfl rfl⟩
    · intro bytes herror hs
      have hge := hok hs
      unfold processGoaway at herror
      split at herror
      · rename_i hnone
        have hlength : 8 ≤ (lbuf ++ bytes).length := by
          rw [List.length_append]
          exact hge.trans (Nat.le_add_right _ _)
        obtain ⟨payload, hpayload⟩ := exists_unpackGoawayPayload hlength
        cases hnone.symm.trans hpayload
      · exact processFrame_ne handlers s _ herror
  | readPadData hd payloadleft sbuf => exact sound_readPadData handlers hstate input
  | readData hd payloadleft padlen => exact sound_readData handlers hstate input
  | ignData payloadleft =>
    simp only [turn, hstate]
    refine sound_readPayload (by rw [hstate]; exact Nat.one_pos) ?_ ?_ ?_ payloadleft input
    · exact fun bytes hs => hs.to trivial rfl rfl
    · intro bytes s' busy hdone
      cases hdone
      exact ⟨rfl, rfl, fun hs => hs.to hhead rfl rfl⟩
    · intro bytes herror
      cases herror
  | ignAll =>
    simp only [turn, hstate]
    exact id

end Inbound

/-! ## The session as a reader -/

/-- The loop of `nghttp2_session_mem_recv` as a reader. -/
def inboundReader : Reader (Inbound τ) UInt8 Empty InboundError where
  turn := Inbound.turn handlers
  cost := Inbound.cost
  inv := Inbound.Ok
  ready _ := True
  cost_next {s _ input _ _} h := by
    have hsound := Inbound.sound_turn handlers s input
    rw [h] at hsound
    exact hsound.1
  cost_emit {_ _ _ out _} _ := nomatch out
  inv_next {s _ input _ _} hs _ h := by
    have hsound := Inbound.sound_turn handlers s input
    rw [h] at hsound
    exact ⟨hsound.2 hs, fun _ => trivial⟩
  inv_emit {_ _ _ out _} _ _ _ := nomatch out
  inv_wait {s _ input _} hs _ h := by
    have hsound := Inbound.sound_turn handlers s input
    rw [h] at hsound
    exact hsound hs

lemma ok_sessionNew (server : Bool) (upper : τ) : (Inbound.sessionNew server upper).Ok where
  state := by
    cases server
    · exact show (0 : ℕ) < frameHdlen by decide
    · exact show 24 ≤ clientMagic.length by decide
  decodes := ⟨by rintro inflater ⟨⟩; exact valid_hdInflateInit, by simp [Inbound.sessionNew]⟩

/-- Rounds of the loop, until the input is used up. -/
def Inbound.feed (s : Inbound τ) (input : Bytes) (busy : Bool) : Except InboundError (Inbound τ) :=
  ((inboundReader handlers).feed s input busy).2

/-- `nghttp2_session_mem_recv`, which begins with a round even if there is no input.  What comes
when the session does not want to read is not read. -/
def memRecv (s : Inbound τ) (input : Bytes) : Except InboundError (Inbound τ) :=
  if handlers.wantRead s.upper then s.feed handlers input true else .ok s

/-- Calls of `nghttp2_session_mem_recv`, one for each piece. -/
def memRecvAll (s : Inbound τ) (pieces : List Bytes) : Except InboundError (Inbound τ) :=
  pieces.foldlM (memRecv handlers) s

variable {handlers} {s s' : Inbound τ} {input : Bytes}

@[simp]
lemma Inbound.feed_nil (s : Inbound τ) : s.feed handlers [] false = .ok s := by
  rw [Inbound.feed, Reader.feed_nil]

lemma Inbound.feed_busy (s : Inbound τ) (h : input ≠ []) (busy : Bool) :
    s.feed handlers input busy = s.feed handlers input false := by
  rw [Inbound.feed, Reader.feed_busy h, Inbound.feed]

/-- A call that reads. -/
lemma memRecv_of_wantRead (hwants : handlers.wantRead s.upper = true) (h : input ≠ []) :
    memRecv handlers s input = s.feed handlers input false := by
  rw [memRecv, if_pos hwants, s.feed_busy h]

variable (handlers) in
/-- Rounds of the loop keep the invariant, and where they fail it is not out of bounds. -/
lemma ok_feed (hs : s.Ok) (input : Bytes) :
    match s.feed handlers input true with
    | .ok s' => s'.Ok
    | .error error => error ≠ .invalidAccess := by
  have hfail : ∀ (s : Inbound τ) input error, s.Ok → input ≠ [] ∨ True →
      s.turn handlers input = .fail error → error ≠ .invalidAccess := by
    intro s input error hs _ h
    have hsound := Inbound.sound_turn handlers s input
    rw [h] at hsound
    exact hsound hs
  have hpreserves := Reader.feed_preserves (r := inboundReader handlers) _ hfail hs input true
    fun _ => trivial
  rw [Inbound.feed]
  rcases hfeed : (inboundReader handlers).feed s input true with ⟨out, error | s'⟩ <;>
    rwa [hfeed] at hpreserves

variable (handlers) in
/-- So does a call. -/
lemma ok_memRecv (hs : s.Ok) (input : Bytes) :
    match memRecv handlers s input with
    | .ok s' => s'.Ok
    | .error error => error ≠ .invalidAccess := by
  cases hwants : handlers.wantRead s.upper with
  | true =>
    rw [memRecv, if_pos hwants]
    exact ok_feed handlers hs input
  | false =>
    rw [memRecv, if_neg (Bool.eq_false_iff.1 hwants)]
    exact hs

/-- **Nothing is read or written out of bounds**, whatever the bytes are and whatever the session
above makes of them: calls fail only because of a wrong client magic, or a flood of PING and
SETTINGS. -/
theorem memRecvAll_safe (hs : s.Ok) (pieces : List Bytes) :
    (∃ s', memRecvAll handlers s pieces = .ok s' ∧ s'.Ok) ∨
      memRecvAll handlers s pieces = .error .badClientMagic ∨
      memRecvAll handlers s pieces = .error .flooded := by
  induction pieces generalizing s with
  | nil => exact Or.inl ⟨s, rfl, hs⟩
  | cons piece pieces ih =>
    have hok := ok_memRecv handlers hs piece
    rw [memRecvAll, List.foldlM_cons]
    cases hfirst : memRecv handlers s piece with
    | error error =>
      rw [hfirst] at hok
      cases error with
      | badClientMagic => exact Or.inr (Or.inl rfl)
      | flooded => exact Or.inr (Or.inr rfl)
      | invalidAccess => exact absurd rfl hok
    | ok s' =>
      rw [hfirst] at hok
      exact ih hok

theorem memRecvAll_safe_server :
    (∃ s', memRecvAll .keepFields (.sessionNew true []) [[0x50, 0x52], [0x49]] = .ok s' ∧ s'.Ok) ∨
      memRecvAll .keepFields (.sessionNew true []) [[0x50, 0x52], [0x49]] =
        .error .badClientMagic ∨
      memRecvAll .keepFields (.sessionNew true []) [[0x50, 0x52], [0x49]] = .error .flooded :=
  memRecvAll_safe (ok_sessionNew true []) _

end KituraHTTP2.Nghttp2
