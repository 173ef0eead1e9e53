import KituraHTTP2.Nghttp2.InboundPieces

/-!
# What is received does not depend on the pieces

The peer's bytes come as the network cuts them, each piece with a call of
`nghttp2_session_mem_recv`, and the session reads them in a loop of turns.  A turn that has not
enough input leaves the session in a state that goes on with the next piece.  So all types of
frames, with their padding, header blocks over several frames, and errors come to the same however
the bytes are cut.

Two things are not in the hands of the loop.  A call begins by asking whether the session wants to
read, and reads nothing if it does not (`WantsAll`): where a GOAWAY has ended the session, a request
that comes in the same piece is still answered, and one that comes in the next piece is not.  And
the session gets the bytes of DATA chunk by chunk.  It counts them against the `content-length` of
the request and against its windows, and refuses a chunk as a whole, so that of a body that is too
long more is handed on in small chunks than in one.  It also sends WINDOW_UPDATE as soon as half a
window is used, which it may be in the middle of a large chunk.  `Handlers.JoinsData` says that the
session takes the rest of a DATA frame in two chunks as it takes it in one.  This is asked of the
DATA that comes, in the states in which it is read (`JoinsAll`), and not of every session and every
frame: of bytes without DATA nothing is asked.

* `turn_append` — a turn can be cut in two.
* `joins_of_wait` — what is asked of DATA is asked of the rest of it, where a piece ends in the
  middle.
* `JoinsAll.cut` — two calls that read are one.
* **`memRecvAll_congr`** — of several calls only the bytes count, and not the pieces in which they
  come.
-/

namespace KituraHTTP2.Nghttp2

open Incremental

variable {τ : Type} (handlers : Handlers τ)

/-! ## Chunks of DATA -/

/-- The session takes the `payloadleft` bytes of a DATA frame in chunks as it takes them in one: a
chunk that it accepts leaves the stream in its place, and after one that it refuses the rest is
ignored. -/
structure Handlers.JoinsData (upper : τ) (hd : FrameHd) (payloadleft : ℕ) : Prop where
  accepts : ∀ {upper' left n m data}, n ≠ 0 → m ≠ 0 → left + m + n = payloadleft →
    handlers.onData upper hd (left + m) n data = (upper', true) →
    handlers.hasStream upper' hd = true ∧ ∀ more, handlers.onData upper' hd left m more =
      handlers.onData upper hd left (n + m) (data ++ more)
  refuses : ∀ {upper' left n m data}, n ≠ 0 → m ≠ 0 → left + m + n = payloadleft →
    handlers.onData upper hd (left + m) n data = (upper', false) →
    ∀ more, handlers.onData upper hd left (n + m) (data ++ more) =
      (handlers.onIgnoredData upper' m, false)

/-- The session ignores `payloadleft` bytes of DATA in pieces as it ignores them in one. -/
def Handlers.JoinsIgnored (upper : τ) (payloadleft : ℕ) : Prop :=
  ∀ n m, n ≠ 0 → m ≠ 0 → n + m ≤ payloadleft →
    handlers.onIgnoredData (handlers.onIgnoredData upper n) m = handlers.onIgnoredData upper (n + m)

/-- Where DATA is read the session does not care about its chunks. -/
def Inbound.Joins (s : Inbound τ) : Prop :=
  match s.state with
  | .readData hd payloadleft _ =>
    handlers.hasStream s.upper hd = true → handlers.JoinsData s.upper hd payloadleft
  | .ignData payloadleft => handlers.JoinsIgnored s.upper payloadleft
  | _ => True

namespace Handlers

variable {handlers} {upper upper' : τ} {hd : FrameHd} {payloadleft left n : ℕ} {data : Bytes}

/-- What is left of DATA of which a chunk was accepted. -/
lemma JoinsData.of_accepts (h : handlers.JoinsData upper hd payloadleft) (hn : n ≠ 0)
    (hleft : left + n = payloadleft) (hchunk : handlers.onData upper hd left n data = (upper', true)) :
    handlers.JoinsData upper' hd left := by
  -- a chunk after the first is a part of the chunk that is joined with the first
  have hnext : ∀ {k m}, m ≠ 0 → k + m = left → ∀ more, handlers.onData upper' hd k m more =
      handlers.onData upper hd k (n + m) (data ++ more) := by
    rintro k m hm rfl more
    exact (h.accepts hn hm hleft hchunk).2 more
  constructor
  · intro upper'' k m m' data' hm hm' hk hchunk'
    rw [hnext hm (by omega)] at hchunk'
    have hjoin := h.accepts (by omega) hm' (by omega) hchunk'
    refine ⟨hjoin.1, fun more => ?_⟩
    rw [hjoin.2, hnext (by omega) (by omega), List.append_assoc, Nat.add_assoc]
  · intro upper'' k m m' data' hm hm' hk hchunk' more
    rw [hnext hm (by omega)] at hchunk'
    rw [hnext (by omega) (by omega), ← h.refuses (by omega) hm' (by omega) hchunk' more,
      List.append_assoc, Nat.add_assoc]

/-- What is left of DATA of which a chunk was refused. -/
lemma JoinsData.of_refuses (h : handlers.JoinsData upper hd payloadleft) (hn : n ≠ 0)
    (hleft : left + n = payloadleft) (hchunk : handlers.onData upper hd left n data = (upper', false)) :
    handlers.JoinsIgnored upper' left := by
  intro m m' hm hm' hle
  obtain ⟨k, rfl⟩ : ∃ k, left = k + m' + m := ⟨left - m' - m, by omega⟩
  have hfirst := h.refuses hn hm hleft hchunk []
  have hsecond := h.refuses (by omega) hm' (by omega) hfirst []
  have hchunk' : handlers.onData upper hd (k + (m + m')) n data = (upper', false) := by
    rw [← hchunk, Nat.add_comm m m', Nat.add_assoc]
  have hboth := h.refuses hn (by omega) (by omega) hchunk' []
  rw [List.append_nil, List.append_nil, Nat.add_assoc] at hsecond
  rw [List.append_nil] at hboth
  exact (Prod.ext_iff.1 (hsecond.symm.trans hboth)).1

lemma JoinsIgnored.of_ignored (h : handlers.JoinsIgnored upper payloadleft) (hn : n ≤ payloadleft) :
    handlers.JoinsIgnored (Inbound.ignoreBytes handlers upper n) (payloadleft - n) := by
  intro m m' hm hm' hle
  rcases Nat.eq_zero_or_pos n with rfl | hpos
  · exact h m m' hm hm' (by omega)
  · rw [Inbound.ignoreBytes, if_neg hpos.ne', h n m hpos.ne' hm (by omega),
      h (n + m) m' (by omega) hm' (by omega), h n (m + m') hpos.ne' (by omega) (by omega),
      Nat.add_assoc]

end Handlers

namespace Inbound

variable {s : Inbound τ} {input more : Bytes}

/-- The data of a DATA frame is what comes before the padding. -/
lemma effectiveData_eq {trailPadlen payloadleft : ℕ} {bytes : Bytes}
    (h : bytes.length ≤ payloadleft) :
    effectiveData trailPadlen (payloadleft - bytes.length) bytes =
      if payloadleft < trailPadlen then [] else bytes.take (payloadleft - trailPadlen) := by
  rw [effectiveData, effectiveReadlen_eq _ h]
  split_ifs
  · rfl
  · change bytes.take (min bytes.length _) = _
    rw [List.take_eq_take_iff]
    omega

lemma effectiveData_append {trailPadlen payloadleft : ℕ} {bytes more : Bytes}
    (h : (bytes ++ more).length ≤ payloadleft) :
    effectiveData trailPadlen (payloadleft - (bytes ++ more).length) (bytes ++ more) =
      effectiveData trailPadlen (payloadleft - bytes.length) bytes ++
        effectiveData trailPadlen (payloadleft - bytes.length - more.length) more := by
  rw [effectiveData_eq h]
  rw [List.length_append] at h
  rw [effectiveData_eq (by omega), effectiveData_eq (by omega)]
  by_cases hpad : payloadleft < trailPadlen
  · rw [if_pos hpad, if_pos hpad, if_pos (by omega), List.append_nil]
  · rw [if_neg hpad, if_neg hpad, List.take_append]
    congr 1
    split
    · rw [show payloadleft - trailPadlen - bytes.length = 0 by omega, List.take_zero]
    · congr 1
      omega

/-- Two chunks of DATA are as one. -/
lemma receiveBytes_append {upper : τ} {hd : FrameHd} {payloadleft : ℕ}
    (hjoins : handlers.JoinsData upper hd payloadleft) (padlen : ℕ) {bytes more : Bytes}
    (h : (bytes ++ more).length ≤ payloadleft) (hmore : more ≠ [])
    (hstream : handlers.hasStream upper hd = true) :
    let left := payloadleft - bytes.length
    let next := receiveBytes handlers upper hd left padlen bytes
    let both := receiveBytes handlers upper hd (left - more.length) padlen (bytes ++ more)
    (next.2 = true → handlers.hasStream next.1 hd = true ∧
      receiveBytes handlers next.1 hd (left - more.length) padlen more = both) ∧
    (next.2 = false → both = (ignoreBytes handlers next.1 more.length, false)) := by
  intro left next both
  rcases bytes with _ | ⟨b, bytes⟩
  · exact ⟨fun _ => ⟨hstream, rfl⟩, fun hfalse => absurd hfalse.symm Bool.false_ne_true⟩
  · have hm : more.length ≠ 0 := fun hzero => hmore (List.length_eq_zero_iff.1 hzero)
    have hn : (b :: bytes).length ≠ 0 := Nat.succ_ne_zero _
    have hleft : left = left - more.length + more.length := by
      rw [List.length_append] at h
      omega
    have htotal : left - more.length + more.length + (b :: bytes).length = payloadleft := by
      rw [List.length_append] at h
      omega
    have hboth : both = handlers.onData upper hd (left - more.length)
        ((b :: bytes).length + more.length)
        (effectiveData (frameTrailPadlen hd.flags padlen) left (b :: bytes) ++
          effectiveData (frameTrailPadlen hd.flags padlen) (left - more.length) more) := by
      rw [show both = handlers.onData upper hd (left - more.length) ((b :: bytes) ++ more).length _
        from if_neg (by simp), List.length_append, ← effectiveData_append h, List.length_append,
        Nat.sub_sub]
    have hfirst : handlers.onData upper hd (left - more.length + more.length) (b :: bytes).length
        (effectiveData (frameTrailPadlen hd.flags padlen) left (b :: bytes)) = next := by
      rw [← hleft]
      rfl
    constructor
    · intro htrue
      have hjoin := hjoins.accepts hn hm htotal (hfirst.trans (Prod.ext rfl htrue))
      refine ⟨hjoin.1, ?_⟩
      rw [hboth, ← hjoin.2, receiveBytes, if_neg hmore]
    · intro hfalse
      rw [hboth, hjoins.refuses hn hm htotal (hfirst.trans (Prod.ext rfl hfalse)), ignoreBytes, if_neg hm]

/-- What is ignored in two pieces is ignored in one. -/
lemma ignoreBytes_append {upper : τ} {payloadleft : ℕ}
    (hjoins : handlers.JoinsIgnored upper payloadleft) {n m : ℕ} (h : n + m ≤ payloadleft) :
    ignoreBytes handlers (ignoreBytes handlers upper n) m = ignoreBytes handlers upper (n + m) := by
  rcases Nat.eq_zero_or_pos n with rfl | hn
  · rw [Nat.zero_add]
    rfl
  · rcases Nat.eq_zero_or_pos m with rfl | hm
    · rfl
    · rw [ignoreBytes, ignoreBytes, ignoreBytes, if_neg (by omega), if_neg (by omega),
        if_neg (by omega)]
      exact hjoins n m hn.ne' hm.ne' h

/-- DATA can come in two pieces. -/
lemma turnData_append (s : Inbound τ) (hd : FrameHd) (payloadleft padlen : ℕ)
    (hjoins : handlers.hasStream s.upper hd = true → handlers.JoinsData s.upper hd payloadleft)
    (input : Bytes) {more : Bytes} (hmore : more ≠ []) :
    s.turnData handlers hd payloadleft padlen (input ++ more) =
      (s.turnData handlers hd payloadleft padlen input).append (turn handlers) more := by
  by_cases hstream : handlers.hasStream s.upper hd = true
  · rcases Nat.lt_or_ge input.length payloadleft with hpart | hall
    · -- the first piece is a chunk of its own, after which something is left
      set n := min more.length (payloadleft - input.length) with hn
      have hmin : min input.length payloadleft = input.length := by omega
      have hmin' : min (input ++ more).length payloadleft = input.length + n := by
        rw [List.length_append]
        omega
      have hlength : (more.take n).length = n := by
        rw [List.length_take]
        omega
      have htaken : more.take n ≠ [] := by
        have hpos := List.length_pos_iff.2 hmore
        intro hnil
        rw [hnil, List.length_nil] at hlength
        omega
      have hle : (input ++ more.take n).length ≤ payloadleft := by
        rw [List.length_append, hlength]
        omega
      obtain ⟨haccepts, hrefuses⟩ := receiveBytes_append handlers (hjoins hstream) padlen hle htaken
        hstream
      rw [hlength] at haccepts hrefuses
      simp only [turnData, hstream, if_true, hmin, hmin', List.take_length_add_append,
        List.drop_length_add_append, List.take_length, List.drop_length]
      rw [if_pos (by omega : payloadleft - input.length ≠ 0), Turn.append, Nat.sub_add_eq]
      rcases hnext : receiveBytes handlers s.upper hd (payloadleft - input.length) padlen input with
        ⟨upper, accepted⟩
      rw [hnext] at haccepts hrefuses
      cases accepted with
      | true =>
        obtain ⟨hstream', hboth⟩ := haccepts rfl
        simp only [if_true, turn, turnData, hstream', ← hn, hboth]
        rfl
      | false =>
        rw [hrefuses rfl]
        simp only [Bool.false_eq_true, if_false, turn, readPayload, ← hn, hlength]
        split <;> rfl
    · have hmin : min input.length payloadleft = payloadleft := by omega
      have hmin' : min (input ++ more).length payloadleft = payloadleft := by
        rw [List.length_append]
        omega
      simp only [turnData, hstream, if_true, hmin, hmin', List.take_append_of_le_length hall,
        List.drop_append_of_le_length hall, Nat.sub_self, ne_eq, not_true_eq_false, if_false]
      split <;> rfl
  · simp only [turnData, hstream]
    rfl

/-! ## The input can be cut -/

/-- **A turn can be cut in two.** -/
theorem turn_append (hjoins : s.Joins handlers) (hs : s.Ok) (hmore : more ≠ []) :
    s.turn handlers (input ++ more) = (s.turn handlers input).append (turn handlers) more := by
  cases hstate : s.state with
  | readClientMagic payloadleft =>
    simp only [turn, hstate]
    exact turnClientMagic_append handlers s (hs.of_state hstate)
  | readFirstSettings sbuf =>
    simp only [turn, hstate]
    exact readSbuf_append (fun sbuf input => rfl) sbuf input more
  | readHead sbuf =>
    simp only [turn, hstate]
    exact readSbuf_append (fun sbuf input => rfl) sbuf input more
  | readNbyte hd payloadleft padlen mark sbuf =>
    simp only [turn, hstate]
    exact readSbuf_append (fun sbuf input => rfl) sbuf input more
  | readHeaderBlock block =>
    simp only [turn, hstate]
    exact turnHeaderBlock_append handlers hs.decodes.valid
  | expectContinuation frame ignore sbuf =>
    simp only [turn, hstate]
    exact readSbuf_append (fun sbuf input => rfl) sbuf input more
  | ignPayload type payloadleft =>
    simp only [turn, hstate]
    refine readPayload_append fun bytes more hless => ?_
    simp only [turn, List.length_append, Nat.sub_sub]
    rfl
  | frameSizeError type payloadleft =>
    simp only [turn, hstate]
    rfl
  | readSettings hd inbound payloadleft mark sbuf =>
    have hprocess : ∀ sbuf inbound,
        { s with state := .readSettings hd inbound payloadleft mark sbuf }.receiveEntry handlers hd
          inbound payloadleft mark = s.receiveEntry handlers hd inbound payloadleft mark := by
      intro sbuf inbound
      funext sbuf'
      have hsame : { s with
          state := .readSettings hd inbound payloadleft mark sbuf }.reset = s.reset := rfl
      simp only [receiveEntry, processSettings, endSettings_congr handlers hsame]
    simp only [turn, hstate]
    refine readSbuf_append (fun sbuf input => ?_) sbuf input more
    simp only [turn, hprocess]
  | readGoawayDebug hd payloadleft lbuf =>
    simp only [turn, hstate]
    refine readPayload_append fun bytes more hless => ?_
    simp only [turn, List.length_append, List.append_assoc, Nat.sub_sub]
    rfl
  | readPadData hd payloadleft sbuf =>
    simp only [turn, hstate]
    exact readSbuf_append (fun sbuf input => rfl) sbuf input more
  | readData hd payloadleft padlen =>
    simp only [turn, hstate]
    exact turnData_append handlers s hd payloadleft padlen (by rwa [Joins, hstate] at hjoins) input hmore
  | ignData payloadleft =>
    simp only [turn, hstate]
    rw [Joins, hstate] at hjoins
    refine readPayload_append fun bytes more hless => ?_
    simp only [turn]
    refine readPayload_congr (fun next hnext => ?_) fun next hnext => ?_
    · simp only [List.length_append]
      rw [← ignoreBytes_append handlers hjoins (by omega), Nat.sub_sub]
    · simp only [List.length_append]
      rw [← ignoreBytes_append handlers hjoins (by omega)]
      rfl
  | ignAll =>
    simp only [turn, hstate]
    rw [Turn.append]
    simp only [turn, hstate]

/-! ## Where a piece ends -/

/-- A turn that waits comes from a state in which the bytes are collected. -/
lemma wait_readSbuf {σ β ε : Type*} {mark : ℕ} {sbuf input rest : Bytes} {wait : Bytes → σ}
    {full : Bytes → Except ε (σ × Bool)} {s' : σ}
    (h : readSbuf (β := β) mark sbuf input wait full = .wait s' rest) : ∃ sbuf', s' = wait sbuf' := by
  simp only [readSbuf] at h
  split at h
  · cases h
    exact ⟨_, rfl⟩
  · split at h <;> cases h

lemma wait_readPayload {σ β ε : Type*} {payloadleft : ℕ} {input rest : Bytes} {part : Bytes → σ}
    {done : Bytes → Except ε (σ × Bool)} {s' : σ}
    (h : readPayload (β := β) payloadleft input part done = .wait s' rest) :
    ∃ bytes, bytes.length ≤ payloadleft ∧ s' = part bytes := by
  simp only [readPayload] at h
  split at h
  · cases h
    refine ⟨_, ?_, rfl⟩
    rw [List.length_take]
    omega
  · split at h <;> cases h

/-- Where a piece of a header block ends, the session reads no DATA. -/
lemma joins_of_wait_turnHeaderBlock {s s' : Inbound τ} {block : Block} {input rest : Bytes}
    (h : s.turnHeaderBlock handlers block input = .wait s' rest) : s'.Joins handlers := by
  have hafter : ∀ (s : Inbound τ) payloadleft left,
      s.afterPiece handlers block payloadleft left = .wait s' rest → s'.Joins handlers := by
    intro s payloadleft left h
    rw [afterPiece] at h
    split at h <;> cases h
    trivial
  simp only [turnHeaderBlock] at h
  split at h
  · exact hafter _ _ _ h
  · rw [afterBlock.eq_def] at h
    split at h
    · exact hafter _ _ _ h
    · cases h
    · simp only at h
      split at h <;> cases h
      trivial

/-- The DATA that is left is as the DATA before. -/
lemma joins_of_wait_turnData {s s' : Inbound τ} {hd : FrameHd} {payloadleft padlen : ℕ}
    {input rest : Bytes}
    (hjoins : handlers.hasStream s.upper hd = true → handlers.JoinsData s.upper hd payloadleft)
    (h : s.turnData handlers hd payloadleft padlen input = .wait s' rest) : s'.Joins handlers := by
  rw [turnData] at h
  split at h
  · rename_i hstream
    simp only at h
    split at h
    · cases h
      rcases input with _ | ⟨b, input⟩
      · simpa [Joins, receiveBytes] using hjoins
      · have hless : (b :: input).length < payloadleft := by omega
        have hmin : min (b :: input).length payloadleft = (b :: input).length := by omega
        have hleft : payloadleft - (b :: input).length + (b :: input).length = payloadleft := by omega
        rw [hmin, List.take_length]
        rcases hchunk : receiveBytes handlers s.upper hd (payloadleft - (b :: input).length) padlen
          (b :: input) with ⟨upper, accepted⟩
        have hdata : handlers.onData s.upper hd (payloadleft - (b :: input).length)
            (b :: input).length _ = (upper, accepted) := hchunk
        cases accepted with
        | true => exact fun _ => (hjoins hstream).of_accepts (Nat.succ_ne_zero _) hleft hdata
        | false => exact (hjoins hstream).of_refuses (Nat.succ_ne_zero _) hleft hdata
    · split at h <;> cases h
  · cases h

/-- What is asked of the chunks of DATA is asked of what is left of it. -/
lemma joins_of_wait {s s' : Inbound τ} {input rest : Bytes} (hjoins : s.Joins handlers)
    (h : s.turn handlers input = .wait s' rest) : s'.Joins handlers := by
  cases hstate : s.state with
  | readClientMagic payloadleft =>
    simp only [turn, hstate, turnClientMagic] at h
    split at h
    · cases h
    · split at h <;> cases h
      trivial
  | readHeaderBlock block =>
    simp only [turn, hstate] at h
    exact joins_of_wait_turnHeaderBlock handlers h
  | readData hd payloadleft padlen =>
    simp only [turn, hstate] at h
    exact joins_of_wait_turnData handlers (by rwa [Joins, hstate] at hjoins) h
  | ignData payloadleft =>
    rw [Joins, hstate] at hjoins
    simp only [turn, hstate] at h
    obtain ⟨bytes, hbytes, rfl⟩ := wait_readPayload h
    exact Handlers.JoinsIgnored.of_ignored hjoins hbytes
  | ignPayload | readGoawayDebug =>
    simp only [turn, hstate] at h
    obtain ⟨bytes, -, rfl⟩ := wait_readPayload h
    trivial
  | frameSizeError =>
    simp only [turn, hstate] at h
    cases h
  | ignAll =>
    simp only [turn, hstate] at h
    cases h
    exact hjoins
  | readFirstSettings | readHead | readNbyte | expectContinuation | readSettings | readPadData =>
    simp only [turn, hstate] at h
    obtain ⟨sbuf, rfl⟩ := wait_readSbuf h
    trivial

end Inbound

/-! ## Several calls -/

variable {handlers} {s s' : Inbound τ} {pieces pieces' : List Bytes}

/-- The session wants to read at the begin of each call. -/
def WantsAll (handlers : Handlers τ) : Inbound τ → List Bytes → Prop
  | _, [] => True
  | s, piece :: pieces => handlers.wantRead s.upper = true ∧
      ∀ s', memRecv handlers s piece = .ok s' → WantsAll handlers s' pieces

/-- The session does not care about the chunks of the DATA among these bytes. -/
def JoinsAll (handlers : Handlers τ) (s : Inbound τ) (bytes : Bytes) : Prop :=
  (inboundReader handlers).Through (Inbound.Joins handlers) s bytes false

/-- The bytes can be cut, as long as the session does not care about the chunks. -/
lemma JoinsAll.cut (hs : s.Ok) {piece rest : Bytes} (h : JoinsAll handlers s (piece ++ rest)) :
    s.feed handlers (piece ++ rest) false =
        (s.feed handlers piece false).bind (fun s' => s'.feed handlers rest false) ∧
      ∀ s', s.feed handlers piece false = .ok s' → JoinsAll handlers s' rest := by
  have hcuts : ∀ {s : Inbound τ}, s.Ok → s.Joins handlers → (inboundReader handlers).CutsAt s :=
    fun hs hjoins _ _ _ hmore => Inbound.turn_append handlers hjoins hs hmore
  obtain ⟨hfirst, hrest⟩ := Reader.Through.cut hcuts
    (fun _ hjoins hturn => Inbound.joins_of_wait handlers hjoins hturn) h hs (by simp)
  refine ⟨?_, hrest⟩
  have hfeed := Reader.feed_append (hfirst.of_inv hcuts hs (by simp)) hs (by simp) rest
  rw [Inbound.feed, Inbound.feed, hfeed, Reader.andThen]
  cases ((inboundReader handlers).feed s piece false).2 <;> rfl

/-- All calls are one. -/
lemma memRecvAll_eq (hs : s.Ok) (h : ∀ p ∈ pieces, p ≠ []) (hwants : WantsAll handlers s pieces)
    (hjoins : JoinsAll handlers s pieces.flatten) :
    memRecvAll handlers s pieces = s.feed handlers pieces.flatten false := by
  induction pieces generalizing s with
  | nil => exact (Inbound.feed_nil s).symm
  | cons piece pieces ih =>
    have hcall := memRecv_of_wantRead hwants.1 (h piece List.mem_cons_self)
    have hok := ok_memRecv handlers hs piece
    obtain ⟨hfeed, hrest⟩ := JoinsAll.cut hs hjoins
    rw [List.flatten_cons, hfeed, memRecvAll, List.foldlM_cons, ← hcall]
    cases hfirst : memRecv handlers s piece with
    | error error => rfl
    | ok s' =>
      rw [hfirst] at hok
      exact ih hok (fun p hp => h p (List.mem_cons_of_mem _ hp)) (hwants.2 s' hfirst)
        (hrest s' (hcall.symm.trans hfirst))

/-- Rounds of the loop in which the session does not care about chunks of DATA, from one session
with its input to another. -/
def Inbound.Leads (handlers : Handlers τ) : Inbound τ × Bytes × Bool → Inbound τ × Bytes × Bool → Prop :=
  (inboundReader handlers).Leads (Inbound.Joins handlers)

lemma Inbound.Leads.trans {c c' c'' : Inbound τ × Bytes × Bool} (h : Leads handlers c c')
    (h' : Leads handlers c' c'') : Leads handlers c c'' := Relation.ReflTransGen.trans h h'

/-- One round. -/
lemma Inbound.leads_turn {input rest : Bytes} {busy busy' : Bool} (hjoins : s.Joins handlers)
    (h : input ≠ [] ∨ busy = true) (hturn : s.turn handlers input = .next s' rest busy') :
    Leads handlers (s, input, busy) (s', rest, busy') :=
  Reader.Leads.single (r := inboundReader handlers) h hjoins hturn

lemma Inbound.Leads.feed {input rest : Bytes} {busy busy' : Bool}
    (h : Leads handlers (s, input, busy) (s', rest, busy')) :
    s.feed handlers input busy = s'.feed handlers rest busy' := by
  rw [Inbound.feed, Inbound.feed, Reader.Leads.feed h]

/-- Rounds that use up the input. -/
lemma Inbound.Leads.joinsAll {input : Bytes} (h : Leads handlers (s, input, false) (s', [], false)) :
    JoinsAll handlers s input := Reader.Leads.through h (.stop s')

end KituraHTTP2.Nghttp2
