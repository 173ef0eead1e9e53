import KituraHTTP2.Nghttp2.InboundBlock

/-!
# What holds of a session between two turns

Between two turns of its loop the session is in a state in which the next turn finds what it needs:
`sbuf` has room for what is still to come, the bytes that a frame of this type has before its header
block, or instead of one, are as many as the state says, and the array for the entries of SETTINGS
has a place for each entry that the payload can still bring.  The decoder is valid.

The functions that process what a turn has read keep this, whatever the session above makes of it.
`Goes` says so once: the state is one at the beginning of something, where `sbuf` is empty and only
a few turns are possible without input, and the decoder is still valid.  Each function has one
lemma; those that read from `sbuf` have another, that the bytes they look at are there.

* `InboundState.Ok`, `Inbound.Ok` — the invariant.
* `goes_receiveHead`, `receiveNbyte_cases`, `receiveEntry_cases`, … — what the functions come to.
* `receiveNbyte_ne`, `receiveEntry_ne`, … — they read and write what is there.
-/

namespace KituraHTTP2.Nghttp2

open Incremental

variable {τ : Type} (handlers : Handlers τ)

/-! ## The invariant -/

/-- The number of bytes that `NGHTTP2_IB_READ_NBYTE` reads for a frame. -/
def nbyteMark (hd : FrameHd) (padlen : ℕ) : Option ℕ :=
  if padlen = 0 ∧ hd.flags &&& flagPadded ≠ 0 ∧
      (hd.type = FrameType.headers.toUInt8 ∨ hd.type = FrameType.pushPromise.toUInt8) then some 1
  else if hd.type = FrameType.headers.toUInt8 ∨ hd.type = FrameType.priority.toUInt8 then
    some prioritySpecLen
  else if hd.type = FrameType.pushPromise.toUInt8 ∨ hd.type = FrameType.rstStream.toUInt8 ∨
      hd.type = FrameType.windowUpdate.toUInt8 then some 4
  else if hd.type = FrameType.ping.toUInt8 ∨ hd.type = FrameType.goaway.toUInt8 then some 8
  else none

/-- The entries of SETTINGS that have arrived, and `payloadleft` bytes to come. -/
def SettingsOk (inbound : Option InboundSettings) (payloadleft mark : ℕ) (sbuf : Bytes) : Prop :=
  (inbound = none ∧ payloadleft = 0 ∧ mark = 0 ∧ sbuf = []) ∨
    ∃ n iv inbound', inbound = some inbound' ∧ Arrived n iv inbound' ∧
      (∀ entry ∈ iv, entry.value < 2 ^ 32) ∧
      iv.length * frameSettingsEntryLength + payloadleft = n * frameSettingsEntryLength ∧
      0 < payloadleft ∧ mark = frameSettingsEntryLength ∧ sbuf.length < mark

/-- What holds of the state between two turns. -/
def InboundState.Ok : InboundState → Prop
  | .readClientMagic payloadleft => payloadleft ≤ clientMagic.length
  | .readFirstSettings sbuf => sbuf.length < frameHdlen
  | .readHead sbuf => sbuf.length < frameHdlen
  | .expectContinuation _ _ sbuf => sbuf.length < frameHdlen
  | .readNbyte hd _ padlen mark sbuf => nbyteMark hd padlen = some mark ∧ sbuf.length < mark
  | .readSettings _ inbound payloadleft mark sbuf => SettingsOk inbound payloadleft mark sbuf
  | .readGoawayDebug _ _ lbuf => 8 ≤ lbuf.length
  | .readPadData _ _ sbuf => sbuf = []
  | _ => True

/-- The number of bytes in `sbuf`. -/
def InboundState.held : InboundState → ℕ
  | .readFirstSettings sbuf => sbuf.length
  | .readHead sbuf => sbuf.length
  | .expectContinuation _ _ sbuf => sbuf.length
  | .readNbyte _ _ _ _ sbuf => sbuf.length
  | .readSettings _ _ _ _ sbuf => sbuf.length
  | .readPadData _ _ sbuf => sbuf.length
  | _ => 0

/-- The number of turns that can be made without input. -/
@[simp]
def InboundState.rank : InboundState → ℕ
  | .readNbyte _ _ _ _ _ => 5
  | .readHeaderBlock block => if block.ignore then 2 else 3
  | .frameSizeError _ _ => 2
  | .readClientMagic _ => 1
  | .ignPayload _ _ => 1
  | .readSettings _ _ _ _ _ => 1
  | .readGoawayDebug _ _ _ => 1
  | .readData _ _ _ => 2
  | .ignData _ => 1
  | _ => 0

/-- A state at the beginning of something. -/
structure InboundState.Begins (state : InboundState) : Prop where
  ok : state.Ok
  held : state.held = 0
  rank : state.rank ≤ 5

namespace Inbound

variable (s : Inbound τ)

/-- The decoder is valid, and the settings in flight have values of 32 bits. -/
structure Decodes : Prop where
  valid : ∀ inflater ∈ s.inflater, inflater.Valid
  inflight : ∀ iv ∈ s.inflight, ∀ entry ∈ iv, entry.value < 2 ^ 32

/-- What holds of the session between two turns. -/
structure Ok : Prop where
  state : s.state.Ok
  decodes : s.Decodes

/-- What a turn comes to when what it has read is processed. -/
structure Goes (s s' : Inbound τ) : Prop where
  begins : s'.state.Begins
  decodes : s.Decodes → s'.Decodes

variable {s}

lemma goes_reset (s : Inbound τ) : Goes s s.reset :=
  ⟨⟨show (0 : ℕ) < frameHdlen by decide, rfl, Nat.zero_le _⟩, fun h => ⟨h.valid, h.inflight⟩⟩

/-- The decoder stays as it is. -/
lemma Goes.of_upper {s s' : Inbound τ} (h : s'.state.Begins) (hinflater : s'.inflater = s.inflater)
    (hinflight : s'.inflight = s.inflight) : Goes s s' :=
  ⟨h, fun hdecodes => ⟨hinflater ▸ hdecodes.valid, hinflight ▸ hdecodes.inflight⟩⟩

lemma goes_beginBlock (s : Inbound τ) (frame : BlockFrame) (payloadleft padlen : ℕ) :
    Goes s (s.beginBlock handlers frame payloadleft padlen).1 := by
  refine .of_upper ⟨trivial, rfl, ?_⟩ rfl rfl
  simp only [beginBlock, InboundState.rank]
  split <;> omega

lemma goes_readPriority (s : Inbound τ) {hd : FrameHd} (payloadleft : ℕ) {padlen : ℕ}
    (htype : hd.type = FrameType.headers.toUInt8)
    (hpad : ¬ (padlen = 0 ∧ hd.flags &&& flagPadded ≠ 0)) :
    Goes s (s.readPriority handlers hd payloadleft padlen).1 := by
  have hmark : nbyteMark hd padlen = some prioritySpecLen := by
    rw [nbyteMark, if_neg (by tauto), if_pos (Or.inl htype)]
  simp only [readPriority]
  by_cases hpriority : hd.flags &&& flagPriority ≠ 0
  · have hlen : framePriorityLen hd.flags = prioritySpecLen := if_pos hpriority
    rw [hlen, if_pos (by decide)]
    split
    · exact .of_upper ⟨trivial, rfl, by simp⟩ rfl rfl
    · exact .of_upper ⟨⟨hmark, by decide⟩, rfl, by simp⟩ rfl rfl
  · have hlen : framePriorityLen hd.flags = 0 := if_neg hpriority
    rw [hlen, if_neg (by decide)]
    exact goes_beginBlock handlers s _ _ _

lemma goes_readPromised (s : Inbound τ) {hd : FrameHd} (payloadleft : ℕ) {padlen : ℕ}
    (htype : hd.type = FrameType.pushPromise.toUInt8)
    (hpad : ¬ (padlen = 0 ∧ hd.flags &&& flagPadded ≠ 0)) :
    Goes s (s.readPromised hd payloadleft padlen).1 := by
  have hmark : nbyteMark hd padlen = some 4 := by
    rw [nbyteMark, if_neg (by tauto), if_neg (by rw [htype]; decide), if_pos (Or.inl htype)]
  unfold readPromised
  split
  · exact .of_upper ⟨trivial, rfl, by simp⟩ rfl rfl
  · exact .of_upper ⟨⟨hmark, by decide⟩, rfl, by simp⟩ rfl rfl

lemma goes_readFixed (s : Inbound τ) {hd : FrameHd} {size : ℕ}
    (hmark : nbyteMark hd 0 = some size) (hsize : 0 < size) : Goes s (s.readFixed hd size).1 := by
  unfold readFixed
  split
  · exact .of_upper ⟨trivial, rfl, by simp⟩ rfl rfl
  · exact .of_upper ⟨⟨hmark, hsize⟩, rfl, by simp⟩ rfl rfl

/-- The field with the length of the padding is there only if the flag is. -/
lemma padded_of_handlePad {hd : FrameHd} {padded : Bool} (h : handlePad hd = some padded) :
    padded = true ↔ hd.flags &&& flagPadded ≠ 0 := by
  unfold handlePad at h
  split at h
  · rename_i hflag
    split at h
    · cases h
    · cases h
      exact ⟨fun _ => hflag, fun _ => rfl⟩
  · rename_i hflag
    cases h
    exact ⟨fun hfalse => absurd hfalse Bool.false_ne_true, fun hpad => absurd hpad hflag⟩

lemma goes_refuse (s : Inbound τ) (errorCode : ℕ) (reason : String) (type : UInt8)
    (payloadleft : ℕ) : Goes s (s.refuse handlers errorCode reason type payloadleft) :=
  .of_upper ⟨trivial, rfl, by simp [refuse]⟩ rfl rfl

lemma goes_receiveData (s : Inbound τ) (hd : FrameHd) : Goes s (s.receiveData handlers hd).1 := by
  unfold receiveData
  simp only
  split
  · split
    · exact .of_upper ⟨trivial, rfl, by simp⟩ rfl rfl
    · exact .of_upper ⟨rfl, rfl, by simp⟩ rfl rfl
    · exact .of_upper ⟨trivial, rfl, by simp⟩ rfl rfl
  · exact .of_upper ⟨trivial, rfl, by simp⟩ rfl rfl

lemma goes_receiveHeaders (s : Inbound τ) {hd : FrameHd}
    (htype : hd.type = FrameType.headers.toUInt8) : Goes s (s.receiveHeaders handlers hd).1 := by
  unfold receiveHeaders
  simp only
  split
  · exact goes_refuse handlers s _ _ _ _
  · rename_i hpad
    have hpadded := (padded_of_handlePad hpad).1 rfl
    refine .of_upper ⟨⟨?_, by decide⟩, rfl, by simp⟩ rfl rfl
    rw [nbyteMark, if_pos ⟨rfl, hpadded, Or.inl htype⟩]
  · rename_i hpad
    refine goes_readPriority handlers s _ htype fun h => ?_
    have hpadded := (padded_of_handlePad hpad).2 h.2
    cases hpadded

lemma goes_receivePushPromise (s : Inbound τ) {hd : FrameHd}
    (htype : hd.type = FrameType.pushPromise.toUInt8) :
    Goes s (s.receivePushPromise handlers hd).1 := by
  unfold receivePushPromise
  simp only
  split
  · exact goes_refuse handlers s _ _ _ _
  · rename_i hpad
    have hpadded := (padded_of_handlePad hpad).1 rfl
    refine .of_upper ⟨⟨?_, by decide⟩, rfl, by simp⟩ rfl rfl
    rw [nbyteMark, if_pos ⟨rfl, hpadded, Or.inr htype⟩]
  · rename_i hpad
    refine goes_readPromised s _ htype fun h => ?_
    have hpadded := (padded_of_handlePad hpad).2 h.2
    cases hpadded

lemma goes_receiveSettings (s : Inbound τ) (hd : FrameHd) :
    Goes s (s.receiveSettings handlers hd).1 := by
  unfold receiveSettings
  simp only
  split
  · exact .of_upper ⟨trivial, rfl, by simp⟩ rfl rfl
  · rename_i hsize
    have hmod : hd.length % frameSettingsEntryLength = 0 := by tauto
    split
    · rename_i hlength
      refine .of_upper ⟨Or.inr ⟨hd.length / frameSettingsEntryLength, [], _, rfl,
        arrived_alloc handlers.junk _, by simp, ?_, Nat.pos_of_ne_zero hlength, rfl, by decide⟩, rfl,
        by simp⟩ rfl rfl
      rw [List.length_nil, Nat.zero_mul, Nat.zero_add, Nat.div_mul_cancel (Nat.dvd_of_mod_eq_zero hmod)]
    · exact .of_upper ⟨Or.inl ⟨rfl, rfl, rfl, rfl⟩, rfl, by simp⟩ rfl rfl

/-- For a frame without padding the type says how many bytes are read. -/
lemma nbyteMark_of_type {hd : FrameHd} {type : UInt8} (h : hd.type = type)
    (hpad : ¬ (type = FrameType.headers.toUInt8 ∨ type = FrameType.pushPromise.toUInt8)) :
    ∀ flags, nbyteMark { hd with flags := flags } 0 =
      if type = FrameType.priority.toUInt8 then some prioritySpecLen
      else if type = FrameType.rstStream.toUInt8 ∨ type = FrameType.windowUpdate.toUInt8 then some 4
      else if type = FrameType.ping.toUInt8 ∨ type = FrameType.goaway.toUInt8 then some 8
      else none := by
  subst h
  intro flags
  obtain ⟨hheaders, hpush⟩ := not_or.1 hpad
  rw [nbyteMark, if_neg fun h => hpad h.2.2]
  simp only [hheaders, hpush, false_or]

lemma goes_receiveHead (s : Inbound τ) (hd : FrameHd) : Goes s (s.receiveHead handlers hd).1 := by
  unfold receiveHead
  by_cases hsize : handlers.maxFrameSize s.upper < hd.length
  · rw [if_pos hsize]
    exact goes_refuse handlers s _ _ _ _
  rw [if_neg hsize]
  by_cases hdata : hd.type = FrameType.data.toUInt8
  · rw [if_pos hdata]
    exact goes_receiveData handlers s hd
  rw [if_neg hdata]
  by_cases hheaders : hd.type = FrameType.headers.toUInt8
  · rw [if_pos hheaders]
    exact goes_receiveHeaders handlers s hheaders
  rw [if_neg hheaders]
  by_cases hpriority : hd.type = FrameType.priority.toUInt8
  · rw [if_pos hpriority]
    exact goes_readFixed s ((nbyteMark_of_type hpriority (by decide) _).trans rfl) (by decide)
  rw [if_neg hpriority]
  by_cases hfour : hd.type = FrameType.rstStream.toUInt8 ∨ hd.type = FrameType.windowUpdate.toUInt8
  · rw [if_pos hfour]
    refine goes_readFixed s ?_ (by decide)
    rcases hfour with htype | htype <;>
      exact (nbyteMark_of_type htype (by decide) _).trans rfl
  rw [if_neg hfour]
  by_cases hsettings : hd.type = FrameType.settings.toUInt8
  · rw [if_pos hsettings]
    exact goes_receiveSettings handlers s hd
  rw [if_neg hsettings]
  by_cases hpush : hd.type = FrameType.pushPromise.toUInt8
  · rw [if_pos hpush]
    exact goes_receivePushPromise handlers s hpush
  rw [if_neg hpush]
  by_cases hping : hd.type = FrameType.ping.toUInt8
  · rw [if_pos hping]
    exact goes_readFixed s ((nbyteMark_of_type hping (by decide) _).trans rfl) (by decide)
  rw [if_neg hping]
  by_cases hgoaway : hd.type = FrameType.goaway.toUInt8
  · rw [if_pos hgoaway]
    simp only
    split
    · exact .of_upper ⟨trivial, rfl, by simp⟩ rfl rfl
    · exact .of_upper ⟨⟨(nbyteMark_of_type hgoaway (by decide) _).trans rfl, by decide⟩, rfl,
        by simp⟩ rfl rfl
  rw [if_neg hgoaway]
  split
  · exact goes_refuse handlers s _ _ _ _
  · exact .of_upper ⟨trivial, rfl, by simp⟩ rfl rfl

end Inbound

namespace Inbound

variable {s s' : Inbound τ} {hd : FrameHd} {payloadleft padlen mark : ℕ} {sbuf : Bytes} {busy : Bool}

lemma padlen_of_computePad {padByte : UInt8} (h : computePad payloadleft padByte = some padlen) :
    padlen ≠ 0 := by
  simp only [computePad] at h
  split at h
  · cases h
  · cases h
    exact Nat.succ_ne_zero _

/-- What becomes of a frame that was read. -/
lemma processFrame_cases {frame : Frame} (h : s.processFrame handlers frame = .ok (s', busy)) :
    ∃ upper, s' = { s with upper := upper }.reset := by
  unfold processFrame at h
  split at h
  · cases h
  · cases h
    exact ⟨_, rfl⟩

@[simp]
lemma processFrame_ne (s : Inbound τ) (frame : Frame) :
    s.processFrame handlers frame ≠ .error .invalidAccess := by
  unfold processFrame
  split <;> simp

/-- What `NGHTTP2_IB_READ_NBYTE` comes to. -/
lemma receiveNbyte_cases (h : s.receiveNbyte handlers hd payloadleft padlen sbuf = .ok (s', busy)) :
    (Goes s s' ∨ s' = { s with state := .readGoawayDebug hd payloadleft sbuf } ∧
      hd.type = FrameType.goaway.toUInt8) ∧ (sbuf = [] → s'.state.rank ≤ 1) := by
  unfold receiveNbyte at h
  split at h
  · rename_i hpad
    split at h
    · cases h
    · split at h
      · cases h
        exact ⟨Or.inl (goes_refuse handlers s _ _ _ _), by simp⟩
      · rename_i hcompute
        have hne := padlen_of_computePad hcompute
        obtain ⟨rfl, rfl⟩ := Prod.ext_iff.1 (Except.ok.inj h)
        exact ⟨Or.inl (goes_readPriority handlers s _ hpad.2.2 (by tauto)), by simp⟩
  split at h
  · rename_i hpad
    split at h
    · cases h
    · split at h
      · cases h
        exact ⟨Or.inl (goes_refuse handlers s _ _ _ _), by simp⟩
      · rename_i hcompute
        have hne := padlen_of_computePad hcompute
        obtain ⟨rfl, rfl⟩ := Prod.ext_iff.1 (Except.ok.inj h)
        exact ⟨Or.inl (goes_readPromised s _ hpad.2.2 (by tauto)), by simp⟩
  split at h
  · split at h
    · cases h
    · rename_i priSpec hunpack
      obtain ⟨rfl, rfl⟩ := Prod.ext_iff.1 (Except.ok.inj h)
      refine ⟨Or.inl (goes_beginBlock handlers s _ _ _), ?_⟩
      rintro rfl
      cases hunpack
  split at h
  · split at h
    · obtain ⟨rfl, rfl⟩ := Prod.ext_iff.1 (Except.ok.inj h)
      exact ⟨Or.inl (goes_beginBlock handlers s _ _ _), by simp⟩
    · cases h
  split at h
  · rename_i hgoaway
    cases h
    exact ⟨Or.inr ⟨rfl, hgoaway⟩, fun _ => by simp⟩
  split at h
  · cases h
  · obtain ⟨upper, rfl⟩ := processFrame_cases handlers h
    exact ⟨Or.inl (.of_upper (goes_reset s).begins rfl rfl), fun _ => by simp [reset]⟩

lemma exists_unpackPrioritySpec (h : sbuf.length = prioritySpecLen) :
    ∃ priSpec, unpackPrioritySpec sbuf = some priSpec := by
  match sbuf, h with
  | [_, _, _, _, _], _ => exact ⟨_, rfl⟩

lemma exists_unpackGoawayPayload (h : 8 ≤ sbuf.length) :
    ∃ payload, unpackGoawayPayload sbuf = some payload := by
  match sbuf, h with
  | _ :: _ :: _ :: _ :: _ :: _ :: _ :: _ :: _, _ => exact ⟨_, rfl⟩

/-- The payload of a frame of a fixed form, when it has its length. -/
lemma exists_unpackPayload {type : UInt8}
    (h : type = FrameType.priority.toUInt8 ∧ sbuf.length = prioritySpecLen ∨
      (type = FrameType.rstStream.toUInt8 ∨ type = FrameType.windowUpdate.toUInt8) ∧
        sbuf.length = 4 ∨
      type = FrameType.ping.toUInt8 ∧ sbuf.length = 8) :
    ∃ payload, unpackPayload type sbuf = some payload := by
  rcases h with ⟨rfl, hlength⟩ | ⟨rfl | rfl, hlength⟩ | ⟨rfl, hlength⟩
  · obtain ⟨priSpec, hpriSpec⟩ := exists_unpackPrioritySpec hlength
    exact ⟨_, by simp [unpackPayload, hlength, hpriSpec]; rfl⟩
  · obtain ⟨b₀, b₁, b₂, b₃, rfl⟩ := List.length_eq_four.1 hlength
    exact ⟨_, rfl⟩
  · obtain ⟨b₀, b₁, b₂, b₃, rfl⟩ := List.length_eq_four.1 hlength
    exact ⟨_, rfl⟩
  · exact ⟨.ping sbuf, by simp [unpackPayload, unpackPingPayload, FrameType.toUInt8, hlength]⟩

/-- There are enough bytes for what `NGHTTP2_IB_READ_NBYTE` reads. -/
lemma receiveNbyte_ne (s : Inbound τ) (hmark : nbyteMark hd padlen = some mark)
    (hsbuf : sbuf.length = mark) (payloadleft : ℕ) :
    s.receiveNbyte handlers hd payloadleft padlen sbuf ≠ .error .invalidAccess := by
  unfold nbyteMark at hmark
  unfold receiveNbyte
  split_ifs at hmark with hpad hfive hfour height <;> cases hmark
  · obtain ⟨padByte, rfl⟩ := List.length_eq_one_iff.1 hsbuf
    rcases hpad with ⟨hzero, hflag, htype | htype⟩
    · rw [if_pos ⟨hzero, hflag, htype⟩]
      simp only
      split <;> simp
    · have hne : hd.type ≠ FrameType.headers.toUInt8 := by
        rw [htype]
        decide
      rw [if_neg fun h => hne h.2.2, if_pos ⟨hzero, hflag, htype⟩]
      simp only
      split <;> simp
  all_goals
    rw [if_neg fun h => hpad ⟨h.1, h.2.1, Or.inl h.2.2⟩, if_neg fun h => hpad ⟨h.1, h.2.1, Or.inr h.2.2⟩]
  · obtain ⟨priSpec, hpriSpec⟩ := exists_unpackPrioritySpec hsbuf
    rcases hfive with htype | htype
    · rw [if_pos htype, hpriSpec]
      simp
    · obtain ⟨payload, hpayload⟩ := exists_unpackPayload (Or.inl ⟨htype, hsbuf⟩)
      simp [htype, FrameType.toUInt8] at hpayload ⊢
      simp [hpayload]
  · rcases hfour with htype | htype | htype
    · obtain ⟨b₀, b₁, b₂, b₃, rfl⟩ := List.length_eq_four.1 hsbuf
      rw [if_neg (by rw [htype]; decide), if_pos htype]
      simp
    · obtain ⟨payload, hpayload⟩ := exists_unpackPayload (Or.inr (Or.inl ⟨Or.inl htype, hsbuf⟩))
      simp [htype, FrameType.toUInt8] at hpayload ⊢
      simp [hpayload]
    · obtain ⟨payload, hpayload⟩ := exists_unpackPayload (Or.inr (Or.inl ⟨Or.inr htype, hsbuf⟩))
      simp [htype, FrameType.toUInt8] at hpayload ⊢
      simp [hpayload]
  · rcases height with htype | htype
    · obtain ⟨payload, hpayload⟩ := exists_unpackPayload (Or.inr (Or.inr ⟨htype, hsbuf⟩))
      simp [htype, FrameType.toUInt8] at hpayload ⊢
      simp [hpayload]
    · simp [htype, FrameType.toUInt8]

end Inbound

namespace Inbound

variable {s s' : Inbound τ} {hd : FrameHd} {payloadleft padlen mark : ℕ} {sbuf : Bytes} {busy : Bool}

/-- The size of the table may be changed between two blocks only, but whether it is changed or not
the decoder stays valid. -/
lemma valid_hdInflateChangeTableSize {inflater inflater' : HdInflater} (h : inflater.Valid)
    {size : ℕ} (hsize : size < 2 ^ 32) (hchange : hdInflateChangeTableSize inflater size = some inflater') :
    inflater'.Valid := by
  by_cases hbetween : inflater.Between
  · obtain ⟨inflater'', hsome, hresized⟩ := hdInflateChangeTableSize_spec h hbetween hsize
    cases hsome.symm.trans hchange
    exact hresized.valid
  · have hnone : hdInflateChangeTableSize inflater size = none := if_neg hbetween
    cases hnone.symm.trans hchange

lemma valid_updateLocalTableSize {inflater inflater' : HdInflater} (h : inflater.Valid)
    {sizes : List ℕ} (hsizes : ∀ size ∈ sizes, size < 2 ^ 32)
    (hupdate : updateLocalTableSize inflater sizes = some inflater') : inflater'.Valid := by
  unfold updateLocalTableSize at hupdate
  split at hupdate
  · cases hupdate
    exact h
  · rename_i size hlast
    have hsize := hsizes size (List.mem_of_getLast? hlast)
    simp only at hupdate
    split at hupdate
    · obtain ⟨inflater₁, hfirst, hsecond⟩ := Option.bind_eq_some_iff.1 hupdate
      exact valid_hdInflateChangeTableSize
        (valid_hdInflateChangeTableSize h (smallest_lt sizes) hfirst) hsize hsecond
    · exact valid_hdInflateChangeTableSize h hsize hupdate

lemma goes_updateLocalSettings (s : Inbound τ) {iv : List SettingsEntry}
    (hiv : ∀ entry ∈ iv, entry.value < 2 ^ 32) :
    Goes s (s.updateLocalSettings handlers iv).reset := by
  refine ⟨(goes_reset s).begins, fun hdecodes => ?_⟩
  have hsizes : ∀ size ∈ tableSizes iv, size < 2 ^ 32 := by
    intro size hsize
    obtain ⟨entry, hentry, rfl⟩ := List.mem_map.1 hsize
    exact hiv entry (List.mem_of_mem_filter hentry)
  unfold updateLocalSettings
  split
  · rename_i inflater' hupdate
    obtain ⟨inflater, hinflater, hsome⟩ := Option.bind_eq_some_iff.1 hupdate
    refine ⟨fun inflater'' hinflater'' => ?_, hdecodes.inflight⟩
    cases hinflater''
    exact valid_updateLocalTableSize (hdecodes.valid inflater hinflater) hsizes hsome
  · exact ⟨hdecodes.valid, hdecodes.inflight⟩

lemma goes_onSettingsReceived (s : Inbound τ) (hd : FrameHd) (iv : List SettingsEntry)
    (hs : s.Decodes) {s' : Inbound τ} (h : s.onSettingsReceived handlers hd iv = some s') :
    Goes s s'.reset := by
  unfold onSettingsReceived at h
  split at h
  · cases h
    exact .of_upper (goes_reset s).begins rfl rfl
  split at h
  · split at h
    · cases h
      exact .of_upper (goes_reset s).begins rfl rfl
    · split at h
      · cases h
        exact .of_upper (goes_reset s).begins rfl rfl
      · rename_i iv' inflight hinflight
        cases h
        have hgoes := goes_updateLocalSettings handlers { s with inflight := inflight }
          (hs.inflight iv' (by rw [hinflight]; exact List.mem_cons_self))
        refine ⟨hgoes.begins, fun _ => hgoes.decodes ⟨hs.valid, fun iv'' hiv'' => ?_⟩⟩
        exact hs.inflight iv'' (by rw [hinflight]; exact List.mem_cons_of_mem _ hiv'')
  · obtain ⟨upper, -, rfl⟩ := Option.map_eq_some_iff.1 h
    exact .of_upper (goes_reset s).begins rfl rfl

end Inbound

namespace Inbound

variable {s s' : Inbound τ} {hd : FrameHd} {payloadleft padlen mark : ℕ} {sbuf : Bytes} {busy : Bool}
  {inbound : Option InboundSettings}

lemma endSettings_cases {iv : List SettingsEntry}
    (h : s.endSettings handlers hd iv = .ok (s', busy)) :
    ∃ s₁, s.onSettingsReceived handlers hd iv = some s₁ ∧ s' = s₁.reset := by
  unfold endSettings at h
  split at h
  · cases h
  · rename_i s₁ hs₁
    cases h
    exact ⟨s₁, hs₁, rfl⟩

lemma endSettings_ne (s : Inbound τ) (hd : FrameHd) (iv : List SettingsEntry) :
    s.endSettings handlers hd iv ≠ .error .invalidAccess := by
  unfold endSettings
  split <;> simp

/-- The settings are processed, and the decoder follows. -/
lemma goes_endSettings {iv : List SettingsEntry} (hs : s.Decodes)
    (h : s.endSettings handlers hd iv = .ok (s', busy)) : Goes s s' := by
  obtain ⟨s₁, hs₁, rfl⟩ := endSettings_cases handlers h
  exact goes_onSettingsReceived handlers s hd iv hs hs₁

lemma processSettings_cases (h : s.processSettings handlers hd inbound = .ok (s', busy)) :
    ∃ iv, s.endSettings handlers hd iv = .ok (s', busy) := by
  unfold processSettings at h
  split at h
  · exact ⟨[], h⟩
  · split at h
    · cases h
    · exact ⟨_, h⟩

/-- What an entry of SETTINGS comes to. -/
lemma receiveEntry_cases
    (h : s.receiveEntry handlers hd inbound payloadleft mark sbuf = .ok (s', busy)) :
    s'.state.held = 0 ∧ (s'.state.rank = 0 ∨ s'.state.rank = 1 ∧ sbuf ≠ []) := by
  have hend : ∀ {inbound}, s.processSettings handlers hd inbound = .ok (s', busy) →
      s'.state.held = 0 ∧ s'.state.rank = 0 := by
    intro inbound h
    obtain ⟨iv, h⟩ := processSettings_cases handlers h
    obtain ⟨s₁, -, rfl⟩ := endSettings_cases handlers h
    exact ⟨rfl, rfl⟩
  unfold receiveEntry at h
  split at h
  · exact ⟨(hend h).1, Or.inl (hend h).2⟩
  split at h
  · cases h
  · rename_i inbound' hset
    split at h
    · cases h
      refine ⟨rfl, Or.inr ⟨rfl, ?_⟩⟩
      rintro rfl
      cases hset
    · exact ⟨(hend h).1, Or.inl (hend h).2⟩

/-- An entry fits into the array. -/
lemma receiveEntry_ne (hd : FrameHd) (hs : s.Decodes) (h : SettingsOk inbound payloadleft mark sbuf)
    {full : Bytes} (hfull : full.length = mark) :
    s.receiveEntry handlers hd inbound payloadleft mark full ≠ .error .invalidAccess ∧
      ∀ s' busy, s.receiveEntry handlers hd inbound payloadleft mark full = .ok (s', busy) →
        Goes s s' := by
  rcases h with ⟨rfl, rfl, rfl, -⟩ | ⟨n, iv, inbound', rfl, harrived, hiv, hsize, hpos, rfl, -⟩
  · exact ⟨endSettings_ne handlers s hd [], fun s' busy h => goes_endSettings handlers hs h⟩
  · obtain ⟨entry, hentry⟩ : ∃ entry, Session.unpackSettingsPayload full = [entry] := by
      match full, hfull with
      | [_, _, _, _, _, _], _ => exact ⟨_, rfl⟩
    have hvalue : entry.value < 2 ^ 32 :=
      value_unpackSettingsPayload_lt full (by rw [hentry]; exact List.mem_cons_self)
    rw [frameSettingsEntryLength] at hsize
    obtain ⟨inbound'', hset, harrived'⟩ := harrived.set (by omega) entry
    have hiv' : ∀ entry' ∈ iv ++ [entry], entry'.value < 2 ^ 32 := by
      intro entry' hentry'
      rcases List.mem_append.1 hentry' with hmem | hmem
      · exact hiv entry' hmem
      · rw [List.mem_singleton.1 hmem]
        exact hvalue
    have hset' : setEntry (some inbound') full = some inbound'' := by
      rw [setEntry, hentry]
      exact hset
    rw [receiveEntry, if_neg (by decide)]
    simp only [hset']
    split
    · rename_i hleft
      rw [frameSettingsEntryLength] at hleft
      refine ⟨by simp, fun s' busy h => ?_⟩
      cases h
      refine .of_upper ⟨Or.inr ⟨n, iv ++ [entry], inbound'', rfl, harrived', hiv', ?_,
        Nat.pos_of_ne_zero hleft, rfl, by decide⟩, rfl, by simp⟩ rfl rfl
      rw [List.length_append, List.length_singleton, frameSettingsEntryLength]
      omega
    · obtain ⟨iv', hprocess, -⟩ := harrived'.processSettings
        (by rw [List.length_append, List.length_singleton]; omega) hiv'
      simp only [processSettings, hprocess]
      exact ⟨endSettings_ne handlers s hd iv', fun s' busy h => goes_endSettings handlers hs h⟩

lemma goes_receiveContinuation (s : Inbound τ) (frame : BlockFrame) (ignore : Bool)
    (contHd : FrameHd) : Goes s (s.receiveContinuation handlers frame ignore contHd).1 := by
  unfold receiveContinuation
  split
  · exact goes_refuse handlers s _ _ _ _
  · refine .of_upper ⟨trivial, rfl, ?_⟩ rfl rfl
    simp only [InboundState.rank]
    split <;> omega

lemma goes_receiveFirstSettings (s : Inbound τ) (hd : FrameHd) :
    Goes s (s.receiveFirstSettings handlers hd).1 := by
  unfold receiveFirstSettings
  split
  · exact .of_upper ⟨trivial, rfl, by simp⟩ rfl rfl
  · exact goes_receiveHead handlers s hd

lemma receivePadData_cases (h : s.receivePadData handlers hd payloadleft sbuf = .ok (s', busy)) :
    Goes s s' := by
  unfold receivePadData at h
  split at h
  · cases h
  · dsimp only at h
    split at h
    · cases h
      exact .of_upper ⟨trivial, rfl, by simp⟩ rfl rfl
    · cases h
      exact .of_upper ⟨trivial, rfl, by simp⟩ rfl rfl

lemma receivePadData_ne (s : Inbound τ) (hd : FrameHd) (payloadleft : ℕ) (h : sbuf.length = 1) :
    s.receivePadData handlers hd payloadleft sbuf ≠ .error .invalidAccess := by
  obtain ⟨padByte, rfl⟩ := List.length_eq_one_iff.1 h
  unfold receivePadData
  simp only
  split <;> simp

lemma withHead_cases {receive : FrameHd → Inbound τ × Bool}
    (h : withHead sbuf receive = .ok (s', busy)) :
    ∃ hd, s' = (receive hd).1 ∧ frameHdlen ≤ sbuf.length := by
  unfold withHead at h
  split at h
  · cases h
  · rename_i hd hunpack
    refine ⟨hd, (congrArg Prod.fst (Except.ok.inj h)).symm, ?_⟩
    unfold unpackFrameHd at hunpack
    split at hunpack
    · simp [frameHdlen]
    · cases hunpack

lemma withHead_ne (receive : FrameHd → Inbound τ × Bool) (h : sbuf.length = frameHdlen) :
    withHead sbuf receive ≠ .error .invalidAccess := by
  match sbuf, h with
  | [_, _, _, _, _, _, _, _, _], _ => simp [withHead, unpackFrameHd]

end Inbound

end KituraHTTP2.Nghttp2
