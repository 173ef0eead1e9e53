import KituraHTTP2.Lib.Incremental
import KituraHTTP2.Nghttp2.Huffman
import KituraHTTP2.Nghttp2.Hd.Length
import KituraHTTP2.Nghttp2.Hd.Representation

/-!
# The decoder of header blocks

`HdInflater` is a state machine that takes the bytes of a header block as they come: a block may be
cut anywhere, and whenever a field is complete the call returns it (`hdInflateHdNv`).  The session
calls it until all bytes are used up (`inflateHeaderBlock`).

**Turns.**  `hdInflateTurn` is one turn of the loop of `nghttp2_hd_inflate_hd_nv`.  It reads what
one state is there for, and there are four ways in which it ends: the loop goes on in another state,
a field is returned, the input has ended within something, or it is wrong.  The program makes a turn
while there is input or `busy` is set, which it is where a state has something to do even if no byte
is left: a value of length 0 is complete at once.  A name of length 0 is not treated so; its turn is
made when the next byte comes.

**What could go wrong.**  The decoder is the part of nghttp2 that reads what the peer has written,
and it checks few of the places where C would let it go astray.  It writes to buffers whose size it
has reckoned from the length of the text that comes, twice that length for a Huffman-coded one, and
a zero byte after the text.  It takes fields at indices that it has compared with the length of the
table, and for a literal it keeps such an index while the rest of the field is read.  A write, a
read or an index beyond the end is an error of its own here (`InflateError`), to show that there is
none.

**Sizes.**  The table may be resized at the beginning of a block only, to no more than this side has
allowed; and if it has allowed less than before, the block must begin with that (`expectTableSize`).
-/

namespace KituraHTTP2.Nghttp2

open BoundedQueue Incremental

/-- `nghttp2_hd_opcode` -/
inductive HdOpcode where
  | none | indexed | newname | indname
deriving DecidableEq, Repr

/-- `nghttp2_hd_inflate_state` -/
inductive HdInflateState where
  | expectTableSize | inflateStart | opcode | readTableSize | readIndex
  | newnameCheckNamelen | newnameReadNamelen | newnameReadNamehuff | newnameReadName
  | checkValuelen | readValuelen | readValuehuff | readValue
deriving DecidableEq, Repr

/-- An `nghttp2_buf` over the memory of an `nghttp2_rcbuf`: its size, and what was written. -/
structure StringBuf where
  cap : ℕ
  data : Bytes
deriving DecidableEq, Repr

/-- `nghttp2_hd_inflater`.  `left` is the value of an integer that is read, and then how much of a
text is still to come. -/
structure HdInflater where
  ctx : HdContext
  huffDecodeCtx : HuffDecodeContext
  namebuf : StringBuf
  valuebuf : StringBuf
  left : ℕ
  index : ℕ
  settingsHdTableBufsizeMax : ℕ
  minHdTableBufsizeMax : ℕ
  shift : ℕ
  opcode : HdOpcode
  state : HdInflateState
  huffmanEncoded : Bool
  indexRequired : Bool
  noIndex : Bool

/-- `nghttp2_hd_inflate_init` -/
def hdInflateInit : HdInflater where
  ctx := HdContext.init
  huffDecodeCtx := {}
  namebuf := ⟨0, []⟩
  valuebuf := ⟨0, []⟩
  left := 0
  index := 0
  settingsHdTableBufsizeMax := 4096
  minHdTableBufsizeMax := uint32Max
  shift := 0
  opcode := .none
  state := .inflateStart
  huffmanEncoded := false
  indexRequired := false
  noIndex := false

/-- `NGHTTP2_ERR_HEADER_COMP` and `NGHTTP2_ERR_NOMEM`, and what would be undefined: a read beyond
the end of the input, a write beyond the end of a buffer, an index beyond the end of the table. -/
inductive InflateError where
  | headerComp | noMem | invalidRead | invalidWrite | invalidIndex
deriving DecidableEq, Repr

/-! ## Reading -/

/-- `hd_inflate_read_len`: the decoder, whether the integer is complete, and the bytes that are
left. -/
def hdInflateReadLen (inflater : HdInflater) (input : Bytes) (width maxlen : ℕ) :
    Except InflateError (HdInflater × Bool × Bytes) :=
  if input = [] then .error .invalidRead
  else
    match decodeLength inflater.left inflater.shift input width with
    | none => .error .headerComp
    | some r =>
      if maxlen < r.res then .error .headerComp
      else .ok ({ inflater with left := r.res, shift := r.shift }, r.fin, r.rest)

/-- `hd_inflate_read_huff`.  The padding of the last code is looked at when all of the text is
there. -/
def hdInflateReadHuff (inflater : HdInflater) (buf : StringBuf) (input : Bytes) :
    Except InflateError (HdInflater × StringBuf × Bytes) :=
  let len := min input.length inflater.left
  match hdHuffDecode inflater.huffDecodeCtx (input.take len)
      (decide (inflater.left ≤ input.length)) with
  | none => .error .headerComp
  | some (ctx, out) =>
    if buf.cap < buf.data.length + out.length then .error .invalidWrite
    else .ok ({ inflater with huffDecodeCtx := ctx, left := inflater.left - len },
      { buf with data := buf.data ++ out }, input.drop len)

/-- `hd_inflate_read`: as much of the text as there is. -/
def hdInflateRead (inflater : HdInflater) (buf : StringBuf) (input : Bytes) :
    Except InflateError (HdInflater × StringBuf × Bytes) :=
  let len := min input.length inflater.left
  if buf.cap < buf.data.length + len then .error .invalidWrite
  else .ok ({ inflater with left := inflater.left - len },
    { buf with data := buf.data ++ input.take len }, input.drop len)

/-- `hd_inflate_set_huffman_encoded` -/
def hdInflateSetHuffmanEncoded (inflater : HdInflater) (b : UInt8) : HdInflater :=
  { inflater with huffmanEncoded := decide (b &&& 0x80 ≠ 0) }

/-! ## Fields -/

/-- The field of a literal goes into the table if that is required. -/
def hdInflateIndex (inflater : HdInflater) (nv : HdNv) : Option HdInflater :=
  if inflater.indexRequired then
    (addHdTableIncremental inflater.ctx nv none 0).map fun (ctx, _) => { inflater with ctx := ctx }
  else some inflater

/-- `hd_inflate_commit_newname` -/
def hdInflateCommitNewname (inflater : HdInflater) : Except InflateError (HdInflater × HdNv) :=
  let nv := ⟨inflater.namebuf.data, inflater.valuebuf.data, lookupToken inflater.namebuf.data,
    inflater.noIndex⟩
  match hdInflateIndex inflater nv with
  | none => .error .noMem
  | some inflater => .ok (inflater, nv)

/-- `hd_inflate_commit_indname`: the index was kept, and its name is looked up now. -/
def hdInflateCommitIndname (inflater : HdInflater) : Except InflateError (HdInflater × HdNv) :=
  match inflater.ctx.tableGet inflater.index with
  | none => .error .invalidIndex
  | some field =>
    let nv := { field with value := inflater.valuebuf.data, noIndex := inflater.noIndex }
    match hdInflateIndex inflater nv with
    | none => .error .noMem
    | some inflater => .ok (inflater, nv)

/-! ## The state machine -/

/-- The end of a turn: the loop goes on (`next`), a field is returned (`emit`), the input has ended
within something (`wait`, the label `almost_ok`), or it is wrong (`fail`).  What a turn that fails
has done to the decoder is never seen. -/
abbrev HdTurn := Turn HdInflater UInt8 HdNv InflateError

/-- The next byte, for a look at it.  The program would read beyond the end where there is none. -/
def withByte (input : Bytes) (next : UInt8 → Bytes → HdTurn) : HdTurn :=
  match input with
  | [] => .fail .invalidRead
  | b :: rest => next b rest

/-- The turn goes on with an integer when it is complete. -/
def withLen (inflater : HdInflater) (input : Bytes) (width maxlen : ℕ)
    (next : HdInflater → Bytes → HdTurn) : HdTurn :=
  match hdInflateReadLen inflater input width maxlen with
  | .error error => .fail error
  | .ok (inflater, false, rest) => .wait inflater rest
  | .ok (inflater, true, rest) => next inflater rest

/-- The turn goes on with a text when it is complete; `put` notes how far it has come.  After the
text comes a zero byte. -/
def withString (put : HdInflater → StringBuf → HdInflater) (next : HdInflater → Bytes → HdTurn)
    (read : Except InflateError (HdInflater × StringBuf × Bytes)) : HdTurn :=
  match read with
  | .error error => .fail error
  | .ok (inflater, buf, rest) =>
    let inflater := put inflater buf
    if inflater.left ≠ 0 then .wait inflater rest
    else if buf.cap ≤ buf.data.length then .fail .invalidWrite
    else next inflater rest

/-- `NGHTTP2_HD_STATE_OPCODE`, and the two states that are not far from it, at the byte `b`. -/
def turnOpcode (inflater : HdInflater) (b : UInt8) (rest : Bytes) : HdTurn :=
  if b &&& 0xe0 = 0x20 then
    if inflater.state = .opcode then .fail .headerComp
    else
      .next { inflater with opcode := .indexed, state := .readTableSize, left := 0, shift := 0 }
        (b :: rest) false
  else if b &&& 0x80 ≠ 0 then
    .next { inflater with opcode := .indexed, state := .readIndex, left := 0, shift := 0 }
      (b :: rest) false
  else
    let inflater := { inflater with
      indexRequired := decide (b &&& 0x40 ≠ 0)
      noIndex := decide (b &&& 0xf0 = 0x10)
      left := 0
      shift := 0 }
    if b = 0x40 ∨ b = 0 ∨ b = 0x10 then
      .next { inflater with opcode := .newname, state := .newnameCheckNamelen } rest false
    else .next { inflater with opcode := .indname, state := .readIndex } (b :: rest) false

/-- `NGHTTP2_HD_STATE_READ_TABLE_SIZE`: a size above what was allowed is an error. -/
def turnReadTableSize (inflater : HdInflater) (input : Bytes) : HdTurn :=
  withLen inflater input 5
    (min inflater.minHdTableBufsizeMax inflater.settingsHdTableBufsizeMax) fun inflater rest =>
    let ctx := { inflater.ctx with bufsizeMax := inflater.left }
    .next { inflater with
      minHdTableBufsizeMax := uint32Max
      ctx := (hdContextShrinkTableSize ctx none).1
      state := .inflateStart } rest false

/-- The bits of the first byte that the index has for itself. -/
def indexPrefixlen (inflater : HdInflater) : ℕ :=
  if inflater.opcode = .indexed then 7 else if inflater.indexRequired then 6 else 4

/-- `NGHTTP2_HD_STATE_READ_INDEX`, with `hd_inflate_commit_indexed`. -/
def turnReadIndex (inflater : HdInflater) (input : Bytes) : HdTurn :=
  withLen inflater input (indexPrefixlen inflater) inflater.ctx.maxIndex fun inflater rest =>
    if inflater.left = 0 then .fail .headerComp
    else
      let inflater := { inflater with index := inflater.left - 1 }
      if inflater.opcode = .indexed then
        match inflater.ctx.tableGet inflater.index with
        | none => .fail .invalidIndex
        | some nv => .emit { inflater with state := .opcode } nv rest
      else .next { inflater with state := .checkValuelen } rest false

/-- The size of the buffer for a text.  No code has fewer than five bits, so that a Huffman-coded
text is less than twice as long. -/
def stringCap (inflater : HdInflater) : ℕ :=
  if inflater.huffmanEncoded then inflater.left * 2 + 1 else inflater.left + 1

/-- A buffer for the name is made when its length is known. -/
def startName (inflater : HdInflater) (rest : Bytes) : HdTurn :=
  let inflater := { inflater with namebuf := ⟨stringCap inflater, []⟩ }
  if inflater.huffmanEncoded then
    .next { inflater with huffDecodeCtx := {}, state := .newnameReadNamehuff } rest false
  else .next { inflater with state := .newnameReadName } rest false

/-- A buffer for the value is made when its length is known. -/
def startValue (inflater : HdInflater) (rest : Bytes) : HdTurn :=
  let inflater := { inflater with valuebuf := ⟨stringCap inflater, []⟩ }
  if inflater.huffmanEncoded then
    .next { inflater with huffDecodeCtx := {}, state := .readValuehuff } rest true
  else .next { inflater with state := .readValue } rest true

/-- `NGHTTP2_HD_STATE_NEWNAME_READ_NAMELEN` -/
def turnReadNamelen (inflater : HdInflater) (input : Bytes) : HdTurn :=
  withLen inflater input 7 Rep.maxNv startName

/-- `NGHTTP2_HD_STATE_READ_VALUELEN` -/
def turnReadValuelen (inflater : HdInflater) (input : Bytes) : HdTurn :=
  withLen inflater input 7 Rep.maxNv startValue

/-- `NGHTTP2_HD_STATE_NEWNAME_READ_NAMEHUFF` and `NGHTTP2_HD_STATE_NEWNAME_READ_NAME` -/
def turnReadName : Except InflateError (HdInflater × StringBuf × Bytes) → HdTurn :=
  withString (fun inflater buf => { inflater with namebuf := buf }) fun inflater rest =>
    .next { inflater with state := .checkValuelen } rest false

/-- The field of a literal is returned. -/
def commitValue (inflater : HdInflater) (rest : Bytes) : HdTurn :=
  match if inflater.opcode = .newname then hdInflateCommitNewname inflater
      else hdInflateCommitIndname inflater with
  | .error error => .fail error
  | .ok (inflater, nv) => .emit { inflater with state := .opcode } nv rest

/-- `NGHTTP2_HD_STATE_READ_VALUEHUFF` and `NGHTTP2_HD_STATE_READ_VALUE` -/
def turnReadValue : Except InflateError (HdInflater × StringBuf × Bytes) → HdTurn :=
  withString (fun inflater buf => { inflater with valuebuf := buf }) commitValue

/-- One turn of the loop of `nghttp2_hd_inflate_hd_nv`, by the state that it finds. -/
def hdInflateTurn (inflater : HdInflater) (input : Bytes) : HdTurn :=
  match inflater.state with
  | .expectTableSize => withByte input fun b rest =>
    if b &&& 0xe0 ≠ 0x20 then .fail .headerComp else turnOpcode inflater b rest
  | .inflateStart => withByte input fun b rest => turnOpcode inflater b rest
  | .opcode => withByte input fun b rest => turnOpcode inflater b rest
  | .readTableSize => turnReadTableSize inflater input
  | .readIndex => turnReadIndex inflater input
  | .newnameCheckNamelen => withByte input fun b _ =>
    turnReadNamelen { hdInflateSetHuffmanEncoded inflater b with
      state := .newnameReadNamelen, left := 0, shift := 0 } input
  | .newnameReadNamelen => turnReadNamelen inflater input
  | .newnameReadNamehuff => turnReadName (hdInflateReadHuff inflater inflater.namebuf input)
  | .newnameReadName => turnReadName (hdInflateRead inflater inflater.namebuf input)
  | .checkValuelen => withByte input fun b _ =>
    turnReadValuelen { hdInflateSetHuffmanEncoded inflater b with
      state := .readValuelen, left := 0, shift := 0 } input
  | .readValuelen => turnReadValuelen inflater input
  | .readValuehuff => turnReadValue (hdInflateReadHuff inflater inflater.valuebuf input)
  | .readValue => turnReadValue (hdInflateRead inflater inflater.valuebuf input)

end KituraHTTP2.Nghttp2
