import IviLink.Ipc.Requests
import IviLink.Proof.IpcReceive

/-!
# What a peer can do to the receiving socket

A header names a type, an id and a size, and a peer may put anything there. The
socket is safe with a header or a piece of payload (`Safe`) if it neither fails
an assertion nor stores a byte outside the block it receives into, asks the next
`recv` for at least one byte, and takes the bytes the header announces, and
these only, as its payload. `Harmless` says which headers and pieces these are,
and `receiver_safe_iff` that they are exactly these.

Three things carry the proof. A known response goes into a buffer that was as
large as announced when its header came and that its caller still waits with
(`Sound.response`). Everything else goes into `mBuffer`, where only requests and
triggers are checked for their size. And the counters mean what they say as long
as a payload comes in one piece.
-/

namespace IviLink.Ipc

open IviLink.Lib

/-! ## Single reads, as equations -/

/-- A piece of payload stored and counted. -/
def Receiver.piece (w : Receiver) (c : List UInt8) : Receiver :=
  (w.write w.socket.currentBuf c).advance c.length

section Reads

variable {w : Receiver} {c : List UInt8}

/-- A `recv` into a block without room for what it gives. -/
theorem receive_overflow {p : BufferPtr} {size : Nat} (hs : w.socket.readingSocket ≠ none)
    (hc : c ≠ []) (hle : c.length ≤ size) (hfit : ¬p.offset + c.length ≤ (w.block p.block).length) :
    receive w p size (.bytes c) = .error .overflow := by
  have hlen : c.length ≠ 0 := fun h => hc (List.eq_nil_of_length_eq_zero h)
  unfold receive
  rw [if_neg hs]
  simp only [List.take_of_length_le hle, if_neg hlen, Receiver.store, if_neg hfit]

theorem recvReqRespData_eq {size : Nat} (hs : w.socket.readingSocket ≠ none) (hc : c ≠ [])
    (hle : c.length ≤ size)
    (hfit : w.socket.currentBuf.offset + c.length ≤ (w.block w.socket.currentBuf.block).length) :
    recvReqRespData w size (.bytes c) =
      if w.socket.haveInBuffer + c.length ≤ w.socket.leftToReceive then
        .ok (if w.socket.haveInBuffer + c.length < w.socket.leftToReceive then .notReady
          else .ready, w.piece c)
      else .error .assertion := by
  by_cases hleft : w.socket.haveInBuffer + c.length ≤ w.socket.leftToReceive
  · rw [if_pos hleft]
    exact recvReqRespData_bytes hs hc hle hleft hfit
  · rw [if_neg hleft]
    unfold recvReqRespData
    rw [receive_bytes hs hc hle hfit]
    simp only [write_leftToReceive, write_haveInBuffer, not_false_eq_true, hleft, if_true]
    split <;> rfl

theorem consumeIncoming_eq {emit : MsgId → List UInt8 → Option DirectionId → Event}
    (hs : w.socket.readingSocket ≠ none) (hc : c ≠ []) (hle : c.length ≤ w.socket.leftToReceive)
    (hfit : w.socket.currentBuf.offset + c.length ≤ (w.block w.socket.currentBuf.block).length) :
    consumeIncoming emit w (.bytes c) =
      if w.socket.haveInBuffer + c.length ≤ w.socket.leftToReceive then
        .ok (if w.socket.haveInBuffer + c.length < w.socket.leftToReceive then
            (w.piece c, [], true)
          else ((w.piece c).toHeader,
            [emit w.socket.msgId ((w.piece c).load w.socket.currentBufBegin
              (w.socket.haveInBuffer + c.length)) w.socket.readingSocket], true))
      else .error .assertion := by
  unfold consumeIncoming
  rw [recvReqRespData_eq hs hc hle hfit]
  by_cases hleft : w.socket.haveInBuffer + c.length ≤ w.socket.leftToReceive
  · rw [if_pos hleft, if_pos hleft]
    by_cases hlt : w.socket.haveInBuffer + c.length < w.socket.leftToReceive
    · simp only [if_pos hlt]
    · simp only [if_neg hlt, Receiver.piece, Receiver.advance, write_msgId,
        write_currentBufBegin, write_haveInBuffer, write_readingSocket]
  · rw [if_neg hleft, if_neg hleft]

theorem lockData_readingSocket (hs : w.socket.readingSocket ≠ none) :
    w.lockData.socket.readingSocket ≠ none := by
  unfold Receiver.lockData
  simp only
  split <;> exact hs

theorem consumeResponseData_eq (hs : w.socket.readingSocket ≠ none) (hc : c ≠ [])
    (hle : c.length ≤ w.socket.leftToReceive)
    (hfit : w.lockData.socket.currentBuf.offset + c.length ≤
      (w.lockData.block w.lockData.socket.currentBuf.block).length) :
    consumeResponseData w (.bytes c) =
      if w.socket.haveInBuffer + c.length ≤ w.socket.leftToReceive then
        .ok (if w.socket.haveInBuffer + c.length < w.socket.leftToReceive then
            (w.lockData.piece c, [], true)
          else (w.lockData.piece c).finishResponse)
      else .error .assertion := by
  obtain ⟨-, hhave, hleft⟩ := lockData_counters w
  have hs' := lockData_readingSocket hs
  have hpos : w.socket.leftToReceive > 0 := by
    have := List.length_pos_of_ne_nil hc
    omega
  unfold consumeResponseData
  simp only [if_pos hpos]
  rw [recvReqRespData_eq hs' hc hle hfit, hhave, hleft]
  by_cases hsum : w.socket.haveInBuffer + c.length ≤ w.socket.leftToReceive
  · rw [if_pos hsum, if_pos hsum]
    by_cases hlt : w.socket.haveInBuffer + c.length < w.socket.leftToReceive
    · simp only [if_pos hlt]
    · simp only [if_neg hlt]
  · rw [if_neg hsum, if_neg hsum]

theorem consumeResponseData_overflow (hs : w.socket.readingSocket ≠ none) (hc : c ≠ [])
    (hle : c.length ≤ w.socket.leftToReceive)
    (hfit : ¬w.lockData.socket.currentBuf.offset + c.length ≤
      (w.lockData.block w.lockData.socket.currentBuf.block).length) :
    consumeResponseData w (.bytes c) = .error .overflow := by
  have hs' := lockData_readingSocket hs
  have hpos : w.socket.leftToReceive > 0 := by
    have := List.length_pos_of_ne_nil hc
    omega
  unfold consumeResponseData
  simp only [if_pos hpos, recvReqRespData, receive_overflow hs' hc hle hfit]

/-- A response is finished with the direction still good. -/
theorem finishResponse_good (w : Receiver) : w.finishResponse.2.2 = true := by
  unfold Receiver.finishResponse
  simp only
  split <;> rfl

/-- The direction a message is read from. -/
def Receiver.reading (w : Receiver) (dir : DirectionId) : Receiver :=
  w.readFrom (w.socket.readingSocket.getD dir)

theorem reading_ne_none (w : Receiver) (dir : DirectionId) :
    (w.reading dir).socket.readingSocket ≠ none :=
  Option.some_ne_none _

theorem consumeData_header (hmode : w.socket.mode = .header) (dir : DirectionId) (k : Kernel) :
    consumeData (w.reading dir) k = consumeHeader (w.reading dir) k := by
  unfold consumeData
  rw [show (w.reading dir).socket.mode = .header from hmode]

theorem consumeData_response (hresp : w.socket.mode = .dataResp) (dir : DirectionId) (k : Kernel) :
    consumeData (w.reading dir) k = consumeResponseData (w.reading dir) k := by
  unfold consumeData
  rw [show (w.reading dir).socket.mode = .dataResp from hresp]

/-- Requests and triggers are received alike. -/
theorem consumeData_incoming (hincoming : w.socket.mode = .dataRequ ∨ w.socket.mode = .dataTrig)
    (dir : DirectionId) (k : Kernel) :
    ∃ emit, consumeData (w.reading dir) k = consumeIncoming emit (w.reading dir) k := by
  unfold consumeData
  rcases hincoming with hm | hm
  · rw [show (w.reading dir).socket.mode = .dataRequ from hm]
    exact ⟨_, rfl⟩
  · rw [show (w.reading dir).socket.mode = .dataTrig from hm]
    exact ⟨_, rfl⟩

theorem socketReady_good {dir : DirectionId} {k : Kernel} {r : Receiver × List Event × Bool}
    (h : consumeData (w.reading dir) k = .ok r) (hr : r.2.2 = true) :
    socketReady w dir k = .ok r := by
  obtain ⟨w', evs, b⟩ := r
  simp only at hr
  subst hr
  unfold socketReady
  unfold Receiver.reading at h
  simp only [h]

theorem socketReady_error {dir : DirectionId} {k : Kernel} {f : Failure}
    (h : consumeData (w.reading dir) k = .error f) : socketReady w dir k = .error f := by
  unfold socketReady
  unfold Receiver.reading at h
  simp only [h]

end Reads

/-! ## Headers -/

/-- The header that the bytes read so far and this piece make up. -/
def Receiver.announced (w : Receiver) (c : List UInt8) : MsgHeader :=
  MsgHeader.ofBytes (w.socket.buffer.take w.socket.haveInBuffer ++ c)

section Headers

variable {w : Receiver} {c : List UInt8}

theorem consumeHeader_eq (hown : w.socket.buffer.length = BUFFER_SIZE)
    (hs : w.socket.readingSocket ≠ none) (hhave : w.socket.haveInBuffer < MSG_HEADER_SIZE)
    (hc : c ≠ []) (hle : c.length ≤ MSG_HEADER_SIZE - w.socket.haveInBuffer) :
    consumeHeader w (.bytes c) =
      let w₁ := w.write ⟨.own, w.socket.haveInBuffer⟩ c
      if w.socket.haveInBuffer + c.length < MSG_HEADER_SIZE then
        .ok ({ w₁ with socket := { w₁.socket with
          haveInBuffer := w.socket.haveInBuffer + c.length } }, [], true)
      else headerReady w₁ := by
  have hfit : w.socket.haveInBuffer + c.length ≤ w.socket.buffer.length := by
    rw [hown]
    unfold MSG_HEADER_SIZE at hhave hle
    unfold BUFFER_SIZE
    omega
  have hsum : w.socket.haveInBuffer + c.length ≤ MSG_HEADER_SIZE := by omega
  unfold consumeHeader
  simp only [receive_bytes (p := ⟨.own, w.socket.haveInBuffer⟩) hs hc hle hfit, hhave, hsum,
    not_true_eq_false, if_false]

/-- The header that lies in the buffer once its last piece is stored. -/
theorem ofBytes_write (hown : w.socket.buffer.length = BUFFER_SIZE)
    (hhave : w.socket.haveInBuffer < MSG_HEADER_SIZE)
    (hsum : w.socket.haveInBuffer + c.length = MSG_HEADER_SIZE) :
    MsgHeader.ofBytes (w.write ⟨.own, w.socket.haveInBuffer⟩ c).socket.buffer = w.announced c := by
  have hle : w.socket.haveInBuffer ≤ w.socket.buffer.length := by
    rw [hown]
    unfold MSG_HEADER_SIZE at hhave
    unfold BUFFER_SIZE
    omega
  rw [← ofBytes_take, ← hsum]
  unfold Receiver.announced
  rw [← take_writeAt hle]
  rfl

/-- The state a header leaves that announces a request or a trigger. -/
theorem headerReady_incoming {hdr : MsgHeader}
    (hhdr : MsgHeader.ofBytes w.socket.buffer = hdr)
    (htype : (hdr.isRequest || hdr.isTrigger) = true) :
    headerReady w = if BUFFER_SIZE ≥ hdr.size.toNat then
      .ok ((w.expect hdr (if hdr.isRequest then .dataRequ else .dataTrig)).receiveInto .own, [],
        true)
    else .error .assertion := by
  unfold headerReady
  simp only [hhdr, htype, if_true]
  by_cases hsize : BUFFER_SIZE ≥ hdr.size.toNat
  · simp only [hsize, not_true_eq_false, if_false, if_true]
  · simp only [hsize, not_false_eq_true, if_false, if_true]

/-- The request a response answers, if there is one with a buffer it fits in. -/
def Receiver.waiting (w : Receiver) (hdr : MsgHeader) : Option RequestData :=
  (w.requests hdr.msgId).filter fun d => ¬hdr.size.toNat > d.bufferSize

/-- The state a header leaves that announces a response with a payload. -/
theorem headerReady_response {hdr : MsgHeader}
    (hhdr : MsgHeader.ofBytes w.socket.buffer = hdr)
    (hincoming : (hdr.isRequest || hdr.isTrigger) = false) (htype : hdr.isResponse = true) :
    headerReady w =
      let w₁ := (w.expect hdr .dataResp).expectResponse (w.waiting hdr)
      if hdr.size.toNat = 0 then .ok w₁.lockData.finishResponse else .ok (w₁, [], true) := by
  unfold headerReady
  simp only [hhdr, hincoming, htype, Bool.false_eq_true, if_false, if_true]
  by_cases hsize : hdr.size.toNat = 0
  · have hleft : ∀ w' : Receiver, w'.socket.leftToReceive = 0 →
        consumeResponseData w' .eof = .ok w'.lockData.finishResponse := by
      intro w' hw'
      unfold consumeResponseData
      simp only [hw', Nat.lt_irrefl, gt_iff_lt, if_false]
    have hgood := finishResponse_good
      ((w.expect hdr .dataResp).expectResponse (w.waiting hdr)).lockData
    simp only [if_pos hsize]
    unfold Receiver.waiting at hgood ⊢
    rw [hleft _ hsize]
    -- the assertion behind an empty response holds
    generalize Receiver.finishResponse _ = r at hgood ⊢
    obtain ⟨w', evs, res⟩ := r
    simp only at hgood
    subst hgood
    rfl
  · simp only [if_neg hsize]
    rfl

end Headers

/-! ## The invariant -/

/-- Nobody waits for the response that is being received: nobody did when its header came, or
the caller is gone. -/
def Receiver.unknown (w : Receiver) : Bool :=
  w.socket.unknownResponse || (w.requests w.socket.msgId).isNone

/-- What holds of the receiving socket between two reads, when calls have used the ids in
`issued` and those in progress are `current`. -/
structure Receiver.Sound (issued : List MsgId) (current : MsgId → Prop) (w : Receiver) : Prop
    extends WellFormed w where
  /-- The header is not complete. -/
  header : w.socket.mode = .header → w.socket.haveInBuffer < MSG_HEADER_SIZE
  /-- Some of the payload is missing. -/
  payload : w.socket.mode ≠ .header → 0 < w.socket.leftToReceive
  /-- A request or trigger is received into `mBuffer`, which has room for all of it. -/
  intoOwn : w.socket.mode = .dataRequ ∨ w.socket.mode = .dataTrig →
    w.socket.currentBuf = ⟨.own, w.socket.haveInBuffer⟩ ∧
      w.socket.haveInBuffer + w.socket.leftToReceive ≤ BUFFER_SIZE
  /-- A response somebody waits for is received into that caller's buffer, and fits. -/
  intoResponse : w.socket.mode = .dataResp → w.socket.unknownResponse = false →
    w.socket.msgId ∈ issued ∧ ∀ d, w.requests w.socket.msgId = some d →
      w.socket.currentBuf = ⟨.response d.responseBuffer, w.socket.haveInBuffer⟩ ∧
      w.socket.haveInBuffer + w.socket.leftToReceive ≤ (w.memory d.responseBuffer).length
  /-- The container holds calls only. -/
  keys : ∀ id, (w.requests id).isSome → id ∈ issued ∧ current id

section Sound

variable {w w' : Receiver} {issued : List MsgId} {current : MsgId → Prop}

/-- The next `recv` is asked for at least one byte. -/
theorem Receiver.Sound.asked_pos (h : w.Sound issued current) : 0 < w.asked := by
  unfold Receiver.asked
  split
  · next hmode =>
    have := h.header hmode
    omega
  · next hmode => exact h.payload hmode

/-- At the start of a header only the buffers and the container matter. -/
theorem Receiver.Sound.atHeader (hwf : WellFormed w) (hmode : w.socket.mode = .header)
    (hhave : w.socket.haveInBuffer < MSG_HEADER_SIZE)
    (hkeys : ∀ id, (w.requests id).isSome → id ∈ issued ∧ current id) : w.Sound issued current where
  toWellFormed := hwf
  header := fun _ => hhave
  payload := fun h => absurd hmode h
  intoOwn := by
    rintro (h | h) <;> exact absurd (hmode.symm.trans h) (by decide)
  intoResponse := fun h => absurd (hmode.symm.trans h) (by decide)
  keys := hkeys

theorem Receiver.Sound.reading (h : w.Sound issued current) (dir : DirectionId) :
    (w.reading dir).Sound issued current where
  toWellFormed := ⟨h.toWellFormed.own, h.toWellFormed.response⟩
  header := h.header
  payload := h.payload
  intoOwn := h.intoOwn
  intoResponse := h.intoResponse
  keys := h.keys

theorem lockData_known (h : w.unknown = false) : w.lockData = w := by
  unfold Receiver.unknown at h
  unfold Receiver.lockData
  simp only [h, Bool.false_eq_true, if_false]

theorem lockData_unknown (h : w.unknown = true) :
    w.lockData = { w with socket := { w.socket with
      unknownResponse := true, currentBufBegin := ⟨.own, 0⟩, currentBuf := ⟨.own, 0⟩ } } := by
  unfold Receiver.unknown at h
  unfold Receiver.lockData
  simp only [h, if_true]

/-- A finished response leaves the socket at the start of a header. Only the entry of a caller
that waited for it has changed, to the size that was received. -/
theorem Receiver.Sound.finishResponse (hwf : WellFormed w)
    (hkeys : ∀ id, (w.requests id).isSome → id ∈ issued ∧ current id)
    (hfits : w.socket.unknownResponse = false → ∀ d, w.requests w.socket.msgId = some d →
      w.socket.haveInBuffer ≤ (w.memory d.responseBuffer).length) :
    w.finishResponse.1.Sound issued current := by
  have hidle := idle_toHeader hwf
  unfold Receiver.finishResponse
  simp only
  split
  · exact .atHeader hidle.toWellFormed hidle.mode (hidle.haveInBuffer ▸ by decide) hkeys
  · next hknown =>
    have hknown : w.socket.unknownResponse = false := by simpa using hknown
    have hsignalled : WellFormed w.signalResponse := by
      refine ⟨hwf.own, ?_⟩
      intro id d hd
      by_cases hid : id = w.socket.msgId
      · subst hid
        simp only [Receiver.signalResponse, Function.update_self, Option.map_eq_some_iff] at hd
        obtain ⟨d₀, hd₀, rfl⟩ := hd
        exact hfits hknown d₀ hd₀
      · simp only [Receiver.signalResponse, Function.update_of_ne hid] at hd
        exact hwf.response id d hd
    have hidle' := idle_toHeader hsignalled
    refine .atHeader hidle'.toWellFormed hidle'.mode (hidle'.haveInBuffer ▸ by decide) ?_
    intro id hid
    apply hkeys
    by_cases he : id = w.socket.msgId
    · subst he
      simpa [Receiver.toHeader, Receiver.signalResponse] using hid
    · simpa [Receiver.toHeader, Receiver.signalResponse, Function.update_of_ne he] using hid

/-- Storing received bytes leaves every block as large as it was. -/
theorem wellFormed_write (hwf : WellFormed w) {p : BufferPtr} {c : List UInt8}
    (hfit : p.offset + c.length ≤ (w.block p.block).length) : WellFormed (w.write p c) :=
  hwf.of_blocks (fun b => write_block_length hfit b) (write_requests ..)

/-- A response the piece of which is stored where it belongs. -/
theorem Receiver.Sound.fits (h : w.Sound issued current) (hmode : w.socket.mode ≠ .header)
    {c : List UInt8} (hle : c.length ≤ w.socket.leftToReceive)
    (hown : w.socket.mode = .dataResp → w.unknown = true → c.length ≤ BUFFER_SIZE) :
    (w.socket.mode ≠ .dataResp → w.socket.currentBuf.offset + c.length ≤
        (w.block w.socket.currentBuf.block).length) ∧
    (w.socket.mode = .dataResp → w.lockData.socket.currentBuf.offset + c.length ≤
        (w.lockData.block w.lockData.socket.currentBuf.block).length) := by
  constructor
  · intro hresp
    have hincoming : w.socket.mode = .dataRequ ∨ w.socket.mode = .dataTrig := by
      cases hm : w.socket.mode with
      | header => exact absurd hm hmode
      | dataRequ => exact Or.inl rfl
      | dataTrig => exact Or.inr rfl
      | dataResp => exact absurd hm hresp
    obtain ⟨hbuf, hroom⟩ := h.intoOwn hincoming
    rw [hbuf]
    show _ ≤ w.socket.buffer.length
    rw [h.toWellFormed.own]
    show w.socket.haveInBuffer + c.length ≤ BUFFER_SIZE
    omega
  · intro hresp
    cases hu : w.unknown with
    | true =>
      rw [lockData_unknown hu]
      show 0 + c.length ≤ w.socket.buffer.length
      rw [h.toWellFormed.own, Nat.zero_add]
      exact hown hresp hu
    | false =>
      rw [lockData_known hu]
      unfold Receiver.unknown at hu
      rw [Bool.or_eq_false_iff] at hu
      obtain ⟨d, hd⟩ := Option.isSome_iff_exists.mp (Option.isNone_eq_false_iff.mp hu.2)
      obtain ⟨hbuf, hroom⟩ := (h.intoResponse hresp hu.1).2 d hd
      rw [hbuf]
      show w.socket.haveInBuffer + c.length ≤ (w.memory d.responseBuffer).length
      omega

end Sound

/-! ## What is safe, and what is harmless -/

/-- The next `n` bytes are the payload of the header that was read. -/
def Receiver.Expects (w : Receiver) (n : Nat) : Prop :=
  if n = 0 then w.socket.mode = .header ∧ w.socket.haveInBuffer = 0
  else w.socket.mode ≠ .header ∧ w.socket.haveInBuffer = 0 ∧ w.socket.leftToReceive = n

/-- A complete header is followed by the payload it announces, and a payload ends with its
last byte. -/
def Receiver.Taken (w : Receiver) (c : List UInt8) (w' : Receiver) : Prop :=
  if w.socket.mode = .header then
    w.socket.haveInBuffer + c.length = MSG_HEADER_SIZE → w'.Expects (w.announced c).size.toNat
  else w'.socket.mode = .header ↔ c.length = w.socket.leftToReceive

/-- The piece is read without a failed assertion and without a store outside a block, the next
`recv` asks for a byte, and the piece is taken for what it is. -/
def Receiver.SafeWith (w : Receiver) (dir : DirectionId) (c : List UInt8) : Prop :=
  ∃ w' evs res, socketReady w dir (.bytes c) = .ok (w', evs, res) ∧ w'.asked ≠ 0 ∧ w.Taken c w'

/-- A header the socket can deal with: a request or trigger with a payload that fits `mBuffer`,
or any response. A header of no known type does no harm if it has no payload and was read in
one piece. -/
def MsgHeader.Harmless (h : MsgHeader) (haveInBuffer : Nat) : Prop :=
  if (h.isRequest || h.isTrigger) = true then 0 < h.size.toNat ∧ h.size.toNat ≤ BUFFER_SIZE
  else h.isResponse = true ∨ h.size.toNat = 0 ∧ haveInBuffer = 0

/-- A piece of payload the socket can deal with: all of it, or a first part that leaves more than
there is; and no more than `mBuffer` holds, if nobody waits for the response. -/
def Receiver.HarmlessPiece (w : Receiver) (c : List UInt8) : Prop :=
  (w.socket.haveInBuffer + c.length < w.socket.leftToReceive ∨
    w.socket.haveInBuffer = 0 ∧ c.length = w.socket.leftToReceive) ∧
  (w.socket.mode = .dataResp → w.unknown = true → c.length ≤ BUFFER_SIZE)

/-- The bytes a `recv` gives do no harm. -/
def Receiver.HarmlessWith (w : Receiver) (c : List UInt8) : Prop :=
  if w.socket.mode = .header then
    w.socket.haveInBuffer + c.length = MSG_HEADER_SIZE →
      (w.announced c).Harmless w.socket.haveInBuffer
  else w.HarmlessPiece c

/-! ## A piece of payload -/

section Payload

variable {w w' : Receiver} {issued : List MsgId} {current : MsgId → Prop} {c : List UInt8}

theorem Receiver.Sound.lockData (h : w.Sound issued current) (hresp : w.socket.mode = .dataResp) :
    w.lockData.Sound issued current := by
  cases hu : w.unknown with
  | false =>
    rw [lockData_known hu]
    exact h
  | true =>
    rw [lockData_unknown hu]
    exact {
      toWellFormed := ⟨h.toWellFormed.own, h.toWellFormed.response⟩
      header := h.header
      payload := h.payload
      intoOwn := by
        rintro (hm | hm) <;> exact absurd (hresp.symm.trans hm) (by decide)
      intoResponse := fun _ hknown => Bool.noConfusion hknown
      keys := h.keys }

theorem wellFormed_piece (hwf : WellFormed w)
    (hfit : w.socket.currentBuf.offset + c.length ≤ (w.block w.socket.currentBuf.block).length) :
    WellFormed (w.piece c) := by
  have hw := wellFormed_write hwf hfit
  exact ⟨hw.own, hw.response⟩

/-- A response buffer is as large after a piece as it was before. -/
theorem memory_piece
    (hfit : w.socket.currentBuf.offset + c.length ≤ (w.block w.socket.currentBuf.block).length)
    (a : Nat) : ((w.piece c).memory a).length = (w.memory a).length :=
  write_block_length hfit (.response a)

/-- A piece that leaves some of the payload to come. -/
theorem Receiver.Sound.piece (h : w.Sound issued current) (hmode : w.socket.mode ≠ .header)
    (hfit : w.socket.currentBuf.offset + c.length ≤ (w.block w.socket.currentBuf.block).length)
    (hlt : w.socket.haveInBuffer + c.length < w.socket.leftToReceive) :
    (w.piece c).Sound issued current := by
  have hm : (w.piece c).socket.mode = w.socket.mode := write_mode ..
  have hhave : (w.piece c).socket.haveInBuffer = w.socket.haveInBuffer + c.length := by
    simp [Receiver.piece, Receiver.advance]
  have hleft : (w.piece c).socket.leftToReceive = w.socket.leftToReceive - c.length := by
    simp [Receiver.piece, Receiver.advance]
  have hbuf : (w.piece c).socket.currentBuf =
      { w.socket.currentBuf with offset := w.socket.currentBuf.offset + c.length } := by
    simp [Receiver.piece, Receiver.advance]
  have hreqs : (w.piece c).requests = w.requests := write_requests ..
  have hid : (w.piece c).socket.msgId = w.socket.msgId := write_msgId ..
  have hunknown : (w.piece c).socket.unknownResponse = w.socket.unknownResponse :=
    write_unknownResponse ..
  constructor
  case toWellFormed => exact wellFormed_piece h.toWellFormed hfit
  case header => exact fun hh => absurd (hm.symm.trans hh) hmode
  case payload =>
    intro _
    rw [hleft]
    omega
  case intoOwn =>
    intro hincoming
    rw [hm] at hincoming
    obtain ⟨hown, hroom⟩ := h.intoOwn hincoming
    rw [hbuf, hhave, hleft, hown]
    exact ⟨rfl, by omega⟩
  case intoResponse =>
    intro hresp hknown
    rw [hm] at hresp
    rw [hunknown] at hknown
    obtain ⟨hissued, hinto⟩ := h.intoResponse hresp hknown
    rw [hid, hreqs]
    refine ⟨hissued, ?_⟩
    intro d hd
    obtain ⟨hto, hroom⟩ := hinto d hd
    rw [hbuf, hhave, hleft, hto, memory_piece hfit]
    exact ⟨rfl, by omega⟩
  case keys =>
    rw [hreqs]
    exact h.keys

/-- The piece that completes a response. -/
theorem Receiver.Sound.lastPiece (h : w.Sound issued current)
    (hresp : w.socket.mode = .dataResp)
    (hfit : w.socket.currentBuf.offset + c.length ≤ (w.block w.socket.currentBuf.block).length)
    (hsum : w.socket.haveInBuffer + c.length ≤ w.socket.leftToReceive) :
    (w.piece c).finishResponse.1.Sound issued current := by
  have hreqs : (w.piece c).requests = w.requests := write_requests ..
  have hid : (w.piece c).socket.msgId = w.socket.msgId := write_msgId ..
  have hunknown : (w.piece c).socket.unknownResponse = w.socket.unknownResponse :=
    write_unknownResponse ..
  have hhave : (w.piece c).socket.haveInBuffer = w.socket.haveInBuffer + c.length := by
    simp [Receiver.piece, Receiver.advance]
  apply Receiver.Sound.finishResponse (wellFormed_piece h.toWellFormed hfit)
  · rw [hreqs]
    exact h.keys
  · intro hknown d hd
    rw [hunknown] at hknown
    rw [hreqs, hid] at hd
    obtain ⟨-, hroom⟩ := (h.intoResponse hresp hknown).2 d hd
    rw [hhave, memory_piece hfit]
    omega

/-- What a piece of payload does: it fails an assertion, leaves the socket waiting for more, or
completes what the counters take for the payload. -/
theorem payload_outcome (h : w.Sound issued current) (hmode : w.socket.mode ≠ .header)
    (hc : c ≠ []) (hle : c.length ≤ w.socket.leftToReceive)
    (hown : w.socket.mode = .dataResp → w.unknown = true → c.length ≤ BUFFER_SIZE)
    (dir : DirectionId) :
    (¬w.socket.haveInBuffer + c.length ≤ w.socket.leftToReceive ∧
      socketReady w dir (.bytes c) = .error .assertion) ∨
    (w.socket.haveInBuffer + c.length < w.socket.leftToReceive ∧
      ∃ w', socketReady w dir (.bytes c) = .ok (w', [], true) ∧ w'.Sound issued current ∧
        w'.socket.mode = w.socket.mode) ∨
    (w.socket.haveInBuffer + c.length = w.socket.leftToReceive ∧
      ∃ w' evs, socketReady w dir (.bytes c) = .ok (w', evs, true) ∧ w'.Sound issued current ∧
        w'.socket.mode = .header) := by
  have hr := h.reading dir
  have hs := reading_ne_none w dir
  obtain ⟨hfit, hfit'⟩ := hr.fits hmode hle hown
  by_cases hresp : w.socket.mode = .dataResp
  · have hfit := hfit' hresp
    have hl := hr.lockData hresp
    obtain ⟨hlmode, hlhave, hlleft⟩ := lockData_counters (w.reading dir)
    have heq := consumeResponseData_eq hs hc hle hfit
    have hdata := consumeData_response hresp dir (.bytes c)
    rw [heq] at hdata
    by_cases hsum : (w.reading dir).socket.haveInBuffer + c.length ≤
        (w.reading dir).socket.leftToReceive
    · rw [if_pos hsum] at hdata
      by_cases hlt : (w.reading dir).socket.haveInBuffer + c.length <
          (w.reading dir).socket.leftToReceive
      · rw [if_pos hlt] at hdata
        refine Or.inr (Or.inl ⟨hlt, _, socketReady_good hdata rfl, ?_, ?_⟩)
        · exact hl.piece (hlmode ▸ hmode) hfit (by rw [hlhave, hlleft]; exact hlt)
        · exact (write_mode ..).trans hlmode
      · rw [if_neg hlt] at hdata
        have hgood := finishResponse_good ((w.reading dir).lockData.piece c)
        refine Or.inr (Or.inr ⟨Nat.le_antisymm hsum (Nat.le_of_not_lt hlt), _, _,
          (socketReady_good hdata hgood).trans (by rw [← hgood]), ?_, ?_⟩)
        · exact hl.lastPiece (hlmode.trans hresp) hfit (by rw [hlhave, hlleft]; exact hsum)
        · unfold Receiver.finishResponse
          simp only
          split <;> rfl
    · rw [if_neg hsum] at hdata
      exact Or.inl ⟨hsum, socketReady_error hdata⟩
  · have hfit := hfit hresp
    have hincoming : w.socket.mode = .dataRequ ∨ w.socket.mode = .dataTrig := by
      cases hm : w.socket.mode with
      | header => exact absurd hm hmode
      | dataResp => exact absurd hm hresp
      | dataRequ => exact Or.inl rfl
      | dataTrig => exact Or.inr rfl
    obtain ⟨emit, hdata⟩ := consumeData_incoming hincoming dir (.bytes c)
    rw [consumeIncoming_eq hs hc hle hfit] at hdata
    by_cases hsum : (w.reading dir).socket.haveInBuffer + c.length ≤
        (w.reading dir).socket.leftToReceive
    · rw [if_pos hsum] at hdata
      by_cases hlt : (w.reading dir).socket.haveInBuffer + c.length <
          (w.reading dir).socket.leftToReceive
      · rw [if_pos hlt] at hdata
        refine Or.inr (Or.inl ⟨hlt, _, socketReady_good hdata rfl, ?_, write_mode ..⟩)
        exact hr.piece hmode hfit hlt
      · rw [if_neg hlt] at hdata
        refine Or.inr (Or.inr ⟨Nat.le_antisymm hsum (Nat.le_of_not_lt hlt), _, _,
          socketReady_good hdata rfl, ?_, rfl⟩)
        have hwf := wellFormed_piece hr.toWellFormed hfit
        have hreqs : ((w.reading dir).piece c).requests = w.requests := write_requests ..
        refine .atHeader (idle_toHeader hwf).toWellFormed rfl (Nat.zero_lt_succ 11) ?_
        show ∀ id, (((w.reading dir).piece c).requests id).isSome → _
        rw [hreqs]
        exact h.keys
    · rw [if_neg hsum] at hdata
      exact Or.inl ⟨hsum, socketReady_error hdata⟩

/-- A response nobody waits for is received into `mBuffer` whatever its size. -/
theorem payload_overflow (h : w.Sound issued current) (hresp : w.socket.mode = .dataResp)
    (hunknown : w.unknown = true) (hc : c ≠ []) (hle : c.length ≤ w.socket.leftToReceive)
    (hlong : ¬c.length ≤ BUFFER_SIZE) (dir : DirectionId) :
    socketReady w dir (.bytes c) = .error .overflow := by
  have hs := reading_ne_none w dir
  have hu : (w.reading dir).unknown = true := hunknown
  apply socketReady_error
  rw [consumeData_response hresp]
  apply consumeResponseData_overflow hs hc hle
  rw [lockData_unknown hu]
  show ¬0 + c.length ≤ w.socket.buffer.length
  rw [h.toWellFormed.own, Nat.zero_add]
  exact hlong

/-- **A piece of payload is safe exactly when it is harmless**, and leaves the invariant. -/
theorem payload_safe_iff (h : w.Sound issued current) (hmode : w.socket.mode ≠ .header)
    (hc : c ≠ []) (hle : c.length ≤ w.socket.leftToReceive) (dir : DirectionId) :
    (w.HarmlessPiece c → ∃ w' evs, socketReady w dir (.bytes c) = .ok (w', evs, true) ∧
      w'.Sound issued current ∧ w.Taken c w') ∧
    (w.SafeWith dir c → w.HarmlessPiece c) := by
  have hpos := List.length_pos_of_ne_nil hc
  have htaken : ∀ w' : Receiver, w.Taken c w' =
      (w'.socket.mode = .header ↔ c.length = w.socket.leftToReceive) := by
    intro w'
    unfold Receiver.Taken
    rw [if_neg hmode]
  constructor
  · rintro ⟨hpiece, hown⟩
    rcases payload_outcome h hmode hc hle hown dir with ⟨hover, -⟩ | ⟨hlt, w', hw, hsound, hm⟩ |
      ⟨heq, w', evs, hw, hsound, hm⟩
    · omega
    · refine ⟨w', [], hw, hsound, ?_⟩
      rw [htaken, hm]
      exact ⟨fun hh => absurd hh hmode, fun _ => by omega⟩
    · refine ⟨w', evs, hw, hsound, ?_⟩
      rw [htaken]
      exact ⟨fun _ => by omega, fun _ => hm⟩
  · rintro ⟨w', evs, res, hw, -, htook⟩
    rw [htaken] at htook
    by_cases hown : w.socket.mode = .dataResp → w.unknown = true → c.length ≤ BUFFER_SIZE
    · refine ⟨?_, hown⟩
      rcases payload_outcome h hmode hc hle hown dir with ⟨-, hfail⟩ | ⟨hlt, -⟩ |
        ⟨heq, w₁, evs₁, hw₁, -, hm⟩
      · rw [hfail] at hw
        cases hw
      · exact Or.inl hlt
      · rw [hw₁] at hw
        cases hw
        have hall := htook.mp hm
        exact Or.inr ⟨by omega, hall⟩
    · simp only [Classical.not_imp] at hown
      obtain ⟨hresp, hunknown, hlong⟩ := hown
      rw [payload_overflow h hresp hunknown hc hle hlong dir] at hw
      cases hw

end Payload

/-! ## A piece of a header -/

section Header

variable {w : Receiver} {issued : List MsgId} {current : MsgId → Prop} {c : List UInt8}

/-- Looking for the caller again changes where a response goes, nothing else. -/
theorem lockData_frame (w : Receiver) :
    w.lockData.socket.buffer = w.socket.buffer ∧ w.lockData.memory = w.memory ∧
      w.lockData.requests = w.requests := by
  unfold Receiver.lockData
  simp only
  split <;> exact ⟨rfl, rfl, rfl⟩

/-- The header of a request or a trigger that fits. -/
theorem Receiver.Sound.expectIncoming (hwf : WellFormed w)
    (hkeys : ∀ id, (w.requests id).isSome → id ∈ issued ∧ current id) {hdr : MsgHeader}
    {mode : RecvMode} (hmode : mode = .dataRequ ∨ mode = .dataTrig)
    (hpos : 0 < hdr.size.toNat) (hle : hdr.size.toNat ≤ BUFFER_SIZE) :
    ((w.expect hdr mode).receiveInto .own).Sound issued current := by
  constructor
  case toWellFormed => exact ⟨hwf.own, hwf.response⟩
  case header =>
    intro hm
    have hm : mode = .header := hm
    rcases hmode with h | h <;> exact absurd (hm.symm.trans h) (by decide)
  case payload => exact fun _ => hpos
  case intoOwn =>
    intro _
    refine ⟨rfl, ?_⟩
    show 0 + hdr.size.toNat ≤ BUFFER_SIZE
    omega
  case intoResponse =>
    intro hm
    have hm : mode = .dataResp := hm
    rcases hmode with h | h <;> exact absurd (hm.symm.trans h) (by decide)
  case keys => exact hkeys

/-- The header of a response with a payload. -/
theorem Receiver.Sound.expectResponse (hwf : WellFormed w)
    (hkeys : ∀ id, (w.requests id).isSome → id ∈ issued ∧ current id) {hdr : MsgHeader}
    (hpos : 0 < hdr.size.toNat) :
    ((w.expect hdr .dataResp).expectResponse (w.waiting hdr)).Sound issued current := by
  constructor
  case toWellFormed => exact ⟨hwf.own, hwf.response⟩
  case header =>
    intro hm
    exact RecvMode.noConfusion hm
  case payload => exact fun _ => hpos
  case intoOwn => rintro (hm | hm) <;> exact RecvMode.noConfusion hm
  case intoResponse =>
    intro _ hknown
    have hknown : (w.waiting hdr).isNone = false := hknown
    obtain ⟨d₀, hd₀⟩ := Option.isSome_iff_exists.mp (Option.isNone_eq_false_iff.mp hknown)
    obtain ⟨hreq, hfits⟩ := Option.filter_eq_some_iff.mp hd₀
    have hfits : hdr.size.toNat ≤ d₀.bufferSize := by simpa using hfits
    have hroom := hwf.response hdr.msgId d₀ hreq
    refine ⟨(hkeys hdr.msgId (by rw [hreq]; rfl)).1, ?_⟩
    intro d hd
    have hd : w.requests hdr.msgId = some d := hd
    rw [hreq] at hd
    obtain rfl := Option.some.inj hd
    constructor
    · show (⟨((w.waiting hdr).map fun d => Block.response d.responseBuffer).getD .own, 0⟩ :
        BufferPtr) = _
      rw [hd₀]
      rfl
    · show 0 + hdr.size.toNat ≤ (w.memory d₀.responseBuffer).length
      omega
  case keys => exact hkeys

/-- A header never costs the direction it came over. -/
theorem headerReady_good {r : Receiver × List Event × Bool} (h : headerReady w = .ok r) :
    r.2.2 = true := by
  by_cases hincoming : ((MsgHeader.ofBytes w.socket.buffer).isRequest ||
      (MsgHeader.ofBytes w.socket.buffer).isTrigger) = true
  · rw [headerReady_incoming rfl hincoming] at h
    split at h <;> cases h
    rfl
  · rw [Bool.not_eq_true] at hincoming
    by_cases htype : (MsgHeader.ofBytes w.socket.buffer).isResponse = true
    · rw [headerReady_response rfl hincoming htype] at h
      simp only at h
      split at h <;> cases h
      · exact finishResponse_good _
      · rfl
    · unfold headerReady at h
      simp only [hincoming, htype, Bool.false_eq_true, if_false] at h
      cases h
      rfl

/-- What a complete header does to a sound socket that holds it. -/
theorem headerReady_outcome {hdr : MsgHeader} (hwf : WellFormed w)
    (hmode : w.socket.mode = .header) (hhave : w.socket.haveInBuffer < MSG_HEADER_SIZE)
    (hkeys : ∀ id, (w.requests id).isSome → id ∈ issued ∧ current id)
    (hhdr : MsgHeader.ofBytes w.socket.buffer = hdr) :
    (hdr.Harmless w.socket.haveInBuffer → ∃ w' evs, headerReady w = .ok (w', evs, true) ∧
      w'.Sound issued current ∧ w'.Expects hdr.size.toNat) ∧
    (∀ w' evs res, headerReady w = .ok (w', evs, res) → w'.asked ≠ 0 →
      w'.Expects hdr.size.toNat → hdr.Harmless w.socket.haveInBuffer) := by
  unfold MsgHeader.Harmless Receiver.Expects
  by_cases hincoming : (hdr.isRequest || hdr.isTrigger) = true
  · rw [if_pos hincoming, headerReady_incoming hhdr hincoming]
    have hm : (if hdr.isRequest then RecvMode.dataRequ else .dataTrig) = .dataRequ ∨
        (if hdr.isRequest then RecvMode.dataRequ else .dataTrig) = .dataTrig := by
      split
      · exact Or.inl rfl
      · exact Or.inr rfl
    have hdata : (if hdr.isRequest then RecvMode.dataRequ else .dataTrig) ≠ .header := by
      split <;> decide
    constructor
    · rintro ⟨hpos, hle⟩
      rw [if_pos hle]
      refine ⟨_, _, rfl, .expectIncoming hwf hkeys hm hpos hle, ?_⟩
      rw [if_neg (by omega)]
      exact ⟨hdata, rfl, rfl⟩
    · intro w' evs res h hasked _
      split at h
      · next hle =>
        cases h
        have hleft : Receiver.asked ((w.expect hdr (if hdr.isRequest then RecvMode.dataRequ
            else .dataTrig)).receiveInto .own) = hdr.size.toNat :=
          Receiver.asked_of_mode hdata
        rw [hleft] at hasked
        exact ⟨by omega, hle⟩
      · cases h
  · rw [if_neg hincoming]
    rw [Bool.not_eq_true] at hincoming
    by_cases htype : hdr.isResponse = true
    · rw [headerReady_response hhdr hincoming htype]
      refine ⟨fun _ => ?_, fun _ _ _ _ _ _ => Or.inl htype⟩
      by_cases hsize : hdr.size.toNat = 0
      · -- complete with its header
        simp only [if_pos hsize]
        have hgood := finishResponse_good
          ((w.expect hdr .dataResp).expectResponse (w.waiting hdr)).lockData
        obtain ⟨hbuf, hmem, hreqs⟩ := lockData_frame
          ((w.expect hdr .dataResp).expectResponse (w.waiting hdr))
        obtain ⟨-, hzero, -⟩ := lockData_counters
          ((w.expect hdr .dataResp).expectResponse (w.waiting hdr))
        refine ⟨_, _, congrArg Except.ok (by rw [← hgood]), ?_, ?_⟩
        · apply Receiver.Sound.finishResponse
          · refine ⟨?_, ?_⟩
            · rw [hbuf]
              exact hwf.own
            · rw [hmem, hreqs]
              exact hwf.response
          · rw [hreqs]
            exact hkeys
          · intro _ d _
            rw [hzero]
            exact Nat.zero_le _
        · unfold Receiver.finishResponse
          simp only
          split <;> exact ⟨rfl, rfl⟩
      · simp only [if_neg hsize]
        exact ⟨_, _, rfl, .expectResponse hwf hkeys (Nat.pos_of_ne_zero hsize),
          RecvMode.noConfusion, rfl, rfl⟩
    · -- a header of no known type: only the message id has changed
      have heq : headerReady w =
          .ok ({ w with socket := { w.socket with msgId := hdr.msgId } }, [], true) := by
        unfold headerReady
        simp only [hhdr, hincoming, htype, Bool.false_eq_true, if_false]
      rw [heq]
      constructor
      · rintro (hresp | ⟨hsize, hzero⟩)
        · exact absurd hresp htype
        · refine ⟨_, _, rfl, .atHeader ⟨hwf.own, hwf.response⟩ hmode hhave hkeys, ?_⟩
          rw [if_pos hsize]
          exact ⟨hmode, hzero⟩
      · intro w' evs res h _ hexpects
        cases h
        split at hexpects
        · next hsize => exact Or.inr ⟨hsize, hexpects.2⟩
        · exact absurd hmode hexpects.1

/-- **A piece of a header is safe exactly when it is harmless**, and leaves the invariant. -/
theorem header_safe_iff (h : w.Sound issued current) (hmode : w.socket.mode = .header)
    (hc : c ≠ []) (hle : c.length ≤ MSG_HEADER_SIZE - w.socket.haveInBuffer)
    (dir : DirectionId) :
    (w.HarmlessWith c → ∃ w' evs, socketReady w dir (.bytes c) = .ok (w', evs, true) ∧
      w'.Sound issued current ∧ w.Taken c w') ∧
    (w.SafeWith dir c → w.HarmlessWith c) := by
  have hhave := h.header hmode
  have hown : w.socket.buffer.length = BUFFER_SIZE := h.toWellFormed.own
  have hs := reading_ne_none w dir
  have hdata := consumeData_header hmode dir (.bytes c)
  rw [consumeHeader_eq (w := w.reading dir) hown hs hhave hc hle] at hdata
  simp only at hdata
  have hfit : w.socket.haveInBuffer + c.length ≤ w.socket.buffer.length := by
    rw [hown]
    unfold MSG_HEADER_SIZE at hhave hle
    unfold BUFFER_SIZE
    omega
  have hwf : WellFormed ((w.reading dir).write ⟨.own, w.socket.haveInBuffer⟩ c) :=
    wellFormed_write (h.reading dir).toWellFormed hfit
  have hkeys : ∀ id, ((((w.reading dir).write ⟨.own, w.socket.haveInBuffer⟩ c)).requests
      id).isSome → id ∈ issued ∧ current id := h.keys
  unfold Receiver.SafeWith Receiver.HarmlessWith Receiver.Taken
  simp only [if_pos hmode]
  by_cases hlt : w.socket.haveInBuffer + c.length < MSG_HEADER_SIZE
  · rw [if_pos (show (w.reading dir).socket.haveInBuffer + c.length < MSG_HEADER_SIZE from hlt)]
      at hdata
    constructor
    · intro _
      refine ⟨_, _, socketReady_good hdata rfl, ?_, fun heq => by omega⟩
      exact .atHeader ⟨hwf.own, hwf.response⟩ hmode hlt hkeys
    · intro _ heq
      omega
  · have hsum : w.socket.haveInBuffer + c.length = MSG_HEADER_SIZE := by omega
    rw [if_neg (show ¬(w.reading dir).socket.haveInBuffer + c.length < MSG_HEADER_SIZE from hlt)]
      at hdata
    have hhdr := ofBytes_write (w := w.reading dir) hown hhave hsum
    obtain ⟨hok, hback⟩ := headerReady_outcome (w := (w.reading dir).write
      ⟨.own, w.socket.haveInBuffer⟩ c) hwf hmode hhave hkeys hhdr
    constructor
    · intro hharmless
      obtain ⟨w', evs, hready, hsound, hexpects⟩ := hok (hharmless hsum)
      exact ⟨w', evs, socketReady_good (hdata.trans hready) rfl, hsound, fun _ => hexpects⟩
    · rintro ⟨w', evs, res, hw, hasked, htook⟩ _
      cases hready : headerReady ((w.reading dir).write ⟨.own, w.socket.haveInBuffer⟩ c) with
      | error f =>
        rw [socketReady_error (hdata.trans hready)] at hw
        cases hw
      | ok r =>
        rw [socketReady_good (hdata.trans hready) (headerReady_good hready)] at hw
        cases hw
        exact hback _ _ _ hready hasked (htook hsum)

end Header

/-! ## Runs -/

/-- A piece that does no harm is read, and leaves the invariant. -/
theorem piece_harmless {w : Receiver} {issued : List MsgId} {current : MsgId → Prop}
    {c : List UInt8} (h : w.Sound issued current) (hc : c ≠ []) (hle : c.length ≤ w.asked)
    (dir : DirectionId) (hharmless : w.HarmlessWith c) :
    ∃ w' evs, socketReady w dir (.bytes c) = .ok (w', evs, true) ∧ w'.Sound issued current ∧
      w.Taken c w' := by
  by_cases hmode : w.socket.mode = .header
  · unfold Receiver.asked at hle
    rw [hmode] at hle
    exact (header_safe_iff h hmode hc hle dir).1 hharmless
  · rw [Receiver.asked_of_mode hmode] at hle
    unfold Receiver.HarmlessWith at hharmless
    rw [if_neg hmode] at hharmless
    exact (payload_safe_iff h hmode hc hle dir).1 hharmless

/-- What a `recv` gives is safe exactly when it is harmless. -/
theorem piece_safe_iff {w : Receiver} {issued : List MsgId} {current : MsgId → Prop}
    {c : List UInt8} (h : w.Sound issued current) (hc : c ≠ []) (hle : c.length ≤ w.asked)
    (dir : DirectionId) : w.SafeWith dir c ↔ w.HarmlessWith c := by
  constructor
  · intro hsafe
    by_cases hmode : w.socket.mode = .header
    · unfold Receiver.asked at hle
      rw [hmode] at hle
      exact (header_safe_iff h hmode hc hle dir).2 hsafe
    · rw [Receiver.asked_of_mode hmode] at hle
      unfold Receiver.HarmlessWith
      rw [if_neg hmode]
      exact (payload_safe_iff h hmode hc hle dir).2 hsafe
  · intro hharmless
    obtain ⟨w', evs, hw, hsound, htook⟩ := piece_harmless h hc hle dir hharmless
    have hpos := hsound.asked_pos
    exact ⟨w', evs, true, hw, by omega, htook⟩

/-- The invariant of a process: its socket is sound, and the container holds at most the entry
of the call in progress, whose id is among those used. -/
structure CIpc.Sound (s : CIpc) : Prop where
  receiver : s.receiver.Sound s.issued (fun id => ∃ c, s.call = some c ∧ c.id = id)
  issued : ∀ c, s.call = some c → c.id ∈ s.issued

theorem CIpc.Started.sound {s : CIpc} (h : s.Started) : s.Sound where
  receiver := .atHeader
    { own := h.own
      response := fun id d hd => by rw [h.requests] at hd; cases hd }
    h.mode (by rw [h.haveInBuffer]; exact Nat.zero_lt_succ 11)
    (fun id hid => by rw [h.requests] at hid; cases hid)
  issued := fun c hc => by rw [h.call] at hc; cases hc

/-- A container with fewer entries. -/
theorem Receiver.Sound.fewer {w : Receiver} {issued : List MsgId} {current current' : MsgId → Prop}
    (h : w.Sound issued current) {requests : MsgId → Option RequestData}
    (hsub : ∀ id d, requests id = some d → w.requests id = some d)
    (hcurrent : ∀ id, (requests id).isSome → current' id) :
    ({ w with requests := requests } : Receiver).Sound issued current' where
  own := h.toWellFormed.own
  response := fun id d hd => h.toWellFormed.response id d (hsub id d hd)
  header := h.header
  payload := h.payload
  intoOwn := h.intoOwn
  intoResponse := by
    intro hresp hknown
    obtain ⟨hissued, hinto⟩ := h.intoResponse hresp hknown
    exact ⟨hissued, fun d hd => hinto d (hsub _ d hd)⟩
  keys := by
    intro id hid
    obtain ⟨d, hd⟩ := Option.isSome_iff_exists.mp hid
    exact ⟨(h.keys id (by rw [hsub id d hd]; rfl)).1, hcurrent id hid⟩

/-- A read that fails costs the direction, and the socket starts with a header again. -/
theorem lost_sound {w : Receiver} {issued : List MsgId} {current : MsgId → Prop} {k : Kernel}
    (h : w.Sound issued current) (hk : k = .eof ∨ k = .error) (dir : DirectionId) :
    ∃ w' evs, socketReady w dir k = .ok (w', evs, false) ∧ w'.Sound issued current ∧
      w'.socket.mode = .header ∧ w'.socket.haveInBuffer = 0 ∧ w'.memory = w.memory ∧
      ∀ id d, w'.requests id = some d → w.requests id = some d := by
  have hs := reading_ne_none w dir
  have hfail : ∀ (w' : Receiver) (p : BufferPtr) (size : Nat), w'.socket.readingSocket ≠ none →
      ∃ e, receive w' p size k = .ok (.error e, w') := by
    intro w' p size hs'
    unfold receive
    rw [if_neg hs']
    rcases hk with rfl | rfl <;> exact ⟨_, rfl⟩
  have hrecv : ∀ (w' : Receiver) (size : Nat), w'.socket.readingSocket ≠ none →
      ∃ e, recvReqRespData w' size k = .ok (.failed e, w') := by
    intro w' size hs'
    obtain ⟨e, he⟩ := hfail w' w'.socket.currentBuf size hs'
    refine ⟨e, ?_⟩
    unfold recvReqRespData
    rw [he]
  have hdata : ∃ w₁ e, consumeData (w.reading dir) k = .ok (w₁, [.error e], false) ∧
      w₁.socket.buffer = w.socket.buffer ∧ w₁.memory = w.memory ∧ w₁.requests = w.requests := by
    cases hm : w.socket.mode with
    | header =>
      rw [consumeData_header hm]
      have hhave : (w.reading dir).socket.haveInBuffer < MSG_HEADER_SIZE := h.header hm
      obtain ⟨e, he⟩ := hfail (w.reading dir) ⟨.own, w.socket.haveInBuffer⟩
        (MSG_HEADER_SIZE - w.socket.haveInBuffer) hs
      refine ⟨w.reading dir, e, ?_, rfl, rfl, rfl⟩
      simp only [consumeHeader, hhave, not_true_eq_false, if_false]
      rw [show (w.reading dir).socket.haveInBuffer = w.socket.haveInBuffer from rfl, he]
    | dataRequ | dataTrig =>
      obtain ⟨emit, hemit⟩ := consumeData_incoming (w := w) (by rw [hm]; simp) dir k
      obtain ⟨e, he⟩ := hrecv (w.reading dir) (w.reading dir).socket.leftToReceive hs
      refine ⟨(w.reading dir).toHeader, e, ?_, rfl, rfl, rfl⟩
      simp only [hemit, consumeIncoming, he]
    | dataResp =>
      rw [consumeData_response hm]
      have hpos : (w.reading dir).socket.leftToReceive > 0 :=
        h.payload (by rw [hm]; exact RecvMode.noConfusion)
      have hs' := lockData_readingSocket hs
      obtain ⟨e, he⟩ := hrecv (w.reading dir).lockData (w.reading dir).socket.leftToReceive hs'
      obtain ⟨hbuf, hmem, hreqs⟩ := lockData_frame (w.reading dir)
      refine ⟨(w.reading dir).lockData.toHeader, e, ?_, hbuf, hmem, hreqs⟩
      simp only [consumeResponseData, if_pos hpos, he]
  obtain ⟨w₁, e, hdata, hbuf, hmem, hreqs⟩ := hdata
  have hsub : ∀ id d, (w₁.invalidateRequestsForDirection
      (w.socket.readingSocket.getD dir)).requests id = some d → w.requests id = some d := by
    intro id d hd
    rw [← hreqs]
    exact (Option.filter_eq_some_iff.mp hd).1
  refine ⟨(w₁.invalidateRequestsForDirection (w.socket.readingSocket.getD dir)).toHeader,
    [.error e], ?_, ?_, rfl, rfl, hmem, hsub⟩
  · unfold socketReady
    unfold Receiver.reading at hdata
    simp only [hdata]
  · refine .atHeader ⟨?_, ?_⟩ rfl (Nat.zero_lt_succ 11) ?_
    · show w₁.socket.buffer.length = BUFFER_SIZE
      rw [hbuf]
      exact h.toWellFormed.own
    · intro id d hd
      show d.bufferSize ≤ (w₁.memory d.responseBuffer).length
      rw [hmem]
      exact h.toWellFormed.response id d (hsub id d hd)
    · intro id hid
      obtain ⟨d, hd⟩ := Option.isSome_iff_exists.mp hid
      exact h.keys id (by rw [hsub id d hd]; rfl)

/-- The container is empty while no call is in progress. -/
theorem CIpc.Sound.no_requests {s : CIpc} (h : s.Sound) (hcall : s.call = none) (id : MsgId) :
    s.receiver.requests id = none := by
  cases hr : s.receiver.requests id with
  | none => rfl
  | some d =>
    obtain ⟨c, hc, -⟩ := (h.receiver.keys id (by rw [hr]; rfl)).2
    rw [hcall] at hc
    cases hc

/-- A call that leaves takes its entry with it. -/
theorem CIpc.Sound.leave {s : CIpc} (h : s.Sound) {c : Call} (hc : s.call = some c)
    (result : Except CallError (Nat × List UInt8)) : (s.leave c result).Sound where
  receiver := by
    apply h.receiver.fewer
    · intro id d hd
      by_cases hid : id = c.id
      · subst hid
        rw [Function.update_self] at hd
        cases hd
      · rw [Function.update_of_ne hid] at hd
        exact hd
    · intro id hid
      exfalso
      by_cases he : id = c.id
      · subst he
        rw [Function.update_self] at hid
        cases hid
      · rw [Function.update_of_ne he] at hid
        obtain ⟨c', hc', rfl⟩ := (h.receiver.keys id hid).2
        rw [hc] at hc'
        cases hc'
        exact he rfl
  issued := fun c' hc' => by cases hc'

theorem CIpc.Sound.goOn {s : CIpc} (h : s.Sound) {c : Call} (hc : s.call = some c)
    (phase : Phase) : (s.goOn c phase).Sound where
  receiver := by
    refine h.receiver.fewer (fun _ _ hd => hd) ?_
    intro id hid
    obtain ⟨c', hc', rfl⟩ := (h.receiver.keys id hid).2
    rw [hc] at hc'
    cases hc'
    exact ⟨_, rfl, rfl⟩
  issued := by
    intro c' hc'
    cases hc'
    exact h.issued c hc

/-- A new call: its id is new, and so is its entry. -/
theorem CIpc.Sound.request {s : CIpc} (h : s.Sound) (hcall : s.call = none) {id : MsgId}
    (hnew : id ∉ s.issued) (responseBuffer : Nat) (contents : List UInt8)
    (pDirId : Option DirectionId) :
    ∃ s', act s (.request id responseBuffer contents pDirId) = .ok s' ∧ s'.Sound := by
  have hnone := h.no_requests hcall
  have hupdate : ∀ (d₀ : RequestData) id' d, Function.update s.receiver.requests id (some d₀) id' =
      some d → id' = id ∧ d = d₀ := by
    intro d₀ id' d hd
    by_cases hid : id' = id
    · subst hid
      rw [Function.update_self] at hd
      exact ⟨rfl, (Option.some.inj hd).symm⟩
    · rw [Function.update_of_ne hid, hnone] at hd
      cases hd
  unfold act
  simp only [hnone, Option.isSome_none, Bool.false_eq_true, if_false]
  refine ⟨_, rfl, ?_, ?_⟩
  · constructor
    case toWellFormed =>
      refine ⟨h.receiver.toWellFormed.own, ?_⟩
      intro id' d hd
      obtain ⟨rfl, rfl⟩ := hupdate _ id' d hd
      show contents.length ≤ (Function.update s.receiver.memory responseBuffer contents
        responseBuffer).length
      rw [Function.update_self]
    case header => exact h.receiver.header
    case payload => exact h.receiver.payload
    case intoOwn => exact h.receiver.intoOwn
    case intoResponse =>
      intro hresp hknown
      have hissued := (h.receiver.intoResponse hresp hknown).1
      refine ⟨List.mem_cons_of_mem _ hissued, ?_⟩
      intro d hd
      obtain ⟨heq, -⟩ := hupdate _ _ d hd
      rw [← heq] at hnew
      exact absurd hissued hnew
    case keys =>
      intro id' hid
      obtain ⟨d, hd⟩ := Option.isSome_iff_exists.mp hid
      obtain ⟨rfl, -⟩ := hupdate _ id' d hd
      exact ⟨List.mem_cons_self, _, rfl, rfl⟩
  · intro c hc
    cases hc
    exact List.mem_cons_self

/-- The socket's next read is for at least one byte, and a piece it read was safe. -/
def Safe (s : CIpc) : Activity → Prop
  | .readable dir (.bytes c) => s.receiver.SafeWith dir c
  | a => ∃ s', act s a = .ok s' ∧ s'.receiver.asked ≠ 0

/-- What the peer sends in this step does no harm. -/
def Harmless (s : CIpc) : Activity → Prop
  | .readable _ (.bytes c) => s.receiver.HarmlessWith c
  | _ => True

/-- **Every step that does no harm is taken, and leaves the invariant.** -/
theorem sound_step {s : CIpc} {a : Activity} (h : s.Sound) (hen : Enabled s a)
    (hharmless : Harmless s a) : ∃ s', act s a = .ok s' ∧ s'.Sound := by
  cases a with
  | request id responseBuffer contents pDirId =>
    exact h.request hen.1 hen.2 responseBuffer contents pDirId
  | giveUp =>
    obtain ⟨c, hc, -⟩ := hen
    refine ⟨_, ?_, h.leave hc (.error .notAnswered)⟩
    unfold act
    simp only [hc]
  | wake =>
    obtain ⟨c, hc, -⟩ := hen
    refine ⟨_, ?_, h.goOn hc .woken⟩
    unfold act
    simp only [hc]
  | getData =>
    obtain ⟨c, hc, -⟩ := hen
    refine ⟨_, ?_, h.goOn hc (.took ((s.receiver.requests c.id).map RequestData.bufferSize))⟩
    unfold act
    simp only [hc]
  | finish =>
    obtain ⟨c, size, hc, hphase⟩ := hen
    cases size with
    | none =>
      refine ⟨_, ?_, h.leave hc (.error .connectionLost)⟩
      unfold act
      simp only [hc, hphase]
    | some size =>
      refine ⟨_, ?_, h.leave hc (.ok (size, (s.receiver.memory c.responseBuffer).take size))⟩
      unfold act
      simp only [hc, hphase]
  | readable dir k =>
    have hready : ∃ w' evs b, socketReady s.receiver dir k = .ok (w', evs, b) ∧
        w'.Sound s.issued (fun id => ∃ c, s.call = some c ∧ c.id = id) := by
      cases k with
      | bytes c =>
        obtain ⟨w', evs, hw, hsound, -⟩ := piece_harmless h.receiver hen.1 hen.2 dir hharmless
        exact ⟨w', evs, true, hw, hsound⟩
      | eof =>
        obtain ⟨w', evs, hw, hsound, -⟩ := lost_sound h.receiver (Or.inl rfl) dir
        exact ⟨w', evs, false, hw, hsound⟩
      | error =>
        obtain ⟨w', evs, hw, hsound, -⟩ := lost_sound h.receiver (Or.inr rfl) dir
        exact ⟨w', evs, false, hw, hsound⟩
    obtain ⟨w', evs, b, hw, hsound⟩ := hready
    refine ⟨{ s with receiver := w' }, ?_, hsound, h.issued⟩
    unfold act
    simp only [hw]
  | closed dir =>
    have hfewer : (s.receiver.invalidateRequestsForDirection dir).Sound s.issued
        (fun id => ∃ c, s.call = some c ∧ c.id = id) := by
      apply h.receiver.fewer
      · intro id d hd
        exact (Option.filter_eq_some_iff.mp hd).1
      · intro id hid
        obtain ⟨d, hd⟩ := Option.isSome_iff_exists.mp hid
        exact (h.receiver.keys id (by rw [(Option.filter_eq_some_iff.mp hd).1]; rfl)).2
    refine ⟨_, rfl, ?_, h.issued⟩
    show Receiver.Sound _ _ (if _ then _ else _)
    split
    · have hidle := idle_toHeader hfewer.toWellFormed
      exact .atHeader hidle.toWellFormed hidle.mode (Nat.zero_lt_succ 11) hfewer.keys
    · exact hfewer

/-- A step is safe exactly when it does no harm. -/
theorem safe_iff {s : CIpc} {a : Activity} (h : s.Sound) (hen : Enabled s a) :
    Safe s a ↔ Harmless s a := by
  by_cases hpiece : ∃ dir c, a = .readable dir (.bytes c)
  · obtain ⟨dir, c, rfl⟩ := hpiece
    exact piece_safe_iff h.receiver hen.1 hen.2 dir
  · have hharmless : Harmless s a := by
      unfold Harmless
      split
      · exact absurd ⟨_, _, rfl⟩ hpiece
      · trivial
    refine ⟨fun _ => hharmless, fun _ => ?_⟩
    obtain ⟨s', hs', hsound⟩ := sound_step h hen hharmless
    have hpos := hsound.receiver.asked_pos
    unfold Safe
    split
    · exact absurd ⟨_, _, rfl⟩ hpiece
    · exact ⟨s', hs', by omega⟩

/-- Whatever a peer sends and however it arrives, beside whatever calls are made: the steps of
the run are all safe exactly when none of them brings a request or trigger without payload or
with more than `mBuffer` holds, a message of no known type with a payload (or in pieces), a
payload in pieces, or more than `mBuffer` holds of a response nobody waits for. -/
theorem receiver_safe_iff {s : CIpc} {as : List Activity} (hs : s.Started)
    (hen : Along next Enabled s as) : Along next Safe s as ↔ Along next Harmless s as := by
  refine along_iff_along (P := Safe) (Q := Harmless) (E := Enabled) (I := CIpc.Sound)
    (fun t a ht he => safe_iff ht he) ?_ hs.sound hen
  intro t a t' ht he hharmless hnext
  obtain ⟨u, hu, hsound⟩ := sound_step ht he hharmless
  unfold next at hnext
  rw [hu] at hnext
  cases hnext
  exact hsound

/-- A call with id 7 waits, and an empty response to it comes. -/
theorem receiver_safe_iff_answered : Along next Safe CIpc.initial
    [.request 7 0 [0, 0] none, .readable 1 (.bytes (MsgHeader.bytes ⟨0, 7, 2⟩))] := by
  refine (receiver_safe_iff CIpc.started_initial ?_).mpr ?_
  · refine ⟨⟨rfl, List.not_mem_nil⟩, ?_⟩
    intro s' hs'
    cases hs'
    exact ⟨⟨by decide, by decide⟩, fun _ _ => trivial⟩
  · refine ⟨trivial, ?_⟩
    intro s' hs'
    cases hs'
    refine ⟨?_, fun _ _ => trivial⟩
    show _ → MsgHeader.Harmless _ _
    intro _
    unfold MsgHeader.Harmless
    exact Or.inl (by decide)

/-- A response nobody asked for, with 5000 bytes: they are stored in the 4096 of `mBuffer`. -/
theorem unknown_response_overflows :
    Along next Enabled CIpc.initial [.readable 1 (.bytes (MsgHeader.bytes ⟨5000, 7, 2⟩)),
      .readable 1 (.bytes (List.replicate 5000 0))] ∧
    ¬Along next Safe CIpc.initial [.readable 1 (.bytes (MsgHeader.bytes ⟨5000, 7, 2⟩)),
      .readable 1 (.bytes (List.replicate 5000 0))] := by
  have hstate : (next CIpc.initial (.readable 1 (.bytes (MsgHeader.bytes ⟨5000, 7, 2⟩)))).map
      (fun s => (s.receiver.socket.mode, s.receiver.unknown, s.receiver.socket.leftToReceive)) =
      some (.dataResp, true, 5000) := by decide +kernel
  have hen : Enabled CIpc.initial (.readable 1 (.bytes (MsgHeader.bytes ⟨5000, 7, 2⟩))) :=
    ⟨by decide, by decide⟩
  have hafter : ∀ s', next CIpc.initial (.readable 1 (.bytes (MsgHeader.bytes ⟨5000, 7, 2⟩))) =
      some s' → s'.receiver.socket.mode = .dataResp ∧ s'.receiver.unknown = true ∧
        s'.receiver.socket.leftToReceive = 5000 := by
    intro s' hs'
    rw [hs'] at hstate
    simpa using hstate
  have henabled : ∀ s', next CIpc.initial (.readable 1 (.bytes (MsgHeader.bytes ⟨5000, 7, 2⟩))) =
      some s' → Enabled s' (.readable 1 (.bytes (List.replicate 5000 0))) := by
    intro s' hs'
    obtain ⟨hmode, -, hleft⟩ := hafter s' hs'
    have hasked := Receiver.asked_of_mode (w := s'.receiver) (by rw [hmode]; decide)
    refine ⟨List.ne_nil_of_length_eq_add_one (n := 4999) List.length_replicate, ?_⟩
    rw [hasked, hleft, List.length_replicate]
  refine ⟨⟨hen, fun s' hs' => ⟨henabled s' hs', fun _ _ => trivial⟩⟩, ?_⟩
  rintro ⟨hsafe, hrest⟩
  have hharmless := (safe_iff CIpc.started_initial.sound hen).mp hsafe
  obtain ⟨s', hact, hsound⟩ := sound_step CIpc.started_initial.sound hen hharmless
  have hs' : next CIpc.initial (.readable 1 (.bytes (MsgHeader.bytes ⟨5000, 7, 2⟩))) = some s' := by
    unfold next
    rw [hact]
    rfl
  obtain ⟨hmode, hunknown, -⟩ := hafter s' hs'
  have hbad : s'.receiver.HarmlessWith (List.replicate 5000 0) :=
    (safe_iff hsound (henabled s' hs')).mp (hrest s' hs').1
  unfold Receiver.HarmlessWith at hbad
  rw [if_neg (by rw [hmode]; decide)] at hbad
  have hle := hbad.2 hmode hunknown
  rw [List.length_replicate] at hle
  exact absurd hle (by decide)

end IviLink.Ipc
