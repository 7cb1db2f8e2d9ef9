import IviLink.Ipc.Socket

/-!
# One message through the receiving socket

What one readable socket does to the state machine, in the two phases of a
message. A header is collected over any number of reads and leaves the socket
waiting for the payload it announces (`Awaits`). A payload is the critical
phase: `recvReqRespData` compares the bytes it has with the bytes that are
*left*, a number it lowers by the same amount at every read, so its test for
completeness only means what it says while nothing has been received yet.

`payload_whole` is the good case, a payload that one `recv` returns;
`short_feed` says what the other cases have in common: once a piece is missing,
whatever the socket hands on next is shorter than the message was.
-/

namespace IviLink.Ipc

open IviLink.Lib

/-! ## Messages -/

structure Message where
  type : MsgType
  id : MsgId
  payload : List UInt8
  deriving DecidableEq, Repr

namespace Message

def header (m : Message) : MsgHeader := ⟨UInt32.ofNat m.payload.length, m.id, m.type.code⟩

/-- The mode a socket receives the payload in. -/
def mode (m : Message) : RecvMode :=
  match m.type with
  | .request => .dataRequ
  | .response => .dataResp
  | .trigger => .dataTrig

/-- The request a response answers, if it waits with a buffer the response fits in. -/
def waiting (m : Message) (reqs : MsgId → Option RequestData) : Option RequestData :=
  (reqs m.id).filter fun d => m.payload.length ≤ d.bufferSize

/-- The block the payload belongs into. -/
def block (m : Message) (reqs : MsgId → Option RequestData) : Block :=
  match m.type with
  | .response => ((m.waiting reqs).map fun d => Block.response d.responseBuffer).getD .own
  | _ => .own

/-- What has to come out of a message, whole: the handler's call, the answer to the request it
belongs to, or the note that nobody waits for it. -/
def event (m : Message) (dir : DirectionId) (reqs : MsgId → Option RequestData) : Event :=
  match m.type with
  | .request => .request m.id m.payload (some dir)
  | .trigger => .trigger m.id m.payload (some dir)
  | .response =>
    if (m.waiting reqs).isSome then .response m.id m.payload
    else .discarded m.id m.payload.length

/-- The pending requests afterwards: an answered one holds the size of its response. -/
def answered (m : Message) (reqs : MsgId → Option RequestData) : MsgId → Option RequestData :=
  match m.type with
  | .response =>
    if (m.waiting reqs).isSome then
      Function.update reqs m.id ((reqs m.id).map fun d =>
        { d with bufferSize := m.payload.length, recvSem := d.recvSem + 1 })
    else reqs
  | _ => reqs

end Message

/-! ## States between reads -/

/-- Buffers are as large as the code takes them to be. -/
structure WellFormed (w : Receiver) : Prop where
  /-- `mBuffer` has its declared size. -/
  own : w.socket.buffer.length = BUFFER_SIZE
  /-- A caller's response buffer holds as many bytes as it said. -/
  response : ∀ id d, w.requests id = some d → d.bufferSize ≤ (w.memory d.responseBuffer).length

/-- Between two messages: header mode with nothing buffered. -/
structure Idle (w : Receiver) : Prop extends WellFormed w where
  mode : w.socket.mode = .header
  haveInBuffer : w.socket.haveInBuffer = 0
  readingSocket : w.socket.readingSocket = none

/-- The first bytes `l` of a header have been read. -/
structure InHeader (dir : DirectionId) (reqs : MsgId → Option RequestData) (l : List UInt8)
    (w : Receiver) : Prop extends WellFormed w where
  mode : w.socket.mode = .header
  haveInBuffer : w.socket.haveInBuffer = l.length
  bytes : w.socket.buffer.take l.length = l
  readingSocket : w.socket.readingSocket.getD dir = dir
  requests : w.requests = reqs

/-- The header of `m` has been read and none of its payload. -/
structure Awaits (dir : DirectionId) (reqs : MsgId → Option RequestData) (m : Message)
    (w : Receiver) : Prop extends WellFormed w where
  mode : w.socket.mode = m.mode
  msgId : w.socket.msgId = m.id
  haveInBuffer : w.socket.haveInBuffer = 0
  leftToReceive : w.socket.leftToReceive = m.payload.length
  readingSocket : w.socket.readingSocket = some dir
  currentBufBegin : w.socket.currentBufBegin = ⟨m.block reqs, 0⟩
  currentBuf : w.socket.currentBuf = ⟨m.block reqs, 0⟩
  unknownResponse : m.type = .response → w.socket.unknownResponse = (m.waiting reqs).isNone
  requests : w.requests = reqs

theorem Idle.inHeader {w : Receiver} (h : Idle w) (dir : DirectionId) :
    InHeader dir w.requests [] w where
  toWellFormed := h.toWellFormed
  mode := h.mode
  haveInBuffer := h.haveInBuffer
  bytes := rfl
  readingSocket := by rw [h.readingSocket]; rfl
  requests := rfl

/-! ## Storing received bytes -/

@[simp] theorem write_requests (w : Receiver) (p : BufferPtr) (l : List UInt8) :
    (w.write p l).requests = w.requests := by
  obtain ⟨b, off⟩ := p
  cases b <;> rfl

/-- A store changes nothing of the state machine but its buffer. -/
theorem write_socket (w : Receiver) (p : BufferPtr) (l : List UInt8) :
    (w.write p l).socket = { w.socket with buffer := (w.write p l).socket.buffer } := by
  obtain ⟨b, off⟩ := p
  cases b <;> rfl

section write

variable (w : Receiver) (p : BufferPtr) (l : List UInt8)

@[simp] theorem write_mode : (w.write p l).socket.mode = w.socket.mode := by rw [write_socket]
@[simp] theorem write_msgId : (w.write p l).socket.msgId = w.socket.msgId := by rw [write_socket]
@[simp] theorem write_unknownResponse :
    (w.write p l).socket.unknownResponse = w.socket.unknownResponse := by rw [write_socket]
@[simp] theorem write_currentBufBegin :
    (w.write p l).socket.currentBufBegin = w.socket.currentBufBegin := by rw [write_socket]
@[simp] theorem write_currentBuf :
    (w.write p l).socket.currentBuf = w.socket.currentBuf := by rw [write_socket]
@[simp] theorem write_haveInBuffer :
    (w.write p l).socket.haveInBuffer = w.socket.haveInBuffer := by rw [write_socket]
@[simp] theorem write_leftToReceive :
    (w.write p l).socket.leftToReceive = w.socket.leftToReceive := by rw [write_socket]
@[simp] theorem write_readingSocket :
    (w.write p l).socket.readingSocket = w.socket.readingSocket := by rw [write_socket]

end write

@[simp] theorem write_block_self (w : Receiver) (p : BufferPtr) (l : List UInt8) :
    (w.write p l).block p.block = writeAt (w.block p.block) p.offset l := by
  obtain ⟨b, off⟩ := p
  cases b with
  | own => rfl
  | response a => simp only [Receiver.write, Receiver.block, Function.update_self]

theorem write_block_length {w : Receiver} {p : BufferPtr} {l : List UInt8}
    (h : p.offset + l.length ≤ (w.block p.block).length) (b : Block) :
    ((w.write p l).block b).length = (w.block b).length := by
  by_cases hb : b = p.block
  · subst hb
    rw [write_block_self, length_writeAt h]
  · obtain ⟨pb, off⟩ := p
    cases pb with
    | own =>
      cases b with
      | own => exact absurd rfl hb
      | response a => rfl
    | response a =>
      cases b with
      | own => rfl
      | response a' =>
        have ha : a' ≠ a := fun he => hb (he ▸ rfl)
        simp only [Receiver.write, Receiver.block, Function.update_of_ne ha]

theorem WellFormed.of_blocks {w w' : Receiver} (h : WellFormed w)
    (hb : ∀ b, (w'.block b).length = (w.block b).length) (hr : w'.requests = w.requests) :
    WellFormed w' where
  own := (hb .own).trans h.own
  response := fun id d hd => by
    have := h.response id d (hr ▸ hd)
    exact this.trans (hb (.response d.responseBuffer)).ge

/-- One `recv` that returns all the kernel offers. -/
theorem receive_bytes {w : Receiver} {p : BufferPtr} {size : Nat} {c : List UInt8}
    (hs : w.socket.readingSocket ≠ none) (hc : c ≠ []) (hle : c.length ≤ size)
    (hfit : p.offset + c.length ≤ (w.block p.block).length) :
    receive w p size (.bytes c) = .ok (.ok c.length, w.write p c) := by
  have hlen : c.length ≠ 0 := fun h => hc (List.eq_nil_of_length_eq_zero h)
  rw [receive, if_neg hs]
  simp only [List.take_of_length_le hle, if_neg hlen, Receiver.store, if_pos hfit]

/-- What `receive` may do when bytes are there and it asks for some. -/
theorem receive_cases {w w' : Receiver} {p : BufferPtr} {size : Nat} {c : List UInt8}
    {r : Except IpcError Nat} (hc : c ≠ []) (hle : c.length ≤ size)
    (h : receive w p size (.bytes c) = .ok (r, w')) :
    r = .ok c.length ∧ w' = w.write p c := by
  have hlen : c.length ≠ 0 := fun h => hc (List.eq_nil_of_length_eq_zero h)
  rw [receive] at h
  split at h
  · exact absurd h (by simp)
  · simp only [List.take_of_length_le hle, if_neg hlen, Receiver.store] at h
    split at h
    · exact absurd h (by simp)
    · rename_i w₁ hst
      split at hst
      · injection hst with hst
        injection h with h
        injection h with h1 h2
        exact ⟨h1.symm, by rw [← h2, ← hst]⟩
      · exact absurd hst (by simp)

/-! ## Payload bytes -/

/-- The counters after `n` more payload bytes. -/
def Receiver.advance (w : Receiver) (n : Nat) : Receiver :=
  { w with socket := { w.socket with
    currentBuf := { w.socket.currentBuf with offset := w.socket.currentBuf.offset + n }
    haveInBuffer := w.socket.haveInBuffer + n
    leftToReceive := w.socket.leftToReceive - n } }

/-- `recvReqRespData` on a piece that passes both of its assertions. -/
theorem recvReqRespData_bytes {w : Receiver} {c : List UInt8} {n : Nat}
    (hs : w.socket.readingSocket ≠ none) (hc : c ≠ []) (hle : c.length ≤ n)
    (hleft : w.socket.haveInBuffer + c.length ≤ w.socket.leftToReceive)
    (hfit : w.socket.currentBuf.offset + c.length ≤ (w.block w.socket.currentBuf.block).length) :
    recvReqRespData w n (.bytes c) =
      .ok (if w.socket.haveInBuffer + c.length < w.socket.leftToReceive then .notReady else .ready,
        (w.write w.socket.currentBuf c).advance c.length) := by
  rw [recvReqRespData, receive_bytes hs hc hle hfit]
  have h1 : c.length ≤ w.socket.leftToReceive := by omega
  simp [hleft, h1, Receiver.advance]

/-- What `recvReqRespData` may do with a piece: it counts it, and calls the data complete
exactly when the bytes it has then reach the number that was left before. -/
theorem recvReqRespData_cases {w w' : Receiver} {c : List UInt8} {size : Nat} {r : RecvRes}
    (hc : c ≠ []) (hle : c.length ≤ size)
    (h : recvReqRespData w size (.bytes c) = .ok (r, w')) :
    w.socket.haveInBuffer + c.length ≤ w.socket.leftToReceive
      ∧ r = (if w.socket.haveInBuffer + c.length < w.socket.leftToReceive
          then .notReady else .ready)
      ∧ w' = (w.write w.socket.currentBuf c).advance c.length := by
  rw [recvReqRespData] at h
  split at h
  · exact absurd h (by simp)
  · rename_i e w₁ hrec
    exact absurd (receive_cases hc hle hrec).1 (by simp)
  · rename_i n w₁ hrec
    obtain ⟨hn, hw₁⟩ := receive_cases hc hle hrec
    injection hn with hn
    subst hn hw₁
    simp only [write_leftToReceive, write_haveInBuffer] at h
    split at h
    · exact absurd h (by simp)
    · split at h
      · exact absurd h (by simp)
      · rename_i hleft
        injection h with h
        injection h with h1 h2
        exact ⟨by omega, h1.symm, by rw [← h2]; simp [Receiver.advance]⟩

/-- The payload fits the block it goes to. -/
theorem Awaits.fits {dir : DirectionId} {reqs : MsgId → Option RequestData} {m : Message}
    {w : Receiver} (h : Awaits dir reqs m w) (hlen : m.payload.length ≤ BUFFER_SIZE) :
    0 + m.payload.length ≤ (w.block (m.block reqs)).length := by
  have hown : 0 + m.payload.length ≤ (w.block .own).length := by
    show 0 + m.payload.length ≤ w.socket.buffer.length
    rw [h.own]; omega
  rw [Message.block]
  split
  · cases hw : m.waiting reqs with
    | none => exact hown
    | some d =>
      obtain ⟨hd, hsize⟩ := Option.filter_eq_some_iff.mp hw
      have hm := h.response m.id d (h.requests ▸ hd)
      have hsize' : m.payload.length ≤ d.bufferSize := by simpa using hsize
      show 0 + m.payload.length ≤ (w.memory d.responseBuffer).length
      omega
  · exact hown

/-- The socket remembers the direction it reads from already. -/
theorem readFrom_self {w : Receiver} {dir : DirectionId}
    (h : w.socket.readingSocket = some dir) :
    w.readFrom (w.socket.readingSocket.getD dir) = w := by
  rw [Receiver.readFrom, h, Option.getD_some, ← h]

/-- What a complete payload leaves behind. -/
theorem idle_toHeader {w : Receiver} (h : WellFormed w) : Idle w.toHeader where
  own := h.own
  response := h.response
  mode := rfl
  haveInBuffer := rfl
  readingSocket := rfl

/-- All bytes of the payload lie in the block it belongs into. -/
structure Filled (dir : DirectionId) (reqs : MsgId → Option RequestData) (m : Message)
    (w : Receiver) : Prop extends WellFormed w where
  msgId : w.socket.msgId = m.id
  haveInBuffer : w.socket.haveInBuffer = m.payload.length
  readingSocket : w.socket.readingSocket = some dir
  currentBufBegin : w.socket.currentBufBegin = ⟨m.block reqs, 0⟩
  bytes : (w.block (m.block reqs)).take m.payload.length = m.payload
  unknownResponse : m.type = .response → w.socket.unknownResponse = (m.waiting reqs).isNone
  requests : w.requests = reqs

theorem Filled.load {dir : DirectionId} {reqs : MsgId → Option RequestData} {m : Message}
    {w : Receiver} (h : Filled dir reqs m w) :
    w.load w.socket.currentBufBegin w.socket.haveInBuffer = m.payload := by
  rw [Receiver.load, h.currentBufBegin, h.haveInBuffer, List.drop_zero, h.bytes]

/-- **A piece that is the whole payload fills the block.** -/
theorem Awaits.filled {dir : DirectionId} {reqs : MsgId → Option RequestData} {m : Message}
    {w : Receiver} (h : Awaits dir reqs m w) (hlen : m.payload.length ≤ BUFFER_SIZE) :
    Filled dir reqs m ((w.write w.socket.currentBuf m.payload).advance m.payload.length) := by
  have hfit := h.fits hlen
  have hp : w.socket.currentBuf = ⟨m.block reqs, 0⟩ := h.currentBuf
  refine ⟨?_, ?_, ?_, ?_, ?_, ?_, ?_, ?_⟩
  · refine h.toWellFormed.of_blocks (fun b => ?_) (write_requests ..)
    rw [hp]
    exact write_block_length hfit b
  · simp [Receiver.advance, h.msgId]
  · simp [Receiver.advance, h.haveInBuffer]
  · simp [Receiver.advance, h.readingSocket]
  · simp [Receiver.advance, h.currentBufBegin]
  · rw [hp]
    show ((w.write ⟨m.block reqs, 0⟩ m.payload).block (m.block reqs)).take _ = _
    have hw := write_block_self w ⟨m.block reqs, 0⟩ m.payload
    rw [hw]
    simpa using take_writeAt (l := m.payload) (Nat.zero_le (w.block (m.block reqs)).length)
  · intro ht
    simpa [Receiver.advance] using h.unknownResponse ht
  · simpa [Receiver.advance] using h.requests

/-- Marking a request as answered with no more bytes than it had room for. -/
theorem WellFormed.signalled {w : Receiver} (h : WellFormed w)
    (hle : ∀ d, w.requests w.socket.msgId = some d → w.socket.haveInBuffer ≤ d.bufferSize) :
    WellFormed w.signalResponse where
  own := h.own
  response := by
    intro id d hd
    by_cases hid : id = w.socket.msgId
    · subst hid
      simp only [Receiver.signalResponse, Function.update_self, Option.map_eq_some_iff] at hd
      obtain ⟨d₀, hd₀, rfl⟩ := hd
      exact (hle d₀ hd₀).trans (h.response _ d₀ hd₀)
    · simp only [Receiver.signalResponse, Function.update_of_ne hid] at hd
      exact h.response id d hd

/-- **A response whose data is complete reaches its caller, or is discarded whole.** -/
theorem Filled.finishResponse {dir : DirectionId} {reqs : MsgId → Option RequestData}
    {m : Message} {w : Receiver} (h : Filled dir reqs m w) (ht : m.type = .response) :
    ∃ w', w.finishResponse = (w', [m.event dir reqs], true)
      ∧ Idle w' ∧ w'.requests = m.answered reqs := by
  have hu := h.unknownResponse ht
  cases hw : m.waiting reqs with
  | none =>
    rw [hw] at hu
    refine ⟨w.toHeader, ?_, idle_toHeader h.toWellFormed, ?_⟩
    · simp [Receiver.finishResponse, hu, Message.event, ht, hw, h.msgId, h.haveInBuffer]
    · simp [Receiver.toHeader, Message.answered, ht, hw, h.requests]
  | some d =>
    rw [hw] at hu
    obtain ⟨hd, hsize⟩ := Option.filter_eq_some_iff.mp hw
    refine ⟨w.signalResponse.toHeader, ?_, idle_toHeader (h.toWellFormed.signalled ?_), ?_⟩
    · simp [Receiver.finishResponse, hu, Message.event, ht, hw, h.msgId, h.load]
    · intro d' hd'
      rw [h.msgId, h.requests, hd] at hd'
      obtain rfl := Option.some.inj hd'
      rw [h.haveInBuffer]
      simpa using hsize
    · simp [Receiver.toHeader, Receiver.signalResponse, Message.answered, ht, hw, h.requests,
        h.msgId, h.haveInBuffer]

/-- A socket that awaits a payload already receives it into the right block. -/
theorem Awaits.lockData {dir : DirectionId} {reqs : MsgId → Option RequestData} {m : Message}
    {w : Receiver} (h : Awaits dir reqs m w) (ht : m.type = .response) : w.lockData = w := by
  have hu := h.unknownResponse ht
  cases hw : m.waiting reqs with
  | none =>
    have hb : m.block reqs = .own := by simp [Message.block, ht, hw]
    rw [hw] at hu
    have hbegin := h.currentBufBegin
    have hcur := h.currentBuf
    rw [hb] at hbegin hcur
    simp only [Receiver.lockData, hu, Option.isNone_none, Bool.true_or, if_true]
    rw [← hbegin]
    nth_rewrite 2 [hbegin]
    rw [← hcur]
    have hu' : true = w.socket.unknownResponse := by rw [hu]; rfl
    rw [hu']
  | some d =>
    obtain ⟨hd, -⟩ := Option.filter_eq_some_iff.mp hw
    have hd' : w.requests w.socket.msgId = some d := by rw [h.msgId, h.requests, hd]
    rw [hw] at hu
    simp [Receiver.lockData, hu, hd']

/-- **A payload that one `recv` returns is handed on whole, and the socket is back between
messages.** -/
theorem payload_whole {dir : DirectionId} {reqs : MsgId → Option RequestData} {m : Message}
    {w : Receiver} (h : Awaits dir reqs m w) (hne : m.payload ≠ [])
    (hlen : m.payload.length ≤ BUFFER_SIZE) :
    ∃ w', socketReady w dir (.bytes m.payload) = .ok (w', [m.event dir reqs], true)
      ∧ Idle w' ∧ w'.requests = m.answered reqs := by
  have hF := h.filled hlen
  have hrecv := recvReqRespData_bytes (n := w.socket.leftToReceive)
    (by rw [h.readingSocket]; simp) hne (by rw [h.leftToReceive])
    (by rw [h.haveInBuffer, h.leftToReceive]; omega)
    (by rw [h.currentBuf]; exact h.fits hlen)
  have hres : ¬ w.socket.haveInBuffer + m.payload.length < w.socket.leftToReceive := by
    rw [h.haveInBuffer, h.leftToReceive]; omega
  rw [if_neg hres] at hrecv
  rw [socketReady]
  simp only [readFrom_self h.readingSocket]
  have hmode := h.mode
  cases ht : m.type with
  | request =>
    simp only [Message.mode, ht] at hmode
    refine ⟨_, ?_, idle_toHeader hF.toWellFormed, ?_⟩
    · simp only [consumeData, hmode, consumeRequestData, consumeIncoming, hrecv, hF.load,
        hF.msgId, hF.readingSocket, Message.event, ht]
    · simp [Receiver.toHeader, Message.answered, ht, hF.requests]
  | trigger =>
    simp only [Message.mode, ht] at hmode
    refine ⟨_, ?_, idle_toHeader hF.toWellFormed, ?_⟩
    · simp only [consumeData, hmode, consumeTriggerData, consumeIncoming, hrecv, hF.load,
        hF.msgId, hF.readingSocket, Message.event, ht]
    · simp [Receiver.toHeader, Message.answered, ht, hF.requests]
  | response =>
    simp only [Message.mode, ht] at hmode
    obtain ⟨w', hfin, hidle, hreqs⟩ := hF.finishResponse ht
    have hpos : w.socket.leftToReceive > 0 := by
      rw [h.leftToReceive]; exact List.length_pos_of_ne_nil hne
    refine ⟨w', ?_, hidle, hreqs⟩
    simp only [consumeData, hmode, consumeResponseData, h.lockData ht, if_pos hpos, hrecv, hfin]

/-! ## Pieces of a payload -/

/-- The number of payload bytes an event accounts for. -/
def Event.size : Event → Nat
  | .request _ payload _ => payload.length
  | .trigger _ payload _ => payload.length
  | .response _ payload => payload.length
  | .discarded _ n => n
  | .error _ => 0

theorem Message.size_event (m : Message) (dir : DirectionId)
    (reqs : MsgId → Option RequestData) : (m.event dir reqs).size = m.payload.length := by
  rw [Message.event]
  split
  · rfl
  · rfl
  · split <;> rfl

theorem length_load_le (w : Receiver) (p : BufferPtr) (n : Nat) : (w.load p n).length ≤ n := by
  rw [Receiver.load]
  exact List.length_take_le n _

theorem lockData_counters (w : Receiver) :
    w.lockData.socket.mode = w.socket.mode
      ∧ w.lockData.socket.haveInBuffer = w.socket.haveInBuffer
      ∧ w.lockData.socket.leftToReceive = w.socket.leftToReceive := by
  simp only [Receiver.lockData]
  split <;> exact ⟨rfl, rfl, rfl⟩

/-- What a finished response accounts for is what was counted. -/
theorem finishResponse_size {w w' : Receiver} {evs : List Event} {b : Bool}
    (h : w.finishResponse = (w', evs, b)) :
    b = true ∧ ∃ e, evs = [e] ∧ e.size ≤ w.socket.haveInBuffer := by
  simp only [Receiver.finishResponse] at h
  split at h
  · obtain ⟨-, rfl, rfl⟩ : _ ∧ _ ∧ _ := by simpa using h
    exact ⟨rfl, _, rfl, Nat.le_refl _⟩
  · obtain ⟨-, rfl, rfl⟩ : _ ∧ _ ∧ _ := by simpa using h
    exact ⟨rfl, _, rfl, length_load_le _ _ _⟩

/-- What one piece of payload does to the counters, and what it may hand on. -/
def PieceDone (w : Receiver) (n : Nat) (w' : Receiver) (evs : List Event) (b : Bool) : Prop :=
  b = true ∧ w.socket.haveInBuffer + n ≤ w.socket.leftToReceive ∧
    if w.socket.haveInBuffer + n < w.socket.leftToReceive then
      evs = [] ∧ w'.socket.mode = w.socket.mode
        ∧ w'.socket.haveInBuffer = w.socket.haveInBuffer + n
        ∧ w'.socket.leftToReceive = w.socket.leftToReceive - n
    else ∃ e, evs = [e] ∧ e.size ≤ w.socket.haveInBuffer + n

theorem consumeIncoming_piece {emit : MsgId → List UInt8 → Option DirectionId → Event}
    (hemit : ∀ id l d, (emit id l d).size = l.length) {w w' : Receiver} {c : List UInt8}
    {evs : List Event} {b : Bool} (hc : c ≠ []) (hle : c.length ≤ w.socket.leftToReceive)
    (h : consumeIncoming emit w (.bytes c) = .ok (w', evs, b)) :
    PieceDone w c.length w' evs b := by
  rw [consumeIncoming] at h
  split at h
  · exact absurd h (by simp)
  · rename_i e w₁ hrec
    obtain ⟨-, hr, -⟩ := recvReqRespData_cases hc hle hrec
    split at hr <;> exact absurd hr (by simp)
  · rename_i w₁ hrec
    obtain ⟨hsum, hr, rfl⟩ := recvReqRespData_cases hc hle hrec
    split at hr
    · rename_i hlt
      injection h with h
      obtain ⟨rfl, rfl, rfl⟩ : _ ∧ _ ∧ _ := by simpa using h
      exact ⟨rfl, hsum, by rw [if_pos hlt]; simp [Receiver.advance]⟩
    · exact absurd hr (by simp)
  · rename_i w₁ hrec
    obtain ⟨hsum, hr, rfl⟩ := recvReqRespData_cases hc hle hrec
    split at hr
    · exact absurd hr (by simp)
    · rename_i hnlt
      injection h with h
      obtain ⟨-, rfl, rfl⟩ : _ ∧ _ ∧ _ := by simpa using h
      refine ⟨rfl, hsum, ?_⟩
      rw [if_neg hnlt]
      refine ⟨_, rfl, ?_⟩
      rw [hemit]
      refine (length_load_le _ _ _).trans ?_
      simp [Receiver.advance]

theorem consumeResponseData_piece {w w' : Receiver} {c : List UInt8} {evs : List Event}
    {b : Bool} (hc : c ≠ []) (hle : c.length ≤ w.socket.leftToReceive)
    (h : consumeResponseData w (.bytes c) = .ok (w', evs, b)) :
    PieceDone w c.length w' evs b := by
  have hpos : w.socket.leftToReceive > 0 := by
    have := List.length_pos_of_ne_nil hc
    omega
  obtain ⟨hmode, hhave, hleft⟩ := lockData_counters w
  simp only [consumeResponseData, if_pos hpos] at h
  split at h
  · exact absurd h (by simp)
  · rename_i e w₁ hrec
    obtain ⟨-, hr, -⟩ := recvReqRespData_cases hc hle hrec
    split at hr <;> exact absurd hr (by simp)
  · rename_i w₁ hrec
    obtain ⟨hsum, hr, rfl⟩ := recvReqRespData_cases hc hle hrec
    rw [hhave, hleft] at hsum hr
    split at hr
    · rename_i hlt
      injection h with h
      obtain ⟨rfl, rfl, rfl⟩ : _ ∧ _ ∧ _ := by simpa using h
      exact ⟨rfl, hsum, by rw [if_pos hlt]; simp [Receiver.advance, hmode, hhave, hleft]⟩
    · exact absurd hr (by simp)
  · rename_i w₁ hrec
    obtain ⟨hsum, hr, rfl⟩ := recvReqRespData_cases hc hle hrec
    rw [hhave, hleft] at hsum hr
    split at hr
    · exact absurd hr (by simp)
    · rename_i hnlt
      injection h with h
      obtain ⟨hb, e, he, hsize⟩ := finishResponse_size h
      refine ⟨hb, hsum, ?_⟩
      rw [if_neg hnlt]
      exact ⟨e, he, by simpa [Receiver.advance, hhave] using hsize⟩

/-- One piece of payload, whatever the kind of message. -/
theorem payload_piece {w w' : Receiver} {dir : DirectionId} {c : List UInt8}
    {evs : List Event} {b : Bool} (hmode : w.socket.mode ≠ .header) (hc : c ≠ [])
    (hle : c.length ≤ w.socket.leftToReceive)
    (h : socketReady w dir (.bytes c) = .ok (w', evs, b)) : PieceDone w c.length w' evs b := by
  rw [socketReady] at h
  have key : ∀ (w'' : Receiver) (b' : Bool),
      consumeData (w.readFrom (w.socket.readingSocket.getD dir)) (.bytes c)
          = .ok (w'', evs, b') → PieceDone w c.length w'' evs b' := by
    intro w'' b' hcons
    show PieceDone (w.readFrom (w.socket.readingSocket.getD dir)) c.length w'' evs b'
    rw [consumeData] at hcons
    split at hcons
    · rename_i hm; exact absurd hm hmode
    · exact consumeIncoming_piece (fun _ _ _ => rfl) hc hle hcons
    · exact consumeResponseData_piece hc hle hcons
    · exact consumeIncoming_piece (fun _ _ _ => rfl) hc hle hcons
  split at h
  · exact absurd h (by simp)
  · rename_i w'' evs' hcons
    injection h with h
    obtain ⟨rfl, rfl, rfl⟩ : _ ∧ _ ∧ _ := by simpa using h
    exact key w'' true hcons
  · rename_i w'' evs' hcons
    injection h with h
    obtain ⟨-, rfl, rfl⟩ : _ ∧ _ ∧ _ := by simpa using h
    exact absurd (key w'' false hcons).1 (by simp)

/-- Part of a payload of `n` bytes has been received, but not all of it. -/
structure Short (n : Nat) (w : Receiver) : Prop where
  mode : w.socket.mode ≠ .header
  have_pos : 0 < w.socket.haveInBuffer
  left_pos : 0 < w.socket.leftToReceive
  total : w.socket.haveInBuffer + w.socket.leftToReceive = n

theorem Receiver.asked_of_mode {w : Receiver} (h : w.socket.mode ≠ .header) :
    w.asked = w.socket.leftToReceive := by
  rw [Receiver.asked]
  split
  · rename_i hm; exact absurd hm h
  · rfl

/-- The first piece of a payload, when it is not all of it. -/
theorem Awaits.short {dir : DirectionId} {reqs : MsgId → Option RequestData} {m : Message}
    {w w' : Receiver} {c : List UInt8} {evs : List Event} {b : Bool} (h : Awaits dir reqs m w)
    (hc : c ≠ []) (hlt : c.length < m.payload.length)
    (hs : socketReady w dir (.bytes c) = .ok (w', evs, b)) :
    b = true ∧ evs = [] ∧ Short m.payload.length w' := by
  have hmode : w.socket.mode ≠ .header := by
    rw [h.mode, Message.mode]; split <;> simp
  obtain ⟨hb, -, hp⟩ := payload_piece hmode hc (by rw [h.leftToReceive]; omega) hs
  have hpos := List.length_pos_of_ne_nil hc
  rw [h.haveInBuffer, h.leftToReceive, if_pos (by omega)] at hp
  obtain ⟨he, hm, hhave, hleft⟩ := hp
  exact ⟨hb, he, ⟨by rw [hm]; exact hmode, by omega, by omega, by omega⟩⟩

/-- **Whatever is handed on after a piece is missing is shorter than the message.** -/
theorem short_feed {dir : DirectionId} {n : Nat} :
    ∀ {cs : List (List UInt8)} {w w' : Receiver} {evs : List Event}, Short n w → Cut dir w cs →
      feed dir w cs = .ok (w', evs) → evs = [] ∨ ∃ e rest, evs = e :: rest ∧ e.size < n
  | [], w, w', evs, _, _, h => by
      rw [feed] at h
      injection h with h
      exact .inl (by simpa using (congrArg Prod.snd h).symm)
  | c :: cs, w, w', evs, hw, hcut, h => by
      obtain ⟨hc, hle, hrest⟩ := hcut
      rw [Receiver.asked_of_mode hw.mode] at hle
      have hleft := hw.left_pos
      have hhave := hw.have_pos
      have htotal := hw.total
      have hle' := hle (by omega)
      rw [feed] at h
      split at h
      · exact absurd h (by simp)
      · rename_i w₁ evs₁ hs
        exact absurd (payload_piece hw.mode hc hle' hs).1 (by simp)
      · rename_i w₁ evs₁ hs
        obtain ⟨-, hsum, hp⟩ := payload_piece hw.mode hc hle' hs
        split at h
        · exact absurd h (by simp)
        · rename_i w₂ evs₂ hfeed
          injection h with h
          obtain ⟨rfl, rfl⟩ : _ ∧ _ := by simpa using h
          split at hp
          · obtain ⟨rfl, hm, hhave', hleft'⟩ := hp
            have hw₁ : Short n w₁ :=
              ⟨by rw [hm]; exact hw.mode, by omega, by omega, by omega⟩
            exact short_feed hw₁ (hrest w₁ [] hs) hfeed
          · -- the piece that fills up what was left: fewer bytes than the message had
            obtain ⟨e, rfl, hsize⟩ := hp
            exact .inr ⟨e, evs₂, rfl, by omega⟩

/-! ## Headers -/

/-- A whole header of `m` lies at the start of the socket's buffer. -/
structure HeaderRead (dir : DirectionId) (reqs : MsgId → Option RequestData) (m : Message)
    (w : Receiver) : Prop extends WellFormed w where
  bytes : w.socket.buffer.take MSG_HEADER_SIZE = m.header.bytes
  readingSocket : w.socket.readingSocket = some dir
  requests : w.requests = reqs

theorem ofBytes_take (l : List UInt8) :
    MsgHeader.ofBytes (l.take MSG_HEADER_SIZE) = MsgHeader.ofBytes l := by
  simp [MsgHeader.ofBytes, MSG_HEADER_SIZE, List.take_take, List.drop_take]

theorem HeaderRead.header {dir : DirectionId} {reqs : MsgId → Option RequestData} {m : Message}
    {w : Receiver} (h : HeaderRead dir reqs m w) :
    MsgHeader.ofBytes w.socket.buffer = m.header := by
  rw [← ofBytes_take, h.bytes, MsgHeader.ofBytes_bytes]

theorem Message.size_header {m : Message} (h : m.payload.length ≤ BUFFER_SIZE) :
    m.header.size.toNat = m.payload.length := by
  have hb : m.payload.length ≤ 4096 := h
  rw [Message.header, UInt32.toNat_ofNat']
  exact Nat.mod_eq_of_lt (by omega)

/-- The read of the next header bytes. -/
theorem InHeader.read {dir : DirectionId} {reqs : MsgId → Option RequestData}
    {l c : List UInt8} {w : Receiver} (h : InHeader dir reqs l w) (hc : c ≠ [])
    (hle : (l ++ c).length ≤ MSG_HEADER_SIZE) :
    let w₁ := (w.readFrom dir).write ⟨.own, l.length⟩ c
    receive (w.readFrom dir) ⟨.own, l.length⟩ (MSG_HEADER_SIZE - l.length) (.bytes c)
        = .ok (.ok c.length, w₁)
      ∧ WellFormed w₁ ∧ w₁.socket.buffer.take (l ++ c).length = l ++ c
      ∧ w₁.requests = reqs := by
  intro w₁
  have hown : w.socket.buffer.length = BUFFER_SIZE := h.own
  have hlen : l.length + c.length ≤ MSG_HEADER_SIZE := by simpa using hle
  have hfit : l.length + c.length ≤ w.socket.buffer.length := by
    rw [hown]; exact hlen.trans (by decide)
  refine ⟨receive_bytes (by simp [Receiver.readFrom]) hc (by omega) hfit, ?_, ?_, ?_⟩
  · refine h.toWellFormed.of_blocks (fun b => ?_) (write_requests ..)
    have := write_block_length (w := w.readFrom dir) (p := ⟨.own, l.length⟩) (l := c) hfit b
    rw [this]
    cases b <;> rfl
  · show (writeAt w.socket.buffer l.length c).take (l ++ c).length = l ++ c
    rw [List.length_append, take_writeAt (by omega), h.bytes]
  · rw [write_requests]
    exact h.requests

theorem InHeader.ready {dir : DirectionId} {reqs : MsgId → Option RequestData}
    {l : List UInt8} {w w' : Receiver} {k : Kernel} {evs : List Event}
    (h : InHeader dir reqs l w)
    (hc : consumeHeader (w.readFrom dir) k = .ok (w', evs, true)) :
    socketReady w dir k = .ok (w', evs, true) := by
  have hmode : (w.readFrom dir).socket.mode = .header := h.mode
  simp only [socketReady, h.readingSocket, consumeData, hmode, hc]

/-- A piece that leaves the header unfinished. -/
theorem InHeader.piece {dir : DirectionId} {reqs : MsgId → Option RequestData}
    {l c : List UInt8} {w : Receiver} (h : InHeader dir reqs l w) (hc : c ≠ [])
    (hlt : (l ++ c).length < MSG_HEADER_SIZE) :
    ∃ w', socketReady w dir (.bytes c) = .ok (w', [], true) ∧ InHeader dir reqs (l ++ c) w' := by
  obtain ⟨hrecv, hwf, hbytes, hreqs⟩ := h.read hc (Nat.le_of_lt hlt)
  have hhave : (w.readFrom dir).socket.haveInBuffer = l.length := h.haveInBuffer
  have hsum : l.length + c.length < MSG_HEADER_SIZE := by simpa using hlt
  let w₁ := (w.readFrom dir).write ⟨.own, l.length⟩ c
  refine ⟨{ w₁ with socket := { w₁.socket with haveInBuffer := l.length + c.length } },
    h.ready ?_, ?_⟩
  · rw [consumeHeader, hhave]
    simp only [hrecv, if_neg (show ¬ ¬ l.length < MSG_HEADER_SIZE by omega),
      if_neg (show ¬ ¬ l.length + c.length ≤ MSG_HEADER_SIZE by omega), if_pos hsum, w₁]
  · exact {
      own := hwf.own
      response := hwf.response
      mode := h.mode
      haveInBuffer := by simp
      bytes := hbytes
      readingSocket := rfl
      requests := hreqs }

/-- The piece that completes the header. -/
theorem InHeader.done {dir : DirectionId} {reqs : MsgId → Option RequestData}
    {l c : List UInt8} {w : Receiver} {m : Message} (h : InHeader dir reqs l w) (hc : c ≠ [])
    (heq : l ++ c = m.header.bytes) :
    ∃ w₁, HeaderRead dir reqs m w₁ ∧ ∀ w' evs, headerReady w₁ = .ok (w', evs, true) →
      socketReady w dir (.bytes c) = .ok (w', evs, true) := by
  have hlen : (l ++ c).length = MSG_HEADER_SIZE := by rw [heq]; exact MsgHeader.length_bytes _
  obtain ⟨hrecv, hwf, hbytes, hreqs⟩ := h.read hc (Nat.le_of_eq hlen)
  have hhave : (w.readFrom dir).socket.haveInBuffer = l.length := h.haveInBuffer
  have hsum : l.length + c.length = MSG_HEADER_SIZE := by simpa using hlen
  have hpos := List.length_pos_of_ne_nil hc
  refine ⟨(w.readFrom dir).write ⟨.own, l.length⟩ c, ?_, ?_⟩
  · exact {
      own := hwf.own
      response := hwf.response
      bytes := by rw [← hlen, hbytes, heq]
      readingSocket := rfl
      requests := hreqs }
  · intro w' evs hready
    refine h.ready ?_
    rw [consumeHeader, hhave]
    simp only [hrecv, if_neg (show ¬ ¬ l.length < MSG_HEADER_SIZE by omega),
      if_neg (show ¬ ¬ l.length + c.length ≤ MSG_HEADER_SIZE by omega),
      if_neg (show ¬ l.length + c.length < MSG_HEADER_SIZE by omega), hready]

/-- The state a request's or trigger's header leaves. -/
theorem HeaderRead.expect {dir : DirectionId} {reqs : MsgId → Option RequestData} {m : Message}
    {w : Receiver} (h : HeaderRead dir reqs m w) (hlen : m.payload.length ≤ BUFFER_SIZE)
    (ht : m.type ≠ .response) :
    Awaits dir reqs m ((w.expect m.header m.mode).receiveInto .own) where
  own := h.own
  response := h.response
  mode := rfl
  msgId := rfl
  haveInBuffer := rfl
  leftToReceive := Message.size_header hlen
  readingSocket := by
    have hm : m.mode ≠ .header := by rw [Message.mode]; split <;> simp
    show (if m.mode = .header then none else w.socket.readingSocket) = some dir
    rw [if_neg hm, h.readingSocket]
  currentBufBegin := by
    rw [Message.block]
    split
    · rename_i hr; exact absurd hr ht
    · rfl
  currentBuf := by
    rw [Message.block]
    split
    · rename_i hr; exact absurd hr ht
    · rfl
  unknownResponse := fun hr => absurd hr ht
  requests := h.requests

/-- The state a response's header leaves. -/
theorem HeaderRead.expectResponse {dir : DirectionId} {reqs : MsgId → Option RequestData}
    {m : Message} {w : Receiver} (h : HeaderRead dir reqs m w)
    (hlen : m.payload.length ≤ BUFFER_SIZE) (ht : m.type = .response) :
    Awaits dir reqs m ((w.expect m.header m.mode).expectResponse (m.waiting reqs)) where
  own := h.own
  response := h.response
  mode := rfl
  msgId := rfl
  haveInBuffer := rfl
  leftToReceive := Message.size_header hlen
  readingSocket := by
    have hm : m.mode ≠ .header := by rw [Message.mode]; split <;> simp
    show (if m.mode = .header then none else w.socket.readingSocket) = some dir
    rw [if_neg hm, h.readingSocket]
  currentBufBegin := by rw [Message.block, ht]; rfl
  currentBuf := by rw [Message.block, ht]; rfl
  unknownResponse := fun _ => rfl
  requests := h.requests

/-- What `headerReady` reads off the header of a response. -/
theorem HeaderRead.response_eq {dir : DirectionId} {reqs : MsgId → Option RequestData}
    {m : Message} {w : Receiver} (h : HeaderRead dir reqs m w)
    (hlen : m.payload.length ≤ BUFFER_SIZE) (ht : m.type = .response) :
    headerReady w =
      let w' := (w.expect m.header m.mode).expectResponse (m.waiting reqs)
      if m.payload.length = 0 then
        match consumeResponseData w' .eof with
        | .error f => .error f
        | .ok (w, evs, res) => if res then .ok (w, evs, true) else .error .assertion
      else .ok (w', [], true) := by
  have htype : m.header.type = m.type.code := rfl
  have hreq : m.header.isRequest = false := by
    simp [MsgHeader.isRequest, htype, ht, MsgType.code]
  have htrig : m.header.isTrigger = false := by
    simp [MsgHeader.isTrigger, htype, ht, MsgType.code]
  have hresp : m.header.isResponse = true := by simp [MsgHeader.isResponse, htype, ht]
  have hmode : m.mode = .dataResp := by rw [Message.mode, ht]
  have hwait : ((w.requests m.header.msgId).filter
      fun d => ¬ m.payload.length > d.bufferSize) = m.waiting reqs := by
    rw [h.requests, Message.waiting]
    simp only [gt_iff_lt, not_lt]
    rfl
  simp only [headerReady, h.header, hreq, htrig, hresp, hwait, hmode, Message.size_header hlen,
    Bool.or_self, Bool.false_eq_true, if_false, if_true]
  all_goals rfl

/-- **A complete header leaves the socket waiting for the payload it announces.** -/
theorem HeaderRead.awaits {dir : DirectionId} {reqs : MsgId → Option RequestData} {m : Message}
    {w : Receiver} (h : HeaderRead dir reqs m w) (hlen : m.payload.length ≤ BUFFER_SIZE)
    (hne : m.type = .response → m.payload ≠ []) :
    ∃ w', headerReady w = .ok (w', [], true) ∧ Awaits dir reqs m w' := by
  have hsize := Message.size_header hlen
  have htype : m.header.type = m.type.code := rfl
  cases ht : m.type with
  | request =>
    have hreq : m.header.isRequest = true := by simp [MsgHeader.isRequest, htype, ht]
    have hmode : m.mode = .dataRequ := by rw [Message.mode, ht]
    refine ⟨_, ?_, h.expect hlen (by simp [ht])⟩
    simp only [headerReady, h.header, hreq, Bool.true_or, if_true, hsize, hmode,
      if_neg (not_not.mpr hlen)]
  | trigger =>
    have hreq : m.header.isRequest = false := by
      simp [MsgHeader.isRequest, htype, ht, MsgType.code]
    have htrig : m.header.isTrigger = true := by simp [MsgHeader.isTrigger, htype, ht]
    have hmode : m.mode = .dataTrig := by rw [Message.mode, ht]
    refine ⟨_, ?_, h.expect hlen (by simp [ht])⟩
    simp only [headerReady, h.header, hreq, htrig, Bool.or_true, if_true, hsize, hmode,
      if_neg (not_not.mpr hlen), Bool.false_eq_true, if_false]
  | response =>
    have hpos : ¬ m.payload.length = 0 :=
      fun h0 => hne ht (List.eq_nil_of_length_eq_zero h0)
    refine ⟨_, ?_, h.expectResponse hlen ht⟩
    rw [h.response_eq hlen ht]
    simp only [if_neg hpos]

/-- **A response without payload is complete with its header.** -/
theorem HeaderRead.empty_response {dir : DirectionId} {reqs : MsgId → Option RequestData}
    {m : Message} {w : Receiver} (h : HeaderRead dir reqs m w) (ht : m.type = .response)
    (hnil : m.payload = []) :
    ∃ w', headerReady w = .ok (w', [m.event dir reqs], true)
      ∧ Idle w' ∧ w'.requests = m.answered reqs := by
  have hlen : m.payload.length ≤ BUFFER_SIZE := by rw [hnil]; exact Nat.zero_le _
  have hA := h.expectResponse hlen ht
  have hF : Filled dir reqs m ((w.expect m.header m.mode).expectResponse (m.waiting reqs)) :=
    { own := hA.own
      response := hA.response
      msgId := hA.msgId
      haveInBuffer := by rw [hA.haveInBuffer, hnil]; rfl
      readingSocket := hA.readingSocket
      currentBufBegin := hA.currentBufBegin
      bytes := by rw [hnil]; rfl
      unknownResponse := hA.unknownResponse
      requests := hA.requests }
  obtain ⟨w', hfin, hidle, hreqs⟩ := hF.finishResponse ht
  refine ⟨w', ?_, hidle, hreqs⟩
  have hzero : m.payload.length = 0 := by rw [hnil]; rfl
  have hleft : ¬ ((w.expect m.header m.mode).expectResponse
      (m.waiting reqs)).socket.leftToReceive > 0 := by rw [hA.leftToReceive, hzero]; omega
  rw [h.response_eq hlen ht]
  simp only [if_pos hzero, consumeResponseData, hA.lockData ht, if_neg hleft, hfin, if_true]

end IviLink.Ipc
