import IviLink.Lib.Bytes

/-!
# The receiving side of `CIpcSocket`

`CIpcSocket` is a state machine over a stream socket: it reads a fixed header,
takes from it what follows (a request, a trigger or a response), and reads that
many bytes before it hands the message on. Every call of `consumeData` does one
`recv`, so a header or a payload may arrive in any number of pieces, and the
counters `haveInBuffer` and `leftToReceive` carry the state between them.

The model keeps what the receiving thread reads and writes: its own 4096-byte
buffer, the pointer it receives through, the container of pending requests it
shares with the threads inside `CIpc::request`, and the buffers those threads
wait on. An `assert` that fails and a store outside a buffer are outcomes of
their own (`Failure`); what the socket hands on is a list of events.
-/

namespace IviLink.Ipc

open IviLink.Lib

abbrev MsgId := UInt32
abbrev DirectionId := Int

/-- `Ipc::Type` of a message. -/
inductive MsgType
  | request
  | response
  | trigger
  deriving DecidableEq, Repr

/-- The number the enumeration stands for in a header. -/
def MsgType.code : MsgType → UInt32
  | request => 1
  | response => 2
  | trigger => 3

/-- The header in front of every message. The type is kept as the raw number, since a header
that was received may hold any. -/
structure MsgHeader where
  size : UInt32
  msgId : MsgId
  type : UInt32
  deriving DecidableEq, Repr

namespace MsgHeader

def isRequest (h : MsgHeader) : Bool := h.type = MsgType.request.code
def isTrigger (h : MsgHeader) : Bool := h.type = MsgType.trigger.code
def isResponse (h : MsgHeader) : Bool := h.type = MsgType.response.code

/-- The header as it lies in memory: three words of the host, in the order they are declared. -/
def bytes (h : MsgHeader) : List UInt8 := le32 h.size ++ le32 h.msgId ++ le32 h.type

/-- What a pointer to a header reads from memory. -/
def ofBytes (l : List UInt8) : MsgHeader :=
  ⟨ofLE32 (l.take 4), ofLE32 ((l.drop 4).take 4), ofLE32 ((l.drop 8).take 4)⟩

@[simp] theorem length_bytes (h : MsgHeader) : h.bytes.length = 12 := by simp [bytes]

@[simp] theorem ofBytes_bytes (h : MsgHeader) : ofBytes h.bytes = h := by
  have h4 : h.bytes.take 4 = le32 h.size := by
    rw [bytes, List.append_assoc, List.take_left' (length_le32 _)]
  have h8 : h.bytes.drop 4 = le32 h.msgId ++ le32 h.type := by
    rw [bytes, List.append_assoc, List.drop_left' (length_le32 _)]
  have h12 : h.bytes.drop 8 = le32 h.type := by
    rw [bytes, List.drop_left' (by simp)]
  have ht : (le32 h.type).take 4 = le32 h.type := List.take_of_length_le (by simp)
  rw [ofBytes, h4, h8, h12, List.take_left' (length_le32 _), ht]
  simp

end MsgHeader

/-- `MSG_HEADER_SIZE` -/
def MSG_HEADER_SIZE : Nat := 12

/-- `CIpcSocket::BUFFER_SIZE` -/
def BUFFER_SIZE : Nat := 4096

/-! ## State -/

/-- `RECV_MODE` -/
inductive RecvMode
  | header
  | dataRequ
  | dataResp
  | dataTrig
  deriving DecidableEq, Repr

/-- The block of memory a pointer points into: the socket's own `mBuffer`, or the response
buffer of a caller of `CIpc::request`. -/
inductive Block
  | own
  | response (addr : Nat)
  deriving DecidableEq, Repr

structure BufferPtr where
  block : Block
  offset : Nat
  deriving DecidableEq, Repr

/-- What `CIpc` keeps about a request that waits for its response. -/
structure RequestData where
  /-- `pResponseBuffer` -/
  responseBuffer : Nat
  /-- Size of the buffer, and later of the response in it. -/
  bufferSize : Nat
  /-- How often `recvSem` was signalled. -/
  recvSem : Nat
  dirId : DirectionId
  deriving DecidableEq, Repr

/-- The receiving state machine. -/
structure Socket where
  mode : RecvMode
  msgId : MsgId
  unknownResponse : Bool
  currentBufBegin : BufferPtr
  currentBuf : BufferPtr
  haveInBuffer : Nat
  leftToReceive : Nat
  /-- The direction bytes are being read from; the socket descriptor is -1 without one. -/
  readingSocket : Option DirectionId
  buffer : List UInt8

/-- The socket with what it shares with the requesting threads. -/
structure Receiver where
  socket : Socket
  /-- `mRequestDataContainer` -/
  requests : MsgId → Option RequestData
  /-- Contents of the response buffers, by address. -/
  memory : Nat → List UInt8

inductive IpcError
  | connectionLost
  | communication
  deriving DecidableEq, Repr

/-- What the socket hands on or reports. -/
inductive Event
  /-- `CIpc::incomingRequest` -/
  | request (id : MsgId) (payload : List UInt8) (dir : Option DirectionId)
  /-- `CIpc::incomingAsyncRequest` -/
  | trigger (id : MsgId) (payload : List UInt8) (dir : Option DirectionId)
  /-- The waiting caller has been signalled; these are the bytes in its buffer. -/
  | response (id : MsgId) (payload : List UInt8)
  /-- "Ipc got unknown response", after this many bytes of it were read. -/
  | discarded (id : MsgId) (size : Nat)
  /-- `receive` failed and the direction is given up. -/
  | error (e : IpcError)
  deriving DecidableEq, Repr

/-- Why the process would stop. -/
inductive Failure
  | assertion
  /-- A store outside the buffer it is meant for. -/
  | overflow
  deriving DecidableEq, Repr

/-! ## Memory -/

/-- The contents of the block a pointer points into. -/
def Receiver.block (w : Receiver) : Block → List UInt8
  | .own => w.socket.buffer
  | .response a => w.memory a

/-- `n` bytes from a pointer on. -/
def Receiver.load (w : Receiver) (p : BufferPtr) (n : Nat) : List UInt8 :=
  ((w.block p.block).drop p.offset).take n

/-- The memory after storing bytes from a pointer on. -/
def Receiver.write (w : Receiver) (p : BufferPtr) (l : List UInt8) : Receiver :=
  match p.block with
  | .own => { w with socket := { w.socket with buffer := writeAt w.socket.buffer p.offset l } }
  | .response a =>
    { w with memory := Function.update w.memory a (writeAt (w.memory a) p.offset l) }

/-- Storing bytes from a pointer on, if the block has room for them there. -/
def Receiver.store (w : Receiver) (p : BufferPtr) (l : List UInt8) : Except Failure Receiver :=
  if p.offset + l.length ≤ (w.block p.block).length then .ok (w.write p l) else .error .overflow

/-! ## Receiving -/

/-- What the kernel has for a `recv`: bytes, the end of the stream, or an error. -/
inductive Kernel
  | bytes (l : List UInt8)
  | eof
  | error
  deriving DecidableEq, Repr

/-- `CIpcSocket::setMode` -/
def Socket.setMode (s : Socket) (mode : RecvMode) (leftToReceive : Nat) : Socket :=
  { s with
    mode := mode
    readingSocket := if mode = .header then none else s.readingSocket
    leftToReceive := leftToReceive
    haveInBuffer := 0 }

/-- `CIpcSocket::receive`: one `recv` of at most `size` bytes. Asked for no byte at all, `recv`
returns 0, exactly as it does at the end of the stream. -/
def receive (w : Receiver) (p : BufferPtr) (size : Nat) (k : Kernel) :
    Except Failure (Except IpcError Nat × Receiver) :=
  if w.socket.readingSocket = none then .error .assertion
  else
    match k with
    | .error => .ok (.error .communication, w)
    | .eof => .ok (.error .connectionLost, w)
    | .bytes l =>
      if (l.take size).length = 0 then .ok (.error .connectionLost, w)
      else
        match w.store p (l.take size) with
        | .error f => .error f
        | .ok w' => .ok (.ok (l.take size).length, w')

/-- What `recvReqRespData` returns: -1 for an error, 0 while bytes are missing, 1 when the data
is complete. -/
inductive RecvRes
  | failed (e : IpcError)
  | notReady
  | ready
  deriving DecidableEq, Repr

/-- `CIpcSocket::recvReqRespData` -/
def recvReqRespData (w : Receiver) (size : Nat) (k : Kernel) : Except Failure (RecvRes × Receiver) :=
  match receive w w.socket.currentBuf size k with
  | .error f => .error f
  | .ok (.error e, w) => .ok (.failed e, w)
  | .ok (.ok n, w) =>
    let s := w.socket
    if ¬ n ≤ s.leftToReceive then .error .assertion
    else if ¬ s.haveInBuffer + n ≤ s.leftToReceive then .error .assertion
    else
      let res := if s.haveInBuffer + n < s.leftToReceive then RecvRes.notReady else RecvRes.ready
      .ok (res, { w with socket := { s with
        currentBuf := { s.currentBuf with offset := s.currentBuf.offset + n }
        haveInBuffer := s.haveInBuffer + n
        leftToReceive := s.leftToReceive - n } })

/-- The state, what was handed on, and whether the direction is still good. -/
abbrev Consumed := Except Failure (Receiver × List Event × Bool)

/-- The socket back at the start of a header. -/
def Receiver.toHeader (w : Receiver) : Receiver :=
  { w with socket := w.socket.setMode .header MSG_HEADER_SIZE }

/-- `consumeRequestData` and `consumeTriggerData` are one function but for the handler they
call, here the event they emit. -/
def consumeIncoming (emit : MsgId → List UInt8 → Option DirectionId → Event)
    (w : Receiver) (k : Kernel) : Consumed :=
  match recvReqRespData w w.socket.leftToReceive k with
  | .error f => .error f
  | .ok (.failed e, w) => .ok (w.toHeader, [.error e], false)
  | .ok (.notReady, w) => .ok (w, [], true)
  | .ok (.ready, w) =>
    let s := w.socket
    .ok (w.toHeader, [emit s.msgId (w.load s.currentBufBegin s.haveInBuffer) s.readingSocket], true)

/-- `CIpcSocket::consumeRequestData` -/
def consumeRequestData : Receiver → Kernel → Consumed := consumeIncoming .request

/-- `CIpcSocket::consumeTriggerData` -/
def consumeTriggerData : Receiver → Kernel → Consumed := consumeIncoming .trigger

/-- The first half of `consumeResponseData`: a response whose caller has given up is read into
the socket's own buffer from its start, like any other unknown one. -/
def Receiver.lockData (w : Receiver) : Receiver :=
  let s := w.socket
  let unknown := s.unknownResponse || (w.requests s.msgId).isNone
  if unknown then
    { w with socket := { s with
      unknownResponse := true, currentBufBegin := ⟨.own, 0⟩, currentBuf := ⟨.own, 0⟩ } }
  else w

/-- `data->bufferSize = mHaveInBuffer; data->recvSem->signal();` -/
def Receiver.signalResponse (w : Receiver) : Receiver :=
  let s := w.socket
  { w with requests := Function.update w.requests s.msgId ((w.requests s.msgId).map fun d =>
      { d with bufferSize := s.haveInBuffer, recvSem := d.recvSem + 1 }) }

/-- The second half of `consumeResponseData`, once all data is there. -/
def Receiver.finishResponse (w : Receiver) : Receiver × List Event × Bool :=
  let s := w.socket
  if s.unknownResponse then
    (w.toHeader, [.discarded s.msgId s.haveInBuffer], true)
  else
    (w.signalResponse.toHeader,
      [.response s.msgId (w.load s.currentBufBegin s.haveInBuffer)], true)

/-- `CIpcSocket::consumeResponseData` -/
def consumeResponseData (w : Receiver) (k : Kernel) : Consumed :=
  let size := w.socket.leftToReceive
  let w := w.lockData
  if size > 0 then
    match recvReqRespData w size k with
    | .error f => .error f
    | .ok (.failed e, w) => .ok (w.toHeader, [.error e], false)
    | .ok (.notReady, w) => .ok (w, [], true)
    | .ok (.ready, w) => .ok w.finishResponse
  else .ok w.finishResponse

/-- Point the receive pointers at the start of a block. -/
def Receiver.receiveInto (w : Receiver) (b : Block) : Receiver :=
  { w with socket := { w.socket with currentBufBegin := ⟨b, 0⟩, currentBuf := ⟨b, 0⟩ } }

/-- The socket set up for the payload a header announces. -/
def Receiver.expect (w : Receiver) (hdr : MsgHeader) (mode : RecvMode) : Receiver :=
  { w with socket := { w.socket with msgId := hdr.msgId }.setMode mode hdr.size.toNat }

/-- Where a response is received: into the buffer of the request that waits for it, if there is
one and the buffer is large enough. -/
def Receiver.expectResponse (w : Receiver) (waiting : Option RequestData) : Receiver :=
  let w := { w with socket := { w.socket with unknownResponse := waiting.isNone } }
  w.receiveInto ((waiting.map fun d => Block.response d.responseBuffer).getD .own)

/-- The part of `consumeHeader` behind "header ready". A header of no known type changes
nothing but the message id: the socket stays in header mode with the count it had before this
read. -/
def headerReady (w : Receiver) : Consumed :=
  let hdr := MsgHeader.ofBytes w.socket.buffer
  let size := hdr.size.toNat
  if hdr.isRequest || hdr.isTrigger then
    let mode := if hdr.isRequest then RecvMode.dataRequ else RecvMode.dataTrig
    if ¬ BUFFER_SIZE ≥ size then .error .assertion
    else .ok ((w.expect hdr mode).receiveInto .own, [], true)
  else if hdr.isResponse then
    let waiting := (w.requests hdr.msgId).filter fun d => ¬ size > d.bufferSize
    let w := (w.expect hdr .dataResp).expectResponse waiting
    if size = 0 then
      match consumeResponseData w .eof with
      | .error f => .error f
      | .ok (w, evs, res) => if res then .ok (w, evs, true) else .error .assertion
    else .ok (w, [], true)
  else .ok ({ w with socket := { w.socket with msgId := hdr.msgId } }, [], true)

/-- `CIpcSocket::consumeHeader` -/
def consumeHeader (w : Receiver) (k : Kernel) : Consumed :=
  let s := w.socket
  if ¬ s.haveInBuffer < MSG_HEADER_SIZE then .error .assertion
  else
    match receive w ⟨.own, s.haveInBuffer⟩ (MSG_HEADER_SIZE - s.haveInBuffer) k with
    | .error f => .error f
    | .ok (.error e, w) => .ok (w, [.error e], false)
    | .ok (.ok size, w) =>
      if ¬ s.haveInBuffer + size ≤ MSG_HEADER_SIZE then .error .assertion
      else if s.haveInBuffer + size < MSG_HEADER_SIZE then
        .ok ({ w with socket := { w.socket with
          haveInBuffer := s.haveInBuffer + size } }, [], true)
      else headerReady w

/-- `CIpcSocket::consumeData` -/
def consumeData (w : Receiver) (k : Kernel) : Consumed :=
  match w.socket.mode with
  | .header => consumeHeader w k
  | .dataRequ => consumeRequestData w k
  | .dataResp => consumeResponseData w k
  | .dataTrig => consumeTriggerData w k

/-- `CRequestDataContainer::invalidateRequestsForDirection`: the requests sent over a direction
are dropped, so their callers find no data when they wake up. -/
def Receiver.invalidateRequestsForDirection (w : Receiver) (dir : DirectionId) : Receiver :=
  { w with requests := fun id => (w.requests id).filter fun d => d.dirId ≠ dir }

/-- `mReadingSocket = sock`: all reads of a message are from the direction its first byte came
from. -/
def Receiver.readFrom (w : Receiver) (dir : DirectionId) : Receiver :=
  { w with socket := { w.socket with readingSocket := some dir } }

/-- The part of `threadFunc` that serves a readable socket: it remembers the direction for the
rest of the message and, when the direction is lost, closes it and goes back to header mode. -/
def socketReady (w : Receiver) (dir : DirectionId) (k : Kernel) : Consumed :=
  let dir := w.socket.readingSocket.getD dir
  match consumeData (w.readFrom dir) k with
  | .error f => .error f
  | .ok (w, evs, true) => .ok (w, evs, true)
  | .ok (w, evs, false) => .ok ((w.invalidateRequestsForDirection dir).toHeader, evs, false)

/-! ## A stream -/

/-- The number of bytes the next `recv` asks for. -/
def Receiver.asked (w : Receiver) : Nat :=
  match w.socket.mode with
  | .header => MSG_HEADER_SIZE - w.socket.haveInBuffer
  | _ => w.socket.leftToReceive

/-- The thread reading a stream that arrives in these pieces on one direction. Once the
direction is lost its socket is closed and the rest is never read. -/
def feed (dir : DirectionId) :
    Receiver → List (List UInt8) → Except Failure (Receiver × List Event)
  | w, [] => .ok (w, [])
  | w, c :: cs =>
    match socketReady w dir (.bytes c) with
    | .error f => .error f
    | .ok (w, evs, false) => .ok (w, evs)
    | .ok (w, evs, true) =>
      match feed dir w cs with
      | .error f => .error f
      | .ok (w', evs') => .ok (w', evs ++ evs')

/-- These pieces are results successive calls of `recv` can have: each holds a byte and none
is longer than what that call asked for. A call that asks for nothing returns nothing. -/
def Cut (dir : DirectionId) : Receiver → List (List UInt8) → Prop
  | _, [] => True
  | w, c :: cs => c ≠ [] ∧ (w.asked ≠ 0 → c.length ≤ w.asked) ∧
      ∀ w' evs, socketReady w dir (.bytes c) = .ok (w', evs, true) → Cut dir w' cs

/-- A process with the state its handlers work on. -/
structure Process (α : Type*) where
  socket : Receiver
  state : α

/-- The process reads these pieces, and its handlers are called for what the socket hands on. -/
def Process.read {α : Type*} (handle : α → Event → Except Failure α) (p : Process α)
    (dir : DirectionId) (cs : List (List UInt8)) : Except Failure (Process α) :=
  match feed dir p.socket cs with
  | .error f => .error f
  | .ok (w, evs) =>
    match evs.foldlM handle p.state with
    | .error f => .error f
    | .ok x => .ok ⟨w, x⟩

/-! ## Sending -/

/-- A result of `::send`. -/
inductive SendResult
  | wrote (n : Nat)
  | eintr
  | failed
  deriving DecidableEq, Repr

inductive SendOutcome
  | ok
  | invalidParams
  | connectionLost
  deriving DecidableEq, Repr

/-- `do res = ::send(...) while (res == -1 && errno == EINTR)`: the result that ends the loop
and what the kernel answers afterwards. -/
def sendLoop : List SendResult → SendResult × List SendResult
  | [] => (.failed, [])
  | .eintr :: rs => sendLoop rs
  | r :: rs => (r, rs)

/-- The bytes a call of `::send` has put on the socket. -/
def SendResult.written (data : List UInt8) : SendResult → List UInt8
  | wrote n => data.take n
  | _ => []

/-- `CIpcSocket::send` on a connected, known direction: what it puts on the socket and what it
returns. The payload follows the header unless the header failed or there is none. -/
def send (id : MsgId) (type : MsgType) (payload : List UInt8) (results : List SendResult) :
    List UInt8 × SendOutcome :=
  if ¬ payload.length < 4294967295 - MSG_HEADER_SIZE then ([], .invalidParams)
  else
    let header : MsgHeader := ⟨UInt32.ofNat payload.length, id, type.code⟩
    let (r, results) := sendLoop results
    if r = .failed then (r.written header.bytes, .connectionLost)
    else if payload.length > 0 then
      let (r', _) := sendLoop results
      (r.written header.bytes ++ r'.written payload,
        if r' = .failed then .connectionLost else .ok)
    else (r.written header.bytes, .ok)

end IviLink.Ipc
