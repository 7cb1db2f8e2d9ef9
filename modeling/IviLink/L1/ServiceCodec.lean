import IviLink.Common.CDataAccessor
import IviLink.L1.L1InterfaceStub
import IviLink.Lib.Checked

/-!
# `L1InterfaceStub` on bytes

The stub as its peers reach it: bytes on the service channel, and bytes of clients'
requests. Nothing in them has been looked at before. A message tells its own length,
the size of its data, a channel, a priority, and the handlers take these words as
they are; what the process does with one it should not have believed is a `Fault`.

One accessor is filled again for every message of a buffer, and `setData` ignores
data of no length, so what a handler leaves in the accessor is part of its result.
What handlers send to clients and the timers they start are not.
-/

namespace IviLink

/-- `getCode` -/
def ConnectivityAgentError.code : ConnectivityAgentError → UInt32
  | .noError => 0
  | .other => 1
  | .brokenPipe => 2
  | .inconsistentData => 3
  | .handshakeFailed => 4
  | .connectFailed => 5
  | .resendAck => 6
  | .channelBusy => 7
  | .wrongFrameSequence => 8
  | .deferred => 9
  | .allocationInProgress => 10
  | .notFound => 11
  | .requestFailed => 12
  | .noFreeBuffersLeft => 13
  | .timeout => 14

namespace Common

/-! ## Op codes -/

def E_ALLOCATE_CHANNEL : UInt32 := 1
def E_DEALLOCATE_CHANNEL : UInt32 := 2
def E_ALLOCATE_CHANNEL_RESP : UInt32 := 5
def E_DEALLOCATE_CHANNEL_RESP : UInt32 := 6
def E_CONNECT_DEVICE : UInt32 := 12
def E_DISCONNECT_DEVICE : UInt32 := 13
def E_GET_DEVICE_LIST : UInt32 := 14
def E_GET_CONNECTION_ADDR : UInt32 := 100
def E_DEALLOCATE_CHANNEL_WATCHDOG : UInt32 := 200

namespace CDataAccessor

/-- The constructor without arguments. -/
def empty : CDataAccessor := ⟨0, 0, 0, []⟩

/-- `setData`: data of no length leaves the accessor what it had. -/
def setData (a : CDataAccessor) (pData : List UInt8) : CDataAccessor :=
  if pData.length > 0 then { a with mpData := pData } else a

def resetData (a : CDataAccessor) : CDataAccessor := { a with mpData := [] }

def setErrorCode (a : CDataAccessor) (err : UInt32) : CDataAccessor := { a with mErrorCode := err }

def setOpCode (a : CDataAccessor) (id : UInt32) : CDataAccessor := { a with mOperation := id }

end CDataAccessor

end Common

namespace L1

open IviLink.Common
open IviLink.Ipc (DirectionId)
open IviLink.Lib

/-- What must not happen. -/
inductive Fault
  | assertion
  /-- Bytes outside the array that was given are read. -/
  | overRead
  /-- More is copied than the destination holds. -/
  | overCopy
  /-- An element behind the end of a table is used. -/
  | badIndex
  deriving DecidableEq, Repr

/-- `n` bytes of an array, from an offset on. -/
def readAt (array : List UInt8) (offset n : Nat) : Except Fault (List UInt8) :=
  if offset + n ≤ array.length then .ok ((array.drop offset).take n) else .error .overRead

/-! ## The stub -/

/-- A requested channel, with the priority as it was received. -/
structure RawRequestedInfo where
  mType : UInt32
  mState : tChannelState
  mClientDir : DirectionId
  requested : mState = .transitionClient ∨ mState = .transitionAgent

structure RawChannelInfo where
  mState : tChannelState
  mClientDir : DirectionId
  deriving DecidableEq, Repr

structure RawStub where
  mL1ChannelRegistry : UInt32 → Option RawChannelInfo
  mRequestedMap : UInt32 → Option RawRequestedInfo
  channelAllocator : CChannelAllocator
  /-- Whether the source agent of the service channel has a buffer, the next times it is
  asked; it has none behind the end of the list. -/
  hasBuffer : List Bool
  /-- What it was given. -/
  sent : List (List UInt8)
  /-- What `serialize` makes of the connection for `E_GET_DEVICE_LIST`. -/
  device : List UInt8
  /-- The same for `E_GET_CONNECTION_ADDR`, with the error code that goes with it. -/
  connection : List UInt8 × ConnectivityAgentError

/-- A direction that clients' requests come from. `DirectionIdGen` never returns -1. -/
structure ClientDirection where
  id : DirectionId
  valid : id ≠ -1

namespace RawStub

/-- The element of `mRegistry` for a priority, which `openTransmissionChannel` takes as a
`UInt8`. -/
def registryOf (prio : UInt32) : Option TChannelPriority :=
  match prio.toNat % 256 with
  | 0 => some .safetyCritical
  | 1 => some .realTime
  | 2 => some .plainData
  | _ => none

/-- `CChannelAllocator::allocateChannel`, down to the registry of the transmit dispatcher. -/
def allocateChannel (a : CChannelAllocator) (prio : UInt32) (channel_id : UInt32) :
    Except Fault (CChannelAllocator × ConnectivityAgentError) :=
  match a.mpL0Interface with
  | none => .ok (a, .other)
  | some _ =>
    match registryOf prio with
    | none => .error .badIndex
    | some i => .ok (a.allocateChannel i channel_id)

def allocateChannelLocally (l : RawStub) (channel_id : UInt32) (req_info : RawRequestedInfo) :
    Except Fault (RawStub × ConnectivityAgentError) :=
  if (l.mL1ChannelRegistry channel_id).isSome then .error .assertion
  else do
    let result ← allocateChannel l.channelAllocator req_info.mType channel_id
    let l := { l with channelAllocator := result.1 }
    if result.2.isNoError then
      return ({ l with
        mL1ChannelRegistry := Function.update l.mL1ChannelRegistry channel_id
          (some ⟨req_info.mState, req_info.mClientDir⟩) }, result.2)
    else return (l, result.2)

/-- `beginAllocateChannel`; the direction is that of a client, or -1 for the other side. -/
def beginAllocateChannel (l : RawStub) (prio : UInt32) (channel_id : UInt32)
    (client : Option ClientDirection) : Except Fault (RawStub × ConnectivityAgentError) :=
  match l.mL1ChannelRegistry channel_id with
  | some _ => .ok (l, .channelBusy)
  | none =>
    match l.mRequestedMap channel_id with
    | none =>
      let info : RawRequestedInfo := match client with
        | some dir => ⟨prio, .transitionClient, dir.id, .inl rfl⟩
        | none => ⟨prio, .transitionAgent, -1, .inr rfl⟩
      .ok ({ l with mRequestedMap := Function.update l.mRequestedMap channel_id (some info) },
        if client.isSome then .noError else .deferred)
    | some info =>
      if client.isNone ∨ info.mState = .transitionAgent then do
        let info := match client with
          | some dir => { info with mClientDir := dir.id }
          | none => info
        let (l, result) ← l.allocateChannelLocally channel_id info
        if result = .deferred then .error .assertion
        else
          return ({ l with mRequestedMap := Function.update l.mRequestedMap channel_id none }, result)
      else .ok (l, .allocationInProgress)

/-- `endAllocateChannel`, with the direction it leaves in `dirId`. -/
def endAllocateChannel (l : RawStub) (channel_id : UInt32) (dirId : DirectionId) :
    RawStub × UInt32 × DirectionId :=
  match l.mL1ChannelRegistry channel_id with
  | none => (l, ConnectivityAgentError.notFound.code, dirId)
  | some info =>
    ({ l with
      mL1ChannelRegistry := Function.update l.mL1ChannelRegistry channel_id
        (some { info with mState := .operational }) },
      if info.mState = .transitionAgent then ConnectivityAgentError.deferred.code else 0,
      info.mClientDir)

/-- `failAllocateChannel` -/
def failAllocateChannel (l : RawStub) (channel_id : UInt32) : RawStub :=
  let l := { l with mRequestedMap := Function.update l.mRequestedMap channel_id none }
  match l.mL1ChannelRegistry channel_id with
  | none => l
  | some _ =>
    { l with
      channelAllocator := (l.channelAllocator.deallocateChannel channel_id).1
      mL1ChannelRegistry := Function.update l.mL1ChannelRegistry channel_id none }

def deallocateChannel (l : RawStub) (channel_id : UInt32) : RawStub × ConnectivityAgentError :=
  match l.mL1ChannelRegistry channel_id with
  | none => (l, .notFound)
  | some _ =>
    let result := l.channelAllocator.deallocateChannel channel_id
    ({ l with channelAllocator := result.1 }, result.2)

/-- The entry is taken out of the registry. -/
def unregister (l : RawStub) (channel_id : UInt32) : RawStub :=
  { l with mL1ChannelRegistry := Function.update l.mL1ChannelRegistry channel_id none }

/-! ## Service messages -/

/-- A word in network order, in memory. -/
def be32 (x : UInt32) : List UInt8 := le32 (swap32 x)

/-- A word in memory, in host order. -/
def ofBE32 (l : List UInt8) : UInt32 := swap32 (ofLE32 l)

/-- The bytes `sendRequest` puts in a buffer, in front of the data. -/
def header (a : CDataAccessor) : List UInt8 :=
  le16 (swap16 (UInt16.ofNat (a.getObjectSize + 2))) ++ be32 a.mOperation ++ be32 a.mChannelID
    ++ be32 (UInt32.ofNat a.getDataSize) ++ be32 a.mErrorCode

def encode (a : CDataAccessor) : List UInt8 := header a ++ a.mpData

/-- `L1InterfaceStub::sendRequest`. A buffer larger than `MAX_SIZE` fails the assertion of
`reserveSize`. -/
def sendRequest (l : RawStub) (accessor : CDataAccessor) :
    Except Fault (RawStub × ConnectivityAgentError) :=
  if accessor.getObjectSize + 2 ≤ MAX_SIZE then
    if l.hasBuffer.headD false then
      .ok ({ l with hasBuffer := l.hasBuffer.tail, sent := l.sent ++ [encode accessor] }, .noError)
    else .ok ({ l with hasBuffer := l.hasBuffer.tail }, .noFreeBuffersLeft)
  else .error .assertion

/-- A word that a handler takes from the accessor's data. -/
def dataWord (accessor : CDataAccessor) : Except Fault UInt32 := do
  let bytes ← readAt accessor.mpData 0 4
  return ofLE32 bytes

def processServiceAllocateRequest (l : RawStub) (accessor : CDataAccessor) :
    Except Fault (RawStub × CDataAccessor) := do
  let channel_id := accessor.mChannelID
  let prio ← dataWord accessor
  let err := accessor.mErrorCode
  let accessor := (accessor.setOpCode E_ALLOCATE_CHANNEL_RESP).resetData
  if err ≠ 0 then return (l.failAllocateChannel channel_id, accessor.setErrorCode err)
  else
    let (l, err) ← l.beginAllocateChannel prio channel_id none
    if err ≠ .deferred then
      let accessor := accessor.setErrorCode err.code
      let (l, _) ← l.sendRequest accessor
      return (l, accessor)
    else return (l, accessor)

def processServiceDeallocateRequest (l : RawStub) (accessor : CDataAccessor) :
    Except Fault (RawStub × CDataAccessor) := do
  let channel_id := accessor.mChannelID
  let (l, ret) := l.deallocateChannel channel_id
  let accessor := (accessor.setOpCode E_DEALLOCATE_CHANNEL_RESP).setData (le32 ret.code)
  let (l, _) ← l.sendRequest accessor
  return (if ret.isNoError then l.unregister channel_id else l, accessor)

def processServiceAllocateResponse (l : RawStub) (accessor : CDataAccessor) :
    Except Fault (RawStub × CDataAccessor) := do
  let channel_id := accessor.mChannelID
  let (l, err, dirId) :=
    if accessor.mErrorCode = 0 then l.endAllocateChannel channel_id (-1)
    else (l, accessor.mErrorCode, -1)
  let (l, err, accessor) ←
    if accessor.mErrorCode = 0 ∧ err = ConnectivityAgentError.deferred.code then do
      let accessor := accessor.setErrorCode 0
      let (l, sent) ← l.sendRequest accessor
      pure (l, sent.code, accessor)
    else pure (l, err, accessor)
  if err ≠ 0 ∨ dirId = -1 then
    return (l.failAllocateChannel channel_id, accessor.setErrorCode err)
  else return (l, accessor)

def processServiceDeallocateResponse (l : RawStub) (accessor : CDataAccessor) :
    Except Fault (RawStub × CDataAccessor) := do
  let channel_id := accessor.mChannelID
  let errCode ← dataWord accessor
  if errCode = 0 then
    let (l, ret) := l.deallocateChannel channel_id
    return (if ret.isNoError then l.unregister channel_id else l, accessor)
  else return (l, accessor)

/-- `mServiceCallbacksMap` -/
def mServiceCallbacksMap (operation : UInt32) :
    Option (RawStub → CDataAccessor → Except Fault (RawStub × CDataAccessor)) :=
  if operation = E_ALLOCATE_CHANNEL then some processServiceAllocateRequest
  else if operation = E_DEALLOCATE_CHANNEL then some processServiceDeallocateRequest
  else if operation = E_ALLOCATE_CHANNEL_RESP then some processServiceAllocateResponse
  else if operation = E_DEALLOCATE_CHANNEL_RESP then some processServiceDeallocateResponse
  else none

/-- One message from the front of what is left of the buffer, into the accessor that the
message before it was read into; the rest of the buffer. -/
def decode (accessor : CDataAccessor) (rest : List UInt8) :
    Except Fault (CDataAccessor × List UInt8) := do
  let buf_length ← readAt rest 0 2
  if (swap16 (ofLE16 buf_length)).toNat ≤ rest.length then
    let operation ← readAt rest 2 4
    let channel_id ← readAt rest 6 4
    let data_size ← readAt rest 10 4
    let error_code ← readAt rest 14 4
    let accessor := { accessor with
      mOperation := ofBE32 operation, mChannelID := ofBE32 channel_id, mErrorCode := ofBE32 error_code }
    let data ← readAt rest 18 (ofBE32 data_size).toNat
    return (accessor.setData data, rest.drop (18 + (ofBE32 data_size).toNat))
  else .error .assertion

/-! ### What one message is -/

/-- The length a message tells of itself. It is checked, and not used. -/
def bufLength (rest : List UInt8) : Nat := (swap16 (ofLE16 (rest.take 2))).toNat

/-- The size it tells of its data. -/
def dataSize (rest : List UInt8) : Nat := (ofBE32 ((rest.drop 10).take 4)).toNat

/-- The message at the front of the bytes. -/
def message (rest : List UInt8) : CDataAccessor where
  mOperation := ofBE32 ((rest.drop 2).take 4)
  mChannelID := ofBE32 ((rest.drop 6).take 4)
  mErrorCode := ofBE32 ((rest.drop 14).take 4)
  mpData := (rest.drop 18).take (dataSize rest)

/-- The accessor that has held `a` after it was filled with the message `m`. -/
def refill (a m : CDataAccessor) : CDataAccessor := { m with mpData := a.mpData }.setData m.mpData

/-- All of the message lies in the bytes, and the length it tells is no longer than they are. -/
structure Readable (rest : List UInt8) : Prop where
  inside : 18 + dataSize rest ≤ rest.length
  length : bufLength rest ≤ rest.length

instance (rest : List UInt8) : Decidable (Readable rest) :=
  decidable_of_iff (18 + dataSize rest ≤ rest.length ∧ bufLength rest ≤ rest.length)
    ⟨fun h => ⟨h.1, h.2⟩, fun h => ⟨h.1, h.2⟩⟩

theorem readAt_ok {array : List UInt8} {offset n : Nat} (h : offset + n ≤ array.length) :
    readAt array offset n = .ok ((array.drop offset).take n) := if_pos h

theorem readAt_eq_ok {array bytes : List UInt8} {offset n : Nat} :
    readAt array offset n = .ok bytes
      ↔ offset + n ≤ array.length ∧ (array.drop offset).take n = bytes := check_ok

theorem decode_eq {a : CDataAccessor} {rest : List UInt8} (h : Readable rest) :
    decode a rest = .ok (refill a (message rest), rest.drop (18 + dataSize rest)) := by
  have hin := h.inside
  unfold decode
  refine bind_ok.mpr ⟨_, readAt_ok (by omega), (if_pos h.length).trans ?_⟩
  refine bind_ok.mpr ⟨_, readAt_ok (by omega), bind_ok.mpr ⟨_, readAt_ok (by omega), ?_⟩⟩
  refine bind_ok.mpr ⟨_, readAt_ok (by omega), bind_ok.mpr ⟨_, readAt_ok (by omega), ?_⟩⟩
  exact bind_ok.mpr ⟨_, readAt_ok hin, rfl⟩

theorem fine_decode {a : CDataAccessor} {rest : List UInt8} :
    Fine (decode a rest) ↔ Readable rest := by
  constructor
  · intro h
    unfold decode at h
    obtain ⟨len, hlen, h⟩ := fine_bind.mp h
    obtain ⟨-, rfl⟩ := readAt_eq_ok.mp hlen
    obtain ⟨hlength, h⟩ := fine_check.mp h
    obtain ⟨_, -, h⟩ := fine_bind.mp h
    obtain ⟨_, -, h⟩ := fine_bind.mp h
    obtain ⟨size, hsize, h⟩ := fine_bind.mp h
    obtain ⟨-, rfl⟩ := readAt_eq_ok.mp hsize
    obtain ⟨_, -, h⟩ := fine_bind.mp h
    obtain ⟨_, hdata, -⟩ := fine_bind.mp h
    exact ⟨(readAt_eq_ok.mp hdata).1, hlength⟩
  · intro h
    exact ⟨_, decode_eq h⟩

theorem Readable.drop_lt {rest : List UInt8} (h : Readable rest) :
    (rest.drop (18 + dataSize rest)).length < rest.length := by
  have hin := h.inside
  rw [List.length_drop]
  omega

/-! ### The loop -/

/-- What the table has for the accessor's operation is called; an unknown one is passed over. -/
def callService (l : RawStub) (accessor : CDataAccessor) :
    Except Fault (RawStub × CDataAccessor) :=
  match mServiceCallbacksMap accessor.mOperation with
  | none => .ok (l, accessor)
  | some callback => callback l accessor

/-- There is a handler for it. -/
def Known (accessor : CDataAccessor) : Prop :=
  (mServiceCallbacksMap accessor.mOperation).isSome = true

instance (accessor : CDataAccessor) : Decidable (Known accessor) :=
  inferInstanceAs (Decidable (_ = _))

/-- The handler's call, if there is a handler. -/
def called (accessor : CDataAccessor) : List CDataAccessor :=
  if Known accessor then [accessor] else []

/-- The loop of `receiveData` on the service channel: the accessors that handlers are called
with, and the stub behind the last of them. It ends where the buffer ends, so the assertion
behind it holds. -/
def receiveLoop (l : RawStub) (accessor : CDataAccessor) (rest : List UInt8) :
    List CDataAccessor × Except Fault RawStub :=
  match _h : decode accessor rest with
  | .error f => ([], .error f)
  | .ok (accessor, rest') =>
    match callService l accessor with
    | .error f => (called accessor, .error f)
    | .ok (l, left) =>
      if rest' = [] then (called accessor, .ok l)
      else
        let more := receiveLoop l left rest'
        (called accessor ++ more.1, more.2)
  termination_by rest.length
  decreasing_by
    have hread : Readable rest := fine_decode.mp ⟨_, _h⟩
    rw [decode_eq hread] at _h
    obtain ⟨-, rfl⟩ := Prod.mk.inj (Except.ok.inj _h)
    exact hread.drop_lt

/-- `L1InterfaceStub::receiveData` on the service channel. -/
def receiveServiceData (l : RawStub) (buffer : List UInt8) :
    List CDataAccessor × Except Fault RawStub :=
  if buffer.length ≤ MAX_SIZE then receiveLoop l .empty buffer else ([], .error .assertion)

/-! ## Requests of clients -/

/-- `CDataAccessor::CDataAccessor` from a payload, with every read checked. -/
def construct (pData : List UInt8) : Except Fault CDataAccessor := do
  if 12 ≤ pData.length then
    let mOperation ← readAt pData 0 4
    let mChannelID ← readAt pData 4 4
    let mDataSize ← readAt pData 8 4
    let mErrorCode ← readAt pData 12 4
    let mpData ← readAt pData 16 (ofLE32 mDataSize).toNat
    return ⟨ofLE32 mOperation, ofLE32 mChannelID, ofLE32 mErrorCode, mpData⟩
  else .error .assertion

/-- `memcpy(&prio, accessor.getData(), accessor.getDataSize())` into a word that is 0. -/
def copyToWord (data : List UInt8) : Except Fault UInt32 :=
  if data.length ≤ 4 then .ok (ofLE32 (data ++ List.replicate (4 - data.length) 0))
  else .error .overCopy

/-- `copyToRawArray` into an array of `capacity` bytes. -/
def copyOut (accessor : CDataAccessor) (capacity : Nat) : Except Fault (List UInt8) :=
  if accessor.getObjectSize ≤ capacity then .ok accessor.raw else .error .overCopy

/-- What a handler of a client's request leaves, and whether that is to be sent back. -/
abbrev ClientResult := Except Fault (RawStub × CDataAccessor × Bool)

def processClientAllocateRequest (l : RawStub) (accessor : CDataAccessor) (dir : ClientDirection) :
    ClientResult :=
  let channel_id := accessor.mChannelID
  if channel_id = CA_SERVICE_CHANNEL then
    .ok (l, accessor.resetData.setErrorCode ConnectivityAgentError.channelBusy.code, true)
  else do
    let prio ← copyToWord accessor.mpData
    let (l, err) ← l.beginAllocateChannel prio channel_id (some dir)
    let accessor := accessor.setErrorCode err.code
    let (l, err) ← if err.isNoError then l.sendRequest accessor else pure (l, err)
    if err.isNoError then return (l, accessor, false)
    else if err ≠ .deferred then
      return (l, accessor.resetData.setErrorCode err.code, true)
    else .error .assertion

def processClientDeallocateRequest (l : RawStub) (accessor : CDataAccessor)
    (_ : ClientDirection) : ClientResult :=
  let channel_id := accessor.mChannelID
  if channel_id ≠ CA_SERVICE_CHANNEL then
    match l.mL1ChannelRegistry channel_id with
    | some info => do
      let l := { l with
        mL1ChannelRegistry := Function.update l.mL1ChannelRegistry channel_id
          (some { info with mState := .transitionClient }) }
      let (l, _) ← l.sendRequest accessor
      return (l, accessor, false)
    | none => .ok (l, accessor, false)
  else .ok (l, accessor, false)

def processClientDeallocateByWD (l : RawStub) (accessor : CDataAccessor) (dir : ClientDirection) :
    ClientResult :=
  let channel_id := accessor.mChannelID
  if channel_id ≠ CA_SERVICE_CHANNEL then
    match l.mL1ChannelRegistry channel_id with
    | some info => do
      let l := { l with
        mL1ChannelRegistry := Function.update l.mL1ChannelRegistry channel_id
          (some { info with mClientDir := dir.id, mState := .transitionClient }) }
      let accessor := accessor.setOpCode E_DEALLOCATE_CHANNEL
      let (l, _) ← l.sendRequest accessor
      return (l, accessor.setErrorCode 0, true)
    | none => .ok (l, accessor.setErrorCode ConnectivityAgentError.notFound.code, true)
  else .ok (l, accessor.setErrorCode ConnectivityAgentError.other.code, true)

/-- `processClientSendRequest`. The buffers of the clients' channels are not part of this
state. -/
def processClientSendRequest (l : RawStub) (accessor : CDataAccessor) (_ : ClientDirection) :
    ClientResult :=
  let channel_id := accessor.mChannelID
  if channel_id ≠ CA_SERVICE_CHANNEL ∧ (l.mL1ChannelRegistry channel_id).isSome then
    if accessor.getDataSize ≤ MAX_SIZE then .ok (l, accessor, false) else .error .assertion
  else .ok (l, accessor, false)

def processClientGetConnectionAddrRequest (l : RawStub) (accessor : CDataAccessor)
    (_ : ClientDirection) : ClientResult :=
  .ok (l, (accessor.setData l.connection.1).setErrorCode l.connection.2.code, true)

def processClientGetDeviceList (l : RawStub) (accessor : CDataAccessor) (_ : ClientDirection) :
    ClientResult :=
  if accessor.getDataSize < 4 then
    .ok (l, accessor.resetData.setErrorCode ConnectivityAgentError.requestFailed.code, true)
  else do
    let number ← dataWord accessor
    if number ≠ 0 then
      return (l, accessor.resetData.setErrorCode ConnectivityAgentError.notFound.code, true)
    else return (l, (accessor.resetData.setData l.device).setErrorCode 0, true)

/-- `processClientConnectionRequest` has no code yet. -/
def processClientConnectionRequest (l : RawStub) (accessor : CDataAccessor)
    (_ : ClientDirection) : ClientResult := .ok (l, accessor, false)

/-- `processClientDisconnectRequest`, whose effect is in the layers below. -/
def processClientDisconnectRequest (l : RawStub) (accessor : CDataAccessor)
    (_ : ClientDirection) : ClientResult := .ok (l, accessor, false)

/-- `mClientsCallbacksMap` -/
def mClientsCallbacksMap (operation : UInt32) :
    Option (RawStub → CDataAccessor → ClientDirection → ClientResult) :=
  if operation = E_ALLOCATE_CHANNEL then some processClientAllocateRequest
  else if operation = E_DEALLOCATE_CHANNEL then some processClientDeallocateRequest
  else if operation = E_SEND_DATA then some processClientSendRequest
  else if operation = E_GET_CONNECTION_ADDR then some processClientGetConnectionAddrRequest
  else if operation = E_DEALLOCATE_CHANNEL_WATCHDOG then some processClientDeallocateByWD
  else if operation = E_CONNECT_DEVICE then some processClientConnectionRequest
  else if operation = E_DISCONNECT_DEVICE then some processClientDisconnectRequest
  else if operation = E_GET_DEVICE_LIST then some processClientGetDeviceList
  else none

/-- What the table has for a request is called; an unknown one is answered. -/
def callClient (l : RawStub) (pReq : CDataAccessor) (dirId : ClientDirection) : ClientResult :=
  match mClientsCallbacksMap pReq.mOperation with
  | none => .ok (l, pReq.resetData.setErrorCode ConnectivityAgentError.notFound.code, true)
  | some callback => callback l pReq dirId

/-- `L1InterfaceStub::OnRequest`, with the bytes of its response. -/
def OnRequest (l : RawStub) (pPayload : List UInt8) (bufferSize : Nat) (dirId : ClientDirection) :
    Except Fault (RawStub × List UInt8) := do
  let pReq ← construct pPayload
  let (l, pReq, sendResult) ← l.callClient pReq dirId
  if sendResult ∧ bufferSize ≥ pReq.getObjectSize then
    let pResponseBuffer ← copyOut pReq bufferSize
    return (l, pResponseBuffer)
  else return (l, [])

/-- `L1InterfaceStub::OnAsyncRequest` -/
def OnAsyncRequest (l : RawStub) (pPayload : List UInt8) (dirId : ClientDirection) :
    Except Fault RawStub := do
  let pReq ← construct pPayload
  let (l, _, _) ← l.callClient pReq dirId
  return l

/-- Bytes from outside. -/
inductive Arrival
  /-- A buffer of the service channel. -/
  | serviceData (buffer : List UInt8)
  | request (pPayload : List UInt8) (bufferSize : Nat) (dirId : ClientDirection)
  | asyncRequest (pPayload : List UInt8) (dirId : ClientDirection)

def handle (l : RawStub) : Arrival → Except Fault RawStub
  | .serviceData buffer => (l.receiveServiceData buffer).2
  | .request pPayload bufferSize dirId => do
    let (l, _) ← l.OnRequest pPayload bufferSize dirId
    return l
  | .asyncRequest pPayload dirId => l.OnAsyncRequest pPayload dirId

end RawStub

end L1

end IviLink
