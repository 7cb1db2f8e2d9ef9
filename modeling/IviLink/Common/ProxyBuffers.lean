import IviLink.Common.ProxyCalls
import IviLink.Lib.Heap

/-!
# The buffers of a client's channels

`CConnectivityAgentProxy` once more, with the memory of its channel buffers. A
`Buffer` holds a pointer to its array, its destructor frees the array, and it is
copied with its pointer; `forgetData` is what keeps two copies from freeing one
array. `deallocateChannel` moves the registry entry of its channel into a local
`info`, and back again if the channel could not be deleted.

A step is what a thread does inside one critical section of `mRegistryMutex`,
`mAllocateRequestCond` or `mDeallocateRequestResultCond`, with the copying and the
destructors in it. A call gives back its local `info` when it returns.
-/

namespace IviLink.Common.ProxyBuffers

open IviLink.Lib
open ProxyCalls (Phase resultOf erase)

structure Buffer where
  allocated_size : Nat
  filled_size : Nat
  data : Option Nat
  deriving DecidableEq, Repr

namespace Buffer

/-- `Buffer::Buffer` -/
def new : Buffer := ⟨0, 0, none⟩

/-- `Buffer::~Buffer` -/
def destroy (b : Buffer) (memory : Heap) : Heap :=
  match b.data with
  | some data => memory.free data
  | none => memory

/-- `Buffer::forgetData` leaves `filled_size` as it is. -/
def forgetData (b : Buffer) : Buffer := { b with allocated_size := 0, data := none }

/-- `Buffer::reserveSize`. What is in a new array is not determined; nothing reads it before it
is written. -/
def reserveSize (b : Buffer) (memory : Heap) (size : Nat) : Buffer × Heap :=
  if b.data = none ∨ b.allocated_size < size then
    let freed := b.destroy memory
    ({ b with allocated_size := size, data := some freed.next },
      freed.alloc (List.replicate size 0))
  else (b, memory)

/-- `Buffer::appendData` -/
def appendData (b : Buffer) (memory : Heap) (pData : List UInt8) : Buffer × Heap :=
  if pData.length > b.allocated_size - b.filled_size then (b, memory)
  else
    ({ b with filled_size := b.filled_size + pData.length },
      memory.write b.data b.filled_size pData)

/-- The array behind the pointer. -/
def array (b : Buffer) (memory : Heap) : Option (List UInt8) := b.data.bind memory.cell

/-- The bytes that were received and not taken yet. -/
def contents (b : Buffer) (memory : Heap) : Option (List UInt8) :=
  (b.array memory).map (List.take b.filled_size)

end Buffer

structure tChannelInfo where
  mType : TChannelPriority
  mpClient : Nat
  mChannelBuffer : Buffer
  deriving DecidableEq, Repr

structure AllocateRequestInfo where
  mType : TChannelPriority
  mpClient : Nat
  mRequestDone : Bool
  mResult : UInt32
  deriving DecidableEq, Repr

/-- A `CCallbackWrapper`. -/
inductive Callback
  | dataReceived (client : Nat) (channel_id : UInt32) (read_size : Nat)
  | bufferOverflow (client : Nat) (channel_id : UInt32)
  | channelDeleted (client : Nat) (channel_id : UInt32)
  deriving DecidableEq, Repr

structure Call where
  channel_id : UInt32
  /-- It is one of `deallocateChannelForcibly`, which has no `info`. -/
  forcibly : Bool
  /-- The local `info` of `deallocateChannel`, as long as there is one. -/
  info : Option tChannelInfo
  phase : Phase
  deriving DecidableEq, Repr

structure State where
  memory : Heap
  /-- There is an `mpIpc`. -/
  mpIpc : Bool
  mChannelRegistry : UInt32 → Option tChannelInfo
  mChannelOnDeallocSet : List UInt32
  mAllocateRequestMap : UInt32 → Option AllocateRequestInfo
  mDeallocateRequestResultMap : UInt32 → Option CDataAccessor
  mCallbacksQueue : List Callback
  /-- Calls of `allocateChannel` that have found their channel unknown. -/
  allocating : List (UInt32 × TChannelPriority × Nat)
  /-- The calls that deallocate channels, by a number of their own. -/
  calls : Nat → Option Call

inductive Event
  | allocateChannel (prio : TChannelPriority) (channel_id : UInt32) (observer : Option Nat)
  /-- The call that found the channel unknown enters its request. -/
  | insertRequest (prio : TChannelPriority) (channel_id : UInt32) (observer : Nat)
  /-- Its IPC request fails or is refused at once. -/
  | allocateFailed (channel_id : UInt32)
  /-- `E_ALLOCATE_CHANNEL_RESP` -/
  | allocateResponse (channel_id errorCode : UInt32)
  /-- The waiting call finds its request done. -/
  | allocateDone (channel_id : UInt32)
  | deallocateChannel (call : Nat) (channel_id : UInt32)
  | deallocateChannelForcibly (call : Nat) (channel_id : UInt32)
  /-- IPC returns with the agent's response; only a forcible call looks at it. -/
  | requestDone (call : Nat) (errorCode : UInt32)
  /-- IPC returns an error: the request timed out, or was not sent, or the connection was lost. -/
  | requestFailed (call : Nat)
  /-- `E_DEALLOCATE_CHANNEL_RESP` -/
  | deallocateResponse (responseDA : CDataAccessor)
  /-- `E_DEALLOCATE_CHANNEL_NTF` -/
  | channelDeleted (channel_id : UInt32)
  /-- `E_RECEIVE_DATA_NTF` -/
  | dataNotification (accessor : CDataAccessor)
  | receiveData (channel_id : UInt32) (max_size : Nat)
  /-- The call finds a result. -/
  | take (call : Nat)
  /-- It puts the channel back if it could not be deleted. -/
  | restore (call : Nat)
  /-- It removes its channel id from the set and returns. -/
  | finish (call : Nat)
  deriving DecidableEq, Repr

namespace State

def setCall (s : State) (call : Nat) (c : Call) : State :=
  { s with calls := Function.update s.calls call (some c) }

def setEntry (s : State) (channel_id : UInt32) (info : Option tChannelInfo) : State :=
  { s with mChannelRegistry := Function.update s.mChannelRegistry channel_id info }

/-- `CConnectivityAgentProxy::connectIpcIfNecessary`. A connection that cannot be made again is
no error yet. -/
def connectIpcIfNecessary (s : State) : ConnectivityAgentError :=
  if s.mpIpc then .noError else .other

/-- `CConnectivityAgentProxy::allocateChannel`, up to what it finds in the registry. -/
def allocateChannel (s : State) (prio : TChannelPriority) (channel_id : UInt32)
    (observer : Option Nat) : State :=
  if !s.connectIpcIfNecessary.isNoError then s
  else
    match observer with
    | none => s
    | some client =>
      if 0 < channel_id ∧ channel_id ≤ 0xFFFF ∧ s.mChannelRegistry channel_id = none then
        { s with allocating := s.allocating ++ [(channel_id, prio, client)] }
      else s

/-- The call enters its request, if there is none for the channel. -/
def insertRequest (s : State) (prio : TChannelPriority) (channel_id : UInt32) (client : Nat) :
    State :=
  let allocating := s.allocating.erase (channel_id, prio, client)
  match s.mAllocateRequestMap channel_id with
  | some _ => { s with allocating := allocating }
  | none =>
    { s with
      allocating := allocating
      mAllocateRequestMap := Function.update s.mAllocateRequestMap channel_id
        (some ⟨prio, client, false, ConnectivityAgentError.other.code⟩) }

/-- The buffer of `mChannelRegistry[channel_id]`, which makes an entry where there is none. -/
def bufferAt (s : State) (channel_id : UInt32) : Buffer :=
  match s.mChannelRegistry channel_id with
  | none => .new
  | some info => info.mChannelBuffer

/-- `CConnectivityAgentProxy::receiveAllocateChannelResponse`. An entry that is there already
keeps its buffer. -/
def receiveAllocateChannelResponse (s : State) (channel_id errorCode : UInt32) : State :=
  match s.mAllocateRequestMap channel_id with
  | none => s
  | some info =>
    let done := { s with
      mAllocateRequestMap := Function.update s.mAllocateRequestMap channel_id
        (some { info with mRequestDone := true, mResult := errorCode }) }
    if errorCode = ConnectivityAgentError.noError.code then
      let reserved := (s.bufferAt channel_id).reserveSize s.memory MAX_SIZE
      { done.setEntry channel_id (some ⟨info.mType, info.mpClient, reserved.1⟩) with
        memory := reserved.2 }
    else done

/-- `CConnectivityAgentProxy::deallocateChannel`, up to its request. -/
def deallocateChannel (s : State) (call : Nat) (channel_id : UInt32) : State :=
  if !s.connectIpcIfNecessary.isNoError then
    s.setCall call ⟨channel_id, false, none, .returned s.connectIpcIfNecessary.code⟩
  else
    match s.mChannelRegistry channel_id with
    | none => s.setCall call
        ⟨channel_id, false, none, .returned ConnectivityAgentError.notFound.code⟩
    | some info =>
      -- the entry forgets its data before its destructor runs
      { (s.setEntry channel_id none).setCall call
          ⟨channel_id, false, some info, .requesting⟩ with
        memory := info.mChannelBuffer.forgetData.destroy s.memory
        mChannelOnDeallocSet := s.mChannelOnDeallocSet.insert channel_id }

/-- `CConnectivityAgentProxy::deallocateChannelForcibly`, up to its request. -/
def deallocateChannelForcibly (s : State) (call : Nat) (channel_id : UInt32) : State :=
  if !s.connectIpcIfNecessary.isNoError then
    s.setCall call ⟨channel_id, true, none, .returned 0⟩
  else
    { s.setCall call ⟨channel_id, true, none, .requesting⟩ with
      mChannelOnDeallocSet := s.mChannelOnDeallocSet.insert channel_id }

/-- IPC has brought the response to a call's request. -/
def requestDone (s : State) (call : Nat) (c : Call) (errorCode : UInt32) : State :=
  if c.forcibly = true ∧ errorCode = ConnectivityAgentError.notFound.code then
    { s.setCall call { c with phase := .returned 0 } with
      mChannelOnDeallocSet := erase s.mChannelOnDeallocSet c.channel_id }
  else s.setCall call { c with phase := .waiting }

/-- It has brought an error. The forcible call leaves the set as it is. -/
def requestFailed (s : State) (call : Nat) (c : Call) : State :=
  if c.forcibly = true then s.setCall call { c with phase := .returned 0 }
  else s.setCall call
    { c with phase := .result ConnectivityAgentError.requestFailed.code }

/-- `CConnectivityAgentProxy::channelDeletedNotification` -/
def channelDeletedNotification (s : State) (channel_id : UInt32) : State :=
  match s.mChannelRegistry channel_id with
  | none =>
    if channel_id ∈ s.mChannelOnDeallocSet then
      { s with
        mDeallocateRequestResultMap :=
          Function.update s.mDeallocateRequestResultMap channel_id (some .empty) }
    else s
  | some info =>
    { s.setEntry channel_id none with
      memory := info.mChannelBuffer.destroy s.memory
      mCallbacksQueue := s.mCallbacksQueue ++ [.channelDeleted info.mpClient channel_id] }

/-- `CConnectivityAgentProxy::receiveDataNotification` -/
def receiveDataNotification (s : State) (accessor : CDataAccessor) : State :=
  let channel_id := accessor.mChannelID
  match s.mChannelRegistry channel_id with
  | none => s
  | some info =>
    let buf := info.mChannelBuffer
    if buf.allocated_size - buf.filled_size < accessor.getDataSize then
      { s with mCallbacksQueue := s.mCallbacksQueue ++ [.bufferOverflow info.mpClient channel_id] }
    else
      let appended := buf.appendData s.memory accessor.mpData
      { s.setEntry channel_id (some { info with mChannelBuffer := appended.1 }) with
        memory := appended.2
        mCallbacksQueue := s.mCallbacksQueue
          ++ [.dataReceived info.mpClient channel_id accessor.getDataSize] }

/-- `CConnectivityAgentProxy::receiveData` into an array of `max_size` bytes: the bytes it leaves
there, with what it returns. -/
def receiveData (s : State) (channel_id : UInt32) (max_size : Nat) :
    State × List UInt8 × ConnectivityAgentError :=
  match s.mChannelRegistry channel_id with
  | none => (s, [], .notFound)
  | some info =>
    let buf := info.mChannelBuffer
    let bytes := (buf.array s.memory).getD []
    if buf.filled_size = 0 then (s, [], .notFound)
    else if buf.filled_size > max_size then
      -- what is left is moved to the front
      ({ s.setEntry channel_id (some { info with
            mChannelBuffer := { buf with filled_size := buf.filled_size - max_size } }) with
          memory := (s.memory.touch buf.data buf.filled_size).write buf.data 0
            ((bytes.take buf.filled_size).drop max_size) },
        bytes.take max_size, .noError)
    else
      ({ s.setEntry channel_id (some { info with mChannelBuffer := { buf with filled_size := 0 } })
          with
          memory := (s.memory.touch buf.data buf.filled_size).write buf.data 0
            (List.replicate buf.filled_size 0) },
        bytes.take buf.filled_size, .noError)

/-- The call takes the result there is, and removes it. -/
def take (s : State) (call : Nat) (c : Call) (responseDA : CDataAccessor) : State :=
  { s.setCall call { c with
      phase := if c.forcibly = true then .leaving 0
        else .result (resultOf c.channel_id responseDA) } with
    mDeallocateRequestResultMap :=
      Function.update s.mDeallocateRequestResultMap c.channel_id none }

/-- What a call of `deallocateChannel` does with its result. -/
def restore (s : State) (call : Nat) (c : Call) (info : tChannelInfo) (error : UInt32) : State :=
  if error = ConnectivityAgentError.noError.code then
    s.setCall call { c with phase := .leaving error }
  else
    match s.mChannelRegistry c.channel_id with
    | some _ => s.setCall call { c with phase := .leaving ConnectivityAgentError.notFound.code }
    | none =>
      (s.setEntry c.channel_id (some info)).setCall call
        { c with
          info := some { info with mChannelBuffer := info.mChannelBuffer.forgetData }
          phase := .leaving error }

/-- The call leaves the set, and its `info` is destroyed when it returns. -/
def finish (s : State) (call : Nat) (c : Call) (error : UInt32) : State :=
  { s.setCall call { c with info := none, phase := .returned error } with
    memory := match c.info with
      | none => s.memory
      | some info => info.mChannelBuffer.destroy s.memory
    mChannelOnDeallocSet := erase s.mChannelOnDeallocSet c.channel_id }

/-- A proxy that was not used yet. -/
def initial (mpIpc : Bool) : State :=
  ⟨.empty, mpIpc, fun _ => none, [], fun _ => none, fun _ => none, [], [], fun _ => none⟩

end State

/-- One step. -/
def next (s : State) : Event → Option State
  | .allocateChannel prio channel_id observer => some (s.allocateChannel prio channel_id observer)
  | .insertRequest prio channel_id client =>
    if (channel_id, prio, client) ∈ s.allocating then
      some (s.insertRequest prio channel_id client)
    else none
  | .allocateFailed channel_id =>
    match s.mAllocateRequestMap channel_id with
    | none => none
    | some _ =>
      some { s with
        mAllocateRequestMap := Function.update s.mAllocateRequestMap channel_id none }
  | .allocateResponse channel_id errorCode =>
    some (s.receiveAllocateChannelResponse channel_id errorCode)
  | .allocateDone channel_id =>
    match s.mAllocateRequestMap channel_id with
    | none => none
    | some info =>
      if info.mRequestDone then
        some { s with
          mAllocateRequestMap := Function.update s.mAllocateRequestMap channel_id none }
      else none
  | .deallocateChannel call channel_id =>
    match s.calls call with
    | some _ => none
    | none => some (s.deallocateChannel call channel_id)
  | .deallocateChannelForcibly call channel_id =>
    match s.calls call with
    | some _ => none
    | none => some (s.deallocateChannelForcibly call channel_id)
  | .requestDone call errorCode =>
    match s.calls call with
    | none => none
    | some c => if c.phase = .requesting then some (s.requestDone call c errorCode) else none
  | .requestFailed call =>
    match s.calls call with
    | none => none
    | some c => if c.phase = .requesting then some (s.requestFailed call c) else none
  | .deallocateResponse responseDA =>
    if responseDA.mOperation = E_DEALLOCATE_CHANNEL_RESP then
      some { s with
        mDeallocateRequestResultMap :=
          Function.update s.mDeallocateRequestResultMap responseDA.mChannelID (some responseDA) }
    else none
  | .channelDeleted channel_id => some (s.channelDeletedNotification channel_id)
  | .dataNotification accessor => some (s.receiveDataNotification accessor)
  | .receiveData channel_id max_size => some (s.receiveData channel_id max_size).1
  | .take call =>
    match s.calls call with
    | none => none
    | some c =>
      if c.phase = .waiting then
        match s.mDeallocateRequestResultMap c.channel_id with
        | none => none
        | some responseDA => some (s.take call c responseDA)
      else none
  | .restore call =>
    match s.calls call with
    | none => none
    | some c =>
      match c.info, c.phase with
      | some info, .result error => some (s.restore call c info error)
      | _, _ => none
  | .finish call =>
    match s.calls call with
    | none => none
    | some c =>
      match c.phase with
      | .leaving error => some (s.finish call c error)
      | _ => none

end IviLink.Common.ProxyBuffers
