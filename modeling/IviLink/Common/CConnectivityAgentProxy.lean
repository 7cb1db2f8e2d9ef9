import IviLink.Common.CDataAccessor
import IviLink.Common.Types
import Mathlib.Logic.Function.Basic

/-!
# `CConnectivityAgentProxy`

A client's end of its channels, the part that carries data. `sendData` packs what
the client passes into an accessor and gives it to IPC as one asynchronous request.
What comes back is copied behind the data the channel's buffer already holds, and a
callback with the number of bytes is queued for the client, who then takes that
many with `receiveData`. A notification that finds no room is dropped, and the
client is told so.
-/

namespace IviLink.Common

open IviLink.Ipc (Failure)

/-- `Buffer` as a proxy uses it: memory of a fixed size that is filled from the front. -/
structure ChannelBuffer where
  allocated_size : Nat
  /-- The first `filled_size` bytes. -/
  data : List UInt8
  deriving DecidableEq, Repr

namespace ChannelBuffer

def getFilledSize (b : ChannelBuffer) : Nat := b.data.length

/-- `reserveSize` on a buffer without memory. -/
def reserveSize (size : Nat) : ChannelBuffer := ⟨size, []⟩

def freeSize (b : ChannelBuffer) : Nat := b.allocated_size - b.getFilledSize

def appendData (b : ChannelBuffer) (pData : List UInt8) : ChannelBuffer :=
  if pData.length > b.freeSize then b else { b with data := b.data ++ pData }

end ChannelBuffer

/-- An allocated channel. -/
structure tChannelInfo where
  mpClient : Nat
  mChannelBuffer : ChannelBuffer
  deriving DecidableEq, Repr

/-- A `CCallbackWrapper` about data. -/
inductive Callback
  | dataReceived (client : Nat) (channel_id : UInt32) (read_size : Nat)
  | bufferOverflow (client : Nat) (channel_id : UInt32)
  deriving DecidableEq, Repr

structure CConnectivityAgentProxy where
  mChannelRegistry : UInt32 → Option tChannelInfo
  mCallbacksQueue : List Callback

/-- What `sendData` meets: whether there is an `mpIpc`, and whether its `asyncRequest` succeeds. -/
structure ProxyEnv where
  mpIpc : Bool
  asyncRequest : Bool
  deriving DecidableEq, Repr

namespace CConnectivityAgentProxy

/-- `const int MAX_BUF_SIZE` of `sendData` -/
def MAX_BUF_SIZE : Nat := 0xFFFF

/-- The buffer and registry entry an allocated channel gets. -/
def allocated (client : Nat) : tChannelInfo := ⟨client, .reserveSize MAX_SIZE⟩

/-- `CConnectivityAgentProxy::connectIpcIfNecessary`. A connection that cannot be made again is
no error yet. -/
def connectIpcIfNecessary (env : ProxyEnv) : ConnectivityAgentError :=
  if env.mpIpc then .noError else .other

/-- The sizes `sendData` takes: `((Int32) size > 0) && (size < MAX_BUF_SIZE)`. -/
def SizeAccepted (size : Nat) : Prop := (0 < size ∧ size < 2147483648) ∧ size < MAX_BUF_SIZE

instance (size : Nat) : Decidable (SizeAccepted size) := inferInstanceAs (Decidable (_ ∧ _))

/-- The accessor `sendData` builds. -/
def sendDataRequest (channel_id : UInt32) (data : List UInt8) : CDataAccessor :=
  ⟨E_SEND_DATA, channel_id, 0, data⟩

/-- `CConnectivityAgentProxy::sendData`, with `none` for a null pointer: what it returns, and
the bytes it has handed to `asyncRequest`. -/
def sendData (p : CConnectivityAgentProxy) (env : ProxyEnv) (channel_id : UInt32)
    (data : Option (List UInt8)) :
    Except Failure (ConnectivityAgentError × Option (List UInt8)) :=
  let res := connectIpcIfNecessary env
  if !res.isNoError then .ok (res, none)
  else
    match data with
    | none => .ok (.inconsistentData, none)
    | some data =>
      if ¬ SizeAccepted data.length then .ok (.inconsistentData, none)
      else if (p.mChannelRegistry channel_id).isNone then .ok (.notFound, none)
      else
        let requestDA := sendDataRequest channel_id data
        -- UInt8 buf[MAX_BUF_SIZE] is filled before its size is compared
        match requestDA.copyToRawArray MAX_BUF_SIZE with
        | .error f => .error f
        | .ok buf =>
          if ¬ requestDA.getObjectSize ≤ MAX_BUF_SIZE then .error .assertion
          else .ok (if env.asyncRequest then .noError else .requestFailed, some buf)

/-! ## Receiving -/

/-- `CConnectivityAgentProxy::receiveDataNotification` -/
def receiveDataNotification (p : CConnectivityAgentProxy) (accessor : CDataAccessor) :
    CConnectivityAgentProxy :=
  let channel_id := accessor.mChannelID
  match p.mChannelRegistry channel_id with
  | none => p
  | some info =>
    if info.mChannelBuffer.freeSize < accessor.getDataSize then
      { p with mCallbacksQueue := p.mCallbacksQueue ++ [.bufferOverflow info.mpClient channel_id] }
    else
      { mChannelRegistry := Function.update p.mChannelRegistry channel_id
          (some { info with mChannelBuffer := info.mChannelBuffer.appendData accessor.mpData })
        mCallbacksQueue := p.mCallbacksQueue
          ++ [.dataReceived info.mpClient channel_id accessor.getDataSize] }

/-- `CConnectivityAgentProxy::OnAsyncRequest`. Of the operations it knows only the one that
brings data is part of this module. -/
def OnAsyncRequest (p : CConnectivityAgentProxy) (payload : List UInt8) :
    Except Failure CConnectivityAgentProxy :=
  match CDataAccessor.ofRawArray payload payload.length with
  | .error f => .error f
  | .ok responseDA =>
    .ok (if responseDA.mOperation = E_RECEIVE_DATA_NTF then p.receiveDataNotification responseDA
      else p)

/-- `CConnectivityAgentProxy::receiveData` into an array of `max_size` bytes: the bytes it leaves
there, with what it returns. -/
def receiveData (p : CConnectivityAgentProxy) (channel_id : UInt32) (max_size : Nat) :
    CConnectivityAgentProxy × List UInt8 × ConnectivityAgentError :=
  match p.mChannelRegistry channel_id with
  | none => (p, [], .notFound)
  | some info =>
    let b := info.mChannelBuffer
    if b.getFilledSize = 0 then (p, [], .notFound)
    else
      let rest := if b.getFilledSize > max_size then b.data.drop max_size else []
      ({ p with
        mChannelRegistry := Function.update p.mChannelRegistry channel_id
          (some { info with mChannelBuffer := { b with data := rest } }) },
        b.data.take max_size, .noError)

/-! ## What they do -/

section sendData

variable {p : CConnectivityAgentProxy} {env : ProxyEnv} {channel_id : UInt32} {data : List UInt8}

/-- There is a connection, a size it takes, and an allocated channel. -/
def Acceptable (p : CConnectivityAgentProxy) (env : ProxyEnv) (channel_id : UInt32)
    (data : List UInt8) : Prop :=
  env.mpIpc = true ∧ SizeAccepted data.length ∧ (p.mChannelRegistry channel_id).isSome

/-- **What `sendData` takes becomes a request**, if the array has room for the accessor. -/
theorem sendData_acceptable (h : Acceptable p env channel_id data) :
    p.sendData env channel_id (some data) =
      if (sendDataRequest channel_id data).getObjectSize ≤ MAX_BUF_SIZE then
        .ok (if env.asyncRequest then .noError else .requestFailed,
          some (sendDataRequest channel_id data).raw)
      else .error .overflow := by
  obtain ⟨hipc, hsize, hreg⟩ := h
  have hnone : (p.mChannelRegistry channel_id).isNone = false := by simpa using hreg
  have hres : connectIpcIfNecessary env = .noError := by
    unfold connectIpcIfNecessary
    rw [if_pos hipc]
  unfold sendData CDataAccessor.copyToRawArray
  simp only [hres, hnone, ConnectivityAgentError.isNoError, decide_true, Bool.not_true,
    Bool.false_eq_true, if_false, if_neg (not_not.mpr hsize)]
  by_cases hfits : (sendDataRequest channel_id data).getObjectSize ≤ MAX_BUF_SIZE
  · simp only [if_pos hfits, if_neg (not_not.mpr hfits)]
  · simp only [if_neg hfits]

/-- What it does not take is refused before anything is built. -/
theorem sendData_refused (h : ¬ Acceptable p env channel_id data) :
    ∃ result, p.sendData env channel_id (some data) = .ok (result, none) := by
  unfold sendData connectIpcIfNecessary
  cases hipc : env.mpIpc with
  | false => exact ⟨.other, rfl⟩
  | true =>
    by_cases hsize : SizeAccepted data.length
    · have hreg : (p.mChannelRegistry channel_id).isNone = true := by
        by_contra hsome
        exact h ⟨hipc, hsize, by simpa [Option.isSome_iff_ne_none] using hsome⟩
      refine ⟨.notFound, ?_⟩
      simp only [if_true, ConnectivityAgentError.isNoError, decide_true, Bool.not_true,
        Bool.false_eq_true, if_false, if_neg (not_not.mpr hsize), if_pos hreg]
    · refine ⟨.inconsistentData, ?_⟩
      simp only [if_true, ConnectivityAgentError.isNoError, decide_true, Bool.not_true,
        Bool.false_eq_true, if_false, if_pos hsize]

end sendData

section receiveData

variable {p : CConnectivityAgentProxy} {accessor : CDataAccessor} {info : tChannelInfo}

/-- Data that finds room is kept behind what is there, and the client is told how much it is. -/
theorem receiveDataNotification_room
    (hinfo : p.mChannelRegistry accessor.mChannelID = some info)
    (hroom : accessor.getDataSize ≤ info.mChannelBuffer.freeSize) :
    p.receiveDataNotification accessor =
      { mChannelRegistry := Function.update p.mChannelRegistry accessor.mChannelID
          (some { info with mChannelBuffer := { info.mChannelBuffer with
            data := info.mChannelBuffer.data ++ accessor.mpData } })
        mCallbacksQueue := p.mCallbacksQueue
          ++ [.dataReceived info.mpClient accessor.mChannelID accessor.getDataSize] } := by
  have happend : info.mChannelBuffer.appendData accessor.mpData
      = { info.mChannelBuffer with data := info.mChannelBuffer.data ++ accessor.mpData } := by
    unfold ChannelBuffer.appendData
    exact if_neg (Nat.not_lt.mpr hroom)
  unfold receiveDataNotification
  simp only [hinfo, if_neg (Nat.not_lt.mpr hroom), happend]

/-- Data that does not is dropped, and the client is told that some was. -/
theorem receiveDataNotification_full
    (hinfo : p.mChannelRegistry accessor.mChannelID = some info)
    (hfull : info.mChannelBuffer.freeSize < accessor.getDataSize) :
    p.receiveDataNotification accessor =
      { p with mCallbacksQueue := p.mCallbacksQueue
          ++ [.bufferOverflow info.mpClient accessor.mChannelID] } := by
  unfold receiveDataNotification
  simp only [hinfo, if_pos hfull]

/-- One callback is put in the queue, whether there was room or not. -/
theorem receiveDataNotification_callbacks
    (hinfo : p.mChannelRegistry accessor.mChannelID = some info) :
    (p.receiveDataNotification accessor).mCallbacksQueue.length
      = p.mCallbacksQueue.length + 1 := by
  by_cases hroom : accessor.getDataSize ≤ info.mChannelBuffer.freeSize
  · rw [receiveDataNotification_room hinfo hroom, List.length_append, List.length_singleton]
  · rw [receiveDataNotification_full hinfo (Nat.not_le.mp hroom), List.length_append,
      List.length_singleton]

theorem receiveData_callbacks (channel_id : UInt32) (max_size : Nat) :
    (p.receiveData channel_id max_size).1.mCallbacksQueue = p.mCallbacksQueue := by
  unfold receiveData
  split
  · rfl
  · dsimp only
    split <;> rfl

/-- A client that asks for what it was told of gets just that, when that is the next there is. -/
theorem receiveData_first {channel_id : UInt32} {client allocated : Nat} {data rest : List UInt8}
    (hinfo : p.mChannelRegistry channel_id = some ⟨client, allocated, data ++ rest⟩)
    (hne : data ≠ []) :
    p.receiveData channel_id data.length =
      ({ p with
        mChannelRegistry := Function.update p.mChannelRegistry channel_id
          (some ⟨client, allocated, rest⟩) }, data, .noError) := by
  have hpos := List.length_pos_of_ne_nil hne
  have hfilled : (data ++ rest).length = data.length + rest.length := List.length_append
  unfold receiveData ChannelBuffer.getFilledSize
  simp only [hinfo, List.take_left, List.drop_left]
  rw [if_neg (by omega)]
  by_cases hmore : (data ++ rest).length > data.length
  · rw [if_pos hmore]
  · obtain rfl : rest = [] := List.eq_nil_of_length_eq_zero (by omega)
    rw [if_neg hmore]

end receiveData

end CConnectivityAgentProxy

end IviLink.Common
