import IviLink.Ipc.Socket
import IviLink.L1.CChannelAllocator
import IviLink.Lib.Duplex

/-!
# `L1InterfaceStub`

How channels are allocated and deallocated. A channel exists when a client on each
side has asked for it. The first request is announced to the other side over the
service channel and waits there for that side's client; the second opens the
channel and announces itself back; responses then make it operational on both
sides. A client that deallocates announces that too, and each side closes its own
end.

What has been asked for and is not open yet is in `mRequestedMap`; what is open is
in `mL1ChannelRegistry`. The handlers hold the locks of both while they look and
change, so a handler is one step here. An `assert` that fails is `none`.
-/

namespace IviLink.L1

open IviLink.Ipc (DirectionId)
open IviLink.Lib (Reaction)

/-- `CA_SERVICE_CHANNEL` -/
def CA_SERVICE_CHANNEL : UInt32 := 0

inductive tChannelState
  | undefined
  /-- The channel was requested from this side. -/
  | transitionClient
  /-- The channel was requested from the other side. -/
  | transitionAgent
  | operational
  deriving DecidableEq, Repr

/-- An open channel. -/
structure tL1ChannelInfo where
  mState : tChannelState
  mType : TChannelPriority
  mClientDir : DirectionId
  deriving DecidableEq, Repr

/-- A channel that was requested and is not open yet. -/
structure tRequestedChannelInfo where
  mType : TChannelPriority
  mState : tChannelState
  mClientDir : DirectionId
  deriving DecidableEq, Repr

/-- `tOpCode`, the codes that are used below. -/
inductive tOpCode
  | allocateChannel
  | deallocateChannel
  | allocateChannelResp
  | deallocateChannelResp
  | deallocateChannelNtf
  deriving DecidableEq, Repr

/-- An accessor on the service channel: its op code with the fields the handlers read. -/
inductive ServiceMessage
  | allocateChannel (channel_id : UInt32) (prio : TChannelPriority)
      (errorCode : ConnectivityAgentError)
  | allocateChannelResp (channel_id : UInt32) (errorCode : ConnectivityAgentError)
  | deallocateChannel (channel_id : UInt32)
  /-- The code of the result is the data. -/
  | deallocateChannelResp (channel_id : UInt32) (data : ConnectivityAgentError)
  deriving DecidableEq, Repr

/-- What a client is sent, in a response or a request of its own. -/
inductive ClientMessage
  | allocateChannelResp (channel_id : UInt32) (errorCode : ConnectivityAgentError)
  | deallocateChannelResp (channel_id : UInt32) (data : ConnectivityAgentError)
  | deallocateChannelNtf (channel_id : UInt32)
  /-- The response to `E_DEALLOCATE_CHANNEL_WATCHDOG`. -/
  | deallocateByWDResp (channel_id : UInt32) (errorCode : ConnectivityAgentError)
  | connectionLostNtf
  deriving DecidableEq, Repr

/-- `RequestTimeout` with the time it is due, in milliseconds. -/
structure RequestTimeout where
  mRequest : tOpCode
  mChannelID : UInt32
  timeoutTime : Nat
  deriving DecidableEq, Repr

structure L1InterfaceStub where
  mL1ChannelRegistry : UInt32 → Option tL1ChannelInfo
  mRequestedMap : UInt32 → Option tRequestedChannelInfo
  mClientDirections : List DirectionId
  /-- `mSubscriberMap` of the `TimeoutManager`: a multimap, in the order of its keys. -/
  mTimeoutManager : List RequestTimeout
  channelAllocator : CChannelAllocator

/-- What surrounds a handler: the time, in milliseconds, and whether the source agent of the
service channel has a free buffer. -/
structure Env where
  now : Nat
  hasBuffer : Bool
  deriving DecidableEq, Repr

namespace L1InterfaceStub

abbrev Handled := Reaction L1InterfaceStub ServiceMessage (DirectionId × ClientMessage)

/-- Before the first connection. -/
def init : L1InterfaceStub := ⟨fun _ => none, fun _ => none, [], [], ⟨none⟩⟩

/-- `TimeoutManager::addSubscriber` -/
def addSubscriber (l : L1InterfaceStub) (mRequest : tOpCode) (channel_id : UInt32) (now ms : Nat) :
    L1InterfaceStub :=
  let t : RequestTimeout := ⟨mRequest, channel_id, now + ms⟩
  { l with
    mTimeoutManager := l.mTimeoutManager.takeWhile (fun u => u.timeoutTime ≤ t.timeoutTime)
      ++ t :: l.mTimeoutManager.dropWhile fun u => u.timeoutTime ≤ t.timeoutTime }

/-- `sendRequest`. The service channel takes the message if it has a buffer for it. -/
def sendRequest (env : Env) (accessor : ServiceMessage) :
    List ServiceMessage × ConnectivityAgentError :=
  if env.hasBuffer then ([accessor], .noError) else ([], .noFreeBuffersLeft)

/-! ## Channels -/

def allocateChannelLocally (l : L1InterfaceStub) (channel_id : UInt32)
    (req_info : tRequestedChannelInfo) : Option (L1InterfaceStub × ConnectivityAgentError) :=
  if l.mL1ChannelRegistry channel_id = none
      ∧ (req_info.mState = .transitionAgent ∨ req_info.mState = .transitionClient) then
    let result := l.channelAllocator.allocateChannel req_info.mType channel_id
    let l := { l with channelAllocator := result.1 }
    if result.2.isNoError then
      some ({ l with
        mL1ChannelRegistry := Function.update l.mL1ChannelRegistry channel_id
          (some ⟨req_info.mState, req_info.mType, req_info.mClientDir⟩) }, result.2)
    else some (l, result.2)
  else none

/-- `beginAllocateChannel`, with the direction it leaves in `dirId`. -/
def beginAllocateChannel (l : L1InterfaceStub) (prio : TChannelPriority) (channel_id : UInt32)
    (client_side : Bool) (dirId : DirectionId) :
    Option (L1InterfaceStub × ConnectivityAgentError × DirectionId) :=
  match l.mL1ChannelRegistry channel_id with
  | some _ => some (l, .channelBusy, dirId)
  | none =>
    match l.mRequestedMap channel_id with
    | none =>
      if (client_side ∧ dirId ≠ -1) ∨ (¬ client_side ∧ dirId = -1) then
        some ({ l with
          mRequestedMap := Function.update l.mRequestedMap channel_id
            (some ⟨prio, if client_side then .transitionClient else .transitionAgent, dirId⟩) },
          if client_side then .noError else .deferred, dirId)
      else none
    | some info =>
      if ¬ client_side ∨ info.mState = .transitionAgent then
        let dirId := if client_side then dirId else info.mClientDir
        match l.allocateChannelLocally channel_id { info with mClientDir := dirId } with
        | none => none
        | some (l, result) =>
          if result = .deferred then none
          else
            some ({ l with mRequestedMap := Function.update l.mRequestedMap channel_id none },
              result, dirId)
      else some (l, .allocationInProgress, dirId)

/-- `endAllocateChannel`, with the direction it leaves in `dirId`. -/
def endAllocateChannel (l : L1InterfaceStub) (channel_id : UInt32) (dirId : DirectionId) :
    L1InterfaceStub × ConnectivityAgentError × DirectionId :=
  match l.mL1ChannelRegistry channel_id with
  | none => (l, .notFound, dirId)
  | some info =>
    ({ l with
      mL1ChannelRegistry := Function.update l.mL1ChannelRegistry channel_id
        (some { info with mState := .operational }) },
      if info.mState = .transitionAgent then .deferred else .noError, info.mClientDir)

/-- `failAllocateChannel`, with the direction it leaves in `dirId`. -/
def failAllocateChannel (l : L1InterfaceStub) (channel_id : UInt32) (dirId : DirectionId) :
    L1InterfaceStub × DirectionId :=
  let dirId := match l.mRequestedMap channel_id with
    | none => dirId
    | some info => info.mClientDir
  let l := { l with mRequestedMap := Function.update l.mRequestedMap channel_id none }
  match l.mL1ChannelRegistry channel_id with
  | none => (l, dirId)
  | some info =>
    ({ l with
      channelAllocator := (l.channelAllocator.deallocateChannel channel_id).1
      mL1ChannelRegistry := Function.update l.mL1ChannelRegistry channel_id none },
      info.mClientDir)

def deallocateChannel (l : L1InterfaceStub) (channel_id : UInt32) :
    L1InterfaceStub × ConnectivityAgentError :=
  match l.mL1ChannelRegistry channel_id with
  | none => (l, .notFound)
  | some _ =>
    let result := l.channelAllocator.deallocateChannel channel_id
    ({ l with channelAllocator := result.1 }, result.2)

/-- The entry is taken out of the registry. -/
def unregister (l : L1InterfaceStub) (channel_id : UInt32) : L1InterfaceStub :=
  { l with mL1ChannelRegistry := Function.update l.mL1ChannelRegistry channel_id none }

/-! ## Requests of clients -/

def processClientAllocateRequest (l : L1InterfaceStub) (env : Env) (channel_id : UInt32)
    (prio : TChannelPriority) (dirId : DirectionId) : Option Handled :=
  if channel_id = CA_SERVICE_CHANNEL then
    some ⟨l, [], [(dirId, .allocateChannelResp channel_id .channelBusy)]⟩
  else
    match l.beginAllocateChannel prio channel_id true dirId with
    | none => none
    | some (l, err, _) =>
      let request := if err.isNoError then sendRequest env (.allocateChannel channel_id prio err)
        else ([], err)
      if request.2.isNoError then some ⟨l, request.1, []⟩
      else if request.2 = .deferred then none
      else some ⟨l, request.1, [(dirId, .allocateChannelResp channel_id request.2)]⟩

def processClientDeallocateRequest (l : L1InterfaceStub) (env : Env) (channel_id : UInt32) :
    Handled :=
  if channel_id = CA_SERVICE_CHANNEL then ⟨l, [], []⟩
  else
    match l.mL1ChannelRegistry channel_id with
    | none => ⟨l, [], []⟩
    | some info =>
      let l := { l with
        mL1ChannelRegistry := Function.update l.mL1ChannelRegistry channel_id
          (some { info with mState := .transitionClient }) }
      ⟨l.addSubscriber .deallocateChannel channel_id env.now 250000,
        (sendRequest env (.deallocateChannel channel_id)).1, []⟩

/-- The watchdog of the channel supervisor deallocates a channel; it is told the end of it. -/
def processClientDeallocateByWD (l : L1InterfaceStub) (env : Env) (channel_id : UInt32)
    (dirId : DirectionId) : Handled :=
  if channel_id = CA_SERVICE_CHANNEL then
    ⟨l, [], [(dirId, .deallocateByWDResp channel_id .other)]⟩
  else
    match l.mL1ChannelRegistry channel_id with
    | none => ⟨l, [], [(dirId, .deallocateByWDResp channel_id .notFound)]⟩
    | some info =>
      let l := { l with
        mL1ChannelRegistry := Function.update l.mL1ChannelRegistry channel_id
          (some { info with mClientDir := dirId, mState := .transitionClient }) }
      ⟨l.addSubscriber .deallocateChannel channel_id env.now 250000,
        (sendRequest env (.deallocateChannel channel_id)).1,
        [(dirId, .deallocateByWDResp channel_id .noError)]⟩

/-! ## The service channel -/

/-- `sendIpcNotification`, where there is a client to send it to. -/
def sendIpcNotification (accessor : ClientMessage) (dirId : DirectionId) :
    List (DirectionId × ClientMessage) :=
  if dirId ≠ -1 then [(dirId, accessor)] else []

def processServiceAllocateRequest (l : L1InterfaceStub) (env : Env) (channel_id : UInt32)
    (prio : TChannelPriority) (errorCode : ConnectivityAgentError) : Option Handled :=
  if ¬ errorCode.isNoError then
    let failed := l.failAllocateChannel channel_id (-1)
    some ⟨failed.1, [],
      sendIpcNotification (.allocateChannelResp channel_id errorCode) failed.2⟩
  else
    match l.beginAllocateChannel prio channel_id false (-1) with
    | none => none
    | some (l, err, dirId) =>
      if err = .deferred then
        some ⟨l.addSubscriber .allocateChannel channel_id env.now 250000, [], []⟩
      else
        some ⟨l, (sendRequest env (.allocateChannelResp channel_id err)).1,
          if err.isNoError then []
          else sendIpcNotification (.allocateChannelResp channel_id err) dirId⟩

def processServiceAllocateResponse (l : L1InterfaceStub) (env : Env) (channel_id : UInt32)
    (errorCode : ConnectivityAgentError) : Handled :=
  let ended := if errorCode.isNoError then l.endAllocateChannel channel_id (-1)
    else (l, errorCode, -1)
  let answer := if errorCode.isNoError ∧ ended.2.1 = .deferred then
      sendRequest env (.allocateChannelResp channel_id .noError)
    else ([], ended.2.1)
  if ¬ answer.2.isNoError ∨ ended.2.2 = -1 then
    let failed := ended.1.failAllocateChannel channel_id ended.2.2
    ⟨failed.1, answer.1,
      sendIpcNotification (.allocateChannelResp channel_id answer.2) failed.2⟩
  else
    ⟨ended.1, answer.1,
      sendIpcNotification (.allocateChannelResp channel_id .noError) ended.2.2⟩

def processServiceDeallocateRequest (l : L1InterfaceStub) (env : Env) (channel_id : UInt32) :
    Handled :=
  let closed := l.deallocateChannel channel_id
  let sent := (sendRequest env (.deallocateChannelResp channel_id closed.2)).1
  if closed.2.isNoError then
    match closed.1.mL1ChannelRegistry channel_id with
    | none => ⟨closed.1, sent, []⟩
    | some info =>
      ⟨closed.1.unregister channel_id, sent,
        [(info.mClientDir, .deallocateChannelNtf channel_id)]⟩
  else ⟨closed.1, sent, []⟩

def processServiceDeallocateResponse (l : L1InterfaceStub) (channel_id : UInt32)
    (data : ConnectivityAgentError) : Handled :=
  if data.isNoError then
    let closed := l.deallocateChannel channel_id
    if closed.2.isNoError then
      match closed.1.mL1ChannelRegistry channel_id with
      | none => ⟨closed.1, [], []⟩
      | some info =>
        ⟨closed.1.unregister channel_id, [],
          [(info.mClientDir, .deallocateChannelResp channel_id data)]⟩
    else ⟨closed.1, [], []⟩
  else ⟨l, [], []⟩

/-! ## Timeouts -/

/-- `RequestTimeout::onTimeout` -/
def onTimeout (l : L1InterfaceStub) (env : Env) (t : RequestTimeout) : Handled :=
  match t.mRequest with
  | .allocateChannel =>
    match l.mL1ChannelRegistry t.mChannelID with
    | some _ => ⟨l, [], []⟩
    | none =>
      ⟨{ l with mRequestedMap := Function.update l.mRequestedMap t.mChannelID none },
        (sendRequest env (.allocateChannelResp t.mChannelID .timeout)).1, []⟩
  | .deallocateChannel =>
    match l.mL1ChannelRegistry t.mChannelID with
    | none => ⟨l, [], []⟩
    | some info =>
      ⟨l, [], [(info.mClientDir, .deallocateChannelResp t.mChannelID .timeout)]⟩
  | _ => ⟨l, [], []⟩

/-- `TimeoutManager::processTopTimeout` -/
def processTopTimeout (l : L1InterfaceStub) (env : Env) : Option Handled :=
  match l.mTimeoutManager with
  | [] => none
  | t :: rest =>
    if t.timeoutTime ≤ env.now then some ({ l with mTimeoutManager := rest }.onTimeout env t)
    else none

/-! ## Connections -/

/-- `OnConnected`, without the unlocking of the carrier. The service channel is allocated. -/
def OnConnected (l : L1InterfaceStub) : Option L1InterfaceStub :=
  (l.allocateChannelLocally CA_SERVICE_CHANNEL ⟨.safetyCritical, .transitionClient, -1⟩).map
    Prod.fst

/-- `OnDisconnected`: every client is notified. -/
def OnDisconnected (l : L1InterfaceStub) : Handled :=
  ⟨l, [], l.mClientDirections.map fun dirId => (dirId, .connectionLostNtf)⟩

end L1InterfaceStub

end IviLink.L1
