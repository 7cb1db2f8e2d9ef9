import IviLink.Common.CConnectivityAgentProxy
import IviLink.L1.ServiceCodec
import IviLink.Lib.Run

/-!
# The calls of a client on its proxy

`CConnectivityAgentProxy`, the part that opens and closes channels. The agent
answers a request twice: IPC brings an empty response at once, and the result
comes later as an asynchronous request of the agent's own. The thread that
receives it parks the result of a deallocation under its channel id, and the
call takes what it finds there; a notification that the other side has deleted
the channel parks an empty accessor.

A step is what a thread does inside one critical section. Calls that are refused
before they touch anything shared (no `mpIpc`, a bad id) are no steps.
-/

namespace IviLink.Common.ProxyCalls

open IviLink.Lib

/-- What kind of call it is, with the channel info it holds. -/
inductive Kind
  | deallocateChannel (info : tChannelInfo)
  | deallocateChannelForcibly
  deriving DecidableEq, Repr

/-- Where a call is. -/
inductive Phase
  /-- Its IPC request has not come back. -/
  | requesting
  /-- It waits for a result under its channel id. -/
  | waiting
  /-- It has its result, and the registry is to be put right. -/
  | result (error : UInt32)
  /-- Its channel id is still in `mChannelOnDeallocSet`. -/
  | leaving (error : UInt32)
  | returned (error : UInt32)
  deriving DecidableEq, Repr

structure Call where
  /-- Calls are counted from 0. -/
  id : Nat
  channel_id : UInt32
  kind : Kind
  /-- The request has reached the agent. -/
  reached : Bool
  /-- The IPC request failed. -/
  requestFailed : Bool
  phase : Phase
  deriving DecidableEq, Repr

/-- A call of `deallocateChannel` for a channel that has no result yet. -/
def Call.Awaits (c : Call) (channel_id : UInt32) : Prop :=
  c.kind ≠ .deallocateChannelForcibly ∧ c.channel_id = channel_id
    ∧ (c.phase = .requesting ∨ c.phase = .waiting)

instance (c : Call) (channel_id : UInt32) : Decidable (c.Awaits channel_id) :=
  inferInstanceAs (Decidable (_ ∧ _))

structure AllocateRequestInfo where
  mpClient : Nat
  mRequestDone : Bool
  mResult : UInt32
  deriving DecidableEq, Repr

structure State where
  mChannelRegistry : UInt32 → Option tChannelInfo
  mChannelOnDeallocSet : List UInt32
  mAllocateRequestMap : UInt32 → Option AllocateRequestInfo
  mDeallocateRequestResultMap : UInt32 → Option CDataAccessor
  /-- Calls of `allocateChannel` that have found their channel unknown. -/
  allocating : List (UInt32 × Nat)
  calls : List Call
  /-- What the agent has answered, by the call it has answered. -/
  answers : List (Nat × UInt32)
  /-- The calls that were told of a deletion by the other side. -/
  notified : List Nat

inductive Event
  | allocateChannel (channel_id : UInt32) (observer : Option Nat)
  /-- The call that found the channel unknown enters its request. -/
  | insertRequest (channel_id : UInt32) (observer : Nat)
  /-- Its IPC request fails or is refused at once. -/
  | allocateFailed (channel_id : UInt32)
  /-- `E_ALLOCATE_CHANNEL_RESP` -/
  | allocateResponse (channel_id errorCode : UInt32)
  /-- The waiting call finds its request done. -/
  | allocateDone (channel_id : UInt32)
  | deallocateChannel (channel_id : UInt32)
  | deallocateChannelForcibly (channel_id : UInt32)
  /-- The request of the call reaches the agent, maybe after IPC has given it up. -/
  | reach (call : Nat)
  /-- IPC returns with the agent's response; only a forcible call looks at it. -/
  | requestDone (call : Nat) (errorCode : UInt32)
  /-- IPC returns an error: the request timed out, or was not sent, or the connection was lost. -/
  | requestFailed (call : Nat)
  /-- `E_DEALLOCATE_CHANNEL_RESP`, the agent's answer to the call. -/
  | response (call : Nat) (errorCode data : UInt32)
  /-- `E_DEALLOCATE_CHANNEL_NTF` -/
  | notification (channel_id : UInt32)
  /-- The call finds a result. -/
  | take (call : Nat)
  /-- It puts the channel back if it could not be deleted. -/
  | restore (call : Nat)
  /-- It removes its channel id from the set and returns. -/
  | finish (call : Nat)
  deriving DecidableEq, Repr

/-- `std::set::erase` -/
def erase (set : List UInt32) (channel_id : UInt32) : List UInt32 :=
  set.filter (fun i => i ≠ channel_id)

/-- What `deallocateChannel` makes of the accessor it finds. -/
def resultOf (channel_id : UInt32) (responseDA : CDataAccessor) : UInt32 :=
  if responseDA.mpData ≠ [] then
    if responseDA.mOperation = E_DEALLOCATE_CHANNEL_RESP
        ∧ channel_id = responseDA.mChannelID then
      ofLE32 (responseDA.mpData.take 4)
    else ConnectivityAgentError.requestFailed.code
  else ConnectivityAgentError.noError.code

/-- The accessor of the agent's answer. -/
def deallocateChannelResp (channel_id errorCode data : UInt32) : CDataAccessor :=
  ⟨E_DEALLOCATE_CHANNEL_RESP, channel_id, errorCode, le32 data⟩

namespace State

def find (s : State) (call : Nat) : Option Call := s.calls.find? (fun c => c.id = call)

def setCall (s : State) (c : Call) : State :=
  { s with calls := s.calls.map (fun d => if d.id = c.id then c else d) }

/-- A new call. -/
def start (s : State) (channel_id : UInt32) (kind : Kind) : State :=
  { s with
    mChannelOnDeallocSet := s.mChannelOnDeallocSet.insert channel_id
    calls := s.calls ++ [⟨s.calls.length, channel_id, kind, false, false, .requesting⟩] }

/-- A result is parked. -/
def park (s : State) (channel_id : UInt32) (responseDA : CDataAccessor) : State :=
  { s with
    mDeallocateRequestResultMap :=
      Function.update s.mDeallocateRequestResultMap channel_id (some responseDA) }

/-- `CConnectivityAgentProxy::receiveAllocateChannelResponse` -/
def receiveAllocateChannelResponse (s : State) (channel_id errorCode : UInt32) : State :=
  match s.mAllocateRequestMap channel_id with
  | none => s
  | some info =>
    { s with
      mAllocateRequestMap := Function.update s.mAllocateRequestMap channel_id
        (some ⟨info.mpClient, true, errorCode⟩)
      mChannelRegistry :=
        if errorCode = ConnectivityAgentError.noError.code then
          Function.update s.mChannelRegistry channel_id
            (some (CConnectivityAgentProxy.allocated info.mpClient))
        else s.mChannelRegistry }

/-- `CConnectivityAgentProxy::channelDeletedNotification` -/
def channelDeletedNotification (s : State) (channel_id : UInt32) : State :=
  match s.mChannelRegistry channel_id with
  | none =>
    if channel_id ∈ s.mChannelOnDeallocSet then
      { s.park channel_id .empty with
        notified := s.notified
          ++ (s.calls.filter (fun c => c.Awaits channel_id)).map Call.id }
    else s
  | some _ => { s with mChannelRegistry := Function.update s.mChannelRegistry channel_id none }

/-- IPC has brought the response to a call's request. -/
def requestDone (s : State) (c : Call) (errorCode : UInt32) : State :=
  match c.kind with
  | .deallocateChannel _ => s.setCall { c with phase := .waiting }
  | .deallocateChannelForcibly =>
    if errorCode = ConnectivityAgentError.notFound.code then
      { s.setCall { c with phase := .returned 0 } with
        mChannelOnDeallocSet := erase s.mChannelOnDeallocSet c.channel_id }
    else s.setCall { c with phase := .waiting }

/-- It has brought an error. The forcible call leaves the set as it is. -/
def requestFailed (s : State) (c : Call) : State :=
  match c.kind with
  | .deallocateChannel _ =>
    s.setCall { c with
      requestFailed := true
      phase := .result ConnectivityAgentError.requestFailed.code }
  | .deallocateChannelForcibly => s.setCall { c with requestFailed := true, phase := .returned 0 }

/-- The call takes the result there is, and removes it. -/
def take (s : State) (c : Call) (responseDA : CDataAccessor) : State :=
  { s.setCall { c with
      phase := match c.kind with
        | .deallocateChannel _ => .result (resultOf c.channel_id responseDA)
        | .deallocateChannelForcibly => .leaving 0 } with
    mDeallocateRequestResultMap :=
      Function.update s.mDeallocateRequestResultMap c.channel_id none }

/-- What a call of `deallocateChannel` does with its result. -/
def restore (s : State) (c : Call) (info : tChannelInfo) (error : UInt32) : State :=
  if error = ConnectivityAgentError.noError.code then s.setCall { c with phase := .leaving error }
  else
    match s.mChannelRegistry c.channel_id with
    | some _ => s.setCall { c with phase := .leaving ConnectivityAgentError.notFound.code }
    | none =>
      { s.setCall { c with phase := .leaving error } with
        mChannelRegistry := Function.update s.mChannelRegistry c.channel_id (some info) }

/-- A proxy that was not used yet. -/
def initial : State :=
  ⟨fun _ => none, [], fun _ => none, fun _ => none, [], [], [], []⟩

end State

/-- One step. -/
def next (s : State) : Event → Option State
  | .allocateChannel channel_id observer =>
    match observer with
    | none => some s
    | some client =>
      if 0 < channel_id ∧ channel_id ≤ 0xFFFF ∧ s.mChannelRegistry channel_id = none then
        some { s with allocating := s.allocating ++ [(channel_id, client)] }
      else some s
  | .insertRequest channel_id client =>
    if (channel_id, client) ∈ s.allocating then
      let allocating := s.allocating.erase (channel_id, client)
      match s.mAllocateRequestMap channel_id with
      | some _ => some { s with allocating := allocating }
      | none =>
        some { s with
          allocating := allocating
          mAllocateRequestMap := Function.update s.mAllocateRequestMap channel_id
            (some ⟨client, false, ConnectivityAgentError.other.code⟩) }
    else none
  | .allocateFailed channel_id =>
    match s.mAllocateRequestMap channel_id with
    | none => none
    | some _ =>
      some { s with
        mAllocateRequestMap := Function.update s.mAllocateRequestMap channel_id none }
  | .allocateResponse channel_id errorCode =>
    some (s.receiveAllocateChannelResponse channel_id errorCode)
  | .allocateDone channel_id =>
    match s.mAllocateRequestMap channel_id with
    | none => none
    | some info =>
      if info.mRequestDone then
        some { s with
          mAllocateRequestMap := Function.update s.mAllocateRequestMap channel_id none }
      else none
  | .deallocateChannel channel_id =>
    match s.mChannelRegistry channel_id with
    | none => some s
    | some info =>
      some { s.start channel_id (.deallocateChannel info) with
        mChannelRegistry := Function.update s.mChannelRegistry channel_id none }
  | .deallocateChannelForcibly channel_id =>
    some (s.start channel_id .deallocateChannelForcibly)
  | .reach call =>
    match s.find call with
    | none => none
    | some c =>
      if c.phase = .requesting ∨ c.requestFailed then some (s.setCall { c with reached := true })
      else none
  | .requestDone call errorCode =>
    match s.find call with
    | none => none
    | some c =>
      if c.phase = .requesting ∧ c.reached then some (s.requestDone c errorCode) else none
  | .requestFailed call =>
    match s.find call with
    | none => none
    | some c => if c.phase = .requesting then some (s.requestFailed c) else none
  | .response call errorCode data =>
    match s.find call with
    | none => none
    | some c =>
      if c.reached then
        some { s.park c.channel_id (deallocateChannelResp c.channel_id errorCode data) with
          answers := s.answers ++ [(call, data)] }
      else none
  | .notification channel_id => some (s.channelDeletedNotification channel_id)
  | .take call =>
    match s.find call with
    | none => none
    | some c =>
      if c.phase = .waiting then
        match s.mDeallocateRequestResultMap c.channel_id with
        | none => none
        | some responseDA => some (s.take c responseDA)
      else none
  | .restore call =>
    match s.find call with
    | none => none
    | some c =>
      match c.kind, c.phase with
      | .deallocateChannel info, .result error => some (s.restore c info error)
      | _, _ => none
  | .finish call =>
    match s.find call with
    | none => none
    | some c =>
      match c.phase with
      | .leaving error =>
        some { s.setCall { c with phase := .returned error } with
          mChannelOnDeallocSet := erase s.mChannelOnDeallocSet c.channel_id }
      | _ => none

end IviLink.Common.ProxyCalls
