import IviLink.L0.Peers
import IviLink.L1.L1InterfaceStub

/-!
# Two connectivity agents

The L1 stubs of two connected agents with the service channel between them. What a
stub is called for comes from its clients, from the other side, or from the timeout
manager. Clients are known by the directions `CIpc` numbers from 1.
-/

namespace IviLink.L1

open IviLink.Ipc (DirectionId)
open IviLink.L0 (Side L0Interface)
open IviLink.Lib

namespace L1InterfaceStub

inductive Call
  | allocate (channel_id : UInt32) (prio : TChannelPriority) (dirId : DirectionId) (env : Env)
  | deallocate (channel_id : UInt32) (env : Env)
  | deallocateByWD (channel_id : UInt32) (dirId : DirectionId) (env : Env)
  | timeout (env : Env)

def call (l : L1InterfaceStub) : Call → Option Handled
  | .allocate channel_id prio dirId env =>
    if 0 < dirId then l.processClientAllocateRequest env channel_id prio dirId else none
  | .deallocate channel_id env => some (l.processClientDeallocateRequest env channel_id)
  | .deallocateByWD channel_id dirId env =>
    if 0 < dirId then some (l.processClientDeallocateByWD env channel_id dirId) else none
  | .timeout env => l.processTopTimeout env

/-- `receiveData` on the service channel. -/
def receive (l : L1InterfaceStub) (env : Env) : ServiceMessage → Option Handled
  | .allocateChannel channel_id prio errorCode =>
    l.processServiceAllocateRequest env channel_id prio errorCode
  | .allocateChannelResp channel_id errorCode =>
    some (l.processServiceAllocateResponse env channel_id errorCode)
  | .deallocateChannel channel_id => some (l.processServiceDeallocateRequest env channel_id)
  | .deallocateChannelResp channel_id data =>
    some (l.processServiceDeallocateResponse channel_id data)

/-- A stub whose agent has just made its first connection. -/
def connected : L1InterfaceStub :=
  ({ init with channelAllocator := ⟨some .init⟩ }.OnConnected).getD init

end L1InterfaceStub

abbrev Agents := Duplex Side L1InterfaceStub ServiceMessage (DirectionId × ClientMessage)

namespace Agents

abbrev Action := Duplex.Action Side L1InterfaceStub.Call Env

def machine : Machine L1InterfaceStub L1InterfaceStub.Call Env ServiceMessage
    (DirectionId × ClientMessage) :=
  ⟨L1InterfaceStub.call, L1InterfaceStub.receive⟩

def init : Agents := ⟨fun _ => .connected, fun _ => [], fun _ => []⟩

def step (w : Agents) (a : Action) : Option Agents := Duplex.step machine Side.other w a

end Agents

end IviLink.L1
