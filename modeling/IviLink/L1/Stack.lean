import IviLink.Common.CConnectivityAgentProxy
import IviLink.L0.CIncomeDispatcher
import IviLink.L0.CTransmitDispatcher
import IviLink.L1.DataPath
import IviLink.Lib.Run
import IviLink.Proof.IpcReceive

/-!
# One channel from client to client

Everything a client's data goes through on its way to the client at the other end:
the proxy, the agent, the channel's source and the frames it is cut into, the agent
on the other side, and that client's proxy with its buffer and its callbacks. The
client there is one that takes each notification for a whole message: it reads as
many bytes as it was told of and parses them (`NegotiatorTube::onDataReceived`,
`PmpProtocol::onDataReceived`).

Below the agents the channel is taken for what it is meant to be, a link that
delivers the frames in order and each once. What IPC sends arrives in two pieces,
the header and the payload, so that nothing that happens here is the socket's fault.
-/

namespace IviLink.L1

open IviLink.Common
open IviLink.Hal (Frame)
open IviLink.Ipc
open IviLink.L0 (CSource CTarget)
open IviLink.L0.CTransmitDispatcher (getQuoteBySourceType)

/-- What the socket hands on, to the proxy. -/
def handleNotification (p : CConnectivityAgentProxy) :
    Ipc.Event → Except Failure CConnectivityAgentProxy
  | .trigger _ payload _ => p.OnAsyncRequest payload
  | _ => .ok p

abbrev Client := Process CConnectivityAgentProxy

def Client.read (c : Client) : DirectionId → List (List UInt8) → Except Failure Client :=
  Process.read handleNotification c

/-- A trigger as it arrives. -/
def triggerPieces (id : MsgId) (payload : List UInt8) : List (List UInt8) :=
  [(Message.header ⟨.trigger, id, payload⟩).bytes, payload]

namespace SourceAgents

/-- The channel's source agent, with a consumer and a buffer for it to fill. The service channel
takes nothing from clients. -/
def takes (l : SourceAgents) (channel_id : UInt32) : Bool :=
  channel_id ≠ CA_SERVICE_CHANNEL &&
    match l channel_id with
    | none => false
    | some s => s.mpBufferConsumer.isSome && !s.mBufferQueue.isEmpty

/-- The dispatcher serves the channel: `OnDispatch`, and the buffers it releases go back. -/
def OnDispatch (l : SourceAgents) (channel_id : UInt32) (quote : Nat) :
    Option (SourceAgents × Frame) :=
  match l channel_id with
  | none => none
  | some s =>
    match s.mpBufferConsumer with
    | none => none
    | some source =>
      match source.OnDispatch quote with
      | none => none
      | some (source, frame, released) =>
        let s := released.foldl (fun s b => s.returnBufferBack b.address) s
        some (Function.update l channel_id (some { s with mpBufferConsumer := some source }), frame)

end SourceAgents

structure Stack where
  sender : CConnectivityAgentProxy
  agent : Agent
  /-- Frames of the channel on their way. -/
  link : List Frame
  client : Client
  /-- What the client here has sent and its agent has taken. -/
  sent : List (List UInt8)
  /-- What the client there has parsed. -/
  parsed : List (List UInt8)

namespace Stack

inductive Action
  | sendData (env : ProxyEnv) (id : MsgId) (dir : DirectionId) (data : List UInt8)
  | dispatch
  /-- The next frame arrives, and the agent passes its data on. -/
  | receiveFrame (id : MsgId) (dir : DirectionId)
  /-- The callback thread of the proxy takes the next callback. -/
  | callback

/-- The client calls `sendData`, and what it has sent arrives at its agent. -/
def sendData (w : Stack) (channel_id : UInt32) (env : ProxyEnv) (id : MsgId) (dir : DirectionId)
    (data : List UInt8) : Option Stack :=
  match w.sender.sendData env channel_id (some data) with
  | .error _ => none
  | .ok (_, none) => some w
  | .ok (result, some buf) =>
    if !result.isNoError then some w
    else
      match w.agent.read dir (triggerPieces id buf) with
      | .error _ => none
      | .ok agent =>
        some { w with
          agent := agent
          sent := if w.agent.state.takes channel_id then w.sent ++ [data] else w.sent }

def dispatch (w : Stack) (channel_id : UInt32) (quote : Nat) : Option Stack :=
  match w.agent.state.OnDispatch channel_id quote with
  | none => none
  | some (l, frame) => some { w with agent.state := l, link := w.link ++ [frame] }

def receiveFrame (w : Stack) (channel_id : UInt32) (id : MsgId) (dir : DirectionId) :
    Option Stack :=
  match w.link with
  | [] => none
  | frame :: link =>
    match receiveData (CTarget.copyFromFrame frame) channel_id with
    | .error _ => none
    | .ok buf =>
      match w.client.read dir (triggerPieces id buf) with
      | .error _ => none
      | .ok client => some { w with link := link, client := client }

/-- `onDataReceived` of a client that parses what one notification is for. -/
def onDataReceived (w : Stack) (channel_id : UInt32) (read_size : Nat) : Stack :=
  let (p, data, err) := w.client.state.receiveData channel_id read_size
  { w with
    client.state := p
    parsed := if err.isNoError then w.parsed ++ [data] else w.parsed }

def callback (w : Stack) : Option Stack :=
  match w.client.state.mCallbacksQueue with
  | [] => none
  | c :: cs =>
    let w := { w with client.state.mCallbacksQueue := cs }
    match c with
    | .dataReceived _ channel_id read_size => some (w.onDataReceived channel_id read_size)
    | .bufferOverflow .. => some w

/-- One action on a channel; `none` when it is not enabled or an assertion fails. -/
def step (channel_id : UInt32) (prio : TChannelPriority) (w : Stack) : Action → Option Stack
  | .sendData env id dir data => w.sendData channel_id env id dir data
  | .dispatch => w.dispatch channel_id (getQuoteBySourceType prio)
  | .receiveFrame id dir => w.receiveFrame channel_id id dir
  | .callback => w.callback

/-- A frame that arrives finds room for its data in the buffer of the channel. -/
def Room (channel_id : UInt32) (w : Stack) : Action → Prop
  | .receiveFrame .. => ∀ frame ∈ w.link.head?, ∀ info ∈ w.client.state.mChannelRegistry channel_id,
      (CTarget.copyFromFrame frame).length ≤ info.mChannelBuffer.freeSize
  | _ => True

/-- A channel just opened on both sides. -/
structure Opened (channel_id : UInt32) (w : Stack) : Prop where
  agent : Idle w.agent.socket
  client : Idle w.client.socket
  source : ∃ free s, w.agent.state channel_id = some ⟨free, some s⟩ ∧ s.mBuffersQueue = []
  buffer : ∃ client, w.client.state.mChannelRegistry channel_id
    = some (CConnectivityAgentProxy.allocated client)
  callbacks : w.client.state.mCallbacksQueue = []
  link : w.link = []
  sent : w.sent = []
  parsed : w.parsed = []

/-- Nothing is on its way. -/
structure Delivered (channel_id : UInt32) (w : Stack) : Prop where
  source : ∀ s ∈ w.agent.state channel_id, ∀ source ∈ s.mpBufferConsumer,
    source.mBuffersQueue = []
  link : w.link = []
  callbacks : w.client.state.mCallbacksQueue = []

instance (channel_id : UInt32) (w : Stack) : Decidable (Delivered channel_id w) :=
  decidable_of_iff ((∀ s ∈ w.agent.state channel_id, ∀ source ∈ s.mpBufferConsumer,
      source.mBuffersQueue = []) ∧ w.link = [] ∧ w.client.state.mCallbacksQueue = [])
    ⟨fun h => ⟨h.1, h.2.1, h.2.2⟩, fun h => ⟨h.source, h.link, h.callbacks⟩⟩

end Stack

end IviLink.L1
