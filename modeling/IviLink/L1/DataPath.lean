import IviLink.Common.CDataAccessor
import IviLink.L0.CSource
import IviLink.L1.L1InterfaceStub

/-!
# Data through the L1 stub

The way of a client's data through its agent, and of the other side's to a client.
What a client sends goes into a buffer of the channel's source agent; a frame that
was received goes to the client as one asynchronous request of its own.

`sendData` checks no size, it asserts one, and what it returns is lost: the request
was asynchronous and the client has gone on.
-/

namespace IviLink.L1

open IviLink.Common
open IviLink.Ipc (DirectionId Failure Process)
open IviLink.L0 (CSource)

structure CSourceAgent where
  /-- The addresses of the free buffers. -/
  mBufferQueue : List Nat
  mpBufferConsumer : Option CSource
  deriving DecidableEq, Repr

namespace CSourceAgent

/-- The constructor, with the buffers it makes and no consumer registered. -/
def new : CSourceAgent := ⟨List.range QUEUE_SIZE, none⟩

def returnBufferBack (s : CSourceAgent) (buffer : Nat) : CSourceAgent :=
  { s with mBufferQueue := s.mBufferQueue ++ [buffer] }

/-- `CSourceAgent::fillBuffer` -/
def fillBuffer (s : CSourceAgent) (buffer : List UInt8) : CSourceAgent × ConnectivityAgentError :=
  match s.mpBufferConsumer with
  | none => (s, .other)
  | some source =>
    match s.mBufferQueue with
    | [] => (s, .noFreeBuffersLeft)
    | buf :: rest =>
      (⟨rest, some (source.consumeBuffer (some ⟨buf, buffer⟩)).1⟩, .noError)

end CSourceAgent

/-- The `mpSourceAgent` of every entry of `mL1ChannelRegistry`. -/
abbrev SourceAgents := UInt32 → Option CSourceAgent

/-- The assertion of `Buffer::reserveSize`. -/
def reserveSize (size : Nat) : Except Failure Unit :=
  if ¬ size ≤ MAX_SIZE then .error .assertion else .ok ()

namespace SourceAgents

/-- `L1InterfaceStub::sendData` -/
def sendData (l : SourceAgents) (accessor : CDataAccessor) :
    Except Failure (SourceAgents × ConnectivityAgentError) :=
  match l accessor.mChannelID with
  | none => .ok (l, .notFound)
  | some mpSourceAgent =>
    let size := accessor.getDataSize
    if ¬ size ≤ MAX_SIZE then .error .assertion
    else
      match reserveSize size with
      | .error f => .error f
      | .ok _ =>
        let filled := mpSourceAgent.fillBuffer accessor.mpData
        .ok (Function.update l accessor.mChannelID (some filled.1), filled.2)

/-- `L1InterfaceStub::processClientSendRequest`: nobody hears of the result. -/
def processClientSendRequest (l : SourceAgents) (accessor : CDataAccessor) :
    Except Failure SourceAgents :=
  if accessor.mChannelID ≠ CA_SERVICE_CHANNEL then
    match l.sendData accessor with
    | .error f => .error f
    | .ok (l, _) => .ok l
  else .ok l

/-- `L1InterfaceStub::OnAsyncRequest`, of whose operations this is the only one that clients
request without waiting. -/
def OnAsyncRequest (l : SourceAgents) (pPayload : List UInt8) : Except Failure SourceAgents :=
  match CDataAccessor.ofRawArray pPayload pPayload.length with
  | .error f => .error f
  | .ok pReq => if pReq.mOperation = E_SEND_DATA then l.processClientSendRequest pReq else .ok l

/-- What the socket hands on, to the stub. -/
def handle (l : SourceAgents) : Ipc.Event → Except Failure SourceAgents
  | .trigger _ payload _ => l.OnAsyncRequest payload
  | _ => .ok l

end SourceAgents

/-- The agent as its clients' requests reach it. -/
abbrev Agent := Process SourceAgents

def Agent.read (a : Agent) : DirectionId → List (List UInt8) → Except Failure Agent :=
  Process.read SourceAgents.handle a

/-- The accessor `receiveData` builds. -/
def receiveDataNotification (buffer : List UInt8) (channel_id : UInt32) : CDataAccessor :=
  ⟨E_RECEIVE_DATA_NTF, channel_id, 0, buffer⟩

/-- `L1InterfaceStub::receiveData` on a client's channel: the bytes it gives to `asyncRequest`. -/
def receiveData (buffer : List UInt8) (channel_id : UInt32) : Except Failure (List UInt8) :=
  if ¬ buffer.length ≤ MAX_SIZE then .error .assertion
  else if ¬ buffer.length > 0 then .error .assertion
  else
    let accessor := receiveDataNotification buffer channel_id
    accessor.copyToRawArray accessor.getObjectSize

/-! ## What they do -/

/-- Data that fits a buffer goes to the source agent, and data that does not ends the agent. -/
theorem SourceAgents.sendData_eq {l : SourceAgents} (accessor : CDataAccessor) {s : CSourceAgent}
    (hs : l accessor.mChannelID = some s) (hsize : accessor.getDataSize ≤ MAX_SIZE) :
    l.sendData accessor = .ok (Function.update l accessor.mChannelID
      (some (s.fillBuffer accessor.mpData).1), (s.fillBuffer accessor.mpData).2) := by
  unfold sendData reserveSize
  simp only [hs, hsize, not_true, if_false]

/-- **No size that fits a buffer fails an assertion**, whatever the channel. -/
theorem SourceAgents.OnAsyncRequest_ok (l : SourceAgents) {accessor : CDataAccessor}
    (hsize : accessor.getDataSize ≤ MAX_SIZE) : ∃ l', l.OnAsyncRequest accessor.raw = .ok l' := by
  have hword : accessor.getDataSize < 4294967296 := by
    have : MAX_SIZE = 4096 := rfl
    omega
  unfold OnAsyncRequest
  rw [CDataAccessor.ofRawArray_raw hword]
  dsimp only
  split
  · unfold processClientSendRequest
    split
    · cases hs : l accessor.mChannelID with
      | none =>
        unfold sendData
        rw [hs]
        exact ⟨l, rfl⟩
      | some s =>
        rw [sendData_eq accessor hs hsize]
        exact ⟨_, rfl⟩
    · exact ⟨l, rfl⟩
  · exact ⟨l, rfl⟩

/-- The notification of a buffer that holds something. -/
theorem receiveData_eq {buffer : List UInt8} {channel_id : UInt32} (hne : buffer ≠ [])
    (hsize : buffer.length ≤ MAX_SIZE) :
    receiveData buffer channel_id = .ok (receiveDataNotification buffer channel_id).raw := by
  unfold receiveData
  rw [if_neg (not_not.mpr hsize), if_neg (not_not.mpr (List.length_pos_of_ne_nil hne))]
  unfold CDataAccessor.copyToRawArray
  rw [if_pos (Nat.le_refl _)]

end IviLink.L1
