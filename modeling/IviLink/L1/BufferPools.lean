import IviLink.L0.CIncomeDispatcher
import IviLink.L1.DataPath
import IviLink.Lib.Run

/-!
# Where the buffers are

Each end of a channel has `QUEUE_SIZE` buffers that are made with it and deleted
with it. On the sending side they go from the free list of the `CSourceAgent` to
the queue of the `CSource` and back, on the receiving side from the free list of
the `CTarget` to the queue of the `CTargetAgent` and back. In between they are in
the hands of an operation.

A step is what a thread does between taking a mutex and giving it back, or what it
does with a buffer it holds. The threads are the clients' requests and the timers,
which fill buffers; the transmit dispatcher; and the one that receives frames, on
which the stub handles the messages of the service channel and, when they say so,
deletes channels.

The stub's `mRegistryMutex` is held while a client's buffer is filled and while a
channel is deleted; messages on the service channel are sent with or without it.
The dispatcher's `mRegistryMutex` is held while a source is served and while it is
deleted.
-/

namespace IviLink.L1.Pools

open IviLink.Hal IviLink.L0 IviLink.Lib

/-- The sending end of a channel. -/
structure SourceSide where
  /-- The addresses of its buffers. -/
  pool : List Nat
  agent : CSourceAgent
  /-- What `fillBuffer` has taken and not handed over yet. -/
  filling : Option Buffer
  /-- What `OnDispatch` has released and not returned yet. -/
  released : List Buffer
  /-- `qcopy` of `flushBuffers`, as far as it was not returned yet. -/
  flushing : List Buffer
  deriving DecidableEq, Repr

/-- The receiving end of a channel, a `CTarget` with its `CTargetAgent`. -/
structure TargetSide where
  pool : List Nat
  /-- The addresses of the free buffers. -/
  mBufferQueue : List Nat
  /-- `CTargetAgent::mBufferQueue` -/
  queue : List Buffer
  mLastFrameNr : UInt32
  mCarrierReplaced : Bool
  deriving DecidableEq, Repr

/-- Where the thread is that receives frames. -/
inductive Receiving
  | idle
  /-- In `CTarget::receiveFrame`, with a buffer that has the frame's data. -/
  | copied (channel_id number : UInt32) (buf : Buffer)
  /-- In `CTargetAgent::consumeBuffer`, with the buffer in the queue. -/
  | queued (channel_id number : UInt32)
  /-- In `visitStub`, with a buffer the stub looks at. The agent has a producer to return it to,
  or has lost it. -/
  | inStub (channel_id number : UInt32) (buf : Buffer) (mpBufferProducer : Bool)
  deriving DecidableEq, Repr

/-- How far `deallocateChannel` is. -/
inductive Deleting
  | no
  /-- The source is being deleted. -/
  | transmission (channel_id : UInt32)
  /-- The target is to be deleted. -/
  | incoming (channel_id : UInt32)
  deriving DecidableEq, Repr

/-- An end of a channel that was deleted: its buffers, and those that were deleted with it. -/
structure Deleted where
  pool : List Nat
  freed : List Nat
  deriving DecidableEq, Repr

structure State where
  sources : UInt32 → Option SourceSide
  targets : UInt32 → Option TargetSide
  /-- The `static` of `CTarget::receiveFrame`. -/
  firstFlag : Bool
  /-- The client's channel for which the stub's mutex is held in `sendData`. -/
  sending : Option UInt32
  /-- The channel for which the dispatcher's mutex is held in `OnDispatch`. -/
  dispatching : Option UInt32
  receiving : Receiving
  deleting : Deleting
  deleted : List Deleted
  /-- The address of the next buffer that is made. -/
  allocated : Nat

inductive Event
  | openChannel (channel_id : UInt32)
  /-- `fillBuffer` takes a buffer, if there is one. -/
  | fillBuffer (channel_id : UInt32) (data : List UInt8)
  /-- It hands it to the consumer. -/
  | consumeBuffer (channel_id : UInt32)
  | OnDispatch (channel_id : UInt32) (quote : Nat)
  /-- `OnDispatch` returns a buffer it has released, or is done. -/
  | release
  /-- The stub begins to delete a channel: the source flushes its queue. -/
  | closeTransmission (channel_id : UInt32)
  /-- `flushBuffers` returns a buffer. -/
  | flush
  /-- The source agent is destroyed. -/
  | destroy
  /-- The target is deleted. -/
  | closeIncoming
  | receiveFrame (frame : Frame)
  /-- `CTargetAgent::consumeBuffer` -/
  | consume
  /-- `visitStub` takes the first buffer. -/
  | visitStub
  /-- It returns the buffer after the stub has had it. -/
  | returnBufferBack (result : ConnectivityAgentError)
  | replaceCarrier
  deriving DecidableEq, Repr

/-! ## The sides -/

namespace SourceSide

/-- A source and its agent, registered with each other. -/
def new (channel_id : UInt32) (address : Nat) : SourceSide :=
  { pool := List.range' address QUEUE_SIZE
    agent := ⟨List.range' address QUEUE_SIZE, some (.new channel_id)⟩
    filling := none, released := [], flushing := [] }

/-- The consumer takes the buffer that `fillBuffer` has filled. -/
def consumeBuffer (s : SourceSide) (source : CSource) (buf : Buffer) : SourceSide :=
  { s with
    agent := { s.agent with mpBufferConsumer := some (source.consumeBuffer (some buf)).1 }
    filling := none }

/-- The two halves make the whole. -/
theorem fillBuffer_consumeBuffer {s : SourceSide} {source : CSource} {buf : Nat} {rest : List Nat}
    (hconsumer : s.agent.mpBufferConsumer = some source)
    (hqueue : s.agent.mBufferQueue = buf :: rest) (data : List UInt8) :
    ({ s with agent.mBufferQueue := rest }.consumeBuffer source ⟨buf, data⟩).agent
      = (s.agent.fillBuffer data).1 := by
  unfold CSourceAgent.fillBuffer consumeBuffer
  simp only [hconsumer, hqueue]

def flushBuffers (s : SourceSide) (source : CSource) : SourceSide :=
  { s with
    agent := { s.agent with mpBufferConsumer := some source.flushBuffers.1 }
    flushing := source.flushBuffers.2 }

end SourceSide

namespace TargetSide

/-- The constructor of `CTarget`. -/
def new (address : Nat) : TargetSide :=
  ⟨List.range' address QUEUE_SIZE, List.range' address QUEUE_SIZE, [], 0, false⟩

/-- The number is not the one that is due, and the check is on. -/
def Refuses (t : TargetSide) (firstFlag : Bool) (number : UInt32) : Prop :=
  firstFlag = false ∧ t.mCarrierReplaced = false ∧ number ≠ t.mLastFrameNr + 1

instance (t : TargetSide) (firstFlag : Bool) (number : UInt32) :
    Decidable (t.Refuses firstFlag number) := inferInstanceAs (Decidable (_ ∧ _))

/-- `returnBufferBack`, and what `receiveFrame` notes when the frame was taken. -/
def returnBufferBack (t : TargetSide) (buf : Buffer) (number : UInt32)
    (result : ConnectivityAgentError) : TargetSide :=
  { t with
    mBufferQueue := t.mBufferQueue ++ [buf.address]
    mLastFrameNr := if result.isNoError then number else t.mLastFrameNr
    mCarrierReplaced := if result.isNoError then false else t.mCarrierReplaced }

end TargetSide

/-! ## Steps -/

namespace State

def setSource (s : State) (channel_id : UInt32) (side : SourceSide) : State :=
  { s with sources := Function.update s.sources channel_id (some side) }

def setTarget (s : State) (channel_id : UInt32) (side : TargetSide) : State :=
  { s with targets := Function.update s.targets channel_id (some side) }

/-- The stub's `mRegistryMutex` is free. -/
def stubFree (s : State) : Prop := s.sending = none ∧ s.deleting = .no

instance (s : State) : Decidable s.stubFree := inferInstanceAs (Decidable (_ ∧ _))

/-- The dispatcher's `mRegistryMutex` is not held by who deletes a source. -/
def dispatcherFree (s : State) : Prop :=
  match s.deleting with
  | .transmission _ => False
  | _ => True

instance (s : State) : Decidable s.dispatcherFree := by
  unfold dispatcherFree
  split <;> infer_instance

/-- The stub's handler of a service message may delete a channel. -/
def handling (s : State) : Prop :=
  match s.receiving with
  | .inStub channel_id _ _ _ => channel_id = CA_SERVICE_CHANNEL
  | _ => False

instance (s : State) : Decidable s.handling := by
  unfold handling
  split <;> infer_instance

end State

/-- One step. -/
def next (s : State) : Event → Option State
  | .openChannel channel_id =>
    if s.stubFree ∧ s.dispatching = none then
      match s.sources channel_id, s.targets channel_id with
      | none, none =>
        some { s with
          sources := Function.update s.sources channel_id
            (some (.new channel_id s.allocated))
          targets := Function.update s.targets channel_id
            (some (.new (s.allocated + QUEUE_SIZE)))
          allocated := s.allocated + QUEUE_SIZE + QUEUE_SIZE }
      | _, _ => some s
    else none
  | .fillBuffer channel_id data =>
    if channel_id = CA_SERVICE_CHANNEL ∨ s.stubFree then
      match s.sources channel_id with
      | none => some s
      | some side =>
        match side.filling, side.agent.mpBufferConsumer, side.agent.mBufferQueue with
        | some _, _, _ => none
        | none, none, _ => some s
        | none, some _, [] => some s
        | none, some _, buf :: rest =>
          some { s.setSource channel_id { side with
              agent := { side.agent with mBufferQueue := rest }
              filling := some ⟨buf, data⟩ } with
            sending := if channel_id ≠ CA_SERVICE_CHANNEL then some channel_id else s.sending }
    else none
  | .consumeBuffer channel_id =>
    match s.sources channel_id with
    | none => none
    | some side =>
      match side.filling, side.agent.mpBufferConsumer with
      | some buf, some source =>
        some { s.setSource channel_id (side.consumeBuffer source buf) with
          sending := if channel_id ≠ CA_SERVICE_CHANNEL then none else s.sending }
      | _, _ => none
  | .OnDispatch channel_id quote =>
    if s.dispatching = none ∧ s.dispatcherFree then
      match s.sources channel_id with
      | none => none
      | some side =>
        match side.agent.mpBufferConsumer with
        | none => none
        | some source =>
          match source.OnDispatch quote with
          | none => some s
          | some (source, _, released_buffers) =>
            some { s.setSource channel_id { side with
                agent := { side.agent with mpBufferConsumer := some source }
                released := released_buffers } with
              dispatching := some channel_id }
    else none
  | .release =>
    match s.dispatching with
    | none => none
    | some channel_id =>
      match s.sources channel_id with
      | none => none
      | some side =>
        match side.released with
        | [] => some { s with dispatching := none }
        | buf :: rest =>
          if side.filling = none then
            some (s.setSource channel_id { side with
              agent := side.agent.returnBufferBack buf.address
              released := rest })
          else none
  | .closeTransmission channel_id =>
    if s.handling ∧ s.stubFree ∧ s.dispatching = none then
      match s.sources channel_id with
      | none => some { s with deleting := .incoming channel_id }
      | some side =>
        match side.agent.mpBufferConsumer with
        | none => none
        | some source =>
          some { s.setSource channel_id (side.flushBuffers source) with
            deleting := .transmission channel_id }
    else none
  | .flush =>
    match s.deleting with
    | .transmission channel_id =>
      match s.sources channel_id with
      | none => none
      | some side =>
        match side.flushing with
        | [] => none
        | buf :: rest =>
          if side.filling = none then
            some (s.setSource channel_id { side with
              agent := side.agent.returnBufferBack buf.address
              flushing := rest })
          else none
    | _ => none
  | .destroy =>
    match s.deleting with
    | .transmission channel_id =>
      match s.sources channel_id with
      | none => none
      | some side =>
        if side.flushing = [] then
          some { s with
            sources := Function.update s.sources channel_id none
            deleting := .incoming channel_id
            deleted := ⟨side.pool, side.agent.mBufferQueue⟩ :: s.deleted }
        else none
    | _ => none
  | .closeIncoming =>
    match s.deleting with
    | .incoming channel_id =>
      match s.targets channel_id with
      | none => some { s with deleting := .no }
      | some side =>
        some { s with
          targets := Function.update s.targets channel_id none
          deleting := .no
          -- `flushBuffers` of the agent comes first
          deleted := ⟨side.pool, side.mBufferQueue ++ side.queue.map Buffer.address⟩ :: s.deleted
          receiving := match s.receiving with
            | .inStub visited number buf mpBufferProducer =>
              .inStub visited number buf (mpBufferProducer && visited ≠ channel_id)
            | r => r }
    | _ => none
  | .receiveFrame frame =>
    if s.receiving = .idle then
      match s.targets frame.channel_id with
      | none => some s
      | some side =>
        if side.Refuses s.firstFlag frame.number then some s
        else
          match side.mBufferQueue with
          | [] => some s
          | buf :: rest =>
            some { s.setTarget frame.channel_id { side with mBufferQueue := rest } with
              receiving := .copied frame.channel_id frame.number
                ⟨buf, CTarget.copyFromFrame frame⟩ }
    else none
  | .consume =>
    match s.receiving with
    | .copied channel_id number buf =>
      match s.targets channel_id with
      | none => none
      | some side =>
        some { s.setTarget channel_id { side with queue := side.queue ++ [buf] } with
          receiving := .queued channel_id number }
    | _ => none
  | .visitStub =>
    match s.receiving with
    | .queued channel_id number =>
      match s.targets channel_id with
      | none => none
      | some side =>
        match side.queue with
        | [] => some { s with receiving := .idle }
        | buf :: rest =>
          some { s.setTarget channel_id { side with queue := rest } with
            receiving := .inStub channel_id number buf true }
    | _ => none
  | .returnBufferBack result =>
    match s.receiving with
    | .inStub channel_id number buf mpBufferProducer =>
      -- a null `mpBufferProducer` is dereferenced
      if s.deleting = .no ∧ mpBufferProducer then
        match s.targets channel_id with
        | none => none
        | some side =>
          some { s.setTarget channel_id (side.returnBufferBack buf number result) with
            firstFlag := if result.isNoError then false else s.firstFlag
            receiving := .idle }
      else none
    | _ => none
  | .replaceCarrier =>
    some { s with
      targets := fun channel_id => (s.targets channel_id).map fun side =>
        { side with mCarrierReplaced := true } }

/-- No channel is open. -/
def State.initial : State :=
  { sources := fun _ => none, targets := fun _ => none, firstFlag := true, sending := none
    dispatching := none, receiving := .idle, deleting := .no, deleted := [], allocated := 0 }

end IviLink.L1.Pools
