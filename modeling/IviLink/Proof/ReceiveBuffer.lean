import IviLink.Common.CConnectivityAgentProxy

/-!
# The receive buffer is a FIFO

A channel's buffer in the proxy lies between the notifications of the agent, which
append to it, and the reads of the client, which take from its front and shift what
is left. The state here keeps, beside the proxy, what one channel has accepted and
what its client has read so far; the invariant is that the buffer is the difference.

Whether a notification was accepted is read off the callback it queues, as the
client sees it, and not off the buffer.
-/

namespace IviLink.Common

def Callback.isDataReceived : Callback → Bool
  | .dataReceived .. => true
  | .bufferOverflow .. => false

namespace CConnectivityAgentProxy

/-- What happens to the buffers of allocated channels. -/
inductive BufferOp
  /-- The agent's notification that data has arrived. -/
  | notify (accessor : CDataAccessor)
  /-- A client's `receiveData`. -/
  | read (channel_id : UInt32) (max_size : Nat)
  deriving DecidableEq, Repr

/-- The callbacks a notification adds to the queue. -/
def queuedBy (p : CConnectivityAgentProxy) (accessor : CDataAccessor) : List Callback :=
  (p.receiveDataNotification accessor).mCallbacksQueue.drop p.mCallbacksQueue.length

/-- A proxy, with the history of one channel. -/
structure Reading where
  proxy : CConnectivityAgentProxy
  /-- The data of the notifications that were answered with a `dataReceived` callback. -/
  accepted : List UInt8
  /-- What `receiveData` has returned. -/
  returned : List UInt8

namespace Reading

variable {channel_id : UInt32}

def step (channel_id : UInt32) (w : Reading) : BufferOp → Reading
  | .notify accessor =>
    { w with
      proxy := w.proxy.receiveDataNotification accessor
      accepted :=
        if accessor.mChannelID = channel_id
            ∧ (w.proxy.queuedBy accessor).any Callback.isDataReceived then
          w.accepted ++ accessor.mpData
        else w.accepted }
  | .read c max_size =>
    let (p, data, _) := w.proxy.receiveData c max_size
    { w with
      proxy := p
      returned := if c = channel_id then w.returned ++ data else w.returned }

/-- Any operations, on this channel and on others, one after the other. -/
def runs (channel_id : UInt32) (w : Reading) (ops : List BufferOp) : Reading :=
  ops.foldl (step channel_id) w

/-- The history of a channel that has just been allocated. -/
def opened (p : CConnectivityAgentProxy) : Reading := ⟨p, [], []⟩

/-- What the two histories and the buffer have to do with each other. -/
structure Fifo (channel_id : UInt32) (client allocated_size : Nat) (w : Reading) : Prop where
  /-- The buffer holds what was accepted and is not read yet. -/
  buffer : ∃ data, w.proxy.mChannelRegistry channel_id = some ⟨client, allocated_size, data⟩
    ∧ w.accepted = w.returned ++ data ∧ data.length ≤ allocated_size

/-! ## One operation -/

variable {client allocated_size : Nat} {data : List UInt8}

/-- A notification for another channel. -/
theorem receiveDataNotification_other {p : CConnectivityAgentProxy} {accessor : CDataAccessor}
    (hne : accessor.mChannelID ≠ channel_id) :
    (p.receiveDataNotification accessor).mChannelRegistry channel_id
      = p.mChannelRegistry channel_id := by
  cases hinfo : p.mChannelRegistry accessor.mChannelID with
  | none =>
    unfold receiveDataNotification
    simp only [hinfo]
  | some info =>
    rcases Nat.lt_or_ge info.mChannelBuffer.freeSize accessor.getDataSize with hfull | hroom
    · rw [receiveDataNotification_full hinfo hfull]
    · rw [receiveDataNotification_room hinfo hroom]
      exact Function.update_of_ne (Ne.symm hne) _ _

/-- A read of another channel. -/
theorem receiveData_other {p : CConnectivityAgentProxy} {c : UInt32} {max_size : Nat}
    (hne : c ≠ channel_id) :
    (p.receiveData c max_size).1.mChannelRegistry channel_id = p.mChannelRegistry channel_id := by
  unfold receiveData
  cases hinfo : p.mChannelRegistry c with
  | none => rfl
  | some info =>
    by_cases hempty : info.mChannelBuffer.getFilledSize = 0
    · simp only [if_pos hempty]
    · simp only [if_neg hempty]
      exact Function.update_of_ne (Ne.symm hne) _ _

/-- A read takes from the front what it may and leaves the rest. -/
theorem receiveData_take {p : CConnectivityAgentProxy} (max_size : Nat)
    (hinfo : p.mChannelRegistry channel_id = some ⟨client, allocated_size, data⟩) :
    (p.receiveData channel_id max_size).2.1 = data.take max_size
      ∧ (p.receiveData channel_id max_size).1.mChannelRegistry channel_id
        = some ⟨client, allocated_size, data.drop max_size⟩ := by
  unfold receiveData ChannelBuffer.getFilledSize
  rw [hinfo]
  dsimp only
  by_cases hempty : data.length = 0
  · obtain rfl := List.eq_nil_of_length_eq_zero hempty
    rw [if_pos hempty, List.take_nil, List.drop_nil]
    exact ⟨rfl, hinfo⟩
  · rw [if_neg hempty]
    refine ⟨rfl, ?_⟩
    dsimp only
    rw [Function.update_self]
    by_cases hmore : data.length > max_size
    · rw [if_pos hmore]
    · -- the whole buffer fits the client's array
      rw [if_neg hmore, List.drop_eq_nil_of_le (Nat.not_lt.mp hmore)]

section notify

variable {p : CConnectivityAgentProxy} {accessor : CDataAccessor}

/-- The notification is kept whole, and the client is told of all of it. -/
def AppendedWhole (p : CConnectivityAgentProxy) (accessor : CDataAccessor) (client : Nat)
    (data : List UInt8) (allocated_size : Nat) : Prop :=
  (p.receiveDataNotification accessor).mChannelRegistry accessor.mChannelID
      = some ⟨client, allocated_size, data ++ accessor.mpData⟩
    ∧ p.queuedBy accessor = [.dataReceived client accessor.mChannelID accessor.getDataSize]

/-- The notification leaves the buffers as they are, and the client is told of the loss. -/
def DroppedWhole (p : CConnectivityAgentProxy) (accessor : CDataAccessor) (client : Nat) : Prop :=
  (p.receiveDataNotification accessor).mChannelRegistry = p.mChannelRegistry
    ∧ p.queuedBy accessor = [.bufferOverflow client accessor.mChannelID]

/-- **A notification is kept whole if there is room for it, and dropped whole if there is not.** -/
theorem receiveDataNotification_whole
    (hinfo : p.mChannelRegistry accessor.mChannelID = some ⟨client, allocated_size, data⟩)
    (hfilled : data.length ≤ allocated_size) :
    (data.length + accessor.getDataSize ≤ allocated_size
        ∧ AppendedWhole p accessor client data allocated_size)
      ∨ (allocated_size < data.length + accessor.getDataSize ∧ DroppedWhole p accessor client) := by
  have hfree : (ChannelBuffer.mk allocated_size data).freeSize = allocated_size - data.length := rfl
  by_cases hroom : accessor.getDataSize ≤ allocated_size - data.length
  · refine Or.inl ⟨by omega, ?_⟩
    unfold AppendedWhole queuedBy
    rw [receiveDataNotification_room hinfo (hfree ▸ hroom)]
    exact ⟨Function.update_self _ _ _, List.drop_left⟩
  · refine Or.inr ⟨by omega, ?_⟩
    unfold DroppedWhole queuedBy
    rw [receiveDataNotification_full hinfo (hfree ▸ Nat.not_le.mp hroom)]
    exact ⟨rfl, List.drop_left⟩

end notify

/-! ## Every run -/

theorem fifo_opened {p : CConnectivityAgentProxy}
    (hinfo : p.mChannelRegistry channel_id = some ⟨client, allocated_size, []⟩) :
    Fifo channel_id client allocated_size (opened p) where
  buffer := ⟨[], hinfo, rfl, Nat.zero_le _⟩

theorem fifo_step {w : Reading} (h : Fifo channel_id client allocated_size w) (op : BufferOp) :
    Fifo channel_id client allocated_size (w.step channel_id op) := by
  obtain ⟨data, hinfo, heq, hle⟩ := h.buffer
  cases op with
  | notify accessor =>
    by_cases hc : accessor.mChannelID = channel_id
    · subst hc
      rcases receiveDataNotification_whole hinfo hle with
        ⟨hroom, hkept, hqueued⟩ | ⟨_, hsame, hqueued⟩
      · refine ⟨data ++ accessor.mpData, hkept, ?_, ?_⟩
        · unfold step
          dsimp only
          rw [hqueued, if_pos ⟨rfl, rfl⟩, heq, List.append_assoc]
        · rw [List.length_append]
          exact hroom
      · refine ⟨data, ?_, ?_, hle⟩
        · unfold step
          dsimp only
          rw [hsame]
          exact hinfo
        · unfold step
          dsimp only
          rw [hqueued, if_neg (fun hboth => Bool.false_ne_true hboth.2)]
          exact heq
    · refine ⟨data, ?_, ?_, hle⟩
      · unfold step
        dsimp only
        rw [receiveDataNotification_other hc]
        exact hinfo
      · unfold step
        dsimp only
        rw [if_neg (fun hboth => hc hboth.1)]
        exact heq
  | read c max_size =>
    by_cases hc : c = channel_id
    · subst hc
      obtain ⟨htaken, hrest⟩ := receiveData_take max_size hinfo
      refine ⟨data.drop max_size, hrest, ?_, ?_⟩
      · unfold step
        dsimp only
        rw [if_pos rfl, htaken, List.append_assoc, List.take_append_drop]
        exact heq
      · rw [List.length_drop]
        omega
    · refine ⟨data, ?_, ?_, hle⟩
      · unfold step
        dsimp only
        rw [receiveData_other hc]
        exact hinfo
      · unfold step
        dsimp only
        rw [if_neg hc]
        exact heq

theorem fifo_runs {w : Reading} (h : Fifo channel_id client allocated_size w)
    (ops : List BufferOp) : Fifo channel_id client allocated_size (w.runs channel_id ops) := by
  induction ops generalizing w with
  | nil => exact h
  | cons op ops ih => exact ih (fifo_step h op)

/-- Channel 7 of client 1, with four bytes of memory. -/
def fourBytes : CConnectivityAgentProxy :=
  ⟨fun c => if c = 7 then some ⟨1, .reserveSize 4⟩ else none, []⟩

/-- A part is read, the rest is shifted and filled up again, and what no longer fits is lost. -/
def mixed : List BufferOp :=
  [.notify ⟨E_RECEIVE_DATA_NTF, 7, 0, [1, 2, 3]⟩, .read 7 2,
    .notify ⟨E_RECEIVE_DATA_NTF, 7, 0, [4, 5, 6]⟩,
    .notify ⟨E_RECEIVE_DATA_NTF, 7, 0, [7]⟩, .read 7 9]

end Reading

end CConnectivityAgentProxy

end IviLink.Common
