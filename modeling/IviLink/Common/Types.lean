/-!
# Constants and error codes of the connectivity agent

`Types.hpp` and `ConnectivityAgentError.hpp`, as far as the transport below the
channels uses them.
-/

namespace IviLink

/-- Maximum buffer size. -/
def MAX_SIZE : Nat := 4096

/-- Default size of buffer queues for transmission and receiving. -/
def QUEUE_SIZE : Nat := 200

/-- Time before a frame must be retransmitted. -/
def RETRANSMIT_TIME_NSEC : Nat := 5 * 1000 * 1000 * 1000

/-- Time a frame is retransmitted for before it is given up. -/
def RETRANSMIT_TIMEOUT_SEC : Nat := 20

/-- `TChannelPriority` -/
inductive TChannelPriority
  | safetyCritical
  | realTime
  | plainData
  deriving DecidableEq, Repr

/-- The priorities in the order the dispatcher serves them. -/
def TChannelPriority.all : List TChannelPriority := [.safetyCritical, .realTime, .plainData]

instance {P : TChannelPriority → Prop} [DecidablePred P] : Decidable (∀ i, P i) :=
  decidable_of_iff (P .safetyCritical ∧ P .realTime ∧ P .plainData)
    ⟨fun h i => match i with
      | .safetyCritical => h.1
      | .realTime => h.2.1
      | .plainData => h.2.2, fun h => ⟨h _, h _, h _⟩⟩

/-- What an operation of the agent returns: success, or one of `AgentErrorCodes`. -/
inductive ConnectivityAgentError
  | noError
  | other
  | brokenPipe
  | inconsistentData
  | handshakeFailed
  | connectFailed
  | resendAck
  | channelBusy
  | wrongFrameSequence
  | deferred
  | allocationInProgress
  | notFound
  | requestFailed
  | noFreeBuffersLeft
  | timeout
  deriving DecidableEq, Repr

def ConnectivityAgentError.isNoError (e : ConnectivityAgentError) : Bool := e = .noError

end IviLink
