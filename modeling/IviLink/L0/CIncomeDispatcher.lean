import IviLink.Hal.Frame
import Mathlib.Logic.Function.Basic

/-!
# `CTarget` and `CIncomeDispatcher`

The receiving end of the channels. A target takes the frames of its channel in the
order of their numbers: one that is not due is refused, or acknowledged once more
when it was taken before. Two flags switch this check off for one frame. One is
the target's own and is set when the carrier is replaced. The other is a `static`
of `CTarget::receiveFrame`, so there is one for all targets of the process, and it
is off for good once any of them has taken a frame.

The dispatcher finds the target of a frame by the channel id. ACKs go on to the
retransmission queue, which is not part of this module.
-/

namespace IviLink.L0

open IviLink.Hal

/-! ## Targets -/

structure CTarget where
  mChannelID : UInt32
  mLastFrameNr : UInt32
  mCarrierReplaced : Bool
  /-- How many free buffers there are. -/
  mBufferQueue : Nat
  deriving DecidableEq, Repr

namespace CTarget

/-- The constructor. -/
def new (channel_id : UInt32) : CTarget := ⟨channel_id, 0, false, QUEUE_SIZE⟩

def setCarrierReplaced (t : CTarget) : CTarget := { t with mCarrierReplaced := true }

/-- `CTarget::returnBufferBack`. A buffer that comes back was taken from the queue before. -/
def returnBufferBack (t : CTarget) : CTarget :=
  if t.mBufferQueue < QUEUE_SIZE then { t with mBufferQueue := t.mBufferQueue + 1 } else t

/-- The bytes `copyFromFrame` leaves in the buffer that goes to the consumer. -/
def copyFromFrame (frame : Frame) : List UInt8 := frame.data.take frame.getSize

/-- `CTarget::receiveFrame`: the target, `firstFlag` and the result, given what the consumer
returns for the buffer. `none` is the failed assertion on the channel id. -/
def receiveFrame (t : CTarget) (firstFlag : Bool) (frame : Frame)
    (consumed : ConnectivityAgentError) : Option (CTarget × Bool × ConnectivityAgentError) :=
  if t.mChannelID ≠ frame.channel_id then none
  else if !firstFlag && !t.mCarrierReplaced && frame.number ≠ t.mLastFrameNr + 1 then
    if frame.number ≤ t.mLastFrameNr then some (t, firstFlag, .resendAck)
    else some (t, firstFlag, .wrongFrameSequence)
  else if t.mBufferQueue = 0 then some (t, firstFlag, .noFreeBuffersLeft)
  else
    let t := { t with mBufferQueue := t.mBufferQueue - 1 }
    if consumed.isNoError then
      some ({ t with mCarrierReplaced := false, mLastFrameNr := frame.number }, false, consumed)
    else some (t, firstFlag, consumed)

/-- What a target can do with a frame. -/
inductive Receives (t : CTarget) (firstFlag : Bool) (frame : Frame)
    (consumed : ConnectivityAgentError) : CTarget → Bool → ConnectivityAgentError → Prop
  /-- The frame was taken before. -/
  | again : firstFlag = false → t.mCarrierReplaced = false → frame.number ≤ t.mLastFrameNr →
      Receives t firstFlag frame consumed t firstFlag .resendAck
  /-- The frame is not taken now. -/
  | refused {buffers result} : result ≠ .noError → result ≠ .resendAck ∨ result = consumed →
      Receives t firstFlag frame consumed { t with mBufferQueue := buffers } firstFlag result
  /-- The frame is taken: it is the next one, or the check is off. -/
  | accepted {buffers} : 0 < t.mBufferQueue → consumed.isNoError = true →
      firstFlag = true ∨ t.mCarrierReplaced = true ∨ frame.number = t.mLastFrameNr + 1 →
      Receives t firstFlag frame consumed
        { t with mBufferQueue := buffers, mCarrierReplaced := false, mLastFrameNr := frame.number }
        false .noError

theorem receiveFrame_cases {t t' : CTarget} {firstFlag firstFlag' : Bool} {frame : Frame}
    {consumed result : ConnectivityAgentError}
    (h : t.receiveFrame firstFlag frame consumed = some (t', firstFlag', result)) :
    t.mChannelID = frame.channel_id
      ∧ Receives t firstFlag frame consumed t' firstFlag' result := by
  rw [receiveFrame] at h
  split at h
  · exact absurd h (by simp)
  · rename_i hchannel
    refine ⟨not_not.mp hchannel, ?_⟩
    split at h
    · rename_i hcheck
      simp only [Bool.and_eq_true, Bool.not_eq_true', decide_eq_true_eq] at hcheck
      split at h
      · rename_i hle
        obtain ⟨rfl, rfl, rfl⟩ : _ ∧ _ ∧ _ := by simpa using h
        exact .again hcheck.1.1 hcheck.1.2 hle
      · obtain ⟨rfl, rfl, rfl⟩ : _ ∧ _ ∧ _ := by simpa using h
        exact .refused (by simp) (.inl (by simp))
    · rename_i hcheck
      split at h
      · obtain ⟨rfl, rfl, rfl⟩ : _ ∧ _ ∧ _ := by simpa using h
        exact .refused (by simp) (.inl (by simp))
      · rename_i hbuffers
        dsimp only at h
        split at h
        · rename_i hconsumed
          obtain ⟨rfl, rfl, rfl⟩ : _ ∧ _ ∧ _ := by simpa using h
          obtain rfl : consumed = .noError := of_decide_eq_true hconsumed
          refine .accepted (Nat.pos_of_ne_zero hbuffers) rfl ?_
          cases firstFlag with
          | true => exact .inl rfl
          | false =>
            cases hreplaced : t.mCarrierReplaced with
            | true => exact .inr (.inl rfl)
            | false => exact .inr (.inr (by simpa [hreplaced] using hcheck))
        · rename_i hconsumed
          obtain ⟨rfl, rfl, rfl⟩ : _ ∧ _ ∧ _ := by simpa using h
          exact .refused (fun heq => hconsumed (by rw [heq]; rfl)) (.inr rfl)

end CTarget

/-! ## The dispatcher -/

/-- A `CTarget*` in the map. -/
structure TargetPtr where
  address : Nat
  target : CTarget
  deriving DecidableEq, Repr

structure CIncomeDispatcher where
  mTargetMap : UInt32 → Option TargetPtr
  /-- The `static` of `CTarget::receiveFrame`. -/
  firstFlag : Bool
  /-- How many targets were made; the address of the next one. -/
  allocated : Nat

namespace CIncomeDispatcher

def init : CIncomeDispatcher := ⟨fun _ => none, true, 0⟩

/-- `CIncomeDispatcher::openChannel` -/
def openChannel (d : CIncomeDispatcher) (channel_id : UInt32) :
    CIncomeDispatcher × ConnectivityAgentError :=
  match d.mTargetMap channel_id with
  | some _ => (d, .channelBusy)
  | none =>
    ({ d with
      mTargetMap := Function.update d.mTargetMap channel_id
        (some ⟨d.allocated, .new channel_id⟩)
      allocated := d.allocated + 1 }, .noError)

/-- `CIncomeDispatcher::closeChannel` -/
def closeChannel (d : CIncomeDispatcher) (channel_id : UInt32) :
    CIncomeDispatcher × ConnectivityAgentError :=
  match d.mTargetMap channel_id with
  | none => (d, .notFound)
  | some _ => ({ d with mTargetMap := Function.update d.mTargetMap channel_id none }, .noError)

/-- `CIncomeDispatcher::replaceCarrier` -/
def replaceCarrier (d : CIncomeDispatcher) : CIncomeDispatcher :=
  { d with
    mTargetMap := fun channel_id => (d.mTargetMap channel_id).map fun p =>
      { p with target := p.target.setCarrierReplaced } }

/-- A consumer gives a buffer of the channel's target back. -/
def returnBufferBack (d : CIncomeDispatcher) (channel_id : UInt32) : CIncomeDispatcher :=
  match d.mTargetMap channel_id with
  | none => d
  | some p =>
    { d with
      mTargetMap := Function.update d.mTargetMap channel_id
        (some { p with target := p.target.returnBufferBack }) }

/-- `CIncomeDispatcher::receiveFrame` on a frame that is not an ACK. -/
def receiveFrame (d : CIncomeDispatcher) (frame : Frame) (consumed : ConnectivityAgentError) :
    Option (CIncomeDispatcher × ConnectivityAgentError) :=
  match d.mTargetMap frame.channel_id with
  | none => some (d, .notFound)
  | some p =>
    match p.target.receiveFrame d.firstFlag frame consumed with
    | none => none
    | some (target, firstFlag, result) =>
      some ({ d with
        mTargetMap := Function.update d.mTargetMap frame.channel_id (some { p with target := target })
        firstFlag := firstFlag }, result)

end CIncomeDispatcher

end IviLink.L0
