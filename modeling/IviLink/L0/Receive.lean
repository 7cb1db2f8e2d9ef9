import IviLink.L0.CIncomeDispatcher

/-!
# The receive side

The income dispatcher with what the adapter in front of it knows: whether frames
may be processed yet, and which carrier this is, counted from the first (`epoch`).
The ghost part keeps every frame that a target accepted or recognised, since those
are the ones an ACK is sent for.
-/

namespace IviLink.L0

open IviLink.Hal

/-- A frame for which a target let an ACK be sent. -/
structure Verdict where
  /-- The address of the target. -/
  target : Nat
  /-- The carrier it came over. -/
  epoch : Nat
  /-- The address of its source, on the other side. -/
  source : Nat
  frame : Frame
  /-- Whether it was accepted, or recognised as one that had been. -/
  accepted : Bool
  deriving DecidableEq, Repr

structure Receive where
  disp : CIncomeDispatcher
  /-- Of the adapter this side has now. -/
  mIsFrameProcessingAllowed : Bool
  epoch : Nat
  verdicts : List Verdict

namespace Receive

def init : Receive := ⟨.init, false, 0, []⟩

inductive Call
  | openChannel (channel_id : UInt32)
  | closeChannel (channel_id : UInt32)
  /-- A consumer returns a buffer of the channel's target. -/
  | returnBufferBack (channel_id : UInt32)
  | unlockFrameProcessing

def call (r : Receive) : Call → Receive
  | .openChannel channel_id => { r with disp := (r.disp.openChannel channel_id).1 }
  | .closeChannel channel_id => { r with disp := (r.disp.closeChannel channel_id).1 }
  | .returnBufferBack channel_id => { r with disp := r.disp.returnBufferBack channel_id }
  | .unlockFrameProcessing => { r with mIsFrameProcessingAllowed := true }

/-- `CConnectivityManager::replaceCarrier`. The new adapter processes no frames until it is
allowed to. -/
def replaceCarrier (r : Receive) : Receive :=
  { r with disp := r.disp.replaceCarrier, mIsFrameProcessingAllowed := false, epoch := r.epoch + 1 }

/-- What a result says about a frame. -/
def judge (r : Receive) (frame : Frame) (source : Nat) (result : ConnectivityAgentError) :
    List Verdict :=
  match r.disp.mTargetMap frame.channel_id with
  | none => []
  | some p =>
    if result.isNoError || result = .resendAck then
      [⟨p.address, r.epoch, source, frame, result.isNoError⟩]
    else []

/-- A data frame comes to the dispatcher. -/
def receiveFrame (r : Receive) (frame : Frame) (source : Nat) (consumed : ConnectivityAgentError) :
    Option (Receive × ConnectivityAgentError) :=
  match r.disp.receiveFrame frame consumed with
  | none => none
  | some (d, result) =>
    some ({ r with disp := d, verdicts := r.verdicts ++ r.judge frame source result }, result)

/-! ## What a frame can do -/

/-- The state after a target, open under this channel id, has looked at a frame. -/
def looked (r : Receive) (channel_id : UInt32) (p : TargetPtr) (firstFlag : Bool)
    (verdicts : List Verdict) : Receive :=
  { r with
    disp := { r.disp with
      mTargetMap := Function.update r.disp.mTargetMap channel_id (some p)
      firstFlag := firstFlag }
    verdicts := r.verdicts ++ verdicts }

/-- What can become of a data frame. -/
inductive Answers (r : Receive) (frame : Frame) (source : Nat) (consumed : ConnectivityAgentError) :
    Receive → ConnectivityAgentError → Prop
  | nobody : r.disp.mTargetMap frame.channel_id = none →
      Answers r frame source consumed r .notFound
  | refused {p buffers result} : r.disp.mTargetMap frame.channel_id = some p →
      result.isNoError = false → result ≠ .resendAck →
      Answers r frame source consumed (r.looked frame.channel_id
        { p with target := { p.target with mBufferQueue := buffers } } r.disp.firstFlag []) result
  | again {p} : r.disp.mTargetMap frame.channel_id = some p → r.disp.firstFlag = false →
      p.target.mCarrierReplaced = false → frame.number ≤ p.target.mLastFrameNr →
      Answers r frame source consumed (r.looked frame.channel_id p r.disp.firstFlag
        [⟨p.address, r.epoch, source, frame, false⟩]) .resendAck
  | accepted {p buffers} : r.disp.mTargetMap frame.channel_id = some p →
      0 < p.target.mBufferQueue → consumed.isNoError = true →
      r.disp.firstFlag = true ∨ p.target.mCarrierReplaced = true
        ∨ frame.number = p.target.mLastFrameNr + 1 →
      Answers r frame source consumed (r.looked frame.channel_id
        { p with target := { p.target with
            mBufferQueue := buffers, mCarrierReplaced := false, mLastFrameNr := frame.number } }
        false [⟨p.address, r.epoch, source, frame, true⟩]) .noError

theorem receiveFrame_cases {r r' : Receive} {frame : Frame} {source : Nat}
    {consumed result : ConnectivityAgentError} (hconsumed : consumed ≠ .resendAck)
    (h : r.receiveFrame frame source consumed = some (r', result)) :
    Answers r frame source consumed r' result := by
  rw [receiveFrame, CIncomeDispatcher.receiveFrame] at h
  cases hp : r.disp.mTargetMap frame.channel_id with
  | none =>
    obtain ⟨rfl, rfl⟩ : _ ∧ _ := by simpa [hp, judge] using h
    exact .nobody hp
  | some p =>
    rw [hp] at h
    dsimp only at h
    cases ht : p.target.receiveFrame r.disp.firstFlag frame consumed with
    | none =>
      rw [ht] at h
      exact absurd h (by simp)
    | some answer =>
      obtain ⟨target, firstFlag, result'⟩ := answer
      rw [ht] at h
      obtain ⟨rfl, rfl⟩ : _ ∧ _ := by simpa using h
      obtain ⟨-, hreceives⟩ := CTarget.receiveFrame_cases ht
      cases hreceives with
      | again hfirst hreplaced hle =>
        have hjudge : r.judge frame source .resendAck
            = [⟨p.address, r.epoch, source, frame, false⟩] := by
          rw [judge, hp]
          rfl
        rw [hjudge]
        exact .again hp hfirst hreplaced hle
      | refused hno hack =>
        have hno' : result'.isNoError = false := decide_eq_false hno
        have hack' : result' ≠ .resendAck := by
          rcases hack with hack | rfl
          · exact hack
          · exact hconsumed
        have hjudge : r.judge frame source result' = [] := by
          rw [judge, hp, hno']
          simp [hack']
        rw [hjudge]
        exact .refused hp hno' hack'
      | accepted hbuffers hok hcheck =>
        have hjudge : r.judge frame source .noError
            = [⟨p.address, r.epoch, source, frame, true⟩] := by
          rw [judge, hp]
          rfl
        rw [hjudge]
        exact .accepted hp hbuffers hok hcheck

/-- What can happen to a receive side. -/
inductive Steps (r : Receive) : Receive → Prop
  | call (c : Call) : Steps r (r.call c)
  | replaceCarrier : Steps r r.replaceCarrier
  | frame {frame source consumed r' result} : Answers r frame source consumed r' result →
      Steps r r'

end Receive

end IviLink.L0
