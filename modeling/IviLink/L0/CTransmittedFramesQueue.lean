import IviLink.Hal.Frame

/-!
# `CTransmittedFramesQueue`

Frames that were sent and not acknowledged yet, with two times for each: when it
was last put on the carrier, next to the frame in `mQueue`, and when it was put
there first, in the map `mTransmitStartTimes` under a key made of the channel id
and the frame number.

An operation that reads the clock takes the time it reads; `none` is an assertion
that fails.
-/

namespace IviLink.L0

open IviLink.Hal

/-! ## Time -/

/-- A reading of `CLOCK_MONOTONIC`. The kernel counts nanoseconds in a signed 64-bit number. -/
structure Timespec where
  tv_sec : Nat
  tv_nsec : Nat
  nsec_lt : tv_nsec < 1000000000
  bound : tv_sec * 1000000000 + tv_nsec < 2 ^ 63
  deriving DecidableEq, Repr

namespace Timespec

/-- Nanoseconds since the clock's start. -/
def ns (t : Timespec) : Nat := t.tv_sec * 1000000000 + t.tv_nsec

/-- A clock reading in milliseconds. -/
def ms (n : Nat) (h : n < 2 ^ 40) : Timespec where
  tv_sec := n / 1000
  tv_nsec := n % 1000 * 1000000
  nsec_lt := by omega
  bound := by omega

theorem start_lt : 0 < 2 ^ 40 := by decide

theorem later_lt : 6000 < 2 ^ 40 := by decide

instance : LE Timespec := ⟨fun t t' => t.ns ≤ t'.ns⟩

instance (t t' : Timespec) : Decidable (t ≤ t') := inferInstanceAs (Decidable (_ ≤ _))

/-- `(UInt64) tv_sec * 1000000000LLU + (UInt64) tv_nsec`, with the literal in front so that the
kernel does not count down from it. -/
def ns64 (t : Timespec) : UInt64 := 1000000000 * UInt64.ofNat t.tv_sec + UInt64.ofNat t.tv_nsec

theorem ns64_eq (t : Timespec) : t.ns64 = UInt64.ofNat t.ns := by
  rw [ns64, ns, UInt64.ofNat_add, UInt64.ofNat_mul, UInt64.mul_comm]
  rfl

theorem toNat_ns64 (t : Timespec) : t.ns64.toNat = t.ns := by
  have := t.bound
  rw [ns64_eq, UInt64.toNat_ofNat']
  exact Nat.mod_eq_of_lt (by rw [ns]; omega)

theorem le_refl (t : Timespec) : t ≤ t := Nat.le_refl t.ns

theorem le_trans {t t' t'' : Timespec} (h : t ≤ t') (h' : t' ≤ t'') : t ≤ t'' := Nat.le_trans h h'

end Timespec

/-- `getTimePeriodInNanoSec`, with its assertion. -/
def getTimePeriodInNanoSec (first second : Timespec) : Option UInt64 :=
  if first.ns64 ≤ second.ns64 then some (second.ns64 - first.ns64) else none

/-- On a clock that does not go back the assertion holds and the difference is the time passed. -/
theorem getTimePeriodInNanoSec_eq {first second : Timespec} (h : first ≤ second) :
    ∃ d, getTimePeriodInNanoSec first second = some d ∧ d.toNat = second.ns - first.ns := by
  have hle : first.ns64 ≤ second.ns64 := by
    rw [UInt64.le_iff_toNat_le, first.toNat_ns64, second.toNat_ns64]
    exact h
  refine ⟨_, if_pos hle, ?_⟩
  rw [UInt64.toNat_sub_of_le _ _ hle, first.toNat_ns64, second.toNat_ns64]

/-! ## The queue -/

structure tFrameTimeStamped where
  mFrame : Frame
  mStartTime : Timespec
  deriving DecidableEq, Repr

/-- `concatenateChannelIdFrameNum` -/
def concatenateChannelIdFrameNum (header : FrameHeader) : UInt64 :=
  header.channel_id.toUInt64 <<< 32 ||| header.number.toUInt64

/-- The key an entry has in `mTransmitStartTimes`. -/
def tFrameTimeStamped.key (e : tFrameTimeStamped) : UInt64 :=
  concatenateChannelIdFrameNum e.mFrame.mFrameHeader

/-- `true` for the entries of one frame of one channel. -/
def tFrameTimeStamped.isFrame (channel_id number : UInt32) (e : tFrameTimeStamped) : Bool :=
  e.mFrame.channel_id = channel_id && e.mFrame.number = number

structure CTransmittedFramesQueue where
  mQueue : List tFrameTimeStamped
  mTransmitStartTimes : UInt64 → Option Timespec

/-- What `reenqueueRetransmittedFrame` reports to the log. -/
inductive Report
  | reenqueued
  /-- "Retransmit timeout => dequeue frame". -/
  | timeout
  /-- "Can't find current frame in mTransmitStartTimes"; the frame is kept. -/
  | unknownStart
  deriving DecidableEq, Repr

namespace CTransmittedFramesQueue

def empty : CTransmittedFramesQueue := ⟨[], fun _ => none⟩

/-- The queued frames, in order. -/
def frames (q : CTransmittedFramesQueue) : List Frame := q.mQueue.map tFrameTimeStamped.mFrame

/-- The queued frames of a channel. -/
def framesOf (q : CTransmittedFramesQueue) (channel_id : UInt32) : List Frame :=
  (q.mQueue.filter fun e => e.mFrame.channel_id = channel_id).map tFrameTimeStamped.mFrame

/-- The frame an ACK is for. -/
def find (q : CTransmittedFramesQueue) (channel_id number : UInt32) : Option Frame :=
  (q.mQueue.find? (tFrameTimeStamped.isFrame channel_id number)).map tFrameTimeStamped.mFrame

/-- `std::map::insert`, which leaves a key that is there alone. -/
def insertStart (m : UInt64 → Option Timespec) (k : UInt64) (t : Timespec) :
    UInt64 → Option Timespec :=
  if (m k).isSome then m else Function.update m k (some t)

/-- `std::map::erase` -/
def eraseStart (m : UInt64 → Option Timespec) (k : UInt64) : UInt64 → Option Timespec :=
  Function.update m k none

theorem insertStart_absent {m : UInt64 → Option Timespec} {k : UInt64} (h : m k = none)
    (t : Timespec) : insertStart m k t = Function.update m k (some t) := by
  rw [insertStart, h]
  rfl

@[simp] theorem eraseStart_self (m : UInt64 → Option Timespec) (k : UInt64) :
    eraseStart m k k = none := Function.update_self ..

theorem eraseStart_of_ne {k k' : UInt64} (h : k' ≠ k) (m : UInt64 → Option Timespec) :
    eraseStart m k k' = m k' := Function.update_of_ne h ..

/-- `CTransmittedFramesQueue::enqueue` -/
def enqueue (q : CTransmittedFramesQueue) (frame : Frame) (now : Timespec) :
    CTransmittedFramesQueue where
  mQueue := q.mQueue ++ [⟨frame, now⟩]
  mTransmitStartTimes :=
    insertStart q.mTransmitStartTimes (concatenateChannelIdFrameNum frame.mFrameHeader) now

/-- `CTransmittedFramesQueue::dequeue`, with the time it passes to `CQoS::setTime` when it finds
the frame. -/
def dequeue (q : CTransmittedFramesQueue) (channel_id number : UInt32) (now : Timespec) :
    Option (CTransmittedFramesQueue × Option UInt64) :=
  match q.mQueue.find? (tFrameTimeStamped.isFrame channel_id number) with
  | none => some (q, none)
  | some e =>
    match getTimePeriodInNanoSec e.mStartTime now with
    | none => none
    | some time => some (
      { mQueue := q.mQueue.eraseP (tFrameTimeStamped.isFrame channel_id number)
        mTransmitStartTimes := eraseStart q.mTransmitStartTimes e.key }, some time)

/-- `CTransmittedFramesQueue::deleteFramesForChannel` -/
def deleteFramesForChannel (q : CTransmittedFramesQueue) (channel_id : UInt32) :
    CTransmittedFramesQueue where
  mQueue := q.mQueue.filter fun e => e.mFrame.channel_id ≠ channel_id
  mTransmitStartTimes :=
    (q.mQueue.filter fun e => e.mFrame.channel_id = channel_id).foldl
      (fun m e => eraseStart m e.key) q.mTransmitStartTimes

/-- `CTransmittedFramesQueue::getFrameToRetransmit`: the frame at the front, if it has waited
long enough. The queue stays locked until the frame is put back. -/
def getFrameToRetransmit (q : CTransmittedFramesQueue) (cur_time : Timespec) :
    Option (Option Frame) :=
  match q.mQueue with
  | [] => some none
  | fts :: _ =>
    match getTimePeriodInNanoSec fts.mStartTime cur_time with
    | none => none
    | some time =>
      if time > UInt64.ofNat RETRANSMIT_TIME_NSEC then some (some fts.mFrame) else some none

/-- `CTransmittedFramesQueue::reenqueueRetransmittedFrame`. Between the call that handed the
frame out and this one the queue is locked, so `pFrame` is still the one at the front. -/
def reenqueueRetransmittedFrame (q : CTransmittedFramesQueue) (pFrame : Frame) (now : Timespec) :
    Option (CTransmittedFramesQueue × Report) :=
  match q.mQueue with
  | [] => none
  | fts :: rest =>
    if fts.mFrame ≠ pFrame then none
    else
      let current := concatenateChannelIdFrameNum pFrame.mFrameHeader
      match q.mTransmitStartTimes current with
      | some start =>
        if (now.tv_sec : Int) - start.tv_sec < RETRANSMIT_TIMEOUT_SEC then
          some ({ q with mQueue := rest ++ [⟨fts.mFrame, now⟩] }, .reenqueued)
        else
          some (⟨rest, eraseStart q.mTransmitStartTimes current⟩, .timeout)
      | none => some ({ q with mQueue := rest ++ [⟨fts.mFrame, now⟩] }, .unknownStart)

end CTransmittedFramesQueue

/-! ## What the operations do to the frames -/

namespace CTransmittedFramesQueue

theorem enqueue_frames (q : CTransmittedFramesQueue) (frame : Frame) (now : Timespec) :
    (q.enqueue frame now).frames = q.frames ++ [frame] := by
  simp [enqueue, frames]

/-- An ACK takes out the first frame of its channel and number. -/
theorem dequeue_mQueue {q q' : CTransmittedFramesQueue} {channel_id number : UInt32}
    {now : Timespec} {time : Option UInt64}
    (h : q.dequeue channel_id number now = some (q', time)) :
    q'.mQueue = q.mQueue.eraseP (tFrameTimeStamped.isFrame channel_id number) := by
  rw [dequeue] at h
  split at h
  · rename_i hnone
    injection h with h
    injection h with h _
    rw [← h, List.eraseP_of_forall_not (List.find?_eq_none.mp hnone)]
  · split at h
    · exact absurd h (by simp)
    · injection h with h
      injection h with h _
      rw [← h]

/-- An ACK takes out the frame it finds and no other. -/
theorem dequeue_frames {q q' : CTransmittedFramesQueue} {channel_id number : UInt32}
    {now : Timespec} {time : Option UInt64}
    (h : q.dequeue channel_id number now = some (q', time)) :
    q.frames.Perm (q'.frames ++ (q.find channel_id number).toList) := by
  rw [find, frames, frames, dequeue_mQueue h]
  cases hfind : q.mQueue.find? (tFrameTimeStamped.isFrame channel_id number) with
  | none =>
    rw [List.eraseP_of_forall_not (List.find?_eq_none.mp hfind)]
    simp
  | some e =>
    obtain ⟨hp, l₁, l₂, hqueue, hl₁⟩ := List.find?_eq_some_iff_append.mp hfind
    have hl₁' : ∀ b ∈ l₁, ¬ tFrameTimeStamped.isFrame channel_id number b = true :=
      fun b hb => by simpa using hl₁ b hb
    rw [hqueue, List.eraseP_append_right _ hl₁', List.eraseP_cons_of_pos hp]
    simp only [List.map_append, List.map_cons, Option.map_some, Option.toList_some,
      List.append_assoc]
    refine List.Perm.append_left _ ?_
    exact (List.perm_append_singleton _ _).symm

/-- Closing a channel takes out the frames of the channel and no other. -/
theorem deleteFramesForChannel_frames (q : CTransmittedFramesQueue) (channel_id : UInt32) :
    q.frames.Perm ((q.deleteFramesForChannel channel_id).frames ++ q.framesOf channel_id) := by
  have hsplit := (List.filter_append_perm
    (fun e : tFrameTimeStamped => e.mFrame.channel_id = channel_id) q.mQueue).symm
  have hneg : (q.mQueue.filter fun e => !decide (e.mFrame.channel_id = channel_id))
      = q.mQueue.filter fun e => e.mFrame.channel_id ≠ channel_id := by
    refine List.filter_congr fun e _ => ?_
    simp
  rw [hneg] at hsplit
  have hmap := hsplit.map tFrameTimeStamped.mFrame
  rw [List.map_append] at hmap
  exact hmap.trans List.perm_append_comm

/-- The frame that is handed out is the one at the front. -/
theorem getFrameToRetransmit_some {q : CTransmittedFramesQueue} {now : Timespec} {frame : Frame}
    (h : q.getFrameToRetransmit now = some (some frame)) : ∃ rest, q.frames = frame :: rest := by
  rw [getFrameToRetransmit] at h
  split at h
  · exact absurd h (by simp)
  · rename_i fts rest hqueue
    split at h
    · exact absurd h (by simp)
    · split at h
      · injection h with h
        injection h with h
        exact ⟨rest.map tFrameTimeStamped.mFrame, by rw [frames, hqueue, ← h]; rfl⟩
      · exact absurd h (by simp)

/-- The frame sent again goes from the front to the back, unless its timeout is reported. -/
theorem reenqueue_front {q q' : CTransmittedFramesQueue} {frame : Frame} {now : Timespec}
    {report : Report} (h : q.reenqueueRetransmittedFrame frame now = some (q', report)) :
    ∃ rest, q.frames = frame :: rest
      ∧ q'.frames = rest ++ if report = .timeout then [] else [frame] := by
  rw [reenqueueRetransmittedFrame] at h
  split at h
  · exact absurd h (by simp)
  · rename_i fts rest hqueue
    split at h
    · exact absurd h (by simp)
    · rename_i hframe
      obtain rfl := not_not.mp hframe
      refine ⟨rest.map tFrameTimeStamped.mFrame, by rw [frames, hqueue, List.map_cons], ?_⟩
      dsimp only at h
      split at h
      · split at h
        all_goals
          injection h with h
          injection h with hq hr
          subst hq hr
          simp [frames]
      · injection h with h
        injection h with hq hr
        subst hq hr
        simp [frames]

theorem reenqueue_frames {q q' : CTransmittedFramesQueue} {frame : Frame} {now : Timespec}
    {report : Report} (h : q.reenqueueRetransmittedFrame frame now = some (q', report)) :
    q.frames.Perm (q'.frames ++ if report = .timeout then [frame] else []) := by
  obtain ⟨rest, hfront, hback⟩ := reenqueue_front h
  rw [hfront, hback]
  have hperm : (frame :: rest).Perm (rest ++ [frame]) := (List.perm_append_singleton _ _).symm
  by_cases hr : report = .timeout
  · rw [if_pos hr, if_pos hr, List.append_nil]
    exact hperm
  · rw [if_neg hr, if_neg hr, List.append_nil]
    exact hperm

end CTransmittedFramesQueue

/-! ## Keys -/

theorem toNat_concatenate (h : FrameHeader) :
    (concatenateChannelIdFrameNum h).toNat = h.channel_id.toNat * 2 ^ 32 + h.number.toNat := by
  have hc : h.channel_id.toNat < 2 ^ 32 := h.channel_id.toNat_lt
  have hn : h.number.toNat < 2 ^ 32 := h.number.toNat_lt
  rw [concatenateChannelIdFrameNum, UInt64.toNat_or, UInt64.toNat_shiftLeft,
    UInt32.toNat_toUInt64, UInt32.toNat_toUInt64]
  have h32 : (32 : UInt64).toNat % 64 = 32 := rfl
  rw [h32, Nat.mod_eq_of_lt (by rw [Nat.shiftLeft_eq]; omega), ← Nat.shiftLeft_add_eq_or_of_lt hn,
    Nat.shiftLeft_eq]

/-- **Channel id and number are all a key stands for.** -/
theorem concatenate_inj {h h' : FrameHeader} :
    concatenateChannelIdFrameNum h = concatenateChannelIdFrameNum h'
      ↔ h.channel_id = h'.channel_id ∧ h.number = h'.number := by
  constructor
  · intro heq
    have hnat := congrArg UInt64.toNat heq
    rw [toNat_concatenate, toNat_concatenate] at hnat
    have hn : h.number.toNat < 2 ^ 32 := h.number.toNat_lt
    have hn' : h'.number.toNat < 2 ^ 32 := h'.number.toNat_lt
    exact ⟨UInt32.toNat_inj.mp (by omega), UInt32.toNat_inj.mp (by omega)⟩
  · rintro ⟨hc, hn⟩
    rw [concatenateChannelIdFrameNum, hc, hn]
    rfl

end IviLink.L0
