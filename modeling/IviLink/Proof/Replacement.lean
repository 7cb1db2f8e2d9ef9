import IviLink.Lib.Numbering
import IviLink.Proof.Targets
import Mathlib.Data.List.Chain

/-!
# Replacing the carrier

A target whose carrier was replaced takes whatever frame comes first, and goes on
from its number. So the numbers it accepts run on by one as long as the carrier
stays the same, and only there: `Follows` says what may come after an accepted
frame, and `Sequenced` is the invariant that carries it, with what the target
remembers of the frame it took last.
-/

namespace IviLink.L0

open IviLink.Hal IviLink.Lib

namespace Receive

/-- The frames a target has accepted, in order. -/
def acceptedBy (r : Receive) (target : Nat) : List Verdict :=
  r.verdicts.filter fun v => v.target = target && v.accepted

/-- What may come after an accepted frame: the next number over the same carrier, or anything
over a later one. -/
def Follows (v v' : Verdict) : Prop :=
  v.epoch < v'.epoch ∨ v.epoch = v'.epoch ∧ v'.frame.number = v.frame.number + 1

/-- The number of the last of some frames, or the one a target starts with. -/
def lastNumber (vs : List Verdict) : UInt32 := (vs.getLast?.map fun v => v.frame.number).getD 0

@[simp] theorem lastNumber_append (vs : List Verdict) (v : Verdict) :
    lastNumber (vs ++ [v]) = v.frame.number := by
  simp [lastNumber]

structure Sequenced (r : Receive) : Prop where
  seated : Seated r
  order : ∀ target, (r.acceptedBy target).IsChain Follows
  first : r.disp.firstFlag = true → ∀ target, r.acceptedBy target = []
  number : ∀ c p, r.disp.mTargetMap c = some p →
    p.target.mLastFrameNr = lastNumber (r.acceptedBy p.address)
  /-- The check is on for a target that has accepted something over this carrier. -/
  replaced : ∀ c p, r.disp.mTargetMap c = some p → ∀ v ∈ (r.acceptedBy p.address).getLast?,
    if p.target.mCarrierReplaced then v.epoch < r.epoch else v.epoch = r.epoch

theorem sequenced_init : Sequenced init where
  seated := seated_init
  order := fun _ => List.isChain_nil
  first := fun _ _ => rfl
  number := fun _ _ hp => absurd hp (by simp [init, CIncomeDispatcher.init])
  replaced := fun _ _ hp => absurd hp (by simp [init, CIncomeDispatcher.init])

/-- A target that was not made yet has accepted nothing. -/
theorem Seated.acceptedBy_new {r : Receive} (h : Seated r) : r.acceptedBy r.disp.allocated = [] := by
  refine List.filter_eq_nil_iff.mpr fun v hv hcon => ?_
  simp only [Bool.and_eq_true, decide_eq_true_eq] at hcon
  exact absurd hcon.1 (Nat.ne_of_lt (h.known v hv))

theorem acceptedBy_looked (r : Receive) (c : UInt32) (p : TargetPtr) (firstFlag : Bool)
    (vs : List Verdict) (target : Nat) :
    (r.looked c p firstFlag vs).acceptedBy target
      = r.acceptedBy target ++ vs.filter fun v => v.target = target && v.accepted :=
  List.filter_append ..

/-- A call makes no target accept anything, and those that stay open forget nothing. -/
theorem sequenced_call {r : Receive} (h : Sequenced r) (a : Call) : Sequenced (r.call a) := by
  obtain ⟨hverdicts, hepoch, hfirst, -⟩ := r.call_rest a
  have haccepted : ∀ target, (r.call a).acceptedBy target = r.acceptedBy target := by
    intro target
    rw [acceptedBy, hverdicts]
    rfl
  refine ⟨seated_step h.seated (.call a), fun target => ?_, fun hf target => ?_, fun c p hp => ?_,
    fun c p hp v hv => ?_⟩
  · rw [haccepted]
    exact h.order target
  · rw [haccepted]
    exact h.first (hfirst ▸ hf) target
  · rw [haccepted]
    rcases call_map hp with ⟨q, hq, ha, hl, -⟩ | ⟨-, -, rfl, -⟩
    · rw [← ha, ← hl]
      exact h.number c q hq
    · rw [h.seated.acceptedBy_new]
      rfl
  · rw [haccepted] at hv
    rw [hepoch]
    rcases call_map hp with ⟨q, hq, ha, -, hr⟩ | ⟨-, -, rfl, -⟩
    · rw [← ha] at hv
      rw [← hr]
      exact h.replaced c q hq v hv
    · rw [h.seated.acceptedBy_new] at hv
      exact absurd hv (by simp)

/-- Every target that has accepted something has done so over an earlier carrier now. -/
theorem sequenced_replaceCarrier {r : Receive} (h : Sequenced r) : Sequenced r.replaceCarrier := by
  refine ⟨seated_step h.seated .replaceCarrier, h.order, h.first, fun c p hp => ?_,
    fun c p hp v hv => ?_⟩
  · obtain ⟨q, hq, rfl⟩ := replaceCarrier_map hp
    exact h.number c q hq
  · obtain ⟨q, hq, rfl⟩ := replaceCarrier_map hp
    have hlast := h.replaced c q hq v hv
    show if true then v.epoch < r.epoch + 1 else v.epoch = r.epoch + 1
    rw [if_pos rfl]
    split at hlast <;> omega

/-- A target looks at a frame and does not accept it. -/
theorem Sequenced.refused {r : Receive} {c : UInt32} {p : TargetPtr} {n : Nat}
    {vs : List Verdict} (h : Sequenced r) (hp : r.disp.mTargetMap c = some p)
    (hvs : ∀ v ∈ vs, v.accepted = false)
    (hseated : Seated (r.looked c { p with target := { p.target with mBufferQueue := n } }
      r.disp.firstFlag vs)) :
    Sequenced (r.looked c { p with target := { p.target with mBufferQueue := n } }
      r.disp.firstFlag vs) := by
  have haccepted : ∀ target, (r.looked c
      { p with target := { p.target with mBufferQueue := n } } r.disp.firstFlag vs).acceptedBy
        target = r.acceptedBy target := by
    intro target
    rw [acceptedBy_looked, List.filter_eq_nil_iff.mpr, List.append_nil]
    intro v hv
    simp [hvs v hv]
  refine ⟨hseated, fun target => ?_, fun hf target => ?_, fun c' q hq => ?_,
    fun c' q hq v hv => ?_⟩
  · rw [haccepted]
    exact h.order target
  · rw [haccepted]
    exact h.first hf target
  · rw [haccepted]
    rcases looked_map hq with ⟨rfl, rfl⟩ | ⟨-, hq⟩
    · exact h.number _ p hp
    · exact h.number c' q hq
  · rw [haccepted] at hv
    rcases looked_map hq with ⟨rfl, rfl⟩ | ⟨-, hq⟩
    · exact h.replaced _ p hp v hv
    · exact h.replaced c' q hq v hv

/-- A target accepts a frame: the check was off, or the frame has the next number. -/
theorem Sequenced.accepted {r : Receive} {c : UInt32} {p : TargetPtr} {buffers : Nat}
    {frame : Frame} {source : Nat} (h : Sequenced r) (hp : r.disp.mTargetMap c = some p)
    (hcheck : r.disp.firstFlag = true ∨ p.target.mCarrierReplaced = true
      ∨ frame.number = p.target.mLastFrameNr + 1)
    (hseated : Seated (r.looked c
      { p with target := { p.target with
          mBufferQueue := buffers, mCarrierReplaced := false, mLastFrameNr := frame.number } }
      false [⟨p.address, r.epoch, source, frame, true⟩])) :
    Sequenced (r.looked c
      { p with target := { p.target with
          mBufferQueue := buffers, mCarrierReplaced := false, mLastFrameNr := frame.number } }
      false [⟨p.address, r.epoch, source, frame, true⟩]) := by
  have hself : (r.looked c
      { p with target := { p.target with
          mBufferQueue := buffers, mCarrierReplaced := false, mLastFrameNr := frame.number } }
      false [⟨p.address, r.epoch, source, frame, true⟩]).acceptedBy p.address
      = r.acceptedBy p.address ++ [⟨p.address, r.epoch, source, frame, true⟩] := by
    rw [acceptedBy_looked]
    simp
  have hother : ∀ target, target ≠ p.address → (r.looked c
      { p with target := { p.target with
          mBufferQueue := buffers, mCarrierReplaced := false, mLastFrameNr := frame.number } }
      false [⟨p.address, r.epoch, source, frame, true⟩]).acceptedBy target
      = r.acceptedBy target := by
    intro target htarget
    rw [acceptedBy_looked]
    simp [Ne.symm htarget]
  refine ⟨hseated, fun target => ?_, fun hf => absurd hf (by simp [looked]), fun c' q hq => ?_,
    fun c' q hq v hv => ?_⟩
  · by_cases htarget : target = p.address
    · subst htarget
      rw [hself]
      refine (h.order _).append (List.isChain_singleton _) fun v hv v' hv' => ?_
      obtain rfl : _ = v' := Option.some.inj hv'
      have hreplaced := h.replaced c p hp v hv
      rcases hcheck with hfirst | hflag | hnext
      · -- nothing was accepted before
        rw [h.first hfirst] at hv
        exact absurd hv (by simp)
      · rw [if_pos hflag] at hreplaced
        exact .inl hreplaced
      · split at hreplaced
        · exact .inl hreplaced
        · refine .inr ⟨hreplaced, ?_⟩
          have hnumber := h.number c p hp
          have hlast : (r.acceptedBy p.address).getLast? = some v := hv
          rw [lastNumber, hlast] at hnumber
          show frame.number = v.frame.number + 1
          rw [hnext, hnumber]
          rfl
    · rw [hother target htarget]
      exact h.order target
  · rcases looked_map hq with ⟨rfl, rfl⟩ | ⟨hc, hq⟩
    · rw [hself, lastNumber_append]
    · rw [hother q.address fun heq => hc (h.seated.distinct c' c q p hq hp heq)]
      exact h.number c' q hq
  · rcases looked_map hq with ⟨rfl, rfl⟩ | ⟨hc, hq⟩
    · rw [hself, List.getLast?_concat] at hv
      obtain rfl : _ = v := Option.some.inj hv
      exact rfl
    · rw [hother q.address fun heq => hc (h.seated.distinct c' c q p hq hp heq)] at hv
      exact h.replaced c' q hq v hv

/-- **Every step keeps the order.** -/
theorem sequenced_step {r r' : Receive} (h : Sequenced r) (hs : r.Steps r') : Sequenced r' := by
  have hseated := seated_step h.seated hs
  cases hs with
  | call a => exact sequenced_call h a
  | replaceCarrier => exact sequenced_replaceCarrier h
  | frame hanswer =>
    cases hanswer with
    | nobody => exact h
    | refused hp hno hack => exact h.refused hp (fun _ hv => absurd hv (by simp)) hseated
    | @again p hp hfirst hreplaced hle =>
      refine h.refused (n := p.target.mBufferQueue) hp (fun v hv => ?_) hseated
      rw [List.mem_singleton.mp hv]
    | accepted hp hbuffers hok hcheck => exact h.accepted hp hcheck hseated

/-- The numbers a target has accepted over one carrier. -/
def numbersOver (r : Receive) (target epoch : Nat) : List UInt32 :=
  ((r.acceptedBy target).filter fun v => v.epoch = epoch).map fun v => v.frame.number

theorem Sequenced.consecutive {r : Receive} (h : Sequenced r) (target epoch : Nat) :
    Consecutive (r.numbersOver target epoch) :=
  (List.isChain_map _).mpr (isChain_filter_key Verdict.epoch
    (R := fun v v' => v'.frame.number = v.frame.number + 1) epoch (h.order target))

end Receive

namespace Peers

/-- **Over one carrier a target accepts consecutive numbers**, so none of them twice before the
counter has gone round; it may start anew, with whatever number, only when the carrier was
replaced. What it remembers is the number it accepted last. -/
theorem accepted_in_sequence {as : List Action} {w : Peers} (h : run step init as = some w)
    (s : Side) (target : Nat) :
    ((w.rx s).acceptedBy target).IsChain Receive.Follows
      ∧ (∀ epoch, Consecutive ((w.rx s).numbersOver target epoch)
        ∧ (((w.rx s).numbersOver target epoch).length ≤ 2 ^ 32 →
          ((w.rx s).numbersOver target epoch).Nodup))
      ∧ ∀ c p, (w.rx s).disp.mTargetMap c = some p → p.address = target →
        p.target.mLastFrameNr = Receive.lastNumber ((w.rx s).acceptedBy target) := by
  have hseq : Receive.Sequenced (w.rx s) := rx_run Receive.sequenced_init
    (fun _ _ hr hs => Receive.sequenced_step hr hs) h s
  refine ⟨hseq.order target, fun epoch => ?_, fun c p hp ha => ?_⟩
  · have hconsecutive := hseq.consecutive target epoch
    exact ⟨hconsecutive, hconsecutive.nodup⟩
  · rw [← ha]
    exact hseq.number c p hp

/-! ### An ACK that is lost with its carrier -/

/-- A step of the thread of `a` at a time when nothing is due again. -/
def tick : Action := .transmit .a (.thread Transmit.takes)

/-- A step of the thread of `a` when what was sent at 0 s is due again. -/
def tickLater : Action :=
  .transmit .a (.thread ⟨.noError, .ms 6000 Timespec.later_lt, .ms 6000 Timespec.later_lt⟩)

/-- The next frame comes to `b`, whose consumer takes the buffer, and the ACK is sent. -/
def arrive : Action := .deliver .b .noError .noError (.ms 0 Timespec.start_lt)

/-- Channel 5 is opened on both sides, and a buffer is written and sent. -/
def openAndSend : List Action :=
  [.transmit .a (.openChannel 5 .realTime), .receive .b (.openChannel 5),
    .receive .b .unlockFrameProcessing, .transmit .a (.consumeBuffer 0 ⟨1, [10]⟩)]
    ++ List.replicate 7 tick

/-- Both sides change to a new carrier, over which `b` may process frames. -/
def bothReplace : List Action :=
  [.replaceCarrier .a, .replaceCarrier .b, .receive .b .unlockFrameProcessing]

/-- The ACK of the first frame is on its way when the carrier is replaced; when the frame is due
it is sent again. -/
def ackLost : List Action :=
  openAndSend ++ [arrive] ++ bothReplace ++ List.replicate 3 tickLater ++ [arrive]

theorem accepted_in_sequence_ackLost :
    ∃ w, run step init ackLost = some w
      ∧ ((w.rx .b).acceptedBy 0).IsChain Receive.Follows
      ∧ (∀ epoch, Consecutive ((w.rx .b).numbersOver 0 epoch)
        ∧ (((w.rx .b).numbersOver 0 epoch).length ≤ 2 ^ 32 →
          ((w.rx .b).numbersOver 0 epoch).Nodup))
      ∧ ∀ c p, (w.rx .b).disp.mTargetMap c = some p → p.address = 0 →
        p.target.mLastFrameNr = Receive.lastNumber ((w.rx .b).acceptedBy 0) :=
  ⟨_, rfl, @accepted_in_sequence ackLost _ rfl .b 0⟩

/-- **The first frame after a replacement is not checked**: the target accepts frame 1 a second
time. -/
theorem frame_accepted_twice :
    ∃ w, run step init ackLost = some w
      ∧ ((w.rx .b).acceptedBy 0).map (fun v => v.frame.number) = [1, 1] := by
  exact ⟨_, rfl, by decide⟩

end Peers

end IviLink.L0
