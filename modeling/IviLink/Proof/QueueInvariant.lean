import IviLink.L0.CTransmittedFramesQueue
import IviLink.Lib.Run
import Mathlib.Data.List.Nodup

/-!
# The retransmission queue

The two containers of `CTransmittedFramesQueue` agree: a key is in the map of
first transmissions exactly when a frame with it is in the queue. And the queue
is ordered by its per-entry times, since an entry only ever enters at the back,
with the time just read from a clock that does not go back, and leaving, from
anywhere, does not reorder the others. That is why looking at the front is
enough: the frame there has waited longest.

`firstSent` is a ghost, the time a frame was first enqueued under a key; what the
timeout is measured from is that and nothing else.
-/

namespace IviLink.L0

open IviLink.Hal IviLink.Lib

/-- The queue, the last clock reading, and when each frame was first sent. -/
structure Clocked where
  queue : CTransmittedFramesQueue
  clock : Timespec
  firstSent : UInt64 → Option Timespec

namespace Clocked

def init (clock : Timespec) : Clocked := ⟨.empty, clock, fun _ => none⟩

/-- What is done with the queue. `retransmit` is `getFrameToRetransmit` and, when that hands out
a frame, `reenqueueRetransmittedFrame` a little later. -/
inductive Op
  | enqueue (frame : Frame) (now : Timespec)
  | dequeue (channel_id number : UInt32) (now : Timespec)
  | deleteFramesForChannel (channel_id : UInt32)
  | retransmit (now later : Timespec)

/-- One operation; `none` is a failed assertion. -/
def step (w : Clocked) : Op → Option Clocked
  | .enqueue frame now =>
    some ⟨w.queue.enqueue frame now, now, Function.update w.firstSent
      (concatenateChannelIdFrameNum frame.mFrameHeader) (some now)⟩
  | .dequeue channel_id number now =>
    match w.queue.dequeue channel_id number now with
    | none => none
    | some (q, _) => some { w with queue := q, clock := now }
  | .deleteFramesForChannel channel_id =>
    some { w with queue := w.queue.deleteFramesForChannel channel_id }
  | .retransmit now later =>
    match w.queue.getFrameToRetransmit now with
    | none => none
    | some none => some { w with clock := now }
    | some (some frame) =>
      match w.queue.reenqueueRetransmittedFrame frame later with
      | none => none
      | some (q, _) => some { w with queue := q, clock := later }

/-- The clock does not go back, and no frame is enqueued while one with its id is queued. -/
def Legal (w : Clocked) : Op → Prop
  | .enqueue frame now => w.clock ≤ now ∧ ∀ e ∈ w.queue.mQueue,
      e.mFrame.channel_id = frame.channel_id → e.mFrame.number ≠ frame.number
  | .dequeue _ _ now => w.clock ≤ now
  | .deleteFramesForChannel _ => True
  | .retransmit now later => w.clock ≤ now ∧ now ≤ later

instance (w : Clocked) : DecidablePred w.Legal
  | .enqueue .. => inferInstanceAs (Decidable (_ ∧ _))
  | .dequeue .. => inferInstanceAs (Decidable (_ ≤ _))
  | .deleteFramesForChannel _ => inferInstanceAs (Decidable True)
  | .retransmit .. => inferInstanceAs (Decidable (_ ∧ _))

end Clocked

/-! ## The invariant -/

structure QueueInv (w : Clocked) : Prop where
  /-- The keys of the map are the ids of the queued frames. -/
  keys : ∀ k, (w.queue.mTransmitStartTimes k).isSome ↔ ∃ e ∈ w.queue.mQueue, e.key = k
  /-- No two queued frames share an id. -/
  distinct : (w.queue.mQueue.map tFrameTimeStamped.key).Nodup
  /-- The queue is ordered by the time of the last transmission. -/
  ordered : w.queue.mQueue.Pairwise fun e e' => e.mStartTime ≤ e'.mStartTime
  past : ∀ e ∈ w.queue.mQueue, e.mStartTime ≤ w.clock
  /-- The map remembers the first transmission. -/
  first : ∀ e ∈ w.queue.mQueue, w.queue.mTransmitStartTimes e.key = w.firstSent e.key

theorem queueInv_init (clock : Timespec) : QueueInv (.init clock) where
  keys := fun k => by simp [Clocked.init, CTransmittedFramesQueue.empty]
  distinct := List.nodup_nil
  ordered := List.Pairwise.nil
  past := fun e he => absurd he (by simp [Clocked.init, CTransmittedFramesQueue.empty])
  first := fun e he => absurd he (by simp [Clocked.init, CTransmittedFramesQueue.empty])

/-- An entry that enters at the back with the current time. -/
theorem ordered_append {l : List tFrameTimeStamped} {e : tFrameTimeStamped}
    (h : l.Pairwise fun e e' => e.mStartTime ≤ e'.mStartTime)
    (hpast : ∀ e' ∈ l, e'.mStartTime ≤ e.mStartTime) :
    (l ++ [e]).Pairwise fun e e' => e.mStartTime ≤ e'.mStartTime := by
  refine List.pairwise_append.mpr ⟨h, List.pairwise_singleton _ _, fun e₁ he₁ e₂ he₂ => ?_⟩
  rw [List.mem_singleton.mp he₂]
  exact hpast e₁ he₁

theorem QueueInv.enqueue {w : Clocked} {frame : Frame} {now : Timespec} (h : QueueInv w)
    (hnow : w.clock ≤ now) (hfresh : ∀ e ∈ w.queue.mQueue,
      e.key ≠ concatenateChannelIdFrameNum frame.mFrameHeader) :
    QueueInv ⟨w.queue.enqueue frame now, now, Function.update w.firstSent
      (concatenateChannelIdFrameNum frame.mFrameHeader) (some now)⟩ := by
  have habsent : w.queue.mTransmitStartTimes
      (concatenateChannelIdFrameNum frame.mFrameHeader) = none := by
    rw [← Option.not_isSome_iff_eq_none, h.keys]
    rintro ⟨e, he, hkey⟩
    exact hfresh e he hkey
  have hstarts : (w.queue.enqueue frame now).mTransmitStartTimes
      = Function.update w.queue.mTransmitStartTimes
        (concatenateChannelIdFrameNum frame.mFrameHeader) (some now) :=
    CTransmittedFramesQueue.insertStart_absent habsent now
  have hpast : ∀ e ∈ w.queue.mQueue, e.mStartTime ≤ now :=
    fun e he => Timespec.le_trans (h.past e he) hnow
  refine ⟨fun k => ?_, ?_, ordered_append h.ordered hpast, ?_, ?_⟩
  · show ((w.queue.enqueue frame now).mTransmitStartTimes k).isSome
      ↔ ∃ e ∈ w.queue.mQueue ++ [⟨frame, now⟩], e.key = k
    rw [hstarts]
    by_cases hk : k = concatenateChannelIdFrameNum frame.mFrameHeader
    · subst hk
      rw [Function.update_self]
      exact ⟨fun _ => ⟨⟨frame, now⟩, List.mem_append_right _ List.mem_cons_self, rfl⟩,
        fun _ => rfl⟩
    · rw [Function.update_of_ne hk, h.keys]
      constructor
      · rintro ⟨e, he, hkey⟩
        exact ⟨e, List.mem_append_left _ he, hkey⟩
      · rintro ⟨e, he, hkey⟩
        rcases List.mem_append.mp he with he | he
        · exact ⟨e, he, hkey⟩
        · rw [List.mem_singleton.mp he] at hkey
          exact absurd hkey.symm hk
  · show ((w.queue.mQueue ++ [(⟨frame, now⟩ : tFrameTimeStamped)]).map _).Nodup
    rw [List.map_append]
    refine List.Nodup.append h.distinct (List.nodup_singleton _) ?_
    intro k hk hk'
    obtain ⟨e, he, rfl⟩ := List.mem_map.mp hk
    exact hfresh e he (List.mem_singleton.mp hk')
  · intro e he
    rcases List.mem_append.mp he with he | he
    · exact hpast e he
    · rw [List.mem_singleton.mp he]; exact Timespec.le_refl now
  · intro e he
    rw [hstarts]
    rcases List.mem_append.mp he with he | he
    · have hk := hfresh e he
      simp only [Function.update_of_ne hk, h.first e he]
    · obtain rfl := List.mem_singleton.mp he
      have hkey : (⟨frame, now⟩ : tFrameTimeStamped).key
          = concatenateChannelIdFrameNum frame.mFrameHeader := rfl
      simp only [hkey, Function.update_self]

/-- Frames may leave from anywhere, if their keys leave the map with them. -/
theorem QueueInv.remove {w : Clocked} {q : CTransmittedFramesQueue} {now : Timespec}
    (h : QueueInv w) (hnow : w.clock ≤ now) (hsub : q.mQueue.Sublist w.queue.mQueue)
    (hstarts : ∀ k, q.mTransmitStartTimes k = if ∃ e ∈ w.queue.mQueue, e.key = k ∧ e ∉ q.mQueue
      then none else w.queue.mTransmitStartTimes k) :
    QueueInv { w with queue := q, clock := now } := by
  have hkept : ∀ e ∈ q.mQueue, ¬ ∃ e' ∈ w.queue.mQueue, e'.key = e.key ∧ e' ∉ q.mQueue := by
    rintro e he ⟨e', he', hkey, hout⟩
    exact hout (List.inj_on_of_nodup_map h.distinct he' (hsub.subset he) hkey ▸ he)
  refine ⟨fun k => ?_, h.distinct.sublist (hsub.map _), h.ordered.sublist hsub, ?_, ?_⟩
  · show (q.mTransmitStartTimes k).isSome ↔ ∃ e ∈ q.mQueue, e.key = k
    rw [hstarts k]
    split
    · rename_i hgone
      refine ⟨fun hs => absurd hs (by simp), ?_⟩
      rintro ⟨e, he, rfl⟩
      exact absurd hgone (hkept e he)
    · rename_i hstay
      rw [h.keys]
      constructor
      · rintro ⟨e, he, hkey⟩
        refine ⟨e, ?_, hkey⟩
        by_contra hout
        exact hstay ⟨e, he, hkey, hout⟩
      · rintro ⟨e, he, hkey⟩
        exact ⟨e, hsub.subset he, hkey⟩
  · exact fun e he => Timespec.le_trans (h.past e (hsub.subset he)) hnow
  · intro e he
    show q.mTransmitStartTimes e.key = w.firstSent e.key
    rw [hstarts, if_neg (hkept e he), h.first e (hsub.subset he)]

theorem QueueInv.clock {w : Clocked} {now : Timespec} (h : QueueInv w) (hnow : w.clock ≤ now) :
    QueueInv { w with clock := now } :=
  ⟨h.keys, h.distinct, h.ordered, fun e he => Timespec.le_trans (h.past e he) hnow, h.first⟩

theorem QueueInv.dequeue {w : Clocked} {now : Timespec} (h : QueueInv w)
    (channel_id number : UInt32) (hnow : w.clock ≤ now) :
    ∃ q time, w.queue.dequeue channel_id number now = some (q, time)
      ∧ QueueInv { w with queue := q, clock := now } := by
  rw [CTransmittedFramesQueue.dequeue]
  cases hfind : w.queue.mQueue.find? (tFrameTimeStamped.isFrame channel_id number) with
  | none => exact ⟨w.queue, none, rfl, h.clock hnow⟩
  | some e =>
    obtain ⟨hp, l₁, l₂, hqueue, hl₁⟩ := List.find?_eq_some_iff_append.mp hfind
    have he : e ∈ w.queue.mQueue := hqueue ▸ List.mem_append_right _ List.mem_cons_self
    obtain ⟨d, hd, -⟩ := getTimePeriodInNanoSec_eq (Timespec.le_trans (h.past e he) hnow)
    have herase : w.queue.mQueue.eraseP (tFrameTimeStamped.isFrame channel_id number)
        = l₁ ++ l₂ := by
      have hl₁' : ∀ b ∈ l₁, ¬ tFrameTimeStamped.isFrame channel_id number b = true :=
        fun b hb => by simpa using hl₁ b hb
      rw [hqueue, List.eraseP_append_right _ hl₁', List.eraseP_cons_of_pos hp]
    simp only [hd]
    refine ⟨_, _, rfl, h.remove hnow List.eraseP_sublist fun k => ?_⟩
    rw [herase]
    show CTransmittedFramesQueue.eraseStart _ _ k = _
    by_cases hk : k = e.key
    · subst hk
      have hout : e ∉ l₁ ++ l₂ := by
        have hnd := h.distinct
        rw [hqueue, List.map_append, List.map_cons, List.nodup_middle,
          ← List.map_append, List.nodup_cons] at hnd
        exact fun hin => hnd.1 (List.mem_map_of_mem hin)
      rw [if_pos ⟨e, he, rfl, hout⟩, CTransmittedFramesQueue.eraseStart_self]
    · rw [if_neg, CTransmittedFramesQueue.eraseStart_of_ne hk]
      rintro ⟨e', he', hkey, hout⟩
      rw [hqueue] at he'
      rcases List.mem_append.mp he' with h₁ | h₂
      · exact hout (List.mem_append_left _ h₁)
      · rcases List.mem_cons.mp h₂ with rfl | h₂
        · exact hk hkey.symm
        · exact hout (List.mem_append_right _ h₂)

/-- Erasing the keys of some entries one by one. -/
theorem foldl_eraseStart (l : List tFrameTimeStamped) (m : UInt64 → Option Timespec) (k : UInt64) :
    l.foldl (fun m e => CTransmittedFramesQueue.eraseStart m e.key) m k
      = if ∃ e ∈ l, e.key = k then none else m k := by
  induction l generalizing m with
  | nil => simp
  | cons e l ih =>
    rw [List.foldl_cons, ih]
    by_cases hl : ∃ e' ∈ l, e'.key = k
    · obtain ⟨e', he', hkey⟩ := hl
      rw [if_pos ⟨e', he', hkey⟩, if_pos ⟨e', List.mem_cons_of_mem _ he', hkey⟩]
    · rw [if_neg hl]
      by_cases hk : e.key = k
      · rw [if_pos ⟨e, List.mem_cons_self, hk⟩, hk, CTransmittedFramesQueue.eraseStart_self]
      · rw [if_neg, CTransmittedFramesQueue.eraseStart_of_ne (Ne.symm hk)]
        rintro ⟨e', he', hkey⟩
        rcases List.mem_cons.mp he' with rfl | he'
        · exact hk hkey
        · exact hl ⟨e', he', hkey⟩

theorem QueueInv.deleteFramesForChannel {w : Clocked} (h : QueueInv w) (channel_id : UInt32) :
    QueueInv { w with queue := w.queue.deleteFramesForChannel channel_id } := by
  refine h.remove (Timespec.le_refl w.clock) List.filter_sublist fun k => ?_
  rw [CTransmittedFramesQueue.deleteFramesForChannel]
  simp only [foldl_eraseStart]
  congr 1
  refine propext ⟨?_, ?_⟩
  · rintro ⟨e, he, hkey⟩
    obtain ⟨hin, hch⟩ := List.mem_filter.mp he
    exact ⟨e, hin, hkey, fun hout => by simpa [hch] using (List.mem_filter.mp hout).2⟩
  · rintro ⟨e, he, hkey, hout⟩
    refine ⟨e, List.mem_filter.mpr ⟨he, ?_⟩, hkey⟩
    by_contra hch
    exact hout (List.mem_filter.mpr ⟨he, by simpa using hch⟩)

/-! ## Retransmission -/

theorem toNat_RETRANSMIT_TIME_NSEC :
    (UInt64.ofNat RETRANSMIT_TIME_NSEC).toNat = RETRANSMIT_TIME_NSEC := by
  rw [UInt64.toNat_ofNat']
  decide

/-- **The front is enough.** No assertion fires, and a frame is handed out exactly when some
frame has waited longer than the retransmission time; it is the one at the front. -/
theorem QueueInv.getFrameToRetransmit {w : Clocked} {now : Timespec} (h : QueueInv w)
    (hnow : w.clock ≤ now) :
    ∃ r, w.queue.getFrameToRetransmit now = some r
      ∧ (r.isSome ↔ ∃ e ∈ w.queue.mQueue, RETRANSMIT_TIME_NSEC < now.ns - e.mStartTime.ns)
      ∧ ∀ frame, r = some frame → ∃ start rest, w.queue.mQueue = ⟨frame, start⟩ :: rest := by
  rw [CTransmittedFramesQueue.getFrameToRetransmit]
  cases hqueue : w.queue.mQueue with
  | nil => exact ⟨none, rfl, by simp, fun frame hr => absurd hr (by simp)⟩
  | cons fts rest =>
    have hpast : fts.mStartTime ≤ now :=
      Timespec.le_trans (h.past fts (hqueue ▸ List.mem_cons_self)) hnow
    obtain ⟨d, hd, htime⟩ := getTimePeriodInNanoSec_eq hpast
    have hcmp : d > UInt64.ofNat RETRANSMIT_TIME_NSEC
        ↔ RETRANSMIT_TIME_NSEC < now.ns - fts.mStartTime.ns := by
      rw [gt_iff_lt, UInt64.lt_iff_toNat_lt, htime, toNat_RETRANSMIT_TIME_NSEC]
    -- whoever has waited too long has not waited longer than the front
    have hfront : (∃ e ∈ fts :: rest, RETRANSMIT_TIME_NSEC < now.ns - e.mStartTime.ns)
        ↔ RETRANSMIT_TIME_NSEC < now.ns - fts.mStartTime.ns := by
      refine ⟨?_, fun hlt => ⟨fts, List.mem_cons_self, hlt⟩⟩
      rintro ⟨e, he, hlt⟩
      rcases List.mem_cons.mp he with rfl | he
      · exact hlt
      · have hord := h.ordered
        rw [hqueue] at hord
        have hle : fts.mStartTime.ns ≤ e.mStartTime.ns := List.rel_of_pairwise_cons hord he
        omega
    simp only [hd, hfront]
    by_cases hlt : RETRANSMIT_TIME_NSEC < now.ns - fts.mStartTime.ns
    · refine ⟨some fts.mFrame, if_pos (hcmp.mpr hlt), by simp [hlt], fun frame hr => ?_⟩
      obtain rfl := Option.some.inj hr
      exact ⟨fts.mStartTime, rest, rfl⟩
    · refine ⟨none, if_neg (fun hgt => hlt (hcmp.mp hgt)), by simp [hlt], fun frame hr => ?_⟩
      exact absurd hr (by simp)

/-- What becomes of a frame that has been sent again. -/
structure Reenqueued (w : Clocked) (frame : Frame) (rest : List tFrameTimeStamped)
    (later : Timespec) (q : CTransmittedFramesQueue) (report : Report) : Prop where
  /-- It is dropped, with the timeout reported, when the seconds of the clock show the timeout
  since its first transmission. -/
  timeout : report = .timeout ↔ ∃ first, w.firstSent (concatenateChannelIdFrameNum
    frame.mFrameHeader) = some first ∧ first.tv_sec + RETRANSMIT_TIMEOUT_SEC ≤ later.tv_sec
  dropped : report = .timeout → q.mQueue = rest
  /-- Otherwise it goes to the back as it is, with the time of this transmission. -/
  kept : report ≠ .timeout → report = .reenqueued ∧ q.mQueue = rest ++ [⟨frame, later⟩]
    ∧ q.mTransmitStartTimes = w.queue.mTransmitStartTimes

theorem QueueInv.reenqueue {w : Clocked} {frame : Frame} {start later : Timespec}
    {rest : List tFrameTimeStamped} (h : QueueInv w) (hlater : w.clock ≤ later)
    (hqueue : w.queue.mQueue = ⟨frame, start⟩ :: rest) :
    ∃ q report, w.queue.reenqueueRetransmittedFrame frame later = some (q, report)
      ∧ Reenqueued w frame rest later q report
      ∧ QueueInv { w with queue := q, clock := later } := by
  have hfront : (⟨frame, start⟩ : tFrameTimeStamped) ∈ w.queue.mQueue :=
    hqueue ▸ List.mem_cons_self
  obtain ⟨first, hfirst⟩ := Option.isSome_iff_exists.mp ((h.keys _).mpr ⟨_, hfront, rfl⟩)
  have hghost := (h.first _ hfront).symm.trans hfirst
  have hkey : (⟨frame, start⟩ : tFrameTimeStamped).key
      = concatenateChannelIdFrameNum frame.mFrameHeader := rfl
  rw [hkey] at hfirst hghost
  have hnodup := h.distinct
  rw [hqueue, List.map_cons, List.nodup_cons, hkey] at hnodup
  rw [CTransmittedFramesQueue.reenqueueRetransmittedFrame, hqueue]
  simp only [ne_eq, not_true_eq_false, if_false, hfirst]
  by_cases hlt : (later.tv_sec : Int) - first.tv_sec < RETRANSMIT_TIMEOUT_SEC
  · have hbefore : ¬ first.tv_sec + RETRANSMIT_TIMEOUT_SEC ≤ later.tv_sec := by omega
    rw [if_pos hlt]
    refine ⟨_, _, rfl, ⟨?_, fun hr => absurd hr (by simp), fun _ => ⟨rfl, rfl, rfl⟩⟩, ?_⟩
    · refine ⟨fun hr => absurd hr (by simp), ?_⟩
      rintro ⟨first', hf, hle⟩
      rw [hghost] at hf
      exact absurd (Option.some.inj hf ▸ hle) hbefore
    · have hord := h.ordered
      rw [hqueue, List.pairwise_cons] at hord
      have hpast : ∀ e ∈ rest, e.mStartTime ≤ later := fun e he =>
        Timespec.le_trans (h.past e (hqueue ▸ List.mem_cons_of_mem _ he)) hlater
      have hmem : ∀ k, (∃ e ∈ rest ++ [⟨frame, later⟩], e.key = k)
          ↔ ∃ e ∈ w.queue.mQueue, e.key = k := by
        intro k
        simp only [hqueue, List.mem_append, List.mem_cons, or_and_right, exists_or,
          exists_eq_left, List.not_mem_nil, or_false]
        exact or_comm
      refine ⟨fun k => (h.keys k).trans (hmem k).symm, ?_, ordered_append hord.2 hpast, ?_, ?_⟩
      · show ((rest ++ [(⟨frame, later⟩ : tFrameTimeStamped)]).map _).Nodup
        rw [List.map_append]
        refine List.Nodup.append hnodup.2 (List.nodup_singleton _) ?_
        intro k hk hk'
        rw [List.mem_singleton.mp hk'] at hk
        exact hnodup.1 hk
      · intro e he
        rcases List.mem_append.mp he with he | he
        · exact hpast e he
        · rw [List.mem_singleton.mp he]; exact Timespec.le_refl later
      · intro e he
        rcases List.mem_append.mp he with he | he
        · exact h.first e (hqueue ▸ List.mem_cons_of_mem _ he)
        · rw [List.mem_singleton.mp he]
          exact hfirst.trans hghost.symm
  · have hafter : first.tv_sec + RETRANSMIT_TIMEOUT_SEC ≤ later.tv_sec := by omega
    rw [if_neg hlt]
    refine ⟨_, _, rfl, ⟨⟨fun _ => ⟨first, hghost, hafter⟩, fun _ => rfl⟩, fun _ => rfl,
      fun hr => absurd rfl hr⟩, ?_⟩
    refine h.remove hlater (hqueue ▸ List.sublist_cons_self ..) fun k => ?_
    show CTransmittedFramesQueue.eraseStart _ _ k = _
    by_cases hk : k = concatenateChannelIdFrameNum frame.mFrameHeader
    · have hout : (⟨frame, start⟩ : tFrameTimeStamped) ∉ rest := by
        intro hin
        have := List.mem_map_of_mem (f := tFrameTimeStamped.key) hin
        rw [hkey] at this
        exact hnodup.1 this
      have hgone : ∃ e ∈ w.queue.mQueue, e.key = k ∧ e ∉ rest :=
        ⟨_, hfront, hkey.trans hk.symm, hout⟩
      rw [if_pos hgone, hk, CTransmittedFramesQueue.eraseStart_self]
    · have hstay : ¬ ∃ e ∈ w.queue.mQueue, e.key = k ∧ e ∉ rest := by
        rintro ⟨e, he, hke, hout⟩
        rw [hqueue] at he
        rcases List.mem_cons.mp he with rfl | he
        · exact hk (hke.symm.trans hkey)
        · exact hout he
      rw [if_neg hstay, CTransmittedFramesQueue.eraseStart_of_ne hk]

/-! ## Runs -/

theorem queueInv_step {w : Clocked} {op : Clocked.Op} (h : QueueInv w) (hop : w.Legal op) :
    ∃ w', w.step op = some w' ∧ QueueInv w' := by
  cases op with
  | enqueue frame now =>
    refine ⟨_, rfl, h.enqueue hop.1 fun e he hkey => ?_⟩
    obtain ⟨hc, hn⟩ := concatenate_inj.mp hkey
    exact hop.2 e he hc hn
  | dequeue channel_id number now =>
    obtain ⟨q, time, hq, hinv⟩ := h.dequeue channel_id number hop
    exact ⟨_, by simp only [Clocked.step, hq], hinv⟩
  | deleteFramesForChannel channel_id => exact ⟨_, rfl, h.deleteFramesForChannel channel_id⟩
  | retransmit now later =>
    obtain ⟨r, hr, -, hfront⟩ := h.getFrameToRetransmit hop.1
    cases r with
    | none => exact ⟨_, by simp only [Clocked.step, hr], h.clock hop.1⟩
    | some frame =>
      obtain ⟨start, rest, hqueue⟩ := hfront frame rfl
      obtain ⟨q, report, hq, -, hinv⟩ :=
        h.reenqueue (Timespec.le_trans hop.1 hop.2) hqueue
      exact ⟨_, by simp only [Clocked.step, hr, hq], hinv⟩

/-- **Over any sequence of operations the queue keeps its invariant and no assertion fires**;
whatever state it is in, looking at the front finds a frame to retransmit if there is one, and
that frame is dropped or goes to the back as `Reenqueued` says. -/
theorem queue_run {clock : Timespec} {ops : List Clocked.Op}
    (h : Along Clocked.step Clocked.Legal (.init clock) ops) :
    ∃ w, run Clocked.step (.init clock) ops = some w ∧ QueueInv w
      ∧ ∀ now, w.clock ≤ now →
        ∃ r, w.queue.getFrameToRetransmit now = some r
          ∧ (r.isSome ↔ ∃ e ∈ w.queue.mQueue, RETRANSMIT_TIME_NSEC < now.ns - e.mStartTime.ns)
          ∧ ∀ frame later, r = some frame → now ≤ later →
            ∃ start rest q report, w.queue.mQueue = ⟨frame, start⟩ :: rest
              ∧ w.queue.reenqueueRetransmittedFrame frame later = some (q, report)
              ∧ Reenqueued w frame rest later q report := by
  obtain ⟨w, hrun, hinv⟩ := run_total (fun _ _ hi hop => queueInv_step hi hop)
    (queueInv_init clock) h
  refine ⟨w, hrun, hinv, fun now hnow => ?_⟩
  obtain ⟨r, hr, hsome, hfront⟩ := hinv.getFrameToRetransmit hnow
  refine ⟨r, hr, hsome, fun frame later hframe hlater => ?_⟩
  obtain ⟨start, rest, hqueue⟩ := hfront frame hframe
  obtain ⟨q, report, hq, hre, -⟩ := hinv.reenqueue (Timespec.le_trans hnow hlater) hqueue
  exact ⟨start, rest, q, report, hqueue, hq, hre⟩

/-! ### A frame that is given up early -/

/-- Frame 1 of channel 5, with one byte of data. -/
def someFrame : Frame := ⟨⟨1, 5, 1⟩, [10]⟩

/-- It is sent at 0.9 s, sent again at 7 s and acknowledged. -/
def someOps : List Clocked.Op :=
  [.enqueue someFrame (.ms 900 (by decide)),
    .retransmit (.ms 7000 (by decide)) (.ms 7000 (by decide)), .dequeue 5 1 (.ms 7100 (by decide))]

theorem queue_run_someOps :
    ∃ w, run Clocked.step (.init (.ms 0 (by decide))) someOps = some w ∧ QueueInv w
      ∧ ∀ now, w.clock ≤ now →
        ∃ r, w.queue.getFrameToRetransmit now = some r
          ∧ (r.isSome ↔ ∃ e ∈ w.queue.mQueue, RETRANSMIT_TIME_NSEC < now.ns - e.mStartTime.ns)
          ∧ ∀ frame later, r = some frame → now ≤ later →
            ∃ start rest q report, w.queue.mQueue = ⟨frame, start⟩ :: rest
              ∧ w.queue.reenqueueRetransmittedFrame frame later = some (q, report)
              ∧ Reenqueued w frame rest later q report := by
  refine queue_run ⟨by decide, fun w hw => ?_⟩
  obtain rfl := Option.some.inj hw
  refine ⟨by decide, fun w hw => ?_⟩
  obtain rfl := Option.some.inj hw
  exact ⟨by decide, fun _ _ => trivial⟩

/-- **Twenty seconds on the clock are not twenty seconds.** A frame first sent at 0.9 s and sent
again at 20 s is dropped with the timeout reported, 19.1 s after its first transmission. -/
theorem timeout_after_19_seconds :
    ∃ w, run Clocked.step (.init (.ms 0 (by decide)))
        [.enqueue someFrame (.ms 900 (by decide))] = some w
      ∧ w.queue.getFrameToRetransmit (.ms 20000 (by decide)) = some (some someFrame)
      ∧ w.firstSent (concatenateChannelIdFrameNum someFrame.mFrameHeader)
          = some (.ms 900 (by decide))
      ∧ (Timespec.ms 20000 (by decide)).ns - (Timespec.ms 900 (by decide)).ns
          < RETRANSMIT_TIMEOUT_SEC * 1000000000
      ∧ (w.queue.reenqueueRetransmittedFrame someFrame (.ms 20000 (by decide))).map Prod.snd
          = some .timeout :=
  ⟨_, rfl, by decide, by decide, by decide, by decide⟩

end IviLink.L0
