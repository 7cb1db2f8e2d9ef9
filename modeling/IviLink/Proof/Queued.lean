import IviLink.L0.Peers
import IviLink.Proof.Registry

/-!
# The record of the queue

`queued` says from which source each frame of the retransmission queue is. It runs
along with the queue (`Traced.mirror`), so what an ACK finds in the one is what it
finds in the other, and whatever a side puts on the carrier, new or again, is a
frame that one of its sources has filled.
-/

namespace IviLink.L0

open IviLink.Hal IviLink.Lib

namespace Transmit

/-- `true` for the data frame an ACK is for, whatever its source. -/
def isFor (channel_id number : UInt32) (f : Frame) : Bool :=
  f.channel_id = channel_id && f.number = number

structure Traced (t : Transmit) : Prop where
  mirror : t.queued.map Prod.snd = t.disp.mpTransmittedFrameQueue.frames
  hand : ∀ x ∈ t.disp.pc.hand, x ∈ t.produced
  queued : ∀ x ∈ t.queued, x ∈ t.produced
  /-- What a source fills is not an ACK. -/
  data : ∀ x ∈ t.produced, x.2.isACK = false

theorem traced_init : Traced init where
  mirror := rfl
  hand := fun _ hx => absurd hx (by simp [init, CTransmitDispatcher.init, Pc.hand])
  queued := fun _ hx => absurd hx (by simp [init])
  data := fun _ hx => absurd hx (by simp [init])

/-- An ACK finds the same frame in the queue and in the record. -/
theorem Traced.find {t : Transmit} (h : Traced t) (channel_id number : UInt32) :
    (t.queued.find? (isFrame channel_id number)).map Prod.snd
      = t.disp.mpTransmittedFrameQueue.find channel_id number :=
  calc (t.queued.find? (isFrame channel_id number)).map Prod.snd
      = (t.queued.map Prod.snd).find? (isFor channel_id number) :=
        (List.find?_map (f := Prod.snd) (p := isFor channel_id number)).symm
    _ = t.disp.mpTransmittedFrameQueue.frames.find? (isFor channel_id number) := by rw [h.mirror]
    _ = t.disp.mpTransmittedFrameQueue.find channel_id number := List.find?_map

/-- Nothing enters the record. -/
theorem Traced.same {t t' : Transmit} (h : Traced t) (hproduced : t'.produced = t.produced)
    (hhand : t'.disp.pc.hand = [] ∨ t'.disp.pc.hand = t.disp.pc.hand)
    (hqueued : ∀ x ∈ t'.queued, x ∈ t.queued)
    (hmirror : t'.queued.map Prod.snd = t'.disp.mpTransmittedFrameQueue.frames) : Traced t' where
  mirror := hmirror
  hand := fun x hx => by
    rw [hproduced]
    rcases hhand with heq | heq
    · rw [heq] at hx
      exact absurd hx (by simp)
    · exact h.hand x (heq ▸ hx)
  queued := fun x hx => hproduced ▸ h.queued x (hqueued x hx)
  data := fun x hx => h.data x (hproduced ▸ hx)

/-- The front of the record is the front of the queue. -/
theorem Traced.front {t : Transmit} (h : Traced t) {frame : Frame} {rest : List Frame}
    (hfront : t.disp.mpTransmittedFrameQueue.frames = frame :: rest) :
    ∃ address tail, t.queued = (address, frame) :: tail ∧ tail.map Prod.snd = rest := by
  have hmirror := h.mirror
  rw [hfront] at hmirror
  obtain ⟨⟨address, f⟩, tail, hqueued, hf, htail⟩ := List.map_eq_cons_iff.mp hmirror
  obtain rfl : f = frame := hf
  exact ⟨address, tail, hqueued, htail⟩

theorem traced_thread {t : Transmit} {d : CTransmitDispatcher}
    {env : CTransmitDispatcher.Env} {effect : CTransmitDispatcher.Effect} (h : Traced t)
    (hs : t.disp.StepCases env d effect) : Traced ({ t with disp := d }.record effect) := by
  cases hs with
  | quiet hq =>
    refine h.same rfl (.inl hq.hand') (fun _ hx => hx) ?_
    show t.queued.map Prod.snd = d.mpTransmittedFrameQueue.frames
    rw [hq.queue]
    exact h.mirror
  | @produced i iter p s frame released hpc hp hs =>
    obtain ⟨-, -, -, -, hdata⟩ := CSource.OnDispatch_counter hs
    refine ⟨h.mirror, fun x hx => List.mem_append_right _ hx,
      fun x hx => List.mem_append_left _ (h.queued x hx), fun x hx => ?_⟩
    rcases List.mem_append.mp hx with hx | hx
    · exact h.data x hx
    · rw [List.mem_singleton.mp hx]
      exact hdata
  | @sent i iter address frame hpc hok =>
    have hin : (address, frame) ∈ t.disp.pc.hand := by rw [hpc]; exact List.mem_cons_self
    simp only [record, hok, if_true]
    refine ⟨?_, fun x hx => absurd hx (by simp [Pc.hand]), fun x hx => ?_, h.data⟩
    · show (t.queued ++ [(address, frame)]).map Prod.snd
        = (t.disp.mpTransmittedFrameQueue.enqueue frame env.now).frames
      rw [CTransmittedFramesQueue.enqueue_frames, List.map_append, h.mirror]
      rfl
    · rcases List.mem_append.mp hx with hx | hx
      · exact h.queued x hx
      · rw [List.mem_singleton.mp hx]
        exact h.hand _ hin
  | @refused i iter address frame hpc hfail =>
    simp only [record, hfail, Bool.false_eq_true, if_false]
    exact h.same rfl (.inl rfl) (fun _ hx => hx) h.mirror
  | @resent i frame queue report hpc hget hre =>
    obtain ⟨rest, hfront, hback⟩ := CTransmittedFramesQueue.reenqueue_front hre
    obtain ⟨address, tail, hqueued, htail⟩ := h.front hfront
    by_cases hr : report = .timeout
    · rw [if_pos hr, List.append_nil] at hback
      simp only [record, if_pos hr]
      refine h.same rfl (.inr rfl) (fun x hx => List.mem_of_mem_tail hx) ?_
      show t.queued.tail.map Prod.snd = queue.frames
      rw [hqueued, List.tail_cons, htail, hback]
    · rw [if_neg hr] at hback
      simp only [record, if_neg hr]
      refine h.same rfl (.inr rfl) (fun x hx => ?_) ?_
      · have hx' : x ∈ t.queued.tail ++ t.queued.head?.toList := hx
        rw [hqueued] at hx' ⊢
        rcases List.mem_append.mp hx' with hx' | hx'
        · exact List.mem_cons_of_mem _ hx'
        · rw [List.mem_singleton.mp hx']
          exact List.mem_cons_self
      · show (t.queued.tail ++ t.queued.head?.toList).map Prod.snd = queue.frames
        rw [hqueued, hback, List.map_append, List.tail_cons, htail]
        rfl

/-- **The record runs along with the queue.** -/
theorem traced_step {t t' : Transmit} {a : Action} (h : Traced t) (hs : t.step a = some t') :
    Traced t' := by
  cases step_cases hs with
  | @openChannel channel_id prio hidle =>
    refine h.same rfl (.inr ?_) (fun _ hx => hx) ?_
    · rw [CTransmitDispatcher.openChannel_pc]
    · rw [CTransmitDispatcher.openChannel_queue]
      exact h.mirror
  | @purge channel_id =>
    refine h.same rfl (.inr rfl) (fun _ hx => List.mem_of_mem_filter hx) ?_
    calc (t.queued.filter fun x => x.2.channel_id ≠ channel_id).map Prod.snd
        = (t.queued.map Prod.snd).filter fun f => f.channel_id ≠ channel_id :=
          (List.filter_map (f := Prod.snd) (p := fun f : Frame => f.channel_id ≠ channel_id)).symm
      _ = t.disp.mpTransmittedFrameQueue.frames.filter fun f => f.channel_id ≠ channel_id := by
          rw [h.mirror]
      _ = (t.disp.mpTransmittedFrameQueue.deleteFramesForChannel channel_id).frames :=
          List.filter_map
  | remove hidle hclosing => exact h.same rfl (.inr rfl) (fun _ hx => hx) h.mirror
  | consumeBuffer hp => exact h.same rfl (.inr rfl) (fun _ hx => hx) h.mirror
  | flushBuffers => exact h.same rfl (.inr rfl) (fun _ hx => hx) h.mirror
  | @dequeue channel_id number now q time hq =>
    refine h.same rfl (.inr rfl) (fun _ hx => List.mem_of_mem_eraseP hx) ?_
    calc (t.queued.eraseP (isFrame channel_id number)).map Prod.snd
        = (t.queued.map Prod.snd).eraseP (isFor channel_id number) :=
          (List.eraseP_map (f := Prod.snd) (p := isFor channel_id number)).symm
      _ = t.disp.mpTransmittedFrameQueue.frames.eraseP (isFor channel_id number) := by
          rw [h.mirror]
      _ = (t.disp.mpTransmittedFrameQueue.mQueue.eraseP
            (tFrameTimeStamped.isFrame channel_id number)).map tFrameTimeStamped.mFrame :=
          List.eraseP_map
      _ = q.frames := by rw [← CTransmittedFramesQueue.dequeue_mQueue hq]; rfl
  | thread hthread => exact traced_thread h hthread

/-- What goes over the carrier is the frame in hand or the one at the front of the queue. -/
theorem Traced.onCarrier {t : Transmit} (h : Traced t) {a : Action} {x : Nat × Frame}
    (hx : x ∈ t.onCarrier a) : x ∈ t.disp.pc.hand ∨ x ∈ t.queued := by
  cases a with
  | thread env =>
    rw [Transmit.onCarrier] at hx
    split at hx
    · split at hx
      · rename_i d address frame result hstep
        rw [List.mem_singleton.mp hx]
        cases CTransmitDispatcher.threadStep_cases hstep with
        | sent hpc _ => exact .inl (by rw [hpc]; exact List.mem_cons_self)
        | refused hpc _ => exact .inl (by rw [hpc]; exact List.mem_cons_self)
      · rename_i d frame report hstep
        cases CTransmitDispatcher.threadStep_cases hstep with
        | resent _ hget _ =>
          obtain ⟨rest, hfront⟩ := CTransmittedFramesQueue.getFrameToRetransmit_some hget
          obtain ⟨address, tail, hqueued, -⟩ := h.front hfront
          rw [hqueued] at hx ⊢
          rw [List.mem_singleton.mp hx]
          exact .inr List.mem_cons_self
      · exact absurd hx (by simp)
    · exact absurd hx (by simp)
  | _ => exact absurd hx (by simp [Transmit.onCarrier])

/-- It was filled by a source of this side. -/
theorem Traced.onCarrier_produced {t : Transmit} (h : Traced t) {a : Action} {x : Nat × Frame}
    (hx : x ∈ t.onCarrier a) : x ∈ t.produced := by
  rcases h.onCarrier hx with hx | hx
  · exact h.hand x hx
  · exact h.queued x hx

/-- No action takes back a frame that was filled. -/
theorem produced_step {t t' : Transmit} {a : Action} (hs : t.step a = some t') :
    t.produced <+: t'.produced := by
  cases step_cases hs with
  | thread hthread =>
    cases hthread with
    | produced => exact List.prefix_append _ _
    | sent _ hok =>
      simp only [record, hok, if_true]
      exact List.prefix_refl _
    | refused _ hfail =>
      simp only [record, hfail, Bool.false_eq_true, if_false]
      exact List.prefix_refl _
    | @resent _ _ _ report =>
      by_cases hr : report = .timeout
      · simp only [record, if_pos hr]
        exact List.prefix_refl _
      · simp only [record, if_neg hr]
        exact List.prefix_refl _
    | quiet => exact List.prefix_refl _
  | _ => exact List.prefix_refl _

end Transmit

end IviLink.L0
