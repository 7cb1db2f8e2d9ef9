import IviLink.L0.Transmit
import IviLink.Proof.Registry

/-!
# Closing a channel

`closeChannel` empties the queue first and takes the source away second, and the
dispatcher's thread can be between `OnDispatch` and `enqueue` in that gap. What is
true of a closed channel holds as long as the gap stays empty: a channel that is
being closed has no frame in the queue (`Purged.closing`), its one source goes
with the second half, and a source that is gone fills no frames.

A channel must have one source for that. `openChannel` sees only the list of the
priority it opens the channel under, so it is on the caller not to open one
channel under two.
-/

namespace IviLink.L0

open IviLink.Hal IviLink.Lib

namespace Transmit

/-- The frames an action gives to the carrier. -/
def given (t : Transmit) : Action → List Frame
  | .thread env =>
    match t.disp.threadStep env with
    | some (_, .sent _ frame _) => [frame]
    | some (_, .resent frame _) => [frame]
    | _ => []
  | _ => []

/-- What keeps a closed channel closed: a channel is not opened while it has a source under
another priority, and no frame of a channel is sent between the two halves of its
`closeChannel`. -/
def GapEmpty (t : Transmit) : Action → Prop
  | .openChannel channel_id prio =>
    ∀ i, i ≠ prio → (t.disp.mRegistry i).countP (SourcePtr.isOf channel_id) = 0
  | .thread env => env.sent.isNoError = true →
    ∀ x ∈ t.disp.pc.hand, x.2.channel_id ∉ t.closing
  | _ => True

/-- No frame of the channel is queued. -/
def NotQueued (t : Transmit) (channel_id : UInt32) : Prop :=
  ∀ f ∈ t.disp.mpTransmittedFrameQueue.frames, f.channel_id ≠ channel_id

structure Purged (t : Transmit) : Prop where
  addressed : t.disp.Addressed
  /-- A channel has one source at most. -/
  single : ∀ channel_id, t.disp.numSources channel_id ≤ 1
  /-- A frame in hand is of a channel that has one. -/
  hand : ∀ x ∈ t.disp.pc.hand, 0 < t.disp.numSources x.2.channel_id
  closing : ∀ channel_id ∈ t.closing, t.NotQueued channel_id
  closed : ∀ channel_id, t.closed channel_id = true →
    t.disp.numSources channel_id = 0 ∧ t.NotQueued channel_id

theorem purged_init : Purged init where
  addressed := CTransmitDispatcher.addressed_init
  single := fun _ => Nat.zero_le 1
  hand := fun x hx => absurd hx (by simp [init, CTransmitDispatcher.init, Pc.hand])
  closing := fun c hc => absurd hc (by simp [init])
  closed := fun c hc => absurd hc (by simp [init])

/-- A step after which the queue holds no frame it did not hold before. -/
theorem Purged.of_queue {t t' : Transmit} (h : Purged t) (haddressed : t'.disp.Addressed)
    (hsources : ∀ c, t'.disp.numSources c = t.disp.numSources c)
    (hhand : ∀ x ∈ t'.disp.pc.hand, 0 < t.disp.numSources x.2.channel_id)
    (hqueue : ∀ f ∈ t'.disp.mpTransmittedFrameQueue.frames,
      f ∈ t.disp.mpTransmittedFrameQueue.frames)
    (hclosing : t'.closing = t.closing) (hclosed : t'.closed = t.closed) : Purged t' where
  addressed := haddressed
  single := fun c => by rw [hsources]; exact h.single c
  hand := fun x hx => by rw [hsources]; exact hhand x hx
  closing := fun c hc f hf => h.closing c (hclosing ▸ hc) f (hqueue f hf)
  closed := fun c hc => by
    obtain ⟨hnone, hq⟩ := h.closed c (hclosed ▸ hc)
    exact ⟨by rw [hsources]; exact hnone, fun f hf => hq f (hqueue f hf)⟩

/-- What a producer does to its source's queue. -/
theorem Purged.atSource {t : Transmit} {address : Nat} {f : CSource → CSource} (h : Purged t)
    (written : UInt32 → List UInt8) (hf : ∀ s, (f s).mChannelID = s.mChannelID) :
    Purged { t with disp := t.disp.atSource address f, written := written } := by
  have hf' : ∀ i, ∀ p ∈ t.disp.mRegistry i, p.address = address →
      (f p.source).mChannelID = p.source.mChannelID := fun _ p _ _ => hf p.source
  have hcount := t.disp.numSources_atSource address hf'
  exact h.of_queue (h.addressed.atSource hf') hcount h.hand (fun _ hq => hq) rfl rfl

theorem purged_thread {t : Transmit} {d : CTransmitDispatcher}
    {env : CTransmitDispatcher.Env} {effect : CTransmitDispatcher.Effect} (h : Purged t)
    (ha : t.GapEmpty (.thread env)) (hs : t.disp.StepCases env d effect) :
    Purged ({ t with disp := d }.record effect) := by
  have hd := CTransmitDispatcher.addressed_thread h.addressed hs
  cases hs with
  | quiet hq =>
    refine h.of_queue hd (fun c => ?_) (fun x hx => ?_) (fun f hf => ?_) rfl rfl
    · show d.numSources c = t.disp.numSources c
      rw [CTransmitDispatcher.numSources, hq.registry]
      rfl
    · have hx' : x ∈ d.pc.hand := hx
      rw [hq.hand'] at hx'
      exact absurd hx' (by simp)
    · exact hq.queue ▸ hf
  | @produced i iter p s frame released hpc hp hs =>
    obtain ⟨-, -, hchannel, -, -⟩ := CSource.OnDispatch_counter hs
    refine h.of_queue hd (fun c => ?_) (fun x hx => ?_) (fun f hf => hf) rfl rfl
    · exact t.disp.numSources_atSource p.address (f := fun _ => s) (h.addressed.sameChannel hp hs) c
    · obtain rfl : x = (p.address, frame) := List.mem_singleton.mp hx
      exact CTransmitDispatcher.numSources_pos (List.mem_of_getElem? hp) hchannel.symm
  | @sent i iter address frame hpc hok =>
    have hin : (address, frame) ∈ t.disp.pc.hand := by rw [hpc]; exact List.mem_cons_self
    have hopen := h.hand _ hin
    have hgap := ha hok _ hin
    simp only [record, hok, if_true]
    have hqueue : ∀ f ∈ (t.disp.mpTransmittedFrameQueue.enqueue frame env.now).frames,
        f ∈ t.disp.mpTransmittedFrameQueue.frames ∨ f = frame := by
      intro f hf
      rw [CTransmittedFramesQueue.enqueue_frames] at hf
      rcases List.mem_append.mp hf with hf | hf
      · exact .inl hf
      · exact .inr (List.mem_singleton.mp hf)
    refine ⟨hd, h.single, fun x hx => absurd hx (by simp [Pc.hand]), fun c hc f hf => ?_,
      fun c hc => ?_⟩
    · rcases hqueue f hf with hf | rfl
      · exact h.closing c hc f hf
      · exact fun heq => hgap (heq ▸ hc)
    · obtain ⟨hnone, hq⟩ := h.closed c hc
      refine ⟨hnone, fun f hf => ?_⟩
      rcases hqueue f hf with hf | rfl
      · exact hq f hf
      · -- its source is gone, so there was no frame of it in hand
        intro heq
        rw [heq, hnone] at hopen
        exact absurd hopen (Nat.lt_irrefl 0)
  | @refused i iter address frame hpc hfail =>
    simp only [record, hfail, Bool.false_eq_true, if_false]
    exact h.of_queue hd (fun _ => rfl) (fun x hx => absurd hx (by simp [Pc.hand])) (fun f hf => hf)
      rfl rfl
  | @resent i frame queue report hpc hget hre =>
    have hperm := CTransmittedFramesQueue.reenqueue_frames hre
    have hqueue : ∀ f ∈ queue.frames, f ∈ t.disp.mpTransmittedFrameQueue.frames :=
      fun f hf => hperm.mem_iff.mpr (List.mem_append_left _ hf)
    by_cases hr : report = .timeout
    · simp only [record, if_pos hr]
      exact h.of_queue hd (fun _ => rfl) h.hand hqueue rfl rfl
    · simp only [record, if_neg hr]
      exact h.of_queue hd (fun _ => rfl) h.hand hqueue rfl rfl

/-- **Every action that leaves the gap empty keeps closed channels closed.** -/
theorem purged_step {t t' : Transmit} {a : Action} (h : Purged t) (ha : t.GapEmpty a)
    (hs : t.step a = some t') : Purged t' := by
  have hd := addressed_step h.addressed hs
  cases step_cases hs with
  | @openChannel channel_id prio hidle =>
    have hcases := t.disp.numSources_openChannel channel_id prio
    have hqueue : ∀ f ∈ (t.disp.openChannel channel_id prio).1.mpTransmittedFrameQueue.frames,
        f ∈ t.disp.mpTransmittedFrameQueue.frames := fun f hf =>
      t.disp.openChannel_queue channel_id prio ▸ hf
    refine ⟨hd, fun c => ?_, fun x hx => ?_,
      fun c hc f hf => h.closing c hc f (hqueue f hf), fun c hc => ?_⟩
    · show (t.disp.openChannel channel_id prio).1.numSources c ≤ 1
      rcases hcases c with heq | ⟨heq, rfl, hnone⟩
      · rw [heq]; exact h.single c
      · -- no other list has the channel, and this one had not
        have hzero : t.disp.numSources c = 0 := by
          have hother : ∀ i, (t.disp.mRegistry i).countP (SourcePtr.isOf c) = 0 := by
            intro i
            by_cases hi : i = prio
            · rw [hi]; exact hnone
            · exact ha i hi
          rw [CTransmitDispatcher.numSources, hother, hother, hother]
        rw [heq, hzero]
    · have hx' : x ∈ (t.disp.openChannel channel_id prio).1.pc.hand := hx
      rw [CTransmitDispatcher.openChannel_pc, hidle] at hx'
      exact absurd hx' (by simp [Pc.hand])
    · have hc' : Function.update t.closed channel_id false c = true := hc
      by_cases hcc : c = channel_id
      · rw [hcc, Function.update_self] at hc'
        exact absurd hc' (by simp)
      · rw [Function.update_of_ne hcc] at hc'
        obtain ⟨hnone, hq⟩ := h.closed c hc'
        refine ⟨?_, fun f hf => hq f (hqueue f hf)⟩
        show (t.disp.openChannel channel_id prio).1.numSources c = 0
        rcases hcases c with heq | ⟨-, heq, -⟩
        · rw [heq]; exact hnone
        · exact absurd heq hcc
  | @purge channel_id =>
    have hqueue : ∀ f ∈ (t.disp.purge channel_id).mpTransmittedFrameQueue.frames,
        f ∈ t.disp.mpTransmittedFrameQueue.frames ∧ f.channel_id ≠ channel_id := by
      intro f hf
      obtain ⟨e, he, rfl⟩ := List.mem_map.mp hf
      obtain ⟨hin, hne⟩ := List.mem_filter.mp he
      exact ⟨List.mem_map_of_mem hin, by simpa using hne⟩
    refine ⟨hd, h.single, h.hand, fun c hc f hf => ?_,
      fun c hc => ⟨(h.closed c hc).1, fun f hf => (h.closed c hc).2 f (hqueue f hf).1⟩⟩
    rcases List.mem_cons.mp hc with rfl | hc
    · exact (hqueue f hf).2
    · exact h.closing c hc f (hqueue f hf).1
  | @remove channel_id hidle hclosing =>
    have hle := t.disp.numSources_remove_le channel_id
    refine ⟨hd, fun c => (hle c).trans (h.single c), fun x hx => ?_,
      fun c hc => h.closing c (List.mem_of_mem_erase hc), fun c hc => ?_⟩
    · have hx' : x ∈ t.disp.pc.hand := hx
      rw [hidle] at hx'
      exact absurd hx' (by simp [Pc.hand])
    · have hc' : Function.update t.closed channel_id true c = true := hc
      by_cases hcc : c = channel_id
      · subst hcc
        refine ⟨?_, h.closing c hclosing⟩
        show (t.disp.remove c).1.numSources c = 0
        rw [CTransmitDispatcher.numSources_remove]
        have := h.single c
        omega
      · rw [Function.update_of_ne hcc] at hc'
        obtain ⟨hnone, hq⟩ := h.closed c hc'
        exact ⟨Nat.le_zero.mp (hnone ▸ hle c), hq⟩
  | @consumeBuffer address b p hp =>
    exact h.atSource (f := fun s => (s.consumeBuffer (some b)).1) _ fun _ => rfl
  | flushBuffers => exact h.atSource (f := fun s => s.flushBuffers.1) t.written fun _ => rfl
  | dequeue hq =>
    have hperm := CTransmittedFramesQueue.dequeue_frames hq
    exact h.of_queue hd (fun _ => rfl) h.hand
      (fun f hf => hperm.mem_iff.mpr (List.mem_append_left _ hf)) rfl rfl
  | thread hthread => exact purged_thread h ha hthread

/-- Nothing of a closed channel is given to the carrier. -/
theorem Purged.given {t : Transmit} (h : Purged t) {a : Action} {f : Frame} {channel_id : UInt32}
    (hf : f ∈ t.given a) (hc : t.closed channel_id = true) : f.channel_id ≠ channel_id := by
  obtain ⟨hnone, hqueue⟩ := h.closed channel_id hc
  cases a with
  | thread env =>
    rw [Transmit.given] at hf
    split at hf
    · rename_i d address frame result hstep
      obtain rfl := List.mem_singleton.mp hf
      have hin : ∃ address, (address, f) ∈ t.disp.pc.hand := by
        cases CTransmitDispatcher.threadStep_cases hstep with
        | sent hpc _ => exact ⟨_, by rw [hpc]; exact List.mem_cons_self⟩
        | refused hpc _ => exact ⟨_, by rw [hpc]; exact List.mem_cons_self⟩
      obtain ⟨address, hin⟩ := hin
      intro heq
      have hopen := h.hand _ hin
      rw [heq, hnone] at hopen
      exact absurd hopen (Nat.lt_irrefl 0)
    · rename_i d frame report hstep
      obtain rfl := List.mem_singleton.mp hf
      cases CTransmitDispatcher.threadStep_cases hstep with
      | resent _ hget _ =>
        obtain ⟨rest, hfront⟩ := CTransmittedFramesQueue.getFrameToRetransmit_some hget
        exact hqueue f (by rw [hfront]; exact List.mem_cons_self)
    · exact absurd hf (by simp)
  | _ => exact absurd hf (by simp [Transmit.given])

/-- **A closed channel is gone from the transmit side**, as long as the gap in `closeChannel`
stays empty: from its return to the next `openChannel` no frame of it is queued and none is given
to the carrier. -/
theorem closed_purged {as : List Action} {t : Transmit} (h : Along step GapEmpty init as)
    (hr : run step init as = some t) {channel_id : UInt32} (hc : t.closed channel_id = true) :
    t.NotQueued channel_id ∧ ∀ a, ∀ f ∈ t.given a, f.channel_id ≠ channel_id := by
  have hp : Purged t := run_invariant (fun _ _ _ hi ha hs => purged_step hi ha hs) purged_init h hr
  exact ⟨(hp.closed channel_id hc).2, fun a f hf => hp.given hf hc⟩

/-! ### Closing with and without a frame in the gap -/

/-- A channel with a buffer to send is opened and closed at once. -/
def openClose : List Action :=
  [.openChannel 5 .realTime, .consumeBuffer 0 ⟨1, [10]⟩, .purge 5, .remove 5]

theorem closed_purged_openClose :
    ∃ t, run step init openClose = some t ∧ t.closed 5 = true
      ∧ t.NotQueued 5 ∧ ∀ a, ∀ f ∈ t.given a, f.channel_id ≠ 5 := by
  have halong : Along step GapEmpty init openClose := by
    refine ⟨fun _ _ => rfl, fun t₁ _ => ⟨trivial, fun t₂ _ => ⟨trivial, fun t₃ _ =>
      ⟨trivial, fun _ _ => trivial⟩⟩⟩⟩
  exact ⟨_, rfl, rfl, closed_purged halong rfl rfl⟩

/-- The carrier takes the frame, at a time when what was sent at 0 s is due again. -/
def takesLater : CTransmitDispatcher.Env := ⟨.noError, .ms 6000 Timespec.later_lt, .ms 6000 Timespec.later_lt⟩

/-- The channel is closed while the thread has a frame of it in hand: the queue is purged, the
frame is sent and queued, the pass ends, and the source is removed. -/
def closeInGap : List Action :=
  [.openChannel 5 .realTime, .consumeBuffer 0 ⟨1, [10]⟩]
    ++ List.replicate 6 (.thread takes) ++ [.purge 5] ++ List.replicate 6 (.thread takes)
    ++ [.remove 5] ++ List.replicate 2 (.thread takes)

/-- **What falls into the gap stays.** `closeChannel` has returned, the frame is in the queue, and
the thread is about to give it to the carrier again. -/
theorem closed_channel_sends :
    ∃ t, run step init closeInGap = some t ∧ t.closed 5 = true ∧ t.disp.numSources 5 = 0
      ∧ ¬ t.NotQueued 5 ∧ ∃ f ∈ t.given (.thread takesLater), f.channel_id = 5 := by
  refine ⟨_, rfl, ?_, ?_, fun hnone => ?_, ?_⟩
  · rfl
  · decide
  · exact hnone ⟨⟨1, 5, 1⟩, [10]⟩ (by decide) rfl
  · exact ⟨⟨⟨1, 5, 1⟩, [10]⟩, by decide, rfl⟩

end Transmit

end IviLink.L0
