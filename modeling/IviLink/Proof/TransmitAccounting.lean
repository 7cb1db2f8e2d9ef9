import IviLink.L0.Transmit
import IviLink.Proof.Registry

/-!
# Where the frames are

Every frame a source has filled is somewhere: in the thread's hand, in the
retransmission queue, or gone from the queue for one of three reasons, an ACK, the
closing of its channel, a timeout. The one other place is the list of frames the
carrier refused when they were given to it first. Those are nowhere: `threadFunc`
puts a frame into the queue only behind a successful `sendFrame`, and the source
has counted it already.

The law is one equation of counts (`Conserved`), kept by every action; without
refusals it says that nothing is lost, and what went out is numbered without a
gap.
-/

namespace IviLink.L0

open IviLink.Hal IviLink.Lib

namespace Transmit

/-! ## The law -/

/-- How often a frame is in the places a filled frame can be. -/
def places (t : Transmit) (f : Frame) : Nat :=
  (t.disp.pc.hand.map Prod.snd).count f + t.disp.mpTransmittedFrameQueue.frames.count f
    + t.acked.count f + t.purged.count f + t.timedOut.count f

/-- What was filled is in one of those places or was refused. -/
def Conserved (t : Transmit) : Prop :=
  ∀ f, (t.produced.map Prod.snd).count f = t.places f + t.refused.count f

theorem conserved_init : Conserved init := fun _ => rfl

/-- An operation on the queue that keeps what it took out on record. -/
theorem Conserved.queue {t t' : Transmit} (h : Conserved t) (out : List Frame)
    (hproduced : t'.produced = t.produced) (hhand : t'.disp.pc.hand = t.disp.pc.hand)
    (hrefused : t'.refused = t.refused)
    (hqueue : t.disp.mpTransmittedFrameQueue.frames.Perm
      (t'.disp.mpTransmittedFrameQueue.frames ++ out))
    (hout : ∀ f, t'.acked.count f + t'.purged.count f + t'.timedOut.count f
      = t.acked.count f + t.purged.count f + t.timedOut.count f + out.count f) :
    Conserved t' := by
  intro f
  have hf := h f
  have hq := hqueue.count_eq f
  have ho := hout f
  rw [List.count_append] at hq
  rw [hproduced, places, hhand, hrefused]
  rw [places] at hf
  omega

theorem conserved_thread {t : Transmit} {d : CTransmitDispatcher}
    {env : CTransmitDispatcher.Env} {effect : CTransmitDispatcher.Effect} (h : Conserved t)
    (hs : t.disp.StepCases env d effect) : Conserved ({ t with disp := d }.record effect) := by
  cases hs with
  | quiet hq =>
    refine h.queue [] rfl (hq.hand'.trans hq.hand.symm) rfl ?_ fun f => rfl
    show t.disp.mpTransmittedFrameQueue.frames.Perm (d.mpTransmittedFrameQueue.frames ++ [])
    rw [hq.queue, List.append_nil]
  | @produced i iter p s frame released hpc hp hs =>
    intro f
    have hf := h f
    have hhand : t.disp.pc.hand = [] := by rw [hpc]; rfl
    rw [places, hhand] at hf
    show ((t.produced ++ [(p.address, frame)]).map Prod.snd).count f = ([frame].count f
      + t.disp.mpTransmittedFrameQueue.frames.count f + t.acked.count f + t.purged.count f
      + t.timedOut.count f) + t.refused.count f
    rw [List.map_append, List.count_append, hf, List.map_nil, List.count_nil]
    simp only [List.map_cons, List.map_nil]
    omega
  | @sent i iter address frame hpc hok =>
    intro f
    have hf := h f
    have hhand : t.disp.pc.hand = [(address, frame)] := by rw [hpc]; rfl
    rw [places, hhand] at hf
    simp only [record, hok, if_true]
    show (t.produced.map Prod.snd).count f
      = (([] : List Frame).count f
        + (t.disp.mpTransmittedFrameQueue.enqueue frame env.now).frames.count f
        + t.acked.count f + t.purged.count f + t.timedOut.count f) + t.refused.count f
    rw [hf, CTransmittedFramesQueue.enqueue_frames, List.count_append, List.count_nil]
    simp only [List.map_cons, List.map_nil]
    omega
  | @refused i iter address frame hpc hfail =>
    intro f
    have hf := h f
    have hhand : t.disp.pc.hand = [(address, frame)] := by rw [hpc]; rfl
    rw [places, hhand] at hf
    simp only [record, hfail, Bool.false_eq_true, if_false]
    show (t.produced.map Prod.snd).count f
      = (([] : List Frame).count f + t.disp.mpTransmittedFrameQueue.frames.count f
        + t.acked.count f + t.purged.count f + t.timedOut.count f)
        + (t.refused ++ [frame]).count f
    rw [hf, List.count_append, List.count_nil]
    simp only [List.map_cons, List.map_nil]
    omega
  | @resent i frame queue report hpc hget hre =>
    have hperm := CTransmittedFramesQueue.reenqueue_frames hre
    by_cases hr : report = .timeout
    · rw [if_pos hr] at hperm
      simp only [record, if_pos hr]
      refine h.queue _ rfl rfl rfl hperm fun f => ?_
      show t.acked.count f + t.purged.count f + (t.timedOut ++ [frame]).count f = _
      rw [List.count_append]
      omega
    · rw [if_neg hr] at hperm
      simp only [record, if_neg hr]
      exact h.queue _ rfl rfl rfl hperm fun f => rfl

/-- **Every action keeps the law.** -/
theorem conserved_step {t t' : Transmit} {a : Action} (h : Conserved t)
    (hs : t.step a = some t') : Conserved t' := by
  cases step_cases hs with
  | @openChannel channel_id prio hidle =>
    refine h.queue [] rfl (by rw [CTransmitDispatcher.openChannel_pc]) rfl ?_ fun f => rfl
    rw [CTransmitDispatcher.openChannel_queue, List.append_nil]
  | @purge channel_id =>
    refine h.queue _ rfl rfl rfl
      (CTransmittedFramesQueue.deleteFramesForChannel_frames _ channel_id) fun f => ?_
    simp only [List.count_append]
    omega
  | remove hidle hclosing =>
    refine h.queue [] rfl rfl rfl ?_ fun f => rfl
    rw [List.append_nil]
    rfl
  | consumeBuffer hp =>
    refine h.queue [] rfl rfl rfl ?_ fun f => rfl
    rw [List.append_nil]
    rfl
  | flushBuffers =>
    refine h.queue [] rfl rfl rfl ?_ fun f => rfl
    rw [List.append_nil]
    rfl
  | dequeue hq =>
    refine h.queue _ rfl rfl rfl (CTransmittedFramesQueue.dequeue_frames hq) fun f => ?_
    simp only [List.count_append]
    omega
  | thread hthread => exact conserved_thread h hthread

/-! ## Numbers -/

/-- The numbers of the frames a source has filled, in order. -/
def numbersOf (address : Nat) (l : List (Nat × Frame)) : List UInt32 :=
  (l.filter fun x => x.1 = address).map fun x => x.2.number

theorem numbersOf_append (address : Nat) (l l' : List (Nat × Frame)) :
    numbersOf address (l ++ l') = numbersOf address l ++ numbersOf address l' := by
  rw [numbersOf, List.filter_append, List.map_append]
  rfl

theorem numbersOf_self (address : Nat) (f : Frame) :
    numbersOf address [(address, f)] = [f.number] := by
  simp [numbersOf]

theorem numbersOf_other {address address' : Nat} (h : address' ≠ address) (f : Frame) :
    numbersOf address [(address', f)] = [] := by
  simp [numbersOf, h]

/-- Every source has numbered its frames from 1 on, and its counter goes on from there. -/
structure Counted (t : Transmit) : Prop where
  fromOne : ∀ address, FromOne (numbersOf address t.produced)
  counter : ∀ i, ∀ p ∈ t.disp.mRegistry i, p.source.mFrameCounter
    = UInt32.ofNat ((numbersOf p.address t.produced).length + 1)
  /-- Addresses are not given out twice. -/
  fresh : ∀ i, ∀ p ∈ t.disp.mRegistry i, p.address < t.disp.allocated
  known : ∀ x ∈ t.produced, x.1 < t.disp.allocated

theorem counted_init : Counted init where
  fromOne := fun _ => fromOne_nil
  counter := fun _ p hp => absurd hp (by simp [init, CTransmitDispatcher.init])
  fresh := fun _ p hp => absurd hp (by simp [init, CTransmitDispatcher.init])
  known := fun x hx => absurd hx (by simp [init])

/-- The numbers of the sources stay as they are when no source fills a frame: those that remain
are sources that were there, whatever was done to their queues. -/
theorem Counted.registry {t t' : Transmit} (h : Counted t) (hproduced : t'.produced = t.produced)
    (hallocated : t'.disp.allocated = t.disp.allocated)
    (hregistry : ∀ i, ∀ p ∈ t'.disp.mRegistry i, ∃ p₀ ∈ t.disp.mRegistry i,
      p₀.address = p.address ∧ p₀.source.mFrameCounter = p.source.mFrameCounter) : Counted t' where
  fromOne := hproduced ▸ h.fromOne
  counter := by
    intro i p hp
    obtain ⟨p₀, hp₀, haddr, hcount⟩ := hregistry i p hp
    rw [hproduced, ← hcount, ← haddr]
    exact h.counter i p₀ hp₀
  fresh := by
    intro i p hp
    obtain ⟨p₀, hp₀, haddr, -⟩ := hregistry i p hp
    rw [hallocated, ← haddr]
    exact h.fresh i p₀ hp₀
  known := by
    rw [hproduced, hallocated]
    exact h.known

theorem Counted.atSource {t : Transmit} {address : Nat} {f : CSource → CSource}
    (h : Counted t) (written : UInt32 → List UInt8)
    (hf : ∀ s, (f s).mFrameCounter = s.mFrameCounter) :
    Counted { t with disp := t.disp.atSource address f, written := written } := by
  refine h.registry rfl rfl fun i p hp => ?_
  obtain ⟨p₀, hp₀, haddr, hsource⟩ := CTransmitDispatcher.mem_atSource (a := address) hp
  refine ⟨p₀, hp₀, haddr, ?_⟩
  rw [hsource]
  split
  · exact (hf _).symm
  · rfl

/-- A source fills a frame: it takes the counter's number, and the counter goes on. -/
theorem Counted.produced {t : Transmit} {p : SourcePtr} {s : CSource} {frame : Frame}
    {i : TChannelPriority} {pc : Pc} (h : Counted t) (hp : p ∈ t.disp.mRegistry i)
    (hnumber : frame.number = p.source.mFrameCounter)
    (hcounter : s.mFrameCounter = p.source.mFrameCounter + 1) :
    Counted { t with
      disp := { t.disp.atSource p.address (fun _ => s) with pc := pc }
      produced := t.produced ++ [(p.address, frame)] } where
  fromOne := by
    intro address
    rw [numbersOf_append]
    by_cases ha : p.address = address
    · subst ha
      rw [numbersOf_self, hnumber, h.counter i p hp]
      exact (h.fromOne _).append
    · rw [numbersOf_other ha, List.append_nil]
      exact h.fromOne address
  counter := by
    intro j q hq
    obtain ⟨q₀, hq₀, haddr, hsource⟩ :=
      CTransmitDispatcher.mem_atSource (a := p.address) (f := fun _ => s) hq
    show q.source.mFrameCounter = _
    rw [numbersOf_append, List.length_append, hsource]
    split
    · rename_i ha
      rw [ha, numbersOf_self, hcounter, h.counter i p hp, List.length_singleton,
        UInt32.ofNat_add (_ + 1) 1]
      rfl
    · rename_i ha
      rw [numbersOf_other (Ne.symm ha), List.length_nil, Nat.add_zero, ← haddr]
      exact h.counter j q₀ hq₀
  fresh := by
    intro j q hq
    obtain ⟨q₀, hq₀, haddr, -⟩ :=
      CTransmitDispatcher.mem_atSource (a := p.address) (f := fun _ => s) hq
    exact haddr ▸ h.fresh j q₀ hq₀
  known := by
    intro x hx
    rcases List.mem_append.mp hx with hx | hx
    · exact h.known x hx
    · rw [List.mem_singleton.mp hx]
      exact h.fresh i p hp

theorem counted_thread {t : Transmit} {d : CTransmitDispatcher}
    {env : CTransmitDispatcher.Env} {effect : CTransmitDispatcher.Effect} (h : Counted t)
    (hs : t.disp.StepCases env d effect) : Counted ({ t with disp := d }.record effect) := by
  cases hs with
  | quiet hq =>
    refine h.registry rfl hq.allocated fun i p hp => ?_
    exact ⟨p, hq.registry ▸ hp, rfl, rfl⟩
  | produced hpc hp hs =>
    obtain ⟨hnumber, hcounter, -⟩ := CSource.OnDispatch_counter hs
    exact h.produced (List.mem_of_getElem? hp) hnumber hcounter
  | sent hpc hok =>
    simp only [record, hok, if_true]
    exact h.registry rfl rfl fun i p hp => ⟨p, hp, rfl, rfl⟩
  | refused hpc hfail =>
    simp only [record, hfail, Bool.false_eq_true, if_false]
    exact h.registry rfl rfl fun i p hp => ⟨p, hp, rfl, rfl⟩
  | @resent i frame queue report hpc hget hre =>
    by_cases hr : report = .timeout
    · simp only [record, if_pos hr]
      exact h.registry rfl rfl fun i p hp => ⟨p, hp, rfl, rfl⟩
    · simp only [record, if_neg hr]
      exact h.registry rfl rfl fun i p hp => ⟨p, hp, rfl, rfl⟩

/-- **Every action keeps the numbers.** -/
theorem counted_step {t t' : Transmit} {a : Action} (h : Counted t) (hs : t.step a = some t') :
    Counted t' := by
  cases step_cases hs with
  | @openChannel channel_id prio hidle =>
    have hle := t.disp.openChannel_allocated_le channel_id prio
    refine ⟨h.fromOne, fun i p hp => ?_, fun i p hp => ?_, fun x hx => ?_⟩
    · rcases CTransmitDispatcher.mem_openChannel hp with hp | ⟨rfl, -⟩
      · exact h.counter i p hp
      · -- nothing was filled at the new address yet
        have hnone : numbersOf t.disp.allocated t.produced = [] := by
          rw [numbersOf, List.filter_eq_nil_iff.mpr, List.map_nil]
          intro x hx
          have := h.known x hx
          simp only [decide_eq_true_eq]
          omega
        show (1 : UInt32) = UInt32.ofNat ((numbersOf t.disp.allocated t.produced).length + 1)
        rw [hnone]
        rfl
    · rcases CTransmitDispatcher.mem_openChannel hp with hp | ⟨rfl, ha⟩
      · exact Nat.lt_of_lt_of_le (h.fresh i p hp) hle
      · show t.disp.allocated < (t.disp.openChannel channel_id prio).1.allocated
        rw [ha]
        exact Nat.lt_succ_self _
    · exact Nat.lt_of_lt_of_le (h.known x hx) hle
  | purge => exact h.registry rfl rfl fun i p hp => ⟨p, hp, rfl, rfl⟩
  | remove hidle hclosing =>
    exact h.registry rfl rfl fun i p hp => ⟨p, CTransmitDispatcher.mem_remove hp, rfl, rfl⟩
  | @consumeBuffer address b p hp =>
    exact h.atSource (f := fun s => (s.consumeBuffer (some b)).1) _ fun _ => rfl
  | flushBuffers => exact h.atSource (f := fun s => s.flushBuffers.1) t.written fun _ => rfl
  | dequeue hq => exact h.registry rfl rfl fun i p hp => ⟨p, hp, rfl, rfl⟩
  | thread hthread => exact counted_thread h hthread

/-! ## Runs without refusals -/

/-- The carrier takes the frame the thread has in hand, if it has one. -/
def NoRefusal (t : Transmit) : Action → Prop
  | .thread env => t.disp.pc.hand ≠ [] → env.sent.isNoError = true
  | _ => True

/-- Every frame that was filled is in hand, queued, acknowledged, of a channel that was closed, or
given up with its timeout reported. -/
def Accounted (t : Transmit) : Prop :=
  (t.produced.map Prod.snd).Perm (t.disp.pc.hand.map Prod.snd
    ++ t.disp.mpTransmittedFrameQueue.frames ++ t.acked ++ t.purged ++ t.timedOut)

/-- Nothing was refused: what was filled went out, but for the frame in hand. -/
structure AllCarried (t : Transmit) : Prop where
  refused : t.refused = []
  carried : t.produced = t.carried ++ t.disp.pc.hand

theorem Conserved.accounted {t : Transmit} (h : Conserved t) (hr : t.refused = []) :
    t.Accounted := by
  refine List.perm_iff_count.mpr fun f => ?_
  have hf := h f
  rw [hr, List.count_nil, places] at hf
  simp only [List.count_append]
  omega

theorem allCarried_thread {t : Transmit} {d : CTransmitDispatcher}
    {env : CTransmitDispatcher.Env} {effect : CTransmitDispatcher.Effect} (h : AllCarried t)
    (ha : t.NoRefusal (.thread env)) (hs : t.disp.StepCases env d effect) :
    AllCarried ({ t with disp := d }.record effect) := by
  cases hs with
  | quiet hq => exact ⟨h.refused, by rw [h.carried, hq.hand]; simp [record, hq.hand']⟩
  | produced hpc hp hs =>
    have hhand : t.disp.pc.hand = [] := by rw [hpc]; rfl
    refine ⟨h.refused, ?_⟩
    show t.produced ++ _ = t.carried ++ _
    rw [h.carried, hhand, List.append_nil]
    rfl
  | sent hpc hok =>
    have hcarried := h.carried
    rw [hpc] at hcarried
    simp only [record, hok, if_true]
    exact ⟨h.refused, hcarried.trans (List.append_nil _).symm⟩
  | refused hpc hfail =>
    have hok := ha (by rw [hpc]; exact List.cons_ne_nil _ _)
    rw [hfail] at hok
    exact absurd hok (by simp)
  | @resent i frame queue report hpc hget hre =>
    by_cases hr : report = .timeout
    · simp only [record, if_pos hr]
      exact ⟨h.refused, h.carried⟩
    · simp only [record, if_neg hr]
      exact ⟨h.refused, h.carried⟩

theorem allCarried_step {t t' : Transmit} {a : Action} (h : AllCarried t) (ha : t.NoRefusal a)
    (hs : t.step a = some t') : AllCarried t' := by
  cases step_cases hs with
  | openChannel hidle =>
    exact ⟨h.refused, by rw [h.carried, CTransmitDispatcher.openChannel_pc]⟩
  | purge => exact ⟨h.refused, h.carried⟩
  | remove hidle hclosing => exact ⟨h.refused, h.carried⟩
  | consumeBuffer hp => exact ⟨h.refused, h.carried⟩
  | flushBuffers => exact ⟨h.refused, h.carried⟩
  | dequeue hq => exact ⟨h.refused, h.carried⟩
  | thread hthread => exact allCarried_thread h ha hthread

/-- What holds of all runs without refusals. -/
structure Kept (t : Transmit) : Prop where
  conserved : Conserved t
  counted : Counted t
  allCarried : AllCarried t

theorem kept_run {as : List Action} {t : Transmit} (h : Along step NoRefusal init as)
    (hr : run step init as = some t) : Kept t :=
  run_invariant (I := Kept)
    (fun _ _ _ hk ha hs => ⟨conserved_step hk.conserved hs, counted_step hk.counted hs,
      allCarried_step hk.allCarried ha hs⟩)
    ⟨conserved_init, counted_init, rfl, rfl⟩ h hr

/-- **While the carrier takes the frames it is given first, no frame is lost**: each is in hand,
in the queue, or gone for an ACK, the closing of its channel or a reported timeout. The frames of
each source go out numbered from 1 without a gap. -/
theorem frames_accounted {as : List Action} {t : Transmit} (h : Along step NoRefusal init as)
    (hr : run step init as = some t) :
    t.Accounted ∧ ∀ address, FromOne (numbersOf address t.carried) := by
  obtain ⟨hconserved, hcounted, hrefused, hcarried⟩ := kept_run h hr
  refine ⟨hconserved.accounted hrefused, fun address => ?_⟩
  have hnumbers := hcounted.fromOne address
  rw [hcarried, numbersOf_append] at hnumbers
  exact hnumbers.prefix

/-! ### One channel, two frames -/

/-- The carrier takes nothing. -/
def refuses : CTransmitDispatcher.Env := ⟨.brokenPipe, .ms 0 Timespec.start_lt, .ms 0 Timespec.start_lt⟩

/-- A real-time channel is opened, two buffers are handed over, and the thread comes as far as the
first frame. -/
def firstFrame : List Action :=
  [.openChannel 5 .realTime, .consumeBuffer 0 ⟨1, [10]⟩, .consumeBuffer 0 ⟨2, [20]⟩,
    .thread takes, .thread takes, .thread takes, .thread takes, .thread takes, .thread takes]

/-- Up to the second frame given to the carrier, in the next pass. -/
def secondFrame : List Action := List.replicate 12 (.thread takes)

theorem frames_accounted_example :
    ∃ t, run step init (firstFrame ++ .thread takes :: secondFrame) = some t
      ∧ t.Accounted ∧ ∀ address, FromOne (numbersOf address t.carried) := by
  refine ⟨_, rfl, @frames_accounted (firstFrame ++ .thread takes :: secondFrame) _ ?_ rfl⟩
  refine along_of_mem fun a ha t => ?_
  have htakes : ∀ a ∈ firstFrame ++ .thread takes :: secondFrame,
      (match a with | .thread env => env.sent.isNoError | _ => true) = true := by decide
  have := htakes a ha
  cases a with
  | thread env => exact fun _ => this
  | _ => trivial

/-- **A refused frame is nowhere.** The carrier refuses the first frame and takes the second: the
first is not in hand, not queued, was not acknowledged, its channel is open, nothing timed out,
and what went out begins with number 2. -/
theorem refused_frame_lost :
    ∃ t, run step init (firstFrame ++ .thread refuses :: secondFrame) = some t
      ∧ (∃ f, (0, f) ∈ t.produced ∧ f.number = 1 ∧ f ∉ t.disp.mpTransmittedFrameQueue.frames
        ∧ t.disp.pc.hand = [] ∧ t.acked = [] ∧ t.purged = [] ∧ t.timedOut = [])
      ∧ (∃ p ∈ t.disp.mRegistry .realTime, p.address = 0) ∧ t.closed 5 = false
      ∧ numbersOf 0 t.carried = [2] ∧ ¬ t.Accounted := by
  refine ⟨_, rfl, ⟨⟨⟨1, 5, 1⟩, [10]⟩, by decide, rfl, by decide, rfl, rfl, rfl, rfl⟩, by decide,
    rfl, by decide, fun hperm => ?_⟩
  have hcount := hperm.count_eq (⟨⟨1, 5, 1⟩, [10]⟩ : Frame)
  revert hcount
  decide

end Transmit

end IviLink.L0
