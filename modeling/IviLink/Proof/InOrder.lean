import IviLink.Proof.ChannelPurge
import IviLink.Proof.Flights
import IviLink.Proof.Replacement
import IviLink.Proof.Acks
import IviLink.Proof.Segmentation

/-!
# Every frame once, in order

On one carrier, with every channel opened once, the frames a target accepts are the
first frames the source on the other side has filled (`Ordered`): retransmissions
come again with a number that is not due, frames that were not accepted come again
until they are. What this rests on is the check of the number. A target whose
process has never accepted a frame does not make it, so the order is kept as long
as the frames that come to it then are due all the same (`InTurn`). `static bool
firstFlag` is one flag for all targets; once it is off, no target needs it.
-/

namespace IviLink.L0

open IviLink.Hal IviLink.Lib

/-- The bytes consumers are given for some frames. -/
def received (fs : List Frame) : List UInt8 := fs.flatMap CTarget.copyFromFrame

theorem received_append (fs gs : List Frame) : received (fs ++ gs) = received fs ++ received gs :=
  List.flatMap_append

theorem received_mono {fs gs : List Frame} (h : fs <+: gs) : received fs <+: received gs := by
  obtain ⟨rest, rfl⟩ := h
  exact ⟨received rest, (received_append fs rest).symm⟩

/-- A frame takes its bytes from the front of the queue. -/
theorem CSource.OnDispatch_bytes {s s' : CSource} {quote : Nat} {frame : Frame}
    {released : List Buffer} (hquote : quote ≤ MAX_SIZE)
    (h : s.OnDispatch quote = some (s', frame, released)) :
    CSource.bytes s.mBuffersQueue
      = CTarget.copyFromFrame frame ++ CSource.bytes s'.mBuffersQueue := by
  rw [OnDispatch] at h
  split at h
  · exact absurd h (by simp)
  · rename_i b rest hqueue
    have hle : copySize b quote ≤ quote := by
      rw [copySize]
      split <;> omega
    have h := Option.some.inj h
    obtain ⟨hframe, -, -⟩ := CopyToFrame_frame h
    have hcopy : CTarget.copyFromFrame frame = b.data.take (copySize b quote) := by
      have hsize : frame.getSize = copySize b quote := by
        rw [hframe, Frame.getSize, getSize_nextHeader s (hle.trans hquote)]
      rw [CTarget.copyFromFrame, hsize, hframe, List.take_take, Nat.min_self]
    rw [hcopy, hqueue]
    rw [CopyToFrame] at h
    dsimp only at h
    split at h
    · rename_i hfits
      injection h with hs _
      rw [← hs, copySize, if_pos hfits]
      show b.data ++ CSource.bytes rest = b.data.take b.data.length ++ CSource.bytes rest
      rw [List.take_length]
    · injection h with hs _
      rw [← hs]
      show b.data ++ CSource.bytes rest
        = b.data.take _ ++ (b.data.drop (copySize b quote) ++ CSource.bytes rest)
      rw [← List.append_assoc, List.take_append_drop]

namespace Transmit

/-! ## The sending side -/

/-- The frames that were filled for a channel, in order. -/
def filledFor (t : Transmit) (channel_id : UInt32) : List Frame :=
  (t.produced.filter fun x => x.2.channel_id = channel_id).map Prod.snd

/-- Channels are opened once and not closed, and no counter has gone round. -/
def Standing (t : Transmit) : Action → Prop
  | .openChannel channel_id prio =>
    ∀ i, i ≠ prio → (t.disp.mRegistry i).countP (SourcePtr.isOf channel_id) = 0
  | .purge _ => False
  | .remove _ => False
  | .flushBuffers _ => False
  | .thread _ => ∀ i, ∀ p ∈ t.disp.mRegistry i, p.source.mFrameCounter ≠ 0
  | _ => True

structure Sending (t : Transmit) : Prop where
  addressed : t.disp.Addressed
  single : ∀ c, t.disp.numSources c ≤ 1
  numbers : ∀ c, FromOne ((t.filledFor c).map Frame.number)
  short : ∀ c, (t.filledFor c).length < 2 ^ 32
  counter : ∀ i, ∀ p ∈ t.disp.mRegistry i, p.source.mFrameCounter
    = UInt32.ofNat ((t.filledFor p.source.mChannelID).length + 1)
  /-- What was written to a channel was filled into frames or is in the queue of its source. -/
  bytes : ∀ i, ∀ p ∈ t.disp.mRegistry i, t.written p.source.mChannelID
    = received (t.filledFor p.source.mChannelID) ++ CSource.bytes p.source.mBuffersQueue
  unopened : ∀ c, t.disp.numSources c = 0 → t.filledFor c = [] ∧ t.written c = []

theorem sending_init : Sending init where
  addressed := CTransmitDispatcher.addressed_init
  single := fun _ => Nat.zero_le 1
  numbers := fun _ => fromOne_nil
  short := fun _ => Nat.two_pow_pos 32
  counter := fun _ p hp => absurd hp (by simp [init, CTransmitDispatcher.init])
  bytes := fun _ p hp => absurd hp (by simp [init, CTransmitDispatcher.init])
  unopened := fun _ _ => ⟨rfl, rfl⟩

/-- A step that fills no frame and leaves the sources as they are. -/
theorem Sending.same {t t' : Transmit} (h : Sending t) (haddressed : t'.disp.Addressed)
    (hproduced : t'.produced = t.produced) (hwritten : t'.written = t.written)
    (hregistry : t'.disp.mRegistry = t.disp.mRegistry) : Sending t' := by
  have hfilled : ∀ c, t'.filledFor c = t.filledFor c := fun c => by rw [filledFor, hproduced]; rfl
  have hsources : ∀ c, t'.disp.numSources c = t.disp.numSources c := fun c => by
    rw [CTransmitDispatcher.numSources, hregistry]
    rfl
  refine ⟨haddressed, fun c => ?_, fun c => ?_, fun c => ?_, fun i p hp => ?_, fun i p hp => ?_,
    fun c hc => ?_⟩
  · rw [hsources]
    exact h.single c
  · rw [hfilled]
    exact h.numbers c
  · rw [hfilled]
    exact h.short c
  · rw [hfilled]
    exact h.counter i p (hregistry ▸ hp)
  · rw [hfilled, hwritten]
    exact h.bytes i p (hregistry ▸ hp)
  · rw [hfilled, hwritten]
    exact h.unopened c (hsources c ▸ hc)

/-- The one source of a channel is at one address. -/
theorem Sending.unique {t : Transmit} (h : Sending t) {i j : TChannelPriority} {p q : SourcePtr}
    (hp : p ∈ t.disp.mRegistry i) (hq : q ∈ t.disp.mRegistry j)
    (hc : p.source.mChannelID = q.source.mChannelID) : p.address = q.address :=
  congrArg SourcePtr.address (CTransmitDispatcher.eq_of_single (h.single _) hp hq rfl hc.symm)

theorem Sending.openChannel {t : Transmit} {c : UInt32} {prio : TChannelPriority} (h : Sending t)
    (ha : t.Standing (.openChannel c prio)) (closed : UInt32 → Bool) :
    Sending { t with disp := (t.disp.openChannel c prio).1, closed := closed } := by
  have hcases := t.disp.numSources_openChannel c prio
  -- a new source is the first of its channel
  have hfirst : (t.disp.mRegistry prio).countP (SourcePtr.isOf c) = 0 →
      t.disp.numSources c = 0 := by
    intro hnone
    have hother : ∀ i, (t.disp.mRegistry i).countP (SourcePtr.isOf c) = 0 := by
      intro i
      by_cases hi : i = prio
      · rw [hi]
        exact hnone
      · exact ha i hi
    rw [CTransmitDispatcher.numSources, hother, hother, hother]
  have hnew : ∀ i, ∀ p ∈ (t.disp.openChannel c prio).1.mRegistry i, p ∈ t.disp.mRegistry i
      ∨ p = ⟨t.disp.allocated, .new c⟩ ∧ t.filledFor c = [] ∧ t.written c = [] := by
    intro i p hp
    rcases CTransmitDispatcher.mem_openChannel hp with hp | ⟨rfl, halloc⟩
    · exact .inl hp
    · refine .inr ⟨rfl, h.unopened c (hfirst ?_)⟩
      rw [CTransmitDispatcher.openChannel] at halloc
      split at halloc
      · exact absurd halloc (Nat.ne_of_lt (Nat.lt_succ_self _))
      · rename_i hfree
        exact CTransmitDispatcher.countP_of_not_any hfree
  refine ⟨h.addressed.openChannel c prio, fun c' => ?_, h.numbers, h.short, fun i p hp => ?_,
    fun i p hp => ?_, fun c' hc => ?_⟩
  · show (t.disp.openChannel c prio).1.numSources c' ≤ 1
    rcases hcases c' with heq | ⟨heq, rfl, hnone⟩
    · rw [heq]
      exact h.single c'
    · rw [heq, hfirst hnone]
  · rcases hnew i p hp with hp | ⟨rfl, hfilled, -⟩
    · exact h.counter i p hp
    · show (1 : UInt32) = UInt32.ofNat ((t.filledFor c).length + 1)
      rw [hfilled]
      rfl
  · rcases hnew i p hp with hp | ⟨rfl, hfilled, hwritten⟩
    · exact h.bytes i p hp
    · show t.written c = received (t.filledFor c) ++ []
      rw [hfilled, hwritten]
      rfl
  · have hc' : (t.disp.openChannel c prio).1.numSources c' = 0 := hc
    rcases hcases c' with heq | ⟨heq, -, -⟩
    · exact h.unopened c' (heq ▸ hc')
    · exact absurd (heq ▸ hc') (Nat.succ_ne_zero _)

theorem Sending.consumeBuffer {t : Transmit} {address : Nat} {b : Buffer} {p : SourcePtr}
    (h : Sending t) (hp : t.disp.sourceAt address = some p) :
    Sending { t with
      disp := t.disp.atSource address fun s => (s.consumeBuffer (some b)).1
      written := Function.update t.written p.source.mChannelID
        (t.written p.source.mChannelID ++ b.data) } := by
  obtain ⟨haddress, j, hmem⟩ := CTransmitDispatcher.sourceAt_some hp
  have hcount := t.disp.numSources_atSource address
    (f := fun s => (s.consumeBuffer (some b)).1) fun _ _ _ _ => rfl
  refine ⟨h.addressed.atSource (f := fun s => (s.consumeBuffer (some b)).1) fun _ _ _ _ => rfl,
    fun c => ?_, h.numbers, h.short, fun i q hq => ?_, fun i q hq => ?_, fun c hc => ?_⟩
  · exact hcount c ▸ h.single c
  · obtain ⟨q₀, hq₀, -, hsource⟩ := CTransmitDispatcher.mem_atSource (a := address)
      (f := fun s => (s.consumeBuffer (some b)).1) hq
    rw [hsource]
    split <;> exact h.counter i q₀ hq₀
  · obtain ⟨q₀, hq₀, ha, hsource⟩ := CTransmitDispatcher.mem_atSource (a := address)
      (f := fun s => (s.consumeBuffer (some b)).1) hq
    have hbytes := h.bytes i q₀ hq₀
    by_cases hown : q.address = address
    · rw [if_pos hown] at hsource
      have hchannel : q₀.source.mChannelID = p.source.mChannelID :=
        h.addressed.channel i j q₀ hq₀ p hmem ((ha.trans hown).trans haddress.symm)
      rw [hsource]
      show Function.update t.written p.source.mChannelID _ q₀.source.mChannelID
        = received (t.filledFor q₀.source.mChannelID)
          ++ CSource.bytes (q₀.source.mBuffersQueue ++ [b])
      rw [hchannel, Function.update_self, ← hchannel, hbytes, CSource.bytes, CSource.bytes,
        List.flatMap_append, List.append_assoc, List.flatMap_singleton]
    · rw [if_neg hown] at hsource
      have hchannel : q₀.source.mChannelID ≠ p.source.mChannelID := fun heq =>
        hown (ha.symm.trans ((h.unique hq₀ hmem heq).trans haddress))
      rw [hsource]
      show Function.update t.written p.source.mChannelID _ q₀.source.mChannelID = _
      rw [Function.update_of_ne hchannel]
      exact hbytes
  · have hc' : t.disp.numSources c = 0 := (hcount c).symm.trans hc
    obtain ⟨hfilled, hwritten⟩ := h.unopened c hc'
    refine ⟨hfilled, ?_⟩
    have hne : c ≠ p.source.mChannelID := by
      rintro rfl
      exact absurd hc' (Nat.ne_of_gt (CTransmitDispatcher.numSources_pos hmem rfl))
    show Function.update t.written p.source.mChannelID _ c = []
    rw [Function.update_of_ne hne]
    exact hwritten

theorem filledFor_append (t : Transmit) (d : CTransmitDispatcher) (address : Nat) (frame : Frame)
    (c : UInt32) :
    filledFor { t with disp := d, produced := t.produced ++ [(address, frame)] } c
      = t.filledFor c ++ if frame.channel_id = c then [frame] else [] := by
  rw [filledFor, List.filter_append, List.map_append, filledFor]
  by_cases hc : frame.channel_id = c
  · rw [if_pos hc]
    simp [hc]
  · rw [if_neg hc]
    simp [hc]

/-- A source fills a frame with the next number of its channel. -/
theorem Sending.produced {t : Transmit} {i : TChannelPriority} {iter : Nat} {p : SourcePtr}
    {s : CSource} {frame : Frame} {released : List Buffer} {pc : Pc} (h : Sending t)
    (hp : (t.disp.mRegistry i)[iter]? = some p)
    (hs : p.source.OnDispatch (CTransmitDispatcher.getQuoteBySourceType i)
      = some (s, frame, released)) (hcounter : p.source.mFrameCounter ≠ 0) :
    Sending { t with
      disp := { t.disp.atSource p.address (fun _ => s) with pc := pc }
      produced := t.produced ++ [(p.address, frame)] } := by
  obtain ⟨hnumber, hnext, hchannel, hsame, -⟩ := CSource.OnDispatch_counter hs
  have hquote : CTransmitDispatcher.getQuoteBySourceType i ≤ MAX_SIZE := by
    cases i <;> decide
  have hbytes := CSource.OnDispatch_bytes hquote hs
  have hmem := List.mem_of_getElem? hp
  have hkeeps := h.addressed.sameChannel hp hs
  have hcount := t.disp.numSources_atSource p.address (f := fun _ => s) hkeeps
  have haddressed := h.addressed.atSource (f := fun _ => s) hkeeps
  have hlen := h.short frame.channel_id
  have hlast := h.counter i p hmem
  rw [← hchannel] at hlast
  have hroom : (t.filledFor frame.channel_id).length + 1 < 2 ^ 32 := by
    by_contra hfull
    have heq : (t.filledFor frame.channel_id).length + 1 = 2 ^ 32 := by omega
    rw [heq] at hlast
    exact hcounter (hlast.trans rfl)
  refine ⟨⟨haddressed.fresh, haddressed.channel⟩, fun c => ?_, fun c => ?_, fun c => ?_,
    fun j q hq => ?_, fun j q hq => ?_, fun c hc => ?_⟩
  · exact hcount c ▸ h.single c
  · rw [filledFor_append]
    by_cases hc : frame.channel_id = c
    · subst hc
      rw [if_pos rfl, List.map_append, List.map_singleton, hnumber, hlast,
        ← List.length_map (f := Frame.number)]
      exact (h.numbers _).append
    · rw [if_neg hc, List.append_nil]
      exact h.numbers c
  · rw [filledFor_append]
    by_cases hc : frame.channel_id = c
    · subst hc
      rw [if_pos rfl, List.length_append, List.length_singleton]
      exact hroom
    · rw [if_neg hc, List.append_nil]
      exact h.short c
  · obtain ⟨q₀, hq₀, ha, hsource⟩ := CTransmitDispatcher.mem_atSource (a := p.address)
      (f := fun _ => s) hq
    rw [filledFor_append]
    by_cases hown : q.address = p.address
    · rw [if_pos hown] at hsource
      rw [hsource, hsame, ← hchannel, if_pos rfl, hnext, hlast, List.length_append,
        List.length_singleton, UInt32.ofNat_add (_ + 1) 1]
      rfl
    · rw [if_neg hown] at hsource
      have hne : frame.channel_id ≠ q₀.source.mChannelID := fun heq =>
        hown (ha.symm.trans (h.unique hq₀ hmem (heq.symm.trans hchannel)))
      rw [hsource, if_neg hne, List.append_nil]
      exact h.counter j q₀ hq₀
  · obtain ⟨q₀, hq₀, ha, hsource⟩ := CTransmitDispatcher.mem_atSource (a := p.address)
      (f := fun _ => s) hq
    rw [filledFor_append]
    by_cases hown : q.address = p.address
    · rw [if_pos hown] at hsource
      have hwritten := h.bytes i p hmem
      rw [← hchannel] at hwritten
      rw [hsource, hsame, ← hchannel, if_pos rfl, received_append]
      show t.written frame.channel_id = _
      rw [hwritten, hbytes, List.append_assoc]
      exact congrArg _ (congrArg (· ++ _) (List.flatMap_singleton ..).symm)
    · rw [if_neg hown] at hsource
      have hne : frame.channel_id ≠ q₀.source.mChannelID := fun heq =>
        hown (ha.symm.trans (h.unique hq₀ hmem (heq.symm.trans hchannel)))
      rw [hsource, if_neg hne, List.append_nil]
      exact h.bytes j q₀ hq₀
  · have hc' : t.disp.numSources c = 0 := (hcount c).symm.trans hc
    have hne : frame.channel_id ≠ c := by
      rintro rfl
      exact absurd hc' (Nat.ne_of_gt (CTransmitDispatcher.numSources_pos hmem hchannel.symm))
    rw [filledFor_append, if_neg hne, List.append_nil]
    exact h.unopened c hc'

theorem sending_step {t t' : Transmit} {a : Action} (h : Sending t) (ha : t.Standing a)
    (hs : t.step a = some t') : Sending t' := by
  have haddressed := addressed_step h.addressed hs
  cases step_cases hs with
  | openChannel hidle => exact h.openChannel ha _
  | purge => exact ha.elim
  | remove hidle hclosing => exact ha.elim
  | consumeBuffer hp => exact h.consumeBuffer hp
  | flushBuffers => exact ha.elim
  | dequeue hq => exact h.same haddressed rfl rfl rfl
  | thread hthread =>
    cases hthread with
    | quiet hq => exact h.same haddressed rfl rfl hq.registry
    | produced hpc hp hdispatch =>
      exact h.produced hp hdispatch (ha _ _ (List.mem_of_getElem? hp))
    | sent hpc hok =>
      simp only [record, hok, if_true] at haddressed ⊢
      exact h.same haddressed rfl rfl rfl
    | refused hpc hfail =>
      simp only [record, hfail, Bool.false_eq_true, if_false] at haddressed ⊢
      exact h.same haddressed rfl rfl rfl
    | @resent i frame queue report hpc hget hre =>
      by_cases hr : report = .timeout
      · simp only [record, if_pos hr] at haddressed ⊢
        exact h.same haddressed rfl rfl rfl
      · simp only [record, if_neg hr] at haddressed ⊢
        exact h.same haddressed rfl rfl rfl

end Transmit

namespace Receive

/-! ## The receiving side -/

/-- The frames of a channel that targets have accepted, in order. -/
def acceptedOn (r : Receive) (channel_id : UInt32) : List Frame :=
  (r.verdicts.filter fun v => v.accepted && v.frame.channel_id = channel_id).map Verdict.frame

/-- What a receive side has accepted of what the other side has filled. -/
structure Receiving (t : Transmit) (r : Receive) : Prop where
  order : ∀ c, r.acceptedOn c <+: t.filledFor c
  /-- The target goes on behind the frames that were accepted. -/
  last : ∀ c p, r.disp.mTargetMap c = some p →
    p.target.mLastFrameNr = UInt32.ofNat (r.acceptedOn c).length
  unopened : ∀ c, r.disp.mTargetMap c = none → r.acceptedOn c = []
  carrier : ∀ c p, r.disp.mTargetMap c = some p → p.target.mCarrierReplaced = false

theorem receiving_init (t : Transmit) : Receiving t init where
  order := fun _ => List.nil_prefix
  last := fun _ _ hp => absurd hp (by simp [init, CIncomeDispatcher.init])
  unopened := fun _ _ => rfl
  carrier := fun _ _ hp => absurd hp (by simp [init, CIncomeDispatcher.init])

/-- The other side fills more frames. -/
theorem Receiving.filled {t t' : Transmit} {r : Receive} (h : Receiving t r)
    (ht : t.produced <+: t'.produced) : Receiving t' r where
  order := fun c => (h.order c).trans ((ht.filter _).map _)
  last := h.last
  unopened := h.unopened
  carrier := h.carrier

/-- A target is opened, gets a buffer back, or the adapter is let go. -/
theorem Receiving.call {t : Transmit} {r : Receive} (h : Receiving t r) {a : Call}
    (ha : ∀ c, a ≠ .closeChannel c) : Receiving t (r.call a) := by
  have haccepted : ∀ c, (r.call a).acceptedOn c = r.acceptedOn c := by
    intro c
    rw [acceptedOn, (r.call_rest a).1]
    rfl
  refine ⟨fun c => ?_, fun c p hp => ?_, fun c hc => ?_, fun c p hp => ?_⟩
  · rw [haccepted]
    exact h.order c
  · rw [haccepted]
    rcases call_map hp with ⟨q, hq, -, hl, -⟩ | ⟨-, hnone, rfl, -⟩
    · rw [← hl]
      exact h.last c q hq
    · rw [h.unopened c hnone]
      rfl
  · rw [haccepted]
    refine h.unopened c ?_
    by_contra hsome
    obtain ⟨p, hp⟩ := Option.ne_none_iff_exists'.mp hsome
    obtain ⟨q, hq⟩ := call_open ha hp
    rw [hc] at hq
    exact absurd hq (by simp)
  · rcases call_map hp with ⟨q, hq, -, -, hr⟩ | ⟨-, -, rfl, -⟩
    · rw [← hr]
      exact h.carrier c q hq
    · rfl

theorem acceptedOn_looked (r : Receive) (c : UInt32) (p : TargetPtr) (firstFlag : Bool)
    (vs : List Verdict) (c' : UInt32) :
    (r.looked c p firstFlag vs).acceptedOn c' = r.acceptedOn c'
      ++ (vs.filter fun v => v.accepted && v.frame.channel_id = c').map Verdict.frame := by
  rw [acceptedOn, looked, List.filter_append, List.map_append]
  rfl

/-- A target looks at a frame and does not accept it. -/
theorem Receiving.refused {t : Transmit} {r : Receive} {c : UInt32} {p : TargetPtr} {n : Nat}
    {flag : Bool} {vs : List Verdict} (h : Receiving t r) (hp : r.disp.mTargetMap c = some p)
    (hvs : ∀ v ∈ vs, v.accepted = false) :
    Receiving t (r.looked c { p with target := { p.target with mBufferQueue := n } } flag vs) := by
  have haccepted : ∀ c', (r.looked c { p with target := { p.target with mBufferQueue := n } } flag
      vs).acceptedOn c' = r.acceptedOn c' := by
    intro c'
    rw [acceptedOn_looked, List.filter_eq_nil_iff.mpr, List.map_nil, List.append_nil]
    intro v hv
    simp [hvs v hv]
  refine ⟨fun c' => ?_, fun c' q hq => ?_, fun c' hc => ?_, fun c' q hq => ?_⟩
  · rw [haccepted]
    exact h.order c'
  · rw [haccepted]
    rcases looked_map hq with ⟨rfl, rfl⟩ | ⟨-, hq⟩
    · exact h.last _ p hp
    · exact h.last c' q hq
  · rw [haccepted]
    refine h.unopened c' (looked_none hc)
  · rcases looked_map hq with ⟨rfl, rfl⟩ | ⟨-, hq⟩
    · exact h.carrier _ p hp
    · exact h.carrier c' q hq

/-- A target accepts the frame that is due, so it is the next one that was filled. -/
theorem Receiving.accepted {t : Transmit} {r : Receive} {p : TargetPtr} {n : Nat} {frame : Frame}
    {source : Nat} (h : Receiving t r) (ht : t.Sending)
    (hp : r.disp.mTargetMap frame.channel_id = some p)
    (hmem : frame ∈ t.filledFor frame.channel_id)
    (hdue : frame.number = p.target.mLastFrameNr + 1) :
    Receiving t (r.looked frame.channel_id
      { p with target := { p.target with
          mBufferQueue := n, mCarrierReplaced := false, mLastFrameNr := frame.number } }
      false [⟨p.address, r.epoch, source, frame, true⟩]) := by
  have haccepted : ∀ c, (r.looked frame.channel_id
      { p with target := { p.target with
          mBufferQueue := n, mCarrierReplaced := false, mLastFrameNr := frame.number } }
      false [⟨p.address, r.epoch, source, frame, true⟩]).acceptedOn c
      = r.acceptedOn c ++ if frame.channel_id = c then [frame] else [] := by
    intro c
    rw [acceptedOn_looked]
    by_cases hc : frame.channel_id = c
    · simp [hc]
    · simp [hc]
  rw [h.last _ p hp] at hdue
  refine ⟨fun c => ?_, fun c q hq => ?_, fun c hc => ?_, fun c q hq => ?_⟩
  · rw [haccepted]
    by_cases hc : frame.channel_id = c
    · subst hc
      rw [if_pos rfl]
      exact (ht.numbers _).next (ht.short _) (h.order _) hmem hdue
    · rw [if_neg hc, List.append_nil]
      exact h.order c
  · rw [haccepted]
    rcases looked_map hq with ⟨rfl, rfl⟩ | ⟨hne, hq⟩
    · rw [if_pos rfl, List.length_append, List.length_singleton, UInt32.ofNat_add]
      exact hdue
    · rw [if_neg (Ne.symm hne), List.append_nil]
      exact h.last c q hq
  · have hnone := looked_none hc
    rw [haccepted, if_neg, List.append_nil]
    · exact h.unopened c hnone
    · rintro rfl
      rw [hp] at hnone
      exact absurd hnone (by simp)
  · rcases looked_map hq with ⟨rfl, rfl⟩ | ⟨-, hq⟩
    · rfl
    · exact h.carrier c q hq

end Receive

namespace Peers

/-! ## Both sides -/

/-- Channels are opened once on each side and stay open, the carrier stays, and no counter has
gone round. -/
def Standing (w : Peers) : Action → Prop
  | .transmit s act => (w.tx s).Standing act
  | .receive _ (.closeChannel _) => False
  | .replaceCarrier _ => False
  | _ => True

/-- While `firstFlag` is set, what a target can take is due. -/
def InTurn (w : Peers) : Action → Prop
  | .deliver s consumed _ _ => ∀ x ∈ (w.link s).head?, x.frame.isACK = false →
    (w.rx s).disp.firstFlag = true → ∀ p ∈ (w.rx s).disp.mTargetMap x.frame.channel_id,
    0 < p.target.mBufferQueue → consumed.isNoError = true →
    x.frame.number = p.target.mLastFrameNr + 1
  | _ => True

structure Ordered (w : Peers) : Prop where
  answered : Answered w
  sending : ∀ s, (w.tx s).Sending
  receiving : ∀ s, Receive.Receiving (w.tx s.other) (w.rx s)

theorem ordered_init : Ordered init where
  answered := answered_init
  sending := fun _ => Transmit.sending_init
  receiving := fun _ => Receive.receiving_init _

/-- A data frame on a link is one that its sender has filled for the channel. -/
theorem Answered.filled {w : Peers} (h : Answered w) {s : Side} {x : Flight} (hx : x ∈ w.link s)
    (hdata : x.frame.isACK = false) :
    x.frame ∈ (w.tx s.other).filledFor x.frame.channel_id := by
  obtain ⟨hframe, hmem⟩ := h.data s x hx hdata
  refine List.mem_map.mpr ⟨x.about, List.mem_filter.mpr ⟨hmem, ?_⟩, hframe.symm⟩
  rw [← hframe]
  exact decide_eq_true rfl

/-- A frame comes to its channel and is due, or the check is on. -/
theorem Receiving.answers {t : Transmit} {r r' : Receive} {frame : Frame} {source : Nat}
    {consumed result : ConnectivityAgentError} (h : Receive.Receiving t r) (ht : t.Sending)
    (hmem : frame ∈ t.filledFor frame.channel_id)
    (hturn : r.disp.firstFlag = true → ∀ p ∈ r.disp.mTargetMap frame.channel_id,
      0 < p.target.mBufferQueue → consumed.isNoError = true →
      frame.number = p.target.mLastFrameNr + 1)
    (hr : r.Answers frame source consumed r' result) : Receive.Receiving t r' := by
  cases hr with
  | nobody => exact h
  | refused hp hno hack => exact h.refused hp fun _ hv => absurd hv (by simp)
  | @again p hp hfirst hreplaced hle =>
    exact h.refused (n := p.target.mBufferQueue) hp fun v hv => by rw [List.mem_singleton.mp hv]
  | @accepted p buffers hp hbuffers hok hcheck =>
    refine h.accepted ht hp hmem ?_
    rcases hcheck with hfirst | hreplaced | hnext
    · exact hturn hfirst p hp hbuffers hok
    · rw [h.carrier _ p hp] at hreplaced
      exact absurd hreplaced (by simp)
    · exact hnext

theorem ordered_step {w w' : Peers} {a : Action} (h : Ordered w)
    (ha : w.Standing a ∧ w.InTurn a) (hs : w.step a = some w') : Ordered w' := by
  refine ⟨answered_step h.answered hs, fun s => ?_, fun s => ?_⟩
  · rcases step_tx hs s with heq | ⟨act, ht, hact⟩
    · rw [heq]
      exact h.sending s
    · refine Transmit.sending_step (h.sending s) ?_ ht
      rcases hact with rfl | ⟨c, number, now, rfl⟩
      · exact ha.1
      · trivial
  · refine Receive.Receiving.filled ?_ (produced_mono hs s.other)
    have hold := h.receiving s
    cases step_cases hs with
    | transmit hact ht =>
      rw [put_rx]
      exact hold
    | @receive q call =>
      by_cases hq : s = q
      · subst hq
        simp only [Function.update_self]
        refine hold.call fun c hc => ?_
        subst hc
        exact ha.1
      · simp only [Function.update_of_ne hq]
        exact hold
    | replaceCarrier => exact ha.1.elim
    | ack hlink hack ht => exact hold
    | @data q consumed acked now x rest r result hlink hack hr =>
      rw [put_rx]
      by_cases hq : s = q
      · subst hq
        simp only [Function.update_self]
        have hx : x ∈ w.link s := by
          rw [hlink]
          exact List.mem_cons_self
        refine Receiving.answers hold (h.sending s.other) (h.answered.filled hx hack) ?_ hr
        exact ha.2 x (by rw [hlink]; rfl) hack
      · simp only [Function.update_of_ne hq]
        exact hold

/-- What was filled for a channel was written to it. -/
theorem Sending.received_prefix {t : Transmit} (h : t.Sending) (c : UInt32) :
    received (t.filledFor c) <+: t.written c := by
  rcases Nat.eq_zero_or_pos (t.disp.numSources c) with hnone | hpos
  · obtain ⟨hfilled, hwritten⟩ := h.unopened c hnone
    rw [hfilled, hwritten]
    exact List.nil_prefix
  · obtain ⟨i, p, hp, rfl⟩ := CTransmitDispatcher.exists_of_numSources_pos hpos
    exact ⟨_, (h.bytes i p hp).symm⟩

/-- **Every frame is accepted once and in order**, as long as no frame is taken out of turn while
`firstFlag` is set: what a side has accepted on a channel are the first frames the other side has
filled for it, with the numbers 1, 2, 3 and so on, and the bytes its consumers were given are the
first that were written there. -/
theorem accepted_in_order {as : List Action} {w : Peers}
    (h : Along step (fun w a => w.Standing a ∧ w.InTurn a) init as)
    (hr : run step init as = some w) (s : Side) (c : UInt32) :
    (w.rx s).acceptedOn c <+: (w.tx s.other).filledFor c
      ∧ FromOne (((w.rx s).acceptedOn c).map Frame.number)
      ∧ (((w.rx s).acceptedOn c).map Frame.number).Nodup
      ∧ received ((w.rx s).acceptedOn c) <+: (w.tx s.other).written c := by
  have hordered : Ordered w :=
    run_invariant (fun _ _ _ hi ha hs => ordered_step hi ha hs) ordered_init h hr
  have hinitial := (hordered.receiving s).order c
  have hnumbers := (hordered.sending s.other).numbers c
  have hnodup := hnumbers.nodup (by
    rw [List.length_map]
    exact (hordered.sending s.other).short c)
  obtain ⟨rest, hrest⟩ := hinitial.map Frame.number
  refine ⟨hinitial, ?_, ?_, (received_mono hinitial).trans
    (Sending.received_prefix (hordered.sending s.other) c)⟩
  · rw [← hrest] at hnumbers
    exact hnumbers.prefix
  · exact hnodup.sublist (hinitial.map Frame.number).sublist

/-! ### Frames in turn, and one out of turn -/

instance (t : Transmit) (a : Transmit.Action) : Decidable (t.Standing a) := by
  cases a <;> unfold Transmit.Standing <;> infer_instance

instance (w : Peers) (a : Action) : Decidable (w.Standing a) :=
  match a with
  | .transmit s act => inferInstanceAs (Decidable ((w.tx s).Standing act))
  | .receive _ (.openChannel _) => isTrue trivial
  | .receive _ (.closeChannel _) => isFalse id
  | .receive _ (.returnBufferBack _) => isTrue trivial
  | .receive _ .unlockFrameProcessing => isTrue trivial
  | .replaceCarrier _ => isFalse id
  | .deliver .. => isTrue trivial

instance (w : Peers) (a : Action) : Decidable (w.InTurn a) :=
  match a with
  | .deliver s consumed _ _ => inferInstanceAs (Decidable
      (∀ x ∈ (w.link s).head?, x.frame.isACK = false →
        (w.rx s).disp.firstFlag = true → ∀ p ∈ (w.rx s).disp.mTargetMap x.frame.channel_id,
        0 < p.target.mBufferQueue → consumed.isNoError = true →
        x.frame.number = p.target.mLastFrameNr + 1))
  | .transmit .. => isTrue trivial
  | .receive .. => isTrue trivial
  | .replaceCarrier _ => isTrue trivial

/-- A buffer is written and sent, another is written and sent, and both frames are accepted. -/
def inTurn : List Action :=
  openAndSend ++ [.transmit .a (.consumeBuffer 0 ⟨2, [20]⟩)] ++ List.replicate 12 tick
    ++ [arrive, arrive]

theorem accepted_in_order_inTurn :
    ∃ w, run step init inTurn = some w
      ∧ ((w.rx .b).acceptedOn 5).map Frame.number = [1, 2]
      ∧ (w.rx .b).acceptedOn 5 <+: (w.tx .a).filledFor 5
      ∧ FromOne (((w.rx .b).acceptedOn 5).map Frame.number)
      ∧ (((w.rx .b).acceptedOn 5).map Frame.number).Nodup
      ∧ received ((w.rx .b).acceptedOn 5) <+: (w.tx .a).written 5 := by
  have hrun : ∃ w, run step init inTurn = some w
      ∧ ((w.rx .b).acceptedOn 5).map Frame.number = [1, 2] := ⟨_, rfl, by decide⟩
  have halong : Along step (fun w a => w.Standing a ∧ w.InTurn a) init inTurn := by decide
  obtain ⟨w, hrun, hnumbers⟩ := hrun
  exact ⟨w, hrun, hnumbers, accepted_in_order halong hrun .b 5⟩

/-- Channel 5 is written and sent twice before `b` opens it, between the two frames: the first
comes to nobody. When it is due it is sent again. -/
def lateOpen : List Action :=
  [.transmit .a (.openChannel 5 .realTime), .receive .b .unlockFrameProcessing,
    .transmit .a (.consumeBuffer 0 ⟨1, [10]⟩), .transmit .a (.consumeBuffer 0 ⟨2, [20]⟩)]
    ++ List.replicate 19 tick ++ [arrive, .receive .b (.openChannel 5), arrive]
    ++ List.replicate 2 tickLater ++ [arrive]

/-- **The first frame a process accepts is not checked**: frame 2 is accepted first, and when
frame 1 comes again it is acknowledged and dropped. -/
theorem first_frame_lost :
    ∃ w, run step init lateOpen = some w
      ∧ ((w.tx .a).filledFor 5).map Frame.number = [1, 2]
      ∧ ((w.rx .b).acceptedOn 5).map Frame.number = [2]
      ∧ ((w.rx .b).verdicts.map fun v => (v.frame.number, v.accepted)) = [(2, true), (1, false)]
      ∧ (w.link .a).map (fun x => (x.frame.isACK, x.frame.number)) = [(true, 2), (true, 1)]
      ∧ received ((w.rx .b).acceptedOn 5) = [20] ∧ (w.tx .a).written 5 = [10, 20] := by
  exact ⟨_, rfl, by decide, by decide, by decide, by decide, by decide, by decide⟩

end Peers

end IviLink.L0
