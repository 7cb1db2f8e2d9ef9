import IviLink.Proof.ChannelPurge
import IviLink.Proof.Flights
import IviLink.Proof.Replacement
import IviLink.Proof.TransmitAccounting

/-!
# What an ACK says

An ACK names a channel and a number, and the queue drops the first frame that has
them. In every run such a frame was preceded by a verdict of the other side on a
frame with the same channel and number (`Answered`). Which opening of the channel
that frame was of, nothing on the wire says: numbers begin at 1 each time, and an
ACK that is still under way when the channel is opened again counts for the new
opening. If a channel is opened only when nothing is left of it anywhere
(`NothingLeft`), all there is of a channel is of one opening (`OneOpening`), and the
frame the ACK was for is the frame that leaves.
-/

namespace IviLink.L0

open IviLink.Hal IviLink.Lib

namespace Transmit

/-- Whatever there is of a channel is of the source at one address. -/
structure OneSource (t : Transmit) (channel_id : UInt32) (address : Nat) : Prop where
  registered : ∀ i, ∀ p ∈ t.disp.mRegistry i, p.source.mChannelID = channel_id →
    p.address = address
  hand : ∀ x ∈ t.disp.pc.hand, x.2.channel_id = channel_id → x.1 = address
  queued : ∀ x ∈ t.queued, x.2.channel_id = channel_id → x.1 = address

/-- Nothing new of the channel. -/
theorem OneSource.same {t t' : Transmit} {c : UInt32} {o : Nat} (h : OneSource t c o)
    (hregistry : ∀ i, ∀ p ∈ t'.disp.mRegistry i, p.source.mChannelID = c →
      ∃ p₀ ∈ t.disp.mRegistry i, p₀.address = p.address ∧ p₀.source.mChannelID = c)
    (hhand : ∀ x ∈ t'.disp.pc.hand, x ∈ t.disp.pc.hand) (hqueued : ∀ x ∈ t'.queued, x ∈ t.queued) :
    OneSource t' c o where
  registered := fun i p hp hc => by
    obtain ⟨p₀, hp₀, ha, hc₀⟩ := hregistry i p hp hc
    rw [← ha]
    exact h.registered i p₀ hp₀ hc₀
  hand := fun x hx => h.hand x (hhand x hx)
  queued := fun x hx => h.queued x (hqueued x hx)

/-- What is done to a source's queue does not move it to another channel. -/
theorem atSource_channel {d : CTransmitDispatcher} {a : Nat} {f : CSource → CSource} {c : UInt32}
    (hf : ∀ i, ∀ p ∈ d.mRegistry i, p.address = a → (f p.source).mChannelID = p.source.mChannelID)
    {i : TChannelPriority} {p : SourcePtr} (hp : p ∈ (d.atSource a f).mRegistry i)
    (hc : p.source.mChannelID = c) :
    ∃ p₀ ∈ d.mRegistry i, p₀.address = p.address ∧ p₀.source.mChannelID = c := by
  obtain ⟨p₀, hp₀, ha, hsource⟩ := CTransmitDispatcher.mem_atSource hp
  refine ⟨p₀, hp₀, ha, ?_⟩
  rw [← hc, hsource]
  split
  · rename_i haddress
    exact (hf i p₀ hp₀ (ha.trans haddress)).symm
  · rfl

theorem oneSource_thread {t : Transmit} {d : CTransmitDispatcher}
    {env : CTransmitDispatcher.Env} {effect : CTransmitDispatcher.Effect} {c : UInt32} {o : Nat}
    (h : OneSource t c o) (htraced : Traced t) (haddressed : t.disp.Addressed)
    (hs : t.disp.StepCases env d effect) : OneSource ({ t with disp := d }.record effect) c o := by
  cases hs with
  | quiet hq =>
    refine h.same (fun i p hp hc => ⟨p, hq.registry ▸ hp, rfl, hc⟩) (fun x hx => ?_) fun _ hx => hx
    have hx' : x ∈ d.pc.hand := hx
    rw [hq.hand'] at hx'
    exact absurd hx' (by simp)
  | @produced i iter p s frame released hpc hp hs =>
    obtain ⟨-, -, hchannel, -, -⟩ := CSource.OnDispatch_counter hs
    refine ⟨fun j q hq hc => ?_, fun x hx hc => ?_, h.queued⟩
    · obtain ⟨q₀, hq₀, ha, hc₀⟩ := atSource_channel (f := fun _ => s) (haddressed.sameChannel hp hs)
        hq hc
      rw [← ha]
      exact h.registered j q₀ hq₀ hc₀
    · obtain rfl : x = (p.address, frame) := List.mem_singleton.mp hx
      exact h.registered i p (List.mem_of_getElem? hp) (hchannel.symm.trans hc)
  | @sent i iter address frame hpc hok =>
    have hin : (address, frame) ∈ t.disp.pc.hand := by rw [hpc]; exact List.mem_cons_self
    simp only [record, hok, if_true]
    refine ⟨h.registered, fun x hx => absurd hx (by simp [Pc.hand]), fun x hx hc => ?_⟩
    rcases List.mem_append.mp hx with hx | hx
    · exact h.queued x hx hc
    · obtain rfl := List.mem_singleton.mp hx
      exact h.hand _ hin hc
  | refused hpc hfail =>
    simp only [record, hfail, Bool.false_eq_true, if_false]
    exact ⟨h.registered, fun x hx => absurd hx (by simp [Pc.hand]), h.queued⟩
  | @resent i frame queue report hpc hget hre =>
    obtain ⟨rest, hfront, -⟩ := CTransmittedFramesQueue.reenqueue_front hre
    obtain ⟨address, tail, hqueued, -⟩ := htraced.front hfront
    by_cases hr : report = .timeout
    · simp only [record, if_pos hr]
      exact ⟨h.registered, h.hand, fun x hx => h.queued x (List.mem_of_mem_tail hx)⟩
    · simp only [record, if_neg hr]
      refine ⟨h.registered, h.hand, fun x hx => h.queued x ?_⟩
      have hx' : x ∈ t.queued.tail ++ t.queued.head?.toList := hx
      rw [hqueued] at hx' ⊢
      rcases List.mem_append.mp hx' with hx' | hx'
      · exact List.mem_cons_of_mem _ hx'
      · rw [List.mem_singleton.mp hx']
        exact List.mem_cons_self

/-- An action other than a successful opening of the channel. -/
theorem oneSource_step {t t' : Transmit} {a : Action} {c : UInt32} {o : Nat} (h : OneSource t c o)
    (htraced : Traced t) (haddressed : t.disp.Addressed)
    (ha : ∀ prio, a = .openChannel c prio → (t.disp.openChannel c prio).2.isNoError = false)
    (hs : t.step a = some t') : OneSource t' c o := by
  cases step_cases hs with
  | @openChannel channel_id prio hidle =>
    refine h.same (fun i p hp hc => ?_) (fun x hx => ?_) fun _ hx => hx
    · rcases CTransmitDispatcher.mem_openChannel hp with hp | ⟨rfl, hnew⟩
      · exact ⟨p, hp, rfl, hc⟩
      · obtain rfl : channel_id = c := hc
        have hbusy := ha prio rfl
        rw [CTransmitDispatcher.openChannel] at hbusy hnew
        split at hnew
        · exact absurd hnew (Nat.ne_of_lt (Nat.lt_succ_self _))
        · rename_i hfree
          rw [if_neg hfree] at hbusy
          exact absurd hbusy (by simp [ConnectivityAgentError.isNoError])
    · rwa [CTransmitDispatcher.openChannel_pc] at hx
  | purge =>
    exact h.same (fun i p hp hc => ⟨p, hp, rfl, hc⟩) (fun _ hx => hx)
      fun _ hx => List.mem_of_mem_filter hx
  | remove hidle hclosing =>
    exact h.same (fun i p hp hc => ⟨p, CTransmitDispatcher.mem_remove hp, rfl, hc⟩)
      (fun _ hx => hx) fun _ hx => hx
  | @consumeBuffer address b p hp =>
    exact h.same (fun i q hq hc => atSource_channel
      (f := fun s => (s.consumeBuffer (some b)).1) (fun _ _ _ _ => rfl) hq hc)
      (fun _ hx => hx) fun _ hx => hx
  | flushBuffers =>
    exact h.same (fun i q hq hc => atSource_channel
      (f := fun s => s.flushBuffers.1) (fun _ _ _ _ => rfl) hq hc) (fun _ hx => hx) fun _ hx => hx
  | dequeue hq =>
    exact h.same (fun i p hp hc => ⟨p, hp, rfl, hc⟩) (fun _ hx => hx)
      fun _ hx => List.mem_of_mem_eraseP hx
  | thread hthread => exact oneSource_thread h htraced haddressed hthread

/-- Frames that leave the queue for an ACK leave it in `dequeue`. -/
theorem acked_step {t t' : Transmit} {a : Action}
    (ha : ∀ channel_id number now, a ≠ .dequeue channel_id number now) (hs : t.step a = some t') :
    t'.acked = t.acked := by
  cases step_cases hs with
  | dequeue => exact absurd rfl (ha _ _ _)
  | @thread env d effect hthread =>
    cases effect with
    | sent _ _ result => rw [record]; split <;> rfl
    | resent _ report => rw [record]; split <;> rfl
    | _ => rfl
  | _ => rfl

/-- A source fills no two frames with one number before its counter has gone round. -/
theorem Counted.unique {t : Transmit} (h : Counted t) {x y : Nat × Frame} (hx : x ∈ t.produced)
    (hy : y ∈ t.produced) (hsource : x.1 = y.1) (hnumber : x.2.number = y.2.number)
    (hlen : (numbersOf x.1 t.produced).length < 2 ^ 32) : x = y := by
  have hnodup := (h.fromOne x.1).nodup hlen
  have hx' : x ∈ t.produced.filter fun z => z.1 = x.1 :=
    List.mem_filter.mpr ⟨hx, decide_eq_true rfl⟩
  have hy' : y ∈ t.produced.filter fun z => z.1 = x.1 :=
    List.mem_filter.mpr ⟨hy, decide_eq_true hsource.symm⟩
  exact List.inj_on_of_nodup_map hnodup hx' hy' hnumber

end Transmit

namespace Peers

/-! ## Verdicts behind the ACKs -/

/-- What is under way, and what ACKs have done, has its reason on record. -/
structure Answered (w : Peers) : Prop where
  traced : ∀ s, (w.tx s).Traced
  /-- A data frame on a link was filled by a source of the side that sent it. -/
  data : ∀ s, ∀ x ∈ w.link s, x.frame.isACK = false →
    x.frame = x.about.2 ∧ x.about ∈ (w.tx s.other).produced
  /-- An ACK on a link follows a verdict of the side that sent it. -/
  acks : ∀ s, ∀ x ∈ w.link s, x.frame.isACK = true → x.frame = ackFrame x.about.2
    ∧ ∃ v ∈ (w.rx s.other).verdicts, (v.source, v.frame) = x.about
  verdicts : ∀ s, ∀ v ∈ (w.rx s).verdicts, (v.source, v.frame) ∈ (w.tx s.other).produced
  retired : ∀ s, ∀ y ∈ w.retired s, y.1 ∈ (w.tx s).produced
    ∧ y.1.2.channel_id = y.2.2.channel_id ∧ y.1.2.number = y.2.2.number
    ∧ ∃ v ∈ (w.rx s.other).verdicts, (v.source, v.frame) = y.2

theorem answered_init : Answered init where
  traced := fun _ => Transmit.traced_init
  data := fun _ x hx => absurd hx (by simp [init])
  acks := fun _ x hx => absurd hx (by simp [init])
  verdicts := fun _ v hv => absurd hv (by simp [init, Receive.init])
  retired := fun _ y hy => absurd hy (by simp [init])

theorem answered_step {w w' : Peers} {a : Action} (h : Answered w) (hs : w.step a = some w') :
    Answered w' where
  traced := by
    intro s
    rcases step_tx hs s with heq | ⟨act, ht, -⟩
    · rw [heq]
      exact h.traced s
    · exact Transmit.traced_step (h.traced s) ht
  data := by
    intro s x hx hdata
    rcases link_step hs hx with hx | ⟨act, hnew, hframe⟩ | ⟨y, hy, hack, hframe, -⟩
    · obtain ⟨hframe, hmem⟩ := h.data s x hx hdata
      exact ⟨hframe, (produced_mono hs s.other).subset hmem⟩
    · exact ⟨hframe, (produced_mono hs s.other).subset ((h.traced s.other).onCarrier_produced hnew)⟩
    · rw [hframe, ackFrame_isACK] at hdata
      exact absurd hdata (by simp)
  acks := by
    intro s x hx hack
    rcases link_step hs hx with hx | ⟨act, hnew, hframe⟩ | ⟨y, hy, hdata, hframe, ha, v, hv, hv'⟩
    · obtain ⟨hframe, v, hv, heq⟩ := h.acks s x hx hack
      exact ⟨hframe, v, verdicts_mono hs hv, heq⟩
    · have hdata := (h.traced s.other).data _ ((h.traced s.other).onCarrier_produced hnew)
      rw [hframe, hdata] at hack
      exact absurd hack (by simp)
    · obtain ⟨hsame, -⟩ := h.data s.other y hy hdata
      refine ⟨by rw [hframe, hsame, ha], v, hv, ?_⟩
      rw [hv'.1, hv'.2, hsame, ha]
  verdicts := by
    intro s v hv
    rcases verdict_step hs hv with hv | ⟨y, hy, hdata, hsource, hframe, -⟩
    · exact (produced_mono hs s.other).subset (h.verdicts s v hv)
    · obtain ⟨hsame, hmem⟩ := h.data s y hy hdata
      rw [hsource, hframe, hsame]
      exact (produced_mono hs s.other).subset hmem
  retired := by
    intro s y hy
    rcases retired_step hs hy with hy | ⟨x, hx, hack, habout, hqueued, hchannel, hnumber⟩
    · obtain ⟨hmem, hchannel, hnumber, v, hv, heq⟩ := h.retired s y hy
      exact ⟨(produced_mono hs s).subset hmem, hchannel, hnumber, v, verdicts_mono hs hv, heq⟩
    · obtain ⟨hframe, v, hv, heq⟩ := h.acks s x hx hack
      refine ⟨(produced_mono hs s).subset ((h.traced s).queued _ hqueued), ?_, ?_, v,
        verdicts_mono hs hv, heq.trans habout.symm⟩
      · rw [hchannel, hframe, habout]
        rfl
      · rw [hnumber, hframe, habout]
        rfl

/-- The record of what ACKs took out is complete. -/
theorem record_step {w w' : Peers} {a : Action} (htraced : ∀ s, (w.tx s).Traced)
    (h : ∀ s, (w.retired s).map (fun y => y.1.2) = (w.tx s).acked) (hs : w.step a = some w') :
    ∀ s, (w'.retired s).map (fun y => y.1.2) = (w'.tx s).acked := by
  intro s
  cases step_cases hs with
  | @transmit q act t hact ht =>
    rw [put_retired, put_tx]
    show _ = (Function.update w.tx q t s).acked
    by_cases hq : s = q
    · subst hq
      rw [Function.update_self, Transmit.acked_step hact ht]
      exact h s
    · rw [Function.update_of_ne hq]
      exact h s
  | receive => exact h s
  | replaceCarrier => exact h s
  | @ack q consumed acked now x rest t hlink hack ht =>
    by_cases hq : s = q
    · subst hq
      simp only [Function.update_self]
      cases Transmit.step_cases ht with
      | dequeue =>
        rw [List.map_append, h s, ← (htraced s).find]
        cases (w.tx s).queued.find? (Transmit.isFrame x.frame.channel_id x.frame.number) <;> rfl
    · simp only [Function.update_of_ne hq]
      exact h s
  | data hlink hack hr =>
    rw [put_retired, put_tx]
    exact h s

/-! ## One opening at a time -/

/-- Nothing of a channel is left from an earlier opening on this side. -/
structure NothingLeft (w : Peers) (s : Side) (channel_id : UInt32) : Prop where
  sources : ∀ i, ∀ p ∈ (w.tx s).disp.mRegistry i, p.source.mChannelID ≠ channel_id
  queue : (w.tx s).NotQueued channel_id
  data : ∀ x ∈ w.link s.other, x.frame.isACK = false → x.frame.channel_id ≠ channel_id
  acks : ∀ x ∈ w.link s, x.frame.isACK = true → x.frame.channel_id ≠ channel_id
  /-- The target on the other side, if there is one, is new. -/
  target : ∀ p, (w.rx s.other).disp.mTargetMap channel_id = some p →
    ∀ v ∈ (w.rx s.other).verdicts, v.target ≠ p.address

/-- A channel is opened for sending only when nothing is left of it. -/
def CleanOpen (w : Peers) : Action → Prop
  | .transmit s (.openChannel channel_id prio) =>
    ((w.tx s).disp.openChannel channel_id prio).2.isNoError = true → w.NothingLeft s channel_id
  | _ => True

/-- All there is of a channel that a side sends on is of the source at one address. -/
structure OneOpening (w : Peers) (s : Side) (channel_id : UInt32) (address : Nat) : Prop where
  source : (w.tx s).OneSource channel_id address
  data : ∀ x ∈ w.link s.other, x.frame.isACK = false → x.frame.channel_id = channel_id →
    x.about.1 = address
  acks : ∀ x ∈ w.link s, x.frame.isACK = true → x.frame.channel_id = channel_id →
    x.about.1 = address
  target : ∀ p, (w.rx s.other).disp.mTargetMap channel_id = some p →
    ∀ v ∈ (w.rx s.other).verdicts, v.target = p.address → v.source = address

/-- A successful opening begins a new one. -/
theorem oneOpening_open {w w' : Peers} {s : Side} {c : UInt32} {prio : TChannelPriority}
    (h : w.NothingLeft s c) (htraced : (w.tx s).Traced)
    (hs : w.step (.transmit s (.openChannel c prio)) = some w') :
    OneOpening w' s c (w.tx s).disp.allocated := by
  cases step_cases hs with
  | transmit hact ht =>
    cases Transmit.step_cases ht with
    | openChannel hidle =>
      simp only [Transmit.onCarrier, List.map_nil, put_nil]
      refine ⟨?_, fun x hx hdata hc => absurd hc (h.data x hx hdata),
        fun x hx hack hc => absurd hc (h.acks x hx hack),
        fun p hp v hv ha => absurd ha (h.target p hp v hv)⟩
      simp only [Function.update_self]
      refine ⟨fun i p hp hc => ?_, fun x hx => ?_, fun x hx hc => ?_⟩
      · rcases CTransmitDispatcher.mem_openChannel hp with hp | ⟨rfl, -⟩
        · exact absurd hc (h.sources i p hp)
        · rfl
      · have hx' : x ∈ ((w.tx s).disp.openChannel c prio).1.pc.hand := hx
        rw [CTransmitDispatcher.openChannel_pc, hidle] at hx'
        exact absurd hx' (by simp [Pc.hand])
      · have hmem : x.2 ∈ (w.tx s).disp.mpTransmittedFrameQueue.frames := by
          rw [← htraced.mirror]
          exact List.mem_map_of_mem hx
        exact absurd hc (h.queue x.2 hmem)

/-- Any other step adds nothing of another source. -/
theorem oneOpening_step {w w' : Peers} {a : Action} {s : Side} {c : UInt32} {o : Nat}
    (h : OneOpening w s c o) (hk : Answered w) (haddressed : (w.tx s).disp.Addressed)
    (hseated : (w.rx s.other).Seated)
    (ha : ∀ prio, a = .transmit s (.openChannel c prio) →
      ((w.tx s).disp.openChannel c prio).2.isNoError = false)
    (hs : w.step a = some w') : OneOpening w' s c o where
  source := by
    rcases step_tx hs s with heq | ⟨act, ht, hact⟩
    · rw [heq]
      exact h.source
    · refine Transmit.oneSource_step h.source (hk.traced s) haddressed (fun prio hopen => ?_) ht
      subst hopen
      rcases hact with hact | ⟨_, _, _, hact⟩
      · exact ha prio hact
      · exact absurd hact (by simp)
  data := by
    intro x hx hdata hc
    rcases link_step hs hx with hx | ⟨act, hnew, hframe⟩ | ⟨y, hy, -, hframe, -⟩
    · exact h.data x hx hdata hc
    · rw [Side.other_other] at hnew
      rw [hframe] at hc
      rcases (hk.traced s).onCarrier hnew with hnew | hnew
      · exact h.source.hand _ hnew hc
      · exact h.source.queued _ hnew hc
    · rw [hframe, ackFrame_isACK] at hdata
      exact absurd hdata (by simp)
  acks := by
    intro x hx hack hc
    rcases link_step hs hx with hx | ⟨act, hnew, hframe⟩ | ⟨y, hy, hdata, hframe, habout, -⟩
    · exact h.acks x hx hack hc
    · have hdata := (hk.traced s.other).data _ ((hk.traced s.other).onCarrier_produced hnew)
      rw [hframe, hdata] at hack
      exact absurd hack (by simp)
    · rw [hframe, ackFrame_channel_id] at hc
      rw [habout]
      exact h.data y hy hdata hc
  target := by
    intro p hp v hv htarget
    have hold : (∃ q, (w.rx s.other).disp.mTargetMap c = some q ∧ q.address = p.address)
        ∨ p.address = (w.rx s.other).disp.allocated := by
      rcases step_rx hs s.other with heq | hr
      · exact .inl ⟨p, heq ▸ hp, rfl⟩
      · exact Receive.map_step hr hp
    rcases verdict_step hs hv with hv | ⟨y, hy, hdata, hsource, -, q₀, hq₀, htarget₀⟩
    · rcases hold with ⟨q, hq, haddr⟩ | hnew
      · exact h.target q hq v hv (htarget.trans haddr.symm)
      · -- a new target has said nothing yet
        exact absurd (htarget.trans hnew) (Nat.ne_of_lt (hseated.known v hv))
    · rcases hold with ⟨q, hq, haddr⟩ | hnew
      · have hchannel := hseated.distinct _ _ q₀ q hq₀ hq
          (htarget₀.symm.trans (htarget.trans haddr.symm))
        rw [hsource]
        exact h.data y hy hdata hchannel
      · exact absurd (htarget₀.symm.trans (htarget.trans hnew))
          (Nat.ne_of_lt (hseated.fresh _ q₀ hq₀))

/-- What clean openings keep. -/
structure Opened (w : Peers) : Prop where
  answered : Answered w
  addressed : ∀ s, (w.tx s).disp.Addressed
  seated : ∀ s, (w.rx s).Seated
  opening : ∀ s c, ∃ o, OneOpening w s c o
  /-- A target has answered frames of one source only. -/
  source : ∀ s, ∀ v ∈ (w.rx s).verdicts, ∀ v' ∈ (w.rx s).verdicts, v.target = v'.target →
    v.source = v'.source
  retired : ∀ s, ∀ y ∈ w.retired s, y.1.1 = y.2.1

theorem opened_init : Opened init where
  answered := answered_init
  addressed := fun _ => CTransmitDispatcher.addressed_init
  seated := fun _ => Receive.seated_init
  opening := fun s c => ⟨0, ⟨⟨fun _ p hp => absurd hp (by simp [init, Transmit.init,
    CTransmitDispatcher.init]), fun x hx => absurd hx (by simp [init, Transmit.init,
    CTransmitDispatcher.init, Pc.hand]), fun x hx => absurd hx (by simp [init, Transmit.init])⟩,
    fun x hx => absurd hx (by simp [init]), fun x hx => absurd hx (by simp [init]),
    fun _ _ v hv => absurd hv (by simp [init, Receive.init])⟩⟩
  source := fun _ v hv => absurd hv (by simp [init, Receive.init])
  retired := fun _ y hy => absurd hy (by simp [init])

theorem opened_step {w w' : Peers} {a : Action} (h : Opened w) (ha : w.CleanOpen a)
    (hs : w.step a = some w') : Opened w' where
  answered := answered_step h.answered hs
  addressed := by
    intro s
    rcases step_tx hs s with heq | ⟨act, ht, -⟩
    · rw [heq]
      exact h.addressed s
    · exact Transmit.addressed_step (h.addressed s) ht
  seated := by
    intro s
    rcases step_rx hs s with heq | hr
    · rw [heq]
      exact h.seated s
    · exact Receive.seated_step (h.seated s) hr
  opening := by
    intro s c
    by_cases hopen : ∃ prio, a = .transmit s (.openChannel c prio)
      ∧ ((w.tx s).disp.openChannel c prio).2.isNoError = true
    · obtain ⟨prio, rfl, hok⟩ := hopen
      exact ⟨_, oneOpening_open (ha hok) (h.answered.traced s) hs⟩
    · obtain ⟨o, ho⟩ := h.opening s c
      refine ⟨o, oneOpening_step ho h.answered (h.addressed s) (h.seated s.other)
        (fun prio heq => ?_) hs⟩
      exact Bool.eq_false_iff.mpr fun hok => hopen ⟨prio, heq, hok⟩
  source := by
    intro s v hv v' hv' htarget
    -- a new verdict is on a frame of the opening its target has answered so far
    have hnew : ∀ y ∈ w.link s, y.frame.isACK = false →
        ∀ p, (w.rx s).disp.mTargetMap y.frame.channel_id = some p →
        ∀ u ∈ (w.rx s).verdicts, u.target = p.address → u.source = y.about.1 := by
      intro y hy hdata p hp u hu hutarget
      obtain ⟨o, ho⟩ := h.opening s.other y.frame.channel_id
      have hy' := ho.data y (by rwa [Side.other_other]) hdata rfl
      have hu' := ho.target p (by rwa [Side.other_other]) u (by rwa [Side.other_other]) hutarget
      exact hu'.trans hy'.symm
    rcases verdict_step hs hv with hold | ⟨y, hy, hdata, hsource, -, p, hp, hp'⟩
    · rcases verdict_step hs hv' with hold' | ⟨y', hy', hdata', hsource', -, p', hp', hp''⟩
      · exact h.source s v hold v' hold' htarget
      · rw [hsource']
        exact hnew y' hy' hdata' p' hp' v hold (htarget.trans hp'')
    · rcases verdict_step hs hv' with hold' | ⟨y', hy', hdata', hsource', -, p', hp₀, hp''⟩
      · rw [hsource]
        exact (hnew y hy hdata p hp v' hold' (htarget.symm.trans hp')).symm
      · have hchannel := (h.seated s).distinct _ _ p p' hp hp₀
          (hp'.symm.trans (htarget.trans hp''))
        obtain ⟨o, ho⟩ := h.opening s.other y.frame.channel_id
        rw [hsource, hsource', ho.data y (by rwa [Side.other_other]) hdata rfl,
          ho.data y' (by rwa [Side.other_other]) hdata' hchannel.symm]
  retired := by
    intro s y hy
    rcases retired_step hs hy with hy | ⟨x, hx, hack, habout, hqueued, hchannel, -⟩
    · exact h.retired s y hy
    · obtain ⟨o, ho⟩ := h.opening s x.frame.channel_id
      rw [habout, ho.acks x hx hack rfl]
      exact ho.source.queued _ hqueued hchannel

/-- **An ACK retires a frame with the channel and the number of one that the other side's target
has accepted or recognised.** If channels are opened only when nothing is left of them, it is the
very frame, and a target answers frames of one opening only. -/
theorem ack_retires {as : List Action} {w : Peers} (h : run step init as = some w) :
    (∀ s, (w.retired s).map (fun y => y.1.2) = (w.tx s).acked)
      ∧ (∀ s, ∀ y ∈ w.retired s, y.1.2.channel_id = y.2.2.channel_id
        ∧ y.1.2.number = y.2.2.number ∧ ∃ v ∈ (w.rx s.other).verdicts, (v.source, v.frame) = y.2)
      ∧ (Along step CleanOpen init as →
        (∀ s, ∀ y ∈ w.retired s, y.1.1 = y.2.1
          ∧ ((Transmit.numbersOf y.1.1 (w.tx s).produced).length < 2 ^ 32 → y.1 = y.2))
        ∧ ∀ s, ∀ v ∈ (w.rx s).verdicts, ∀ v' ∈ (w.rx s).verdicts, v.target = v'.target →
          v.source = v'.source) := by
  have hall : Answered w ∧ ∀ s, (w.retired s).map (fun y => y.1.2) = (w.tx s).acked :=
    run_invariant (P := fun _ _ => True)
      (I := fun w : Peers => Answered w
        ∧ ∀ s, (w.retired s).map (fun y => y.1.2) = (w.tx s).acked)
      (fun _ _ _ hi _ hs => ⟨answered_step hi.1 hs, record_step hi.1.traced hi.2 hs⟩)
      ⟨answered_init, fun _ => rfl⟩ (along_of_mem fun _ _ _ => trivial) h
  obtain ⟨hanswered, hrecord⟩ := hall
  refine ⟨hrecord, fun s y hy => (hanswered.retired s y hy).2, fun hclean => ?_⟩
  have hopened : Opened w :=
    run_invariant (fun _ _ _ hi ha hs => opened_step hi ha hs) opened_init hclean h
  refine ⟨fun s y hy => ⟨hopened.retired s y hy, fun hlen => ?_⟩, hopened.source⟩
  have hcounted : Transmit.Counted (w.tx s) :=
    tx_run Transmit.counted_init (fun _ _ _ ht hs => Transmit.counted_step ht hs) h s
  obtain ⟨hmem, hchannel, hnumber, v, hv, heq⟩ := hanswered.retired s y hy
  have hmem' : y.2 ∈ (w.tx s).produced := by
    have := hanswered.verdicts s.other v hv
    rwa [Side.other_other, heq] at this
  exact hcounted.unique hmem hmem' (hopened.retired s y hy) hnumber hlen

/-! ### An ACK in time, and one too late -/

/-- The next frame comes to `a`. -/
def ackArrives : Action := .deliver .a .noError .noError (.ms 0 Timespec.start_lt)

/-- A frame is sent, accepted and acknowledged. -/
def acknowledged : List Action :=
  openAndSend ++ [arrive, .receive .a .unlockFrameProcessing, ackArrives]

theorem acknowledged_run :
    ∃ w, run step init acknowledged = some w
      ∧ w.retired .a = [((0, ⟨⟨1, 5, 1⟩, [10]⟩), (0, ⟨⟨1, 5, 1⟩, [10]⟩))] :=
  ⟨_, rfl, by decide⟩

/-- A channel is opened once, at the start. -/
theorem acknowledged_clean : Along step CleanOpen init acknowledged := by
  have hfirst : NothingLeft init .a 5 :=
    ⟨fun _ _ hp => absurd hp (List.not_mem_nil), fun _ hf => absurd hf (List.not_mem_nil),
      fun _ hx => absurd hx (List.not_mem_nil), fun _ hx => absurd hx (List.not_mem_nil),
      fun _ _ _ hv => absurd hv (List.not_mem_nil)⟩
  refine ⟨fun _ => hfirst, fun _ _ => along_of_mem fun a ha w => ?_⟩
  have hcalls : ∀ a ∈ acknowledged.tail,
      (match a with | .transmit _ (.openChannel ..) => false | _ => true) = true := by decide
  have := hcalls a ha
  cases a with
  | transmit s act =>
    cases act with
    | openChannel c prio => exact absurd this (by simp)
    | _ => trivial
  | _ => trivial

theorem ack_retires_acknowledged :
    ∃ w, run step init acknowledged = some w
      ∧ w.retired .a = [((0, ⟨⟨1, 5, 1⟩, [10]⟩), (0, ⟨⟨1, 5, 1⟩, [10]⟩))]
      ∧ (∃ v ∈ (w.rx .b).verdicts, (v.source, v.frame) = (0, ⟨⟨1, 5, 1⟩, [10]⟩))
      ∧ ∀ s, ∀ v ∈ (w.rx s).verdicts, ∀ v' ∈ (w.rx s).verdicts, v.target = v'.target →
        v.source = v'.source := by
  obtain ⟨w, hrun, hretired⟩ := acknowledged_run
  obtain ⟨-, hverdict, hclean⟩ := ack_retires hrun
  refine ⟨w, hrun, hretired, ?_, (hclean acknowledged_clean).2⟩
  exact (hverdict .a _ (hretired ▸ List.mem_singleton.mpr rfl)).2.2

/-- The channel is closed while the ACK is on its way back, opened again, and its first frame is
sent; then the ACK arrives. -/
def reopenedEarly : List Action :=
  openAndSend ++ [arrive, .receive .a .unlockFrameProcessing, .transmit .a (.purge 5)]
    ++ List.replicate 5 tick
    ++ [.transmit .a (.remove 5), .transmit .a (.openChannel 5 .realTime),
      .transmit .a (.consumeBuffer 1 ⟨2, [20]⟩)]
    ++ List.replicate 7 tick ++ [ackArrives]

/-- **The ACK of the first opening retires the frame of the second**, which nobody has received:
it is still on its way to `b`. -/
theorem stale_ack_retires :
    ∃ w, run step init reopenedEarly = some w
      ∧ w.retired .a = [((1, ⟨⟨1, 5, 1⟩, [20]⟩), (0, ⟨⟨1, 5, 1⟩, [10]⟩))]
      ∧ (∀ v ∈ (w.rx .b).verdicts, v.source = 0)
      ∧ (w.link .b).map Flight.about = [(1, ⟨⟨1, 5, 1⟩, [20]⟩)] := by
  exact ⟨_, rfl, by decide, by decide, by decide⟩

end Peers

end IviLink.L0
