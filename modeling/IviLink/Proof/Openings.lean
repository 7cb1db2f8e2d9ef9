import IviLink.L0.L0Interface
import IviLink.Lib.Run
import IviLink.Proof.Allocator

/-!
# Opening and closing in the midst of work

Transmission channels are opened and closed through `L0Interface` while producers fill
the sources, ACKs come in, and the dispatcher's thread sends. The thread holds the
registry from the first step of a pass to the last, so that channels are opened and
closed between two passes.
-/

namespace IviLink.L0.L0Interface

open IviLink.Hal

inductive Activity
  | openTransmissionChannel (channel_id : UInt32) (priority : TChannelPriority)
  | closeTransmissionChannel (channel_id : UInt32)
  | consumeBuffer (address : Nat) (b : Buffer)
  | flushBuffers (address : Nat)
  /-- An ACK arrives. -/
  | dequeue (channel_id number : UInt32) (now : Timespec)
  /-- The next step of the dispatcher's thread. -/
  | thread (env : CTransmitDispatcher.Env)

def setDispatcher (l : L0Interface) (d : CTransmitDispatcher) : L0Interface :=
  { l with mpTransmitDispatcher := d }

/-- One step; `none` when it is not enabled. -/
def next (l : L0Interface) : Activity → Option L0Interface
  | .openTransmissionChannel channel_id priority =>
    if l.mpTransmitDispatcher.pc = .idle then
      some (l.openTransmissionChannel channel_id priority).1
    else none
  | .closeTransmissionChannel channel_id =>
    if l.mpTransmitDispatcher.pc = .idle then some (l.closeTransmissionChannel channel_id).1
    else none
  | .consumeBuffer address b =>
    match l.mpTransmitDispatcher.sourceAt address with
    | none => none
    | some _ =>
      some (l.setDispatcher
        (l.mpTransmitDispatcher.atSource address fun s => (s.consumeBuffer (some b)).1))
  | .flushBuffers address =>
    match l.mpTransmitDispatcher.sourceAt address with
    | none => none
    | some _ =>
      some (l.setDispatcher (l.mpTransmitDispatcher.atSource address fun s => s.flushBuffers.1))
  | .dequeue channel_id number now =>
    match l.mpTransmitDispatcher.mpTransmittedFrameQueue.dequeue channel_id number now with
    | none => none
    | some (q, _) =>
      some (l.setDispatcher { l.mpTransmitDispatcher with mpTransmittedFrameQueue := q })
  | .thread env =>
    match l.mpTransmitDispatcher.threadStep env with
    | none => none
    | some (d, _) => some (l.setDispatcher d)

/-- A channel that cannot be opened leaves everything as it was. -/
def Atomic (l : L0Interface) : Activity → Prop
  | .openTransmissionChannel channel_id priority =>
    (l.openTransmissionChannel channel_id priority).2.isNoError = false →
      (l.openTransmissionChannel channel_id priority).1 = l
  | _ => True

/-- The channel is not open under another priority. -/
def NotElsewhere (l : L0Interface) : Activity → Prop
  | .openTransmissionChannel channel_id priority =>
    ∀ i, i ≠ priority → ∀ p ∈ l.mpTransmitDispatcher.mRegistry i, p.source.mChannelID ≠ channel_id
  | _ => True

end IviLink.L0.L0Interface

/-!
## Opening a channel that cannot be opened

The dispatcher looks for the channel in the list of one priority, the statistics look
for it whatever its priority was. As long as no channel is opened under a second
priority, the two agree, a channel that one of them has is refused by the first, and
nothing has been done then. Otherwise the dispatcher makes a second source, the
statistics refuse, and the source stays.
-/

namespace IviLink.L0

open IviLink.Hal IviLink.Lib

namespace CTransmitDispatcher

variable {d d' : CTransmitDispatcher} {channel_id : UInt32} {prio : TChannelPriority}

theorem numSources_eq_zero_iff :
    d.numSources channel_id = 0 ↔ ∀ i, ∀ p ∈ d.mRegistry i, p.source.mChannelID ≠ channel_id := by
  constructor
  · intro h i p hp hc
    exact absurd h (numSources_pos hp hc).ne'
  · intro h
    by_contra hne
    obtain ⟨i, p, hp, hc⟩ := exists_of_numSources_pos (Nat.pos_of_ne_zero hne)
    exact h i p hp hc

/-- A step of the thread leaves every channel its sources. -/
theorem numSources_thread {env : Env} {effect : Effect} (ha : d.Addressed)
    (hs : d.StepCases env d' effect) : d'.numSources channel_id = d.numSources channel_id := by
  cases hs with
  | quiet hq =>
    rw [numSources, hq.registry]
    rfl
  | @produced i iter p s frame released hpc hp hs =>
    refine d.numSources_atSource p.address (f := fun _ => s) ?_ channel_id
    intro j q hq heq
    exact ha.sameChannel hp hs j q hq heq
  | sent => rfl
  | refused => rfl
  | resent => rfl

theorem openChannel_busy (h : (d.mRegistry prio).any (SourcePtr.isOf channel_id) = true) :
    d.openChannel channel_id prio = (d, .channelBusy) := by
  rw [openChannel, if_pos h]

/-- A source is made if the list of the priority has none. -/
theorem openChannel_new (h : (d.mRegistry prio).any (SourcePtr.isOf channel_id) = false) :
    (d.openChannel channel_id prio).2 = .noError ∧
      (d.openChannel channel_id prio).1.allocated = d.allocated + 1 := by
  rw [openChannel, h]
  exact ⟨rfl, rfl⟩

/-- There is nothing to remove. -/
theorem remove_notFound (h : d.numSources channel_id = 0) :
    d.remove channel_id = (d, .notFound) := by
  rcases remove_cases d channel_id with ⟨-, heq⟩ | ⟨i, hany, -⟩
  · exact heq
  · obtain ⟨p, hp, hc⟩ := List.any_eq_true.mp hany
    exact absurd (of_decide_eq_true hc) (numSources_eq_zero_iff.mp h i p hp)

theorem any_isOf_iff {l : List SourcePtr} :
    l.any (SourcePtr.isOf channel_id) = true ↔ ∃ p ∈ l, p.source.mChannelID = channel_id := by
  rw [List.any_eq_true]
  exact exists_congr fun p => and_congr_right fun _ => decide_eq_true_iff

end CTransmitDispatcher

namespace L0Interface

variable {l l' : L0Interface} {a : Activity} {channel_id : UInt32} {priority : TChannelPriority}

/-- No channel has two sources. -/
def OneSource (l : L0Interface) : Prop := ∀ c, l.mpTransmitDispatcher.numSources c ≤ 1

/-- **The invariant.** The statistics have the channels that have a source. -/
structure Consistent (l : L0Interface) : Prop where
  addressed : l.mpTransmitDispatcher.Addressed
  single : l.OneSource
  counted : ∀ c, l.mpQoS.mStatMap c = true ↔ l.mpTransmitDispatcher.numSources c = 1

theorem consistent_init : Consistent init where
  addressed := CTransmitDispatcher.addressed_init
  single := fun _ => Nat.zero_le 1
  counted := fun _ => ⟨fun h => absurd h Bool.false_ne_true,
    fun h => absurd (show (0 : Nat) = 1 from h) Nat.zero_ne_one⟩

/-- What is done below without opening or closing. -/
theorem Consistent.setDispatcher (h : Consistent l) {d : CTransmitDispatcher} (ha : d.Addressed)
    (hn : ∀ c, d.numSources c = l.mpTransmitDispatcher.numSources c) :
    Consistent (l.setDispatcher d) where
  addressed := ha
  single := fun c => (hn c).symm ▸ h.single c
  counted := fun c => (hn c).symm ▸ h.counted c

/-! ## Opening -/

/-- A channel with a source under the priority is refused at once. -/
theorem openTransmissionChannel_busy
    (h : ∃ p ∈ l.mpTransmitDispatcher.mRegistry priority, p.source.mChannelID = channel_id) :
    l.openTransmissionChannel channel_id priority = (l, .channelBusy) := by
  have hbusy := CTransmitDispatcher.openChannel_busy (CTransmitDispatcher.any_isOf_iff.mpr h)
  rw [openTransmissionChannel, hbusy]
  rfl

/-- A channel without a source is opened. -/
theorem Consistent.openTransmissionChannel (h : Consistent l)
    (hnone : l.mpTransmitDispatcher.numSources channel_id = 0) :
    (l.openTransmissionChannel channel_id priority).2 = .noError ∧
      Consistent (l.openTransmissionChannel channel_id priority).1 := by
  obtain ⟨hopened, hone⟩ := CTransmitDispatcher.openChannel_noError hnone priority
  have hstat : l.mpQoS.mStatMap channel_id = false := by
    by_contra hne
    have := (h.counted channel_id).mp (Bool.eq_true_of_not_eq_false hne)
    omega
  have hresult : l.openTransmissionChannel channel_id priority =
      ({ l with
        mpTransmitDispatcher := (l.mpTransmitDispatcher.openChannel channel_id priority).1
        mpQoS := ⟨Function.update l.mpQoS.mStatMap channel_id true⟩ }, .noError) := by
    simp [L0Interface.openTransmissionChannel, hopened, ConnectivityAgentError.isNoError,
      CQoS.openChannel, hstat]
  rw [hresult]
  refine ⟨rfl, h.addressed.openChannel channel_id priority, ?_, ?_⟩
  · intro c
    by_cases hc : c = channel_id
    · subst hc
      exact Nat.le_of_eq hone
    · exact (CTransmitDispatcher.numSources_openChannel_ne hc priority).symm ▸ h.single c
  · intro c
    by_cases hc : c = channel_id
    · subst hc
      exact iff_of_true (Function.update_self ..) hone
    · show Function.update l.mpQoS.mStatMap channel_id true c = true ↔ _
      rw [Function.update_of_ne hc, CTransmitDispatcher.numSources_openChannel_ne hc priority]
      exact h.counted c

/-- A channel that has its source under another priority gets a second one, and an error. -/
theorem Consistent.opened_twice (h : Consistent l) {i : TChannelPriority} (hi : i ≠ priority)
    {p : SourcePtr} (hp : p ∈ l.mpTransmitDispatcher.mRegistry i)
    (hc : p.source.mChannelID = channel_id) :
    (l.openTransmissionChannel channel_id priority).2 = .channelBusy ∧
      (l.openTransmissionChannel channel_id priority).1 ≠ l := by
  have hone : l.mpTransmitDispatcher.numSources channel_id = 1 :=
    Nat.le_antisymm (h.single channel_id) (CTransmitDispatcher.numSources_pos hp hc)
  have hfree : (l.mpTransmitDispatcher.mRegistry priority).any (SourcePtr.isOf channel_id)
      = false := by
    by_contra hne
    obtain ⟨q, hq, hqc⟩ := CTransmitDispatcher.any_isOf_iff.mp (Bool.eq_true_of_not_eq_false hne)
    have hpi : 0 < (l.mpTransmitDispatcher.mRegistry i).countP (SourcePtr.isOf channel_id) :=
      List.countP_pos_iff.mpr ⟨p, hp, decide_eq_true hc⟩
    have hqp : 0 < (l.mpTransmitDispatcher.mRegistry priority).countP
        (SourcePtr.isOf channel_id) := List.countP_pos_iff.mpr ⟨q, hq, decide_eq_true hqc⟩
    rw [CTransmitDispatcher.numSources] at hone
    cases i <;> cases priority <;> first | exact hi rfl | omega
  obtain ⟨hopened, halloc⟩ := CTransmitDispatcher.openChannel_new hfree
  have hresult : l.openTransmissionChannel channel_id priority =
      ({ l with
        mpTransmitDispatcher := (l.mpTransmitDispatcher.openChannel channel_id priority).1 },
        .channelBusy) := by
    simp [L0Interface.openTransmissionChannel, hopened, ConnectivityAgentError.isNoError,
      CQoS.openChannel, (h.counted channel_id).mpr hone]
  rw [hresult]
  refine ⟨rfl, ?_⟩
  intro heq
  have hsame := congrArg (fun l => l.mpTransmitDispatcher.allocated) heq
  exact absurd (halloc.symm.trans hsame) (Nat.succ_ne_self _)

/-- **Opening is atomic exactly if the channel is not open under another priority.** -/
theorem Consistent.atomic_iff (h : Consistent l) : Atomic l a ↔ NotElsewhere l a := by
  cases a with
  | openTransmissionChannel channel_id priority =>
    constructor
    · intro hatomic i hi p hp hc
      obtain ⟨herror, hchanged⟩ := h.opened_twice hi hp hc
      refine hchanged (hatomic ?_)
      rw [herror]
      rfl
    · intro helse
      show _ = false → _
      by_cases hown : ∃ p ∈ l.mpTransmitDispatcher.mRegistry priority,
          p.source.mChannelID = channel_id
      · rw [openTransmissionChannel_busy hown]
        exact fun _ => rfl
      · have hnone : l.mpTransmitDispatcher.numSources channel_id = 0 := by
          refine CTransmitDispatcher.numSources_eq_zero_iff.mpr ?_
          intro i p hp hc
          by_cases hi : i = priority
          · exact hown ⟨p, hi ▸ hp, hc⟩
          · exact helse i hi p hp hc
        rw [(h.openTransmissionChannel hnone).1]
        exact fun herror => absurd herror (by decide)
  | closeTransmissionChannel _ | consumeBuffer _ _ | flushBuffers _ | dequeue _ _ _ | thread _ =>
    exact Iff.rfl

/-! ## Closing -/

theorem Consistent.closeTransmissionChannel (h : Consistent l) :
    Consistent (l.closeTransmissionChannel channel_id).1 := by
  have hsame : ∀ c, (l.mpTransmitDispatcher.purge channel_id).numSources c
      = l.mpTransmitDispatcher.numSources c := fun _ => rfl
  have hpurged : (l.mpTransmitDispatcher.purge channel_id).Addressed :=
    ⟨h.addressed.fresh, h.addressed.channel⟩
  by_cases hzero : l.mpTransmitDispatcher.numSources channel_id = 0
  · have hresult : (l.closeTransmissionChannel channel_id).1 =
        l.setDispatcher (l.mpTransmitDispatcher.purge channel_id) := by
      simp [L0Interface.closeTransmissionChannel, CTransmitDispatcher.closeChannel,
        CTransmitDispatcher.remove_notFound ((hsame channel_id).trans hzero),
        ConnectivityAgentError.isNoError, L0Interface.setDispatcher]
    rw [hresult]
    exact h.setDispatcher hpurged hsame
  · have hone : l.mpTransmitDispatcher.numSources channel_id = 1 := by
      have := h.single channel_id
      omega
    have hclosed := CTransmitDispatcher.remove_noError
      (d := l.mpTransmitDispatcher.purge channel_id) ((hsame channel_id).trans hone ▸ Nat.one_pos)
    have hresult : (l.closeTransmissionChannel channel_id).1 =
        { l with
          mpTransmitDispatcher := ((l.mpTransmitDispatcher.purge channel_id).remove channel_id).1
          mpQoS := ⟨Function.update l.mpQoS.mStatMap channel_id false⟩ } := by
      simp [L0Interface.closeTransmissionChannel, CTransmitDispatcher.closeChannel, hclosed,
        ConnectivityAgentError.isNoError, CQoS.closeChannel, (h.counted channel_id).mpr hone]
    have hgone : ((l.mpTransmitDispatcher.purge channel_id).remove channel_id).1.numSources
        channel_id = 0 := by
      rw [CTransmitDispatcher.numSources_remove, hsame, hone]
    have hothers : ∀ c, c ≠ channel_id →
        ((l.mpTransmitDispatcher.purge channel_id).remove channel_id).1.numSources c
          = l.mpTransmitDispatcher.numSources c :=
      fun c hc => (CTransmitDispatcher.numSources_remove_ne hc).trans (hsame c)
    rw [hresult]
    refine ⟨hpurged.remove channel_id, ?_, ?_⟩
    · intro c
      by_cases hc : c = channel_id
      · subst hc
        exact Nat.le_of_eq hgone |>.trans (Nat.zero_le 1)
      · exact (hothers c hc).symm ▸ h.single c
    · intro c
      by_cases hc : c = channel_id
      · subst hc
        show Function.update l.mpQoS.mStatMap c false c = true ↔ _
        rw [Function.update_self]
        exact iff_of_false Bool.false_ne_true (hgone ▸ Nat.zero_ne_one)
      · show Function.update l.mpQoS.mStatMap channel_id false c = true ↔ _
        rw [Function.update_of_ne hc, hothers c hc]
        exact h.counted c

/-! ## Runs -/

/-- **Preserved by every step** that opens no channel under a second priority. -/
theorem Consistent.next (h : Consistent l) (hp : NotElsewhere l a) (hs : next l a = some l') :
    Consistent l' := by
  unfold L0Interface.next at hs
  cases a with
  | openTransmissionChannel channel_id priority =>
    obtain ⟨-, hs⟩ := Option.ite_none_right_eq_some.mp hs
    obtain rfl := Option.some.inj hs
    by_cases hown : ∃ p ∈ l.mpTransmitDispatcher.mRegistry priority,
        p.source.mChannelID = channel_id
    · rw [openTransmissionChannel_busy hown]
      exact h
    · refine (h.openTransmissionChannel ?_).2
      refine CTransmitDispatcher.numSources_eq_zero_iff.mpr ?_
      intro i p hmem hc
      by_cases hi : i = priority
      · exact hown ⟨p, hi ▸ hmem, hc⟩
      · exact hp i hi p hmem hc
  | closeTransmissionChannel channel_id =>
    obtain ⟨-, hs⟩ := Option.ite_none_right_eq_some.mp hs
    exact Option.some.inj hs ▸ h.closeTransmissionChannel
  | consumeBuffer address b =>
    simp only at hs
    split at hs
    · cases hs
    · obtain rfl := Option.some.inj hs
      exact h.setDispatcher (h.addressed.atSource fun _ _ _ _ => rfl)
        (l.mpTransmitDispatcher.numSources_atSource address fun _ _ _ _ => rfl)
  | flushBuffers address =>
    simp only at hs
    split at hs
    · cases hs
    · obtain rfl := Option.some.inj hs
      exact h.setDispatcher (h.addressed.atSource fun _ _ _ _ => rfl)
        (l.mpTransmitDispatcher.numSources_atSource address fun _ _ _ _ => rfl)
  | dequeue channel_id number now =>
    simp only at hs
    split at hs
    · cases hs
    · obtain rfl := Option.some.inj hs
      exact h.setDispatcher ⟨h.addressed.fresh, h.addressed.channel⟩ fun _ => rfl
  | thread env =>
    simp only at hs
    split at hs
    · cases hs
    · next d effect hthread =>
      obtain rfl := Option.some.inj hs
      have hcases := CTransmitDispatcher.threadStep_cases hthread
      exact h.setDispatcher (CTransmitDispatcher.addressed_thread h.addressed hcases)
        fun _ => CTransmitDispatcher.numSources_thread h.addressed hcases

/-- **Opening is atomic, and leaves no channel two sources**, along the runs in which no channel is
opened that is open under another priority, and along no others. -/
theorem opening_atomic_iff (as : List Activity) :
    Along next (fun l a => Atomic l a ∧ ∀ l', next l a = some l' → l'.OneSource) init as ↔
      Along next NotElsewhere init as := by
  refine along_iff_along (E := fun _ _ => True) (I := Consistent) ?_ ?_ consistent_init
    (along_of_mem fun _ _ _ => trivial)
  · intro l a h _
    constructor
    · rintro ⟨hatomic, -⟩
      exact h.atomic_iff.mp hatomic
    · intro helse
      exact ⟨h.atomic_iff.mpr helse, fun l' hs => (h.next helse hs).single⟩
  · intro l a l' h _ helse hs
    exact h.next helse hs

/-- A channel that is opened with one priority, and again with another. -/
theorem opening_leaves_second_source :
    ¬ ∀ (as : List Activity) (l : L0Interface), run next init as = some l →
      l.OneSource ∧ ∀ a, Atomic l a := by
  intro h
  have htwice := h [.openTransmissionChannel 7 .safetyCritical,
    .openTransmissionChannel 7 .plainData] _ rfl
  exact absurd (htwice.1 7) (by decide)

end L0Interface

end IviLink.L0
