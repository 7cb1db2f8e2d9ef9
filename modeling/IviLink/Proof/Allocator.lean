import IviLink.L1.CChannelAllocator
import IviLink.Proof.Registry

/-!
# What is open below

The allocator is asked to open what is closed and to close what is open, and then it
does: the two dispatchers and the statistics say the same about every channel.
-/

namespace IviLink.L0

/-! ## The dispatchers -/

namespace CTransmitDispatcher

theorem openChannel_noError {d : CTransmitDispatcher} {channel_id : UInt32}
    (h : d.numSources channel_id = 0) (prio : TChannelPriority) :
    (d.openChannel channel_id prio).2 = .noError
      ∧ (d.openChannel channel_id prio).1.numSources channel_id = 1 := by
  have hnone : (d.mRegistry prio).countP (SourcePtr.isOf channel_id) = 0 := by
    rw [numSources] at h
    cases prio <;> omega
  have hany : (d.mRegistry prio).any (SourcePtr.isOf channel_id) = false := by
    rw [← Bool.not_eq_true]
    intro hany
    obtain ⟨p, hp, hc⟩ := List.any_eq_true.mp hany
    exact List.countP_eq_zero.mp hnone p hp hc
  have hresult : (d.openChannel channel_id prio).2 = .noError := by
    rw [openChannel, hany]
    rfl
  refine ⟨hresult, ?_⟩
  have hself : (d.mRegistry prio ++ [(⟨d.allocated, .new channel_id⟩ : SourcePtr)]).countP
      (SourcePtr.isOf channel_id) = 1 := by
    have hown : SourcePtr.isOf channel_id ⟨d.allocated, .new channel_id⟩ = true :=
      decide_eq_true rfl
    rw [List.countP_append, List.countP_singleton, hown, hnone]
    rfl
  rw [openChannel, hany]
  rw [numSources] at h
  cases prio <;> simp only [Bool.false_eq_true, if_false, numSources, Function.update_self, ne_eq,
    reduceCtorEq, not_false_eq_true, Function.update_of_ne, hself] <;> omega

theorem numSources_openChannel_ne {d : CTransmitDispatcher} {channel_id other : UInt32}
    (h : other ≠ channel_id) (prio : TChannelPriority) :
    (d.openChannel channel_id prio).1.numSources other = d.numSources other := by
  rcases d.numSources_openChannel channel_id prio other with heq | ⟨-, hother, -⟩
  · exact heq
  · exact absurd hother h

theorem countP_eraseP_ne {l : List SourcePtr} {channel_id other : UInt32} (h : other ≠ channel_id) :
    (l.eraseP (SourcePtr.isOf channel_id)).countP (SourcePtr.isOf other)
      = l.countP (SourcePtr.isOf other) := by
  by_cases hany : ∃ p ∈ l, SourcePtr.isOf channel_id p = true
  · obtain ⟨p, hp, hc⟩ := hany
    obtain ⟨a, l₁, l₂, -, ha, hl, herase⟩ := List.exists_of_eraseP hp hc
    have hne : ¬ SourcePtr.isOf other a = true := by
      intro ho
      exact h ((of_decide_eq_true ho).symm.trans (of_decide_eq_true ha))
    rw [herase, hl, List.countP_append, List.countP_append, List.countP_cons_of_neg hne]
  · rw [List.eraseP_of_forall_not]
    exact fun p hp hc => hany ⟨p, hp, hc⟩

theorem numSources_remove_ne {d : CTransmitDispatcher} {channel_id other : UInt32}
    (h : other ≠ channel_id) :
    (d.remove channel_id).1.numSources other = d.numSources other := by
  rcases remove_cases d channel_id with ⟨-, heq⟩ | ⟨i, -, heq⟩
  · rw [heq]
  · have hupdate := numSources_update (congrArg (·.1.mRegistry) heq) other
    have hcount : ((d.mRegistry i).eraseP (SourcePtr.isOf channel_id)).countP (SourcePtr.isOf other)
        = (d.mRegistry i).countP (SourcePtr.isOf other) := countP_eraseP_ne h
    omega

/-- Removing finds a source of a channel that has one. -/
theorem remove_noError {d : CTransmitDispatcher} {channel_id : UInt32}
    (h : 0 < d.numSources channel_id) : (d.remove channel_id).2 = .noError := by
  obtain ⟨i, p, hp, hc⟩ := exists_of_numSources_pos h
  rcases remove_cases d channel_id with ⟨hnone, -⟩ | ⟨_, -, heq⟩
  · exact absurd (decide_eq_true hc) (List.any_eq_false.mp (hnone i) p hp)
  · rw [heq]

end CTransmitDispatcher

/-! ## Both directions -/

/-- A channel with one source, a target and statistics. -/
structure L0Interface.IsOpen (l : L0Interface) (channel_id : UInt32) : Prop where
  source : l.mpTransmitDispatcher.numSources channel_id = 1
  target : (l.mpIncomeDispatcher.mTargetMap channel_id).isSome
  counted : l.mpQoS.mStatMap channel_id = true

/-- A channel with none of them. -/
structure L0Interface.IsClosed (l : L0Interface) (channel_id : UInt32) : Prop where
  source : l.mpTransmitDispatcher.numSources channel_id = 0
  target : l.mpIncomeDispatcher.mTargetMap channel_id = none
  counted : l.mpQoS.mStatMap channel_id = false

/-- The channels of `open_`, and no others, are open. -/
def L0Interface.Serves (l : L0Interface) (open_ : UInt32 → Prop) : Prop :=
  ∀ c, (open_ c → l.IsOpen c) ∧ (¬ open_ c → l.IsClosed c)

theorem L0Interface.init_isClosed (channel_id : UInt32) : init.IsClosed channel_id :=
  ⟨rfl, rfl, rfl⟩

end IviLink.L0

namespace IviLink.L1

open IviLink.L0

namespace CChannelAllocator

/-- The channels of `open_`, and no others, are allocated below. -/
def Serves (a : CChannelAllocator) (open_ : UInt32 → Prop) : Prop :=
  ∃ l, a.mpL0Interface = some l ∧ l.Serves open_

theorem Serves.congr {a : CChannelAllocator} {p q : UInt32 → Prop} (h : a.Serves p)
    (hpq : ∀ c, p c ↔ q c) : a.Serves q := by
  obtain ⟨l, hl, hs⟩ := h
  exact ⟨l, hl, fun c => ⟨fun hq => (hs c).1 ((hpq c).mpr hq),
    fun hq => (hs c).2 fun hp => hq ((hpq c).mp hp)⟩⟩

/-- A channel that is not open is opened. -/
theorem Serves.allocateChannel {a : CChannelAllocator} {open_ : UInt32 → Prop}
    (h : a.Serves open_) (channel_id : UInt32) (hc : ¬ open_ channel_id) (prio : TChannelPriority) :
    (a.allocateChannel prio channel_id).2 = .noError
      ∧ (a.allocateChannel prio channel_id).1.Serves fun c => c = channel_id ∨ open_ c := by
  obtain ⟨l, hl, hs⟩ := h
  obtain ⟨hsource, htarget, hcounted⟩ := (hs channel_id).2 hc
  obtain ⟨hopened, hone⟩ := CTransmitDispatcher.openChannel_noError hsource prio
  have hresult : a.allocateChannel prio channel_id
      = (⟨some ⟨(l.mpTransmitDispatcher.openChannel channel_id prio).1,
          (l.mpIncomeDispatcher.openChannel channel_id).1,
          (l.mpQoS.openChannel channel_id).1⟩⟩, .noError) := by
    have hqos : (l.mpQoS.openChannel channel_id).2 = .noError := by
      rw [CQoS.openChannel, hcounted]
      rfl
    have hincome : (l.mpIncomeDispatcher.openChannel channel_id).2 = .noError := by
      rw [CIncomeDispatcher.openChannel, htarget]
    simp only [CChannelAllocator.allocateChannel, hl, L0Interface.openTransmissionChannel, hopened,
      ConnectivityAgentError.isNoError, decide_true, if_true, hqos,
      L0Interface.openIncomingChannel, hincome]
  rw [hresult]
  refine ⟨rfl, _, rfl, fun c => ?_⟩
  by_cases hcc : c = channel_id
  · subst hcc
    refine ⟨fun _ => ⟨hone, ?_, ?_⟩, fun hno => absurd (.inl rfl) hno⟩
    · show ((l.mpIncomeDispatcher.openChannel c).1.mTargetMap c).isSome
      rw [CIncomeDispatcher.openChannel, htarget]
      simp
    · show (l.mpQoS.openChannel c).1.mStatMap c = true
      rw [CQoS.openChannel, hcounted]
      simp
  · have hsame : (l.mpIncomeDispatcher.openChannel channel_id).1.mTargetMap c
        = l.mpIncomeDispatcher.mTargetMap c := by
      rw [CIncomeDispatcher.openChannel, htarget]
      exact Function.update_of_ne hcc ..
    have hstat : (l.mpQoS.openChannel channel_id).1.mStatMap c = l.mpQoS.mStatMap c := by
      rw [CQoS.openChannel, hcounted]
      exact Function.update_of_ne hcc ..
    have hcount := CTransmitDispatcher.numSources_openChannel_ne
      (d := l.mpTransmitDispatcher) hcc prio
    refine ⟨fun ho => ?_, fun hno => ?_⟩
    · obtain ⟨h₁, h₂, h₃⟩ := (hs c).1 (ho.resolve_left hcc)
      exact ⟨hcount.trans h₁, hsame ▸ h₂, hstat.trans h₃⟩
    · obtain ⟨h₁, h₂, h₃⟩ := (hs c).2 fun ho => hno (.inr ho)
      exact ⟨hcount.trans h₁, hsame.trans h₂, hstat.trans h₃⟩

/-- A channel that is open is closed. -/
theorem Serves.deallocateChannel {a : CChannelAllocator} {open_ : UInt32 → Prop}
    (h : a.Serves open_) (channel_id : UInt32) (hc : open_ channel_id) :
    (a.deallocateChannel channel_id).2 = .noError
      ∧ (a.deallocateChannel channel_id).1.Serves fun c => c ≠ channel_id ∧ open_ c := by
  obtain ⟨l, hl, hs⟩ := h
  obtain ⟨hsource, htarget, hcounted⟩ := (hs channel_id).1 hc
  obtain ⟨p, hp⟩ := Option.isSome_iff_exists.mp htarget
  have hclosed : (l.mpTransmitDispatcher.closeChannel channel_id).2 = .noError :=
    CTransmitDispatcher.remove_noError (d := l.mpTransmitDispatcher.purge channel_id)
      (by rw [show (l.mpTransmitDispatcher.purge channel_id).numSources channel_id = 1 from hsource]
          exact Nat.one_pos)
  have hresult : a.deallocateChannel channel_id
      = (⟨some ⟨(l.mpTransmitDispatcher.closeChannel channel_id).1,
          (l.mpIncomeDispatcher.closeChannel channel_id).1,
          (l.mpQoS.closeChannel channel_id).1⟩⟩, .noError) := by
    have hqos : (l.mpQoS.closeChannel channel_id).2 = .noError := by
      rw [CQoS.closeChannel, hcounted]
      rfl
    have hincome : (l.mpIncomeDispatcher.closeChannel channel_id).2 = .noError := by
      rw [CIncomeDispatcher.closeChannel, hp]
    simp only [CChannelAllocator.deallocateChannel, hl, L0Interface.closeTransmissionChannel,
      hclosed, ConnectivityAgentError.isNoError, decide_true, if_true, hqos,
      L0Interface.closeIncomingChannel, hincome]
  rw [hresult]
  refine ⟨rfl, _, rfl, fun c => ?_⟩
  by_cases hcc : c = channel_id
  · subst hcc
    refine ⟨fun ho => absurd rfl ho.1, fun _ => ⟨?_, ?_, ?_⟩⟩
    · show ((l.mpTransmitDispatcher.purge c).remove c).1.numSources c = 0
      rw [CTransmitDispatcher.numSources_remove]
      exact Nat.sub_eq_zero_of_le (Nat.le_of_eq hsource)
    · show (l.mpIncomeDispatcher.closeChannel c).1.mTargetMap c = none
      rw [CIncomeDispatcher.closeChannel, hp]
      exact Function.update_self ..
    · show (l.mpQoS.closeChannel c).1.mStatMap c = false
      rw [CQoS.closeChannel, hcounted]
      exact Function.update_self ..
  · have hsame : (l.mpIncomeDispatcher.closeChannel channel_id).1.mTargetMap c
        = l.mpIncomeDispatcher.mTargetMap c := by
      rw [CIncomeDispatcher.closeChannel, hp]
      exact Function.update_of_ne hcc ..
    have hstat : (l.mpQoS.closeChannel channel_id).1.mStatMap c = l.mpQoS.mStatMap c := by
      rw [CQoS.closeChannel, hcounted]
      exact Function.update_of_ne hcc ..
    have hcount : (l.mpTransmitDispatcher.closeChannel channel_id).1.numSources c
        = l.mpTransmitDispatcher.numSources c :=
      CTransmitDispatcher.numSources_remove_ne (d := l.mpTransmitDispatcher.purge channel_id) hcc
    refine ⟨fun ho => ?_, fun hno => ?_⟩
    · obtain ⟨h₁, h₂, h₃⟩ := (hs c).1 ho.2
      exact ⟨hcount.trans h₁, hsame ▸ h₂, hstat.trans h₃⟩
    · obtain ⟨h₁, h₂, h₃⟩ := (hs c).2 fun ho => hno ⟨hcc, ho⟩
      exact ⟨hcount.trans h₁, hsame.trans h₂, hstat.trans h₃⟩

end CChannelAllocator

end IviLink.L1
