import IviLink.L0.Transmit

/-!
# What is in the registry

What opening and removing a channel, and work on a source's queue, do to the lists
of the registry: which sources are in them afterwards, and how many a channel has
(`numSources`). The second matters because `openChannel` looks for the channel in
one list only and `closeChannel` removes one source only.
-/

namespace IviLink.L0

open IviLink.Hal

namespace CTransmitDispatcher

/-! ## Which sources -/

theorem mem_atSource {d : CTransmitDispatcher} {a : Nat} {f : CSource → CSource}
    {i : TChannelPriority} {p : SourcePtr} (h : p ∈ (d.atSource a f).mRegistry i) :
    ∃ p₀ ∈ d.mRegistry i, p₀.address = p.address
      ∧ p.source = if p.address = a then f p₀.source else p₀.source := by
  obtain ⟨p₀, hp₀, rfl⟩ := List.mem_map.mp h
  refine ⟨p₀, hp₀, ?_⟩
  by_cases ha : p₀.address = a
  · simp [ha]
  · simp [ha]

/-- One registry loses a source of the channel, the first one that has any. -/
theorem removeFrom_cases (channel_id : UInt32) (registry : TChannelPriority → List SourcePtr)
    (is : List TChannelPriority) :
    (∀ i ∈ is, (registry i).any (SourcePtr.isOf channel_id) = false) ∧
        removeFrom channel_id registry is = (registry, .notFound) ∨
      ∃ i, (registry i).any (SourcePtr.isOf channel_id) = true ∧
        removeFrom channel_id registry is = (Function.update registry i
          ((registry i).eraseP (SourcePtr.isOf channel_id)), .noError) := by
  induction is with
  | nil => exact .inl ⟨List.forall_mem_nil _, rfl⟩
  | cons j js ih =>
    rw [removeFrom]
    split
    · next hany => exact .inr ⟨j, hany, rfl⟩
    · next hnot =>
      rcases ih with ⟨hnone, heq⟩ | hsome
      · exact .inl ⟨List.forall_mem_cons.mpr ⟨Bool.eq_false_iff.mpr hnot, hnone⟩, heq⟩
      · exact .inr hsome

/-- **All that removing does**: there was no source of the channel, or one of them is gone. -/
theorem remove_cases (d : CTransmitDispatcher) (channel_id : UInt32) :
    (∀ i, (d.mRegistry i).any (SourcePtr.isOf channel_id) = false) ∧
        d.remove channel_id = (d, .notFound) ∨
      ∃ i, (d.mRegistry i).any (SourcePtr.isOf channel_id) = true ∧
        d.remove channel_id = ({ d with
          mRegistry := Function.update d.mRegistry i
            ((d.mRegistry i).eraseP (SourcePtr.isOf channel_id)) }, .noError) := by
  rcases removeFrom_cases channel_id d.mRegistry TChannelPriority.all with
    ⟨hnone, heq⟩ | ⟨i, hany, heq⟩
  · refine .inl ⟨fun i => hnone i (by cases i <;> simp [TChannelPriority.all]), ?_⟩
    rw [remove, heq]
  · refine .inr ⟨i, hany, ?_⟩
    rw [remove, heq]

theorem remove_sublist (d : CTransmitDispatcher) (channel_id : UInt32) (i : TChannelPriority) :
    ((d.remove channel_id).1.mRegistry i).Sublist (d.mRegistry i) := by
  rcases remove_cases d channel_id with ⟨-, heq⟩ | ⟨j, -, heq⟩
  · rw [heq]
  · rw [heq]
    dsimp only
    by_cases hij : i = j
    · subst hij
      rw [Function.update_self]
      exact List.eraseP_sublist
    · rw [Function.update_of_ne hij]

theorem mem_remove {d : CTransmitDispatcher} {channel_id : UInt32} {i : TChannelPriority}
    {p : SourcePtr} (h : p ∈ (d.remove channel_id).1.mRegistry i) : p ∈ d.mRegistry i :=
  (remove_sublist d channel_id i).subset h

/-- What is new is the source of the channel that was opened. -/
theorem mem_openChannel {d : CTransmitDispatcher} {channel_id : UInt32}
    {prio i : TChannelPriority} {p : SourcePtr}
    (h : p ∈ (d.openChannel channel_id prio).1.mRegistry i) :
    p ∈ d.mRegistry i ∨ p = ⟨d.allocated, .new channel_id⟩
      ∧ (d.openChannel channel_id prio).1.allocated = d.allocated + 1 := by
  rw [openChannel] at h ⊢
  split at h
  · exact .inl h
  · rename_i hnew
    rw [if_neg hnew]
    by_cases hi : i = prio
    · subst hi
      simp only [Function.update_self] at h
      rcases List.mem_append.mp h with h | h
      · exact .inl h
      · exact .inr ⟨List.mem_singleton.mp h, rfl⟩
    · simp only [Function.update_of_ne hi] at h
      exact .inl h

theorem openChannel_pc (d : CTransmitDispatcher) (channel_id : UInt32) (prio : TChannelPriority) :
    (d.openChannel channel_id prio).1.pc = d.pc := by
  rw [openChannel]
  split <;> rfl

theorem openChannel_queue (d : CTransmitDispatcher) (channel_id : UInt32)
    (prio : TChannelPriority) :
    (d.openChannel channel_id prio).1.mpTransmittedFrameQueue = d.mpTransmittedFrameQueue := by
  rw [openChannel]
  split <;> rfl

theorem openChannel_allocated_le (d : CTransmitDispatcher) (channel_id : UInt32)
    (prio : TChannelPriority) : d.allocated ≤ (d.openChannel channel_id prio).1.allocated := by
  rw [openChannel]
  split
  · exact Nat.le_refl _
  · exact Nat.le_succ _

/-! ## How many -/

/-- How many sources a channel has, under all priorities. -/
def numSources (d : CTransmitDispatcher) (channel_id : UInt32) : Nat :=
  (d.mRegistry .safetyCritical).countP (SourcePtr.isOf channel_id)
    + (d.mRegistry .realTime).countP (SourcePtr.isOf channel_id)
    + (d.mRegistry .plainData).countP (SourcePtr.isOf channel_id)

theorem numSources_pos {d : CTransmitDispatcher} {channel_id : UInt32} {i : TChannelPriority}
    {p : SourcePtr} (hp : p ∈ d.mRegistry i) (hc : p.source.mChannelID = channel_id) :
    0 < d.numSources channel_id := by
  have hpos : 0 < (d.mRegistry i).countP (SourcePtr.isOf channel_id) :=
    List.countP_pos_iff.mpr ⟨p, hp, decide_eq_true hc⟩
  rw [numSources]
  cases i <;> omega

theorem exists_of_numSources_pos {d : CTransmitDispatcher} {channel_id : UInt32}
    (h : 0 < d.numSources channel_id) :
    ∃ i, ∃ p ∈ d.mRegistry i, p.source.mChannelID = channel_id := by
  have hlist : ∀ i, 0 < (d.mRegistry i).countP (SourcePtr.isOf channel_id) →
      ∃ i, ∃ p ∈ d.mRegistry i, p.source.mChannelID = channel_id := by
    intro i hi
    obtain ⟨p, hp, hc⟩ := List.countP_pos_iff.mp hi
    exact ⟨i, p, hp, of_decide_eq_true hc⟩
  rw [numSources] at h
  rcases Nat.eq_zero_or_pos ((d.mRegistry .safetyCritical).countP (SourcePtr.isOf channel_id))
    with h₁ | h₁
  · rcases Nat.eq_zero_or_pos ((d.mRegistry .realTime).countP (SourcePtr.isOf channel_id))
      with h₂ | h₂
    · exact hlist .plainData (by omega)
    · exact hlist .realTime h₂
  · exact hlist .safetyCritical h₁

/-- A channel with one source at most has one pointer in the registry at most. -/
theorem eq_of_single {d : CTransmitDispatcher} {channel_id : UInt32}
    (h : d.numSources channel_id ≤ 1) {i j : TChannelPriority} {p q : SourcePtr}
    (hp : p ∈ d.mRegistry i) (hq : q ∈ d.mRegistry j) (hpc : p.source.mChannelID = channel_id)
    (hqc : q.source.mChannelID = channel_id) : p = q := by
  have hpi : p ∈ (d.mRegistry i).filter (SourcePtr.isOf channel_id) :=
    List.mem_filter.mpr ⟨hp, decide_eq_true hpc⟩
  have hqj : q ∈ (d.mRegistry j).filter (SourcePtr.isOf channel_id) :=
    List.mem_filter.mpr ⟨hq, decide_eq_true hqc⟩
  have hpos := List.length_pos_of_mem hpi
  have hpos' := List.length_pos_of_mem hqj
  rw [numSources] at h
  simp only [List.countP_eq_length_filter] at h
  by_cases hij : i = j
  · subst hij
    have hone : ((d.mRegistry i).filter (SourcePtr.isOf channel_id)).length = 1 := by
      cases i <;> omega
    obtain ⟨x, hx⟩ := List.length_eq_one_iff.mp hone
    rw [hx] at hpi hqj
    rw [List.mem_singleton.mp hpi, List.mem_singleton.mp hqj]
  · exfalso
    cases i <;> cases j <;> first | exact hij rfl | omega

theorem countP_eraseP {l : List SourcePtr} {channel_id : UInt32}
    (h : l.any (SourcePtr.isOf channel_id) = true) :
    (l.eraseP (SourcePtr.isOf channel_id)).countP (SourcePtr.isOf channel_id) + 1
      = l.countP (SourcePtr.isOf channel_id) := by
  obtain ⟨p, hp, hc⟩ := List.any_eq_true.mp h
  obtain ⟨a, l₁, l₂, -, ha, hl, herase⟩ := List.exists_of_eraseP hp hc
  rw [herase, hl, List.countP_append, List.countP_append, List.countP_cons_of_pos ha]
  omega

theorem countP_of_not_any {l : List SourcePtr} {channel_id : UInt32}
    (h : ¬ l.any (SourcePtr.isOf channel_id) = true) :
    l.countP (SourcePtr.isOf channel_id) = 0 := by
  refine List.countP_eq_zero.mpr fun p hp hc => h ?_
  exact List.any_eq_true.mpr ⟨p, hp, hc⟩

/-- Where one registry is another one, the sum has another term. -/
theorem numSources_update {d d' : CTransmitDispatcher} {i : TChannelPriority} {l : List SourcePtr}
    (h : d'.mRegistry = Function.update d.mRegistry i l) (other : UInt32) :
    d'.numSources other + (d.mRegistry i).countP (SourcePtr.isOf other)
      = d.numSources other + l.countP (SourcePtr.isOf other) := by
  cases i <;> simp only [numSources, h, Function.update_self, ne_eq, reduceCtorEq,
    not_false_eq_true, Function.update_of_ne] <;> omega

/-- Removing a channel takes one source of it out, if there is any. -/
theorem numSources_remove (d : CTransmitDispatcher) (channel_id : UInt32) :
    (d.remove channel_id).1.numSources channel_id = d.numSources channel_id - 1 := by
  rcases remove_cases d channel_id with ⟨hnone, heq⟩ | ⟨i, hany, heq⟩
  · have hzero := fun i => countP_of_not_any (Bool.eq_false_iff.mp (hnone i))
    rw [heq, numSources, hzero, hzero, hzero]
  · have hupdate := numSources_update (congrArg (·.1.mRegistry) heq) channel_id
    have hcount := countP_eraseP hany
    omega

/-- Removing never adds a source, of whatever channel. -/
theorem numSources_remove_le (d : CTransmitDispatcher) (channel_id other : UInt32) :
    (d.remove channel_id).1.numSources other ≤ d.numSources other := by
  have hle := fun i => (remove_sublist d channel_id i).countP_le (p := SourcePtr.isOf other)
  exact Nat.add_le_add (Nat.add_le_add (hle _) (hle _)) (hle _)

/-- What is done to a source's queue leaves it with its channel. -/
theorem numSources_atSource (d : CTransmitDispatcher) (address : Nat) {f : CSource → CSource}
    (hf : ∀ i, ∀ p ∈ d.mRegistry i, p.address = address →
      (f p.source).mChannelID = p.source.mChannelID) (channel_id : UInt32) :
    (d.atSource address f).numSources channel_id = d.numSources channel_id := by
  have heq : ∀ i, ((d.atSource address f).mRegistry i).countP (SourcePtr.isOf channel_id)
      = (d.mRegistry i).countP (SourcePtr.isOf channel_id) := by
    intro i
    show ((d.mRegistry i).map _).countP _ = _
    rw [List.countP_map]
    refine List.countP_congr fun p hp => ?_
    by_cases ha : p.address = address
    · simp [ha, SourcePtr.isOf, hf i p hp ha]
    · simp [ha]
  rw [numSources, heq, heq, heq, numSources]

/-- Opening a channel that is not open adds its one source. -/
theorem numSources_openChannel (d : CTransmitDispatcher) (channel_id : UInt32)
    (prio : TChannelPriority) (other : UInt32) :
    (d.openChannel channel_id prio).1.numSources other = d.numSources other
      ∨ (d.openChannel channel_id prio).1.numSources other = d.numSources other + 1
        ∧ other = channel_id ∧ (d.mRegistry prio).countP (SourcePtr.isOf channel_id) = 0 := by
  by_cases hany : (d.mRegistry prio).any (SourcePtr.isOf channel_id) = true
  · rw [openChannel, if_pos hany]
    exact .inl rfl
  · have hopened : (d.openChannel channel_id prio).1.mRegistry = Function.update d.mRegistry prio
        (d.mRegistry prio ++ [⟨d.allocated, .new channel_id⟩]) := by
      rw [openChannel, if_neg hany]
    have hcount := countP_of_not_any hany
    have hupdate := numSources_update hopened other
    rw [List.countP_append, List.countP_singleton] at hupdate
    by_cases ho : other = channel_id
    · subst ho
      have hown : SourcePtr.isOf other ⟨d.allocated, .new other⟩ = true := decide_eq_true rfl
      rw [if_pos hown] at hupdate
      exact .inr ⟨by omega, rfl, hcount⟩
    · have hne : ¬ SourcePtr.isOf other ⟨d.allocated, .new channel_id⟩ = true :=
        fun h => ho (of_decide_eq_true h).symm
      rw [if_neg hne] at hupdate
      exact .inl (by omega)

/-! ## Addresses -/

/-- An address belongs to one source: it was given out before, and says which channel. -/
structure Addressed (d : CTransmitDispatcher) : Prop where
  fresh : ∀ i, ∀ p ∈ d.mRegistry i, p.address < d.allocated
  channel : ∀ i j, ∀ p ∈ d.mRegistry i, ∀ q ∈ d.mRegistry j, p.address = q.address →
    p.source.mChannelID = q.source.mChannelID

theorem addressed_init : Addressed init where
  fresh := fun _ _ hp => absurd hp (by simp [init])
  channel := fun _ _ _ hp => absurd hp (by simp [init])

theorem Addressed.openChannel {d : CTransmitDispatcher} (h : d.Addressed) (channel_id : UInt32)
    (prio : TChannelPriority) : (d.openChannel channel_id prio).1.Addressed := by
  have hle := d.openChannel_allocated_le channel_id prio
  refine ⟨fun i p hp => ?_, fun i j p hp q hq heq => ?_⟩
  · rcases mem_openChannel hp with hp | ⟨rfl, ha⟩
    · exact Nat.lt_of_lt_of_le (h.fresh i p hp) hle
    · rw [ha]; exact Nat.lt_succ_self _
  · rcases mem_openChannel hp with hp | ⟨rfl, -⟩
    · rcases mem_openChannel hq with hq | ⟨rfl, -⟩
      · exact h.channel i j p hp q hq heq
      · exact absurd heq (Nat.ne_of_lt (h.fresh i p hp))
    · rcases mem_openChannel hq with hq | ⟨rfl, -⟩
      · exact absurd heq.symm (Nat.ne_of_lt (h.fresh j q hq))
      · rfl

theorem Addressed.remove {d : CTransmitDispatcher} (h : d.Addressed) (channel_id : UInt32) :
    (d.remove channel_id).1.Addressed where
  fresh := fun i p hp => h.fresh i p (mem_remove hp)
  channel := fun i j p hp q hq => h.channel i j p (mem_remove hp) q (mem_remove hq)

/-- What is done to the source at an address keeps its channel. -/
theorem Addressed.atSource {d : CTransmitDispatcher} (h : d.Addressed) {address : Nat}
    {f : CSource → CSource} (hf : ∀ i, ∀ p ∈ d.mRegistry i, p.address = address →
      (f p.source).mChannelID = p.source.mChannelID) : (d.atSource address f).Addressed := by
  have hsame : ∀ i, ∀ p ∈ (d.atSource address f).mRegistry i, ∃ p₀ ∈ d.mRegistry i,
      p₀.address = p.address ∧ p.source.mChannelID = p₀.source.mChannelID := by
    intro i p hp
    obtain ⟨p₀, hp₀, ha, hs⟩ := mem_atSource hp
    refine ⟨p₀, hp₀, ha, ?_⟩
    rw [hs]
    split
    · rename_i haddr
      exact hf i p₀ hp₀ (ha.trans haddr)
    · rfl
  refine ⟨fun i p hp => ?_, fun i j p hp q hq heq => ?_⟩
  · obtain ⟨p₀, hp₀, ha, -⟩ := hsame i p hp
    exact ha ▸ h.fresh i p₀ hp₀
  · obtain ⟨p₀, hp₀, ha, hc⟩ := hsame i p hp
    obtain ⟨q₀, hq₀, ha', hc'⟩ := hsame j q hq
    rw [hc, hc']
    exact h.channel i j p₀ hp₀ q₀ hq₀ (ha.trans (heq.trans ha'.symm))

/-- A source that fills a frame stays the source of its channel. -/
theorem Addressed.sameChannel {d : CTransmitDispatcher} (h : d.Addressed) {i : TChannelPriority}
    {iter quote : Nat} {p : SourcePtr} {s : CSource} {frame : Frame} {released : List Buffer}
    (hp : (d.mRegistry i)[iter]? = some p) (hs : p.source.OnDispatch quote = some (s, frame, released)) :
    ∀ j, ∀ q ∈ d.mRegistry j, q.address = p.address → s.mChannelID = q.source.mChannelID := by
  obtain ⟨-, -, -, hsame, -⟩ := CSource.OnDispatch_counter hs
  intro j q hq heq
  rw [hsame]
  exact h.channel i j p (List.mem_of_getElem? hp) q hq heq.symm

theorem addressed_thread {d d' : CTransmitDispatcher} {env : Env} {effect : Effect}
    (h : d.Addressed) (hs : d.StepCases env d' effect) : d'.Addressed := by
  cases hs with
  | quiet hq =>
    refine ⟨fun i p hp => ?_, fun i j p hp q hq' => ?_⟩
    · rw [hq.allocated]
      exact h.fresh i p (hq.registry ▸ hp)
    · exact h.channel i j p (hq.registry ▸ hp) q (hq.registry ▸ hq')
  | @produced i iter p s frame released hpc hp hs =>
    have hd := h.atSource (f := fun _ => s) (h.sameChannel hp hs)
    exact ⟨hd.fresh, hd.channel⟩
  | sent => exact ⟨h.fresh, h.channel⟩
  | refused => exact ⟨h.fresh, h.channel⟩
  | resent => exact ⟨h.fresh, h.channel⟩

end CTransmitDispatcher

theorem Transmit.addressed_step {t t' : Transmit} {a : Action} (h : t.disp.Addressed)
    (hs : t.step a = some t') : t'.disp.Addressed := by
  cases step_cases hs with
  | @openChannel channel_id prio hidle => exact h.openChannel channel_id prio
  | purge => exact ⟨h.fresh, h.channel⟩
  | @remove channel_id hidle hclosing => exact h.remove channel_id
  | @consumeBuffer address b p hp =>
    exact h.atSource (f := fun s => (s.consumeBuffer (some b)).1) fun _ _ _ _ => rfl
  | flushBuffers => exact h.atSource (f := fun s => s.flushBuffers.1) fun _ _ _ _ => rfl
  | dequeue hq => exact ⟨h.fresh, h.channel⟩
  | thread hthread =>
    rw [record_disp]
    exact CTransmitDispatcher.addressed_thread h hthread

end IviLink.L0
