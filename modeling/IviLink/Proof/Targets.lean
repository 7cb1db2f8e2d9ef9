import IviLink.L0.Peers

/-!
# Which targets are open

A target is open under one channel id, at an address that no other target ever
had, so the verdicts at an address are those of one target.
-/

namespace IviLink.L0

open IviLink.Hal

namespace Receive

structure Seated (r : Receive) : Prop where
  fresh : ∀ c p, r.disp.mTargetMap c = some p → p.address < r.disp.allocated
  distinct : ∀ c c' p p', r.disp.mTargetMap c = some p → r.disp.mTargetMap c' = some p' →
    p.address = p'.address → c = c'
  known : ∀ v ∈ r.verdicts, v.target < r.disp.allocated

theorem seated_init : Seated init where
  fresh := fun _ _ hp => absurd hp (by simp [init, CIncomeDispatcher.init])
  distinct := fun _ _ _ _ hp => absurd hp (by simp [init, CIncomeDispatcher.init])
  known := fun _ hv => absurd hv (by simp [init])

/-- The targets that are open were open before, and only they have spoken. -/
theorem Seated.same {r r' : Receive} (h : Seated r)
    (hallocated : r'.disp.allocated = r.disp.allocated)
    (hmap : ∀ c p', r'.disp.mTargetMap c = some p' →
      ∃ p, r.disp.mTargetMap c = some p ∧ p.address = p'.address)
    (hverdicts : ∀ v ∈ r'.verdicts, v ∈ r.verdicts
      ∨ ∃ c p, r.disp.mTargetMap c = some p ∧ v.target = p.address) : Seated r' where
  fresh := fun c p' hp' => by
    obtain ⟨p, hp, ha⟩ := hmap c p' hp'
    rw [hallocated, ← ha]
    exact h.fresh c p hp
  distinct := fun c c' p' q' hp' hq' heq => by
    obtain ⟨p, hp, ha⟩ := hmap c p' hp'
    obtain ⟨q, hq, ha'⟩ := hmap c' q' hq'
    exact h.distinct c c' p q hp hq (ha.trans (heq.trans ha'.symm))
  known := fun v hv => by
    rw [hallocated]
    rcases hverdicts v hv with hv | ⟨c, p, hp, ha⟩
    · exact h.known v hv
    · rw [ha]
      exact h.fresh c p hp

/-- What is open after a call: what was open before, with the memory it had, or a new target. -/
theorem call_map {r : Receive} {a : Call} {c : UInt32} {p : TargetPtr}
    (h : (r.call a).disp.mTargetMap c = some p) :
    (∃ q, r.disp.mTargetMap c = some q ∧ q.address = p.address
      ∧ q.target.mLastFrameNr = p.target.mLastFrameNr
      ∧ q.target.mCarrierReplaced = p.target.mCarrierReplaced)
    ∨ a = .openChannel c ∧ r.disp.mTargetMap c = none ∧ p = ⟨r.disp.allocated, .new c⟩
      ∧ (r.call a).disp.allocated = r.disp.allocated + 1 := by
  cases a with
  | openChannel c' =>
    rw [call, CIncomeDispatcher.openChannel] at h ⊢
    split at h
    · exact .inl ⟨p, h, rfl, rfl, rfl⟩
    · rename_i hnone
      by_cases hc : c = c'
      · subst hc
        simp only [Function.update_self] at h
        exact .inr ⟨rfl, hnone, (Option.some.inj h).symm, rfl⟩
      · simp only [Function.update_of_ne hc] at h
        exact .inl ⟨p, h, rfl, rfl, rfl⟩
  | closeChannel c' =>
    rw [call, CIncomeDispatcher.closeChannel] at h
    split at h
    · exact .inl ⟨p, h, rfl, rfl, rfl⟩
    · by_cases hc : c = c'
      · subst hc
        simp only [Function.update_self] at h
        exact absurd h (by simp)
      · simp only [Function.update_of_ne hc] at h
        exact .inl ⟨p, h, rfl, rfl, rfl⟩
  | returnBufferBack c' =>
    rw [call, CIncomeDispatcher.returnBufferBack] at h
    split at h
    · exact .inl ⟨p, h, rfl, rfl, rfl⟩
    · rename_i q hq
      by_cases hc : c = c'
      · subst hc
        simp only [Function.update_self] at h
        obtain rfl := Option.some.inj h
        have hsame : q.target.returnBufferBack.mLastFrameNr = q.target.mLastFrameNr
            ∧ q.target.returnBufferBack.mCarrierReplaced = q.target.mCarrierReplaced := by
          rw [CTarget.returnBufferBack]
          split <;> exact ⟨rfl, rfl⟩
        exact .inl ⟨q, hq, rfl, hsame.1.symm, hsame.2.symm⟩
      · simp only [Function.update_of_ne hc] at h
        exact .inl ⟨p, h, rfl, rfl, rfl⟩
  | unlockFrameProcessing => exact .inl ⟨p, h, rfl, rfl, rfl⟩

/-- Only `closeChannel` closes a target. -/
theorem call_open {r : Receive} {a : Call} (ha : ∀ c, a ≠ .closeChannel c) {c : UInt32}
    {p : TargetPtr} (h : r.disp.mTargetMap c = some p) :
    ∃ q, (r.call a).disp.mTargetMap c = some q := by
  cases a with
  | openChannel c' =>
    rw [call, CIncomeDispatcher.openChannel]
    split
    · exact ⟨p, h⟩
    · by_cases hc : c = c'
      · subst hc
        exact ⟨_, Function.update_self ..⟩
      · exact ⟨p, (Function.update_of_ne hc ..).trans h⟩
  | closeChannel c' => exact absurd rfl (ha c')
  | returnBufferBack c' =>
    rw [call, CIncomeDispatcher.returnBufferBack]
    split
    · exact ⟨p, h⟩
    · by_cases hc : c = c'
      · subst hc
        exact ⟨_, Function.update_self ..⟩
      · exact ⟨p, (Function.update_of_ne hc ..).trans h⟩
  | unlockFrameProcessing => exact ⟨p, h⟩

/-- A call leaves everything else as it is. -/
theorem call_rest (r : Receive) (a : Call) : (r.call a).verdicts = r.verdicts
    ∧ (r.call a).epoch = r.epoch ∧ (r.call a).disp.firstFlag = r.disp.firstFlag
    ∧ r.disp.allocated ≤ (r.call a).disp.allocated := by
  cases a with
  | openChannel c =>
    rw [call, CIncomeDispatcher.openChannel]
    split
    · exact ⟨rfl, rfl, rfl, Nat.le_refl _⟩
    · exact ⟨rfl, rfl, rfl, Nat.le_succ _⟩
  | closeChannel c =>
    rw [call, CIncomeDispatcher.closeChannel]
    split <;> exact ⟨rfl, rfl, rfl, Nat.le_refl _⟩
  | returnBufferBack c =>
    rw [call, CIncomeDispatcher.returnBufferBack]
    split <;> exact ⟨rfl, rfl, rfl, Nat.le_refl _⟩
  | unlockFrameProcessing => exact ⟨rfl, rfl, rfl, Nat.le_refl _⟩

theorem replaceCarrier_map {r : Receive} {c : UInt32} {p : TargetPtr}
    (h : r.replaceCarrier.disp.mTargetMap c = some p) :
    ∃ q, r.disp.mTargetMap c = some q ∧ p = { q with target := q.target.setCarrierReplaced } := by
  have h' : (r.disp.mTargetMap c).map _ = some p := h
  obtain ⟨q, hq, rfl⟩ := Option.map_eq_some_iff.mp h'
  exact ⟨q, hq, rfl⟩

/-- The target that has looked at a frame, or one that was there before. -/
theorem looked_map {r : Receive} {c c' : UInt32} {p q : TargetPtr} {firstFlag : Bool}
    {vs : List Verdict} (h : (r.looked c p firstFlag vs).disp.mTargetMap c' = some q) :
    c' = c ∧ q = p ∨ c' ≠ c ∧ r.disp.mTargetMap c' = some q := by
  have h' : Function.update r.disp.mTargetMap c (some p) c' = some q := h
  by_cases hc : c' = c
  · subst hc
    rw [Function.update_self] at h'
    exact .inl ⟨rfl, (Option.some.inj h').symm⟩
  · rw [Function.update_of_ne hc] at h'
    exact .inr ⟨hc, h'⟩

/-- A target that looks at a frame stays open. -/
theorem looked_none {r : Receive} {c c' : UInt32} {p : TargetPtr} {firstFlag : Bool}
    {vs : List Verdict} (h : (r.looked c p firstFlag vs).disp.mTargetMap c' = none) :
    r.disp.mTargetMap c' = none := by
  have h' : Function.update r.disp.mTargetMap c (some p) c' = none := h
  by_cases hc : c' = c
  · subst hc
    rw [Function.update_self] at h'
    exact absurd h' (by simp)
  · rwa [Function.update_of_ne hc] at h'

/-- Only the target of the frame can speak. -/
theorem Answers.verdicts {r r' : Receive} {frame : Frame} {source : Nat}
    {consumed result : ConnectivityAgentError} (h : r.Answers frame source consumed r' result) :
    r'.verdicts = r.verdicts ∨ ∃ p accepted, r.disp.mTargetMap frame.channel_id = some p
      ∧ r'.verdicts = r.verdicts ++ [⟨p.address, r.epoch, source, frame, accepted⟩] := by
  cases h with
  | nobody => exact .inl rfl
  | refused hp => exact .inl (List.append_nil _)
  | again hp => exact .inr ⟨_, _, hp, rfl⟩
  | accepted hp => exact .inr ⟨_, _, hp, rfl⟩

/-- A frame opens and closes nothing. -/
theorem Answers.map {r r' : Receive} {frame : Frame} {source : Nat}
    {consumed result : ConnectivityAgentError} (h : r.Answers frame source consumed r' result)
    {c : UInt32} {p' : TargetPtr} (hp' : r'.disp.mTargetMap c = some p') :
    ∃ p, r.disp.mTargetMap c = some p ∧ p.address = p'.address := by
  cases h with
  | nobody => exact ⟨p', hp', rfl⟩
  | refused hp =>
    rcases looked_map hp' with ⟨rfl, rfl⟩ | ⟨-, hq⟩
    · exact ⟨_, hp, rfl⟩
    · exact ⟨p', hq, rfl⟩
  | again hp =>
    rcases looked_map hp' with ⟨rfl, rfl⟩ | ⟨-, hq⟩
    · exact ⟨_, hp, rfl⟩
    · exact ⟨p', hq, rfl⟩
  | accepted hp =>
    rcases looked_map hp' with ⟨rfl, rfl⟩ | ⟨-, hq⟩
    · exact ⟨_, hp, rfl⟩
    · exact ⟨p', hq, rfl⟩

theorem Answers.allocated {r r' : Receive} {frame : Frame} {source : Nat}
    {consumed result : ConnectivityAgentError} (h : r.Answers frame source consumed r' result) :
    r'.disp.allocated = r.disp.allocated := by
  cases h <;> rfl

theorem seated_step {r r' : Receive} (h : Seated r) (hs : r.Steps r') : Seated r' := by
  cases hs with
  | call a =>
    obtain ⟨hverdicts, -, -, hle⟩ := r.call_rest a
    refine ⟨fun c p hp => ?_, fun c c' p q hp hq heq => ?_, fun v hv => ?_⟩
    · rcases call_map hp with ⟨p₀, hp₀, ha, -⟩ | ⟨-, -, rfl, halloc⟩
      · exact Nat.lt_of_lt_of_le (ha ▸ h.fresh c p₀ hp₀) hle
      · rw [halloc]
        exact Nat.lt_succ_self _
    · rcases call_map hp with ⟨p₀, hp₀, ha, -⟩ | ⟨hopen, -, rfl, -⟩
      · rcases call_map hq with ⟨q₀, hq₀, ha', -⟩ | ⟨-, -, rfl, -⟩
        · exact h.distinct c c' p₀ q₀ hp₀ hq₀ (ha.trans (heq.trans ha'.symm))
        · exact absurd (ha.trans heq) (Nat.ne_of_lt (h.fresh c p₀ hp₀))
      · rcases call_map hq with ⟨q₀, hq₀, ha', -⟩ | ⟨hopen', -, -, -⟩
        · exact absurd (ha'.trans heq.symm) (Nat.ne_of_lt (h.fresh c' q₀ hq₀))
        · exact Call.openChannel.inj (hopen.symm.trans hopen')
    · exact Nat.lt_of_lt_of_le (h.known v (hverdicts ▸ hv)) hle
  | replaceCarrier =>
    refine h.same rfl (fun c p hp => ?_) fun v hv => .inl hv
    obtain ⟨q, hq, rfl⟩ := replaceCarrier_map hp
    exact ⟨q, hq, rfl⟩
  | frame hanswer =>
    refine h.same hanswer.allocated (fun c p hp => hanswer.map hp) fun v hv => ?_
    rcases hanswer.verdicts with heq | ⟨p, accepted, hp, heq⟩
    · exact .inl (heq ▸ hv)
    · rw [heq] at hv
      rcases List.mem_append.mp hv with hv | hv
      · exact .inl hv
      · exact .inr ⟨_, p, hp, by rw [List.mem_singleton.mp hv]⟩

/-- A target that is open was open before or is new. -/
theorem map_step {r r' : Receive} (hs : r.Steps r') {c : UInt32} {p : TargetPtr}
    (hp : r'.disp.mTargetMap c = some p) :
    (∃ q, r.disp.mTargetMap c = some q ∧ q.address = p.address)
      ∨ p.address = r.disp.allocated := by
  cases hs with
  | call a =>
    rcases call_map hp with ⟨q, hq, ha, -⟩ | ⟨-, -, rfl, -⟩
    · exact .inl ⟨q, hq, ha⟩
    · exact .inr rfl
  | replaceCarrier =>
    obtain ⟨q, hq, rfl⟩ := replaceCarrier_map hp
    exact .inl ⟨q, hq, rfl⟩
  | frame hanswer => exact .inl (hanswer.map hp)

/-- What a target has said stays said. -/
theorem verdicts_step {r r' : Receive} (hs : r.Steps r') {v : Verdict} (hv : v ∈ r.verdicts) :
    v ∈ r'.verdicts := by
  cases hs with
  | call a => exact (r.call_rest a).1 ▸ hv
  | replaceCarrier => exact hv
  | frame hanswer =>
    rcases hanswer.verdicts with heq | ⟨p, accepted, hp, heq⟩
    · exact heq ▸ hv
    · rw [heq]
      exact List.mem_append_left _ hv

end Receive

end IviLink.L0
