import IviLink.Proof.Queued
import IviLink.Proof.Targets

/-!
# What a step adds

A step of the two peers leaves most things as they are. What can be new after it is
a frame on a link (one that was transmitted, or an ACK), a verdict, or a frame that
left a queue for an ACK; the lemmas here say where each of them comes from. Nothing
else about the steps is needed to follow a frame through a run.
-/

namespace IviLink.L0

open IviLink.Hal IviLink.Lib

namespace Peers

theorem produced_mono {w w' : Peers} {a : Action} (h : w.step a = some w') (s : Side) :
    (w.tx s).produced <+: (w'.tx s).produced := by
  rcases step_tx h s with heq | ⟨act, ht, -⟩
  · exact heq.symm ▸ List.prefix_refl _
  · exact Transmit.produced_step ht

theorem verdicts_mono {w w' : Peers} {a : Action} (h : w.step a = some w') {s : Side} {v : Verdict}
    (hv : v ∈ (w.rx s).verdicts) : v ∈ (w'.rx s).verdicts := by
  rcases step_rx h s with heq | hr
  · rw [heq]; exact hv
  · exact Receive.verdicts_step hr hv

/-- An ACK is sent for a frame only with a verdict on it. -/
theorem mem_answer {r r' : Receive} {x : Flight} {consumed result acked : ConnectivityAgentError}
    {y : Frame × (Nat × Frame)} (hr : r.Answers x.frame x.about.1 consumed r' result)
    (hy : y ∈ answer x result acked) :
    y = (ackFrame x.frame, x.about)
      ∧ ∃ v ∈ r'.verdicts, v.source = x.about.1 ∧ v.frame = x.frame := by
  rw [answer] at hy
  split at hy
  · obtain ⟨f, hf, rfl⟩ := List.mem_map.mp hy
    rw [processFrame] at hf
    split at hf
    · rename_i hresult
      split at hf
      · exact absurd hf (by simp)
      · obtain rfl := List.mem_singleton.mp hf
        refine ⟨rfl, ?_⟩
        cases hr with
        | nobody => exact absurd hresult (by simp [ConnectivityAgentError.isNoError])
        | refused hp hno hack => exact absurd hresult (by simp [hno, hack])
        | again => exact ⟨_, List.mem_append_right _ (List.mem_singleton.mpr rfl), rfl, rfl⟩
        | accepted => exact ⟨_, List.mem_append_right _ (List.mem_singleton.mpr rfl), rfl, rfl⟩
    · exact absurd hf (by simp)
  · exact absurd hy (by simp)

/-- Where a frame on a link comes from. -/
theorem link_step {w w' : Peers} {a : Action} (h : w.step a = some w') {s : Side} {x : Flight}
    (hx : x ∈ w'.link s) :
    x ∈ w.link s
    ∨ (∃ act, x.about ∈ (w.tx s.other).onCarrier act ∧ x.frame = x.about.2)
    ∨ ∃ y ∈ w.link s.other, y.frame.isACK = false ∧ x.frame = ackFrame y.frame ∧ x.about = y.about
      ∧ ∃ v ∈ (w'.rx s.other).verdicts, v.source = y.about.1 ∧ v.frame = y.frame := by
  -- a frame may leave the link of one side
  have hrest : ∀ {q : Side} {l : List Flight}, (∀ y ∈ l, y ∈ w.link q) →
      x ∈ Function.update w.link q l s → x ∈ w.link s := by
    intro q l hl hx
    by_cases hs : s = q
    · subst hs
      rw [Function.update_self] at hx
      exact hl x hx
    · rwa [Function.update_of_ne hs] at hx
  cases step_cases h with
  | @transmit q act t hact ht =>
    rcases mem_put hx with hx | ⟨rfl, hnew⟩
    · exact .inl hx
    · obtain ⟨y, hy, heq⟩ := List.mem_map.mp hnew
      injection heq with hframe habout
      refine .inr (.inl ⟨act, ?_, ?_⟩)
      · rw [Side.other_other, ← habout]
        exact hy
      · rw [← hframe, ← habout]
  | receive => exact .inl hx
  | replaceCarrier => exact .inl (hrest (fun y hy => List.mem_of_mem_filter hy) hx)
  | ack hlink hack ht =>
    exact .inl (hrest (fun y hy => by rw [hlink]; exact List.mem_cons_of_mem _ hy) hx)
  | @data q consumed acked now y rest r result hlink hack hr =>
    rcases mem_put hx with hx | ⟨rfl, hnew⟩
    · exact .inl (hrest (fun y hy => by rw [hlink]; exact List.mem_cons_of_mem _ hy) hx)
    · obtain ⟨heq, v, hv, hsource, hframe⟩ := mem_answer hr hnew
      injection heq with hf ha
      refine .inr (.inr ⟨y, ?_, hack, hf, ha, v, ?_, hsource, hframe⟩)
      · rw [Side.other_other, hlink]
        exact List.mem_cons_self
      · rw [put_rx, Side.other_other]
        show v ∈ (Function.update w.rx q r q).verdicts
        rw [Function.update_self]
        exact hv

/-- Where a verdict comes from. -/
theorem verdict_step {w w' : Peers} {a : Action} (h : w.step a = some w') {s : Side} {v : Verdict}
    (hv : v ∈ (w'.rx s).verdicts) :
    v ∈ (w.rx s).verdicts
    ∨ ∃ y ∈ w.link s, y.frame.isACK = false ∧ v.source = y.about.1 ∧ v.frame = y.frame
      ∧ ∃ p, (w.rx s).disp.mTargetMap y.frame.channel_id = some p ∧ v.target = p.address := by
  cases step_cases h with
  | transmit hact ht =>
    rw [put_rx] at hv
    exact .inl hv
  | @receive q call =>
    have hv' : v ∈ (Function.update w.rx q ((w.rx q).call call) s).verdicts := hv
    by_cases hs : s = q
    · subst hs
      rw [Function.update_self, (Receive.call_rest _ _).1] at hv'
      exact .inl hv'
    · rw [Function.update_of_ne hs] at hv'
      exact .inl hv'
  | @replaceCarrier q =>
    have hv' : v ∈ (Function.update w.rx q (w.rx q).replaceCarrier s).verdicts := hv
    by_cases hs : s = q
    · subst hs
      rw [Function.update_self] at hv'
      exact .inl hv'
    · rw [Function.update_of_ne hs] at hv'
      exact .inl hv'
  | ack hlink hack ht => exact .inl hv
  | @data q consumed acked now y rest r result hlink hack hr =>
    rw [put_rx] at hv
    have hv' : v ∈ (Function.update w.rx q r s).verdicts := hv
    by_cases hs : s = q
    · subst hs
      rw [Function.update_self] at hv'
      rcases hr.verdicts with heq | ⟨p, accepted, hp, heq⟩
      · exact .inl (heq ▸ hv')
      · rw [heq] at hv'
        rcases List.mem_append.mp hv' with hv' | hv'
        · exact .inl hv'
        · obtain rfl := List.mem_singleton.mp hv'
          refine .inr ⟨y, ?_, hack, rfl, rfl, p, hp, rfl⟩
          rw [hlink]
          exact List.mem_cons_self
    · rw [Function.update_of_ne hs] at hv'
      exact .inl hv'

/-- A frame leaves a queue for an ACK that was under way to it. -/
theorem retired_step {w w' : Peers} {a : Action} (h : w.step a = some w') {s : Side}
    {y : (Nat × Frame) × (Nat × Frame)} (hy : y ∈ w'.retired s) :
    y ∈ w.retired s
    ∨ ∃ x ∈ w.link s, x.frame.isACK = true ∧ y.2 = x.about ∧ y.1 ∈ (w.tx s).queued
      ∧ y.1.2.channel_id = x.frame.channel_id ∧ y.1.2.number = x.frame.number := by
  cases step_cases h with
  | transmit hact ht =>
    rw [put_retired] at hy
    exact .inl hy
  | receive => exact .inl hy
  | replaceCarrier => exact .inl hy
  | @ack q consumed acked now x rest t hlink hack ht =>
    by_cases hs : s = q
    · subst hs
      have hy' := hy
      simp only [Function.update_self] at hy'
      rcases List.mem_append.mp hy' with hy' | hy'
      · exact .inl hy'
      · obtain ⟨found, hfound, rfl⟩ := List.mem_map.mp hy'
        have hfind := Option.mem_toList.mp hfound
        have hmatch := List.find?_some hfind
        simp only [Transmit.isFrame, Bool.and_eq_true, decide_eq_true_eq] at hmatch
        refine .inr ⟨x, ?_, hack, rfl, List.mem_of_find?_eq_some hfind, hmatch.1, hmatch.2⟩
        rw [hlink]
        exact List.mem_cons_self
    · simp only [Function.update_of_ne hs] at hy
      exact .inl hy
  | data hlink hack hr =>
    rw [put_retired] at hy
    exact .inl hy

end Peers

end IviLink.L0
