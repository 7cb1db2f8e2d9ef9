import IviLink.PMAL.CPIM
import Mathlib.Tactic.Common

/-!
# A profile instance dies once

The invariant is per instance (`Stage`): it does not exist yet, is being loaded, lives,
is being ended by one thread, or is dead. A step moves the instance it is about to the
next stage, and leaves the others where they are, since what threads do with one
instance shows nowhere else.

What makes `mRemoteDiedProfiles` right is that the thread that ends an instance is the
one of the pool whenever a notice of its death is handled: it finds there what it has
itself inserted. A thread of the application that ends the instance in between, between
`find` and `insert` or before the callback, leaves the entry behind and the callback a
destroyed instance.
-/

namespace IviLink.PMAL.CPIM

open IviLink.Lib

variable {s s' : State} {x y : IUid} {t : ThreadId} {i : Instance} {c : Call}
  {calls calls' : ThreadId → Call} {job job' : Job}

/-- The instance that a call is about. -/
def Call.about : Call → Option IUid
  | .idle => none
  | .registered x | .announced x | .found x | .unregistered x | .disabled x | .told x => some x

attribute [grind] Call.about Job.about

theorem Job.eq_of_about (h : job.about = some x) : job = .found x ∨ job = .inserted x ∨
    job = .callback x ∨ job = .returned x ∨ job = .unloading x := by
  cases job with
  | none => cases h
  | found _ | inserted _ | callback _ | returned _ | unloading _ =>
    obtain rfl := Option.some.inj h
    simp

/-! ## The stages of an instance -/

/-- The thread that ends the instance is not handling a notice of its death, or is. -/
def EndedBy (x : IUid) (i : Instance) (t : ThreadId) (job : Job) : Prop :=
  i.locally = true ∧ job.about ≠ some x ∨
    i.locally = false ∧ t = poolThread ∧ (job = .callback x ∨ job = .unloading x)

inductive Stage (x : IUid) (i : Instance) (calls : ThreadId → Call) (job : Job) : Prop
  | unborn (hi : i = .absent) (hcalls : ∀ t, (calls t).about ≠ some x) (hjob : job.about ≠ some x)
  | loading (t : ThreadId) (hi : i = { Instance.absent with known := true, created := true })
      (ht : (calls t).loading x) (hcalls : ∀ t', t' ≠ t → (calls t').about ≠ some x)
      (hjob : job.about ≠ some x)
  | living (known : i.known = true) (created : i.created = true)
      (fresh : i.removed = 0 ∧ i.destroyed = 0 ∧ i.told = 0)
      (hcalls : ∀ t, (calls t).about = some x → calls t = .found x)
      (hdied : i.remoteDied = true ↔ job.about = some x ∧ job ≠ .found x)
      (hjob : job = .unloading x → calls poolThread = .found x)
  | ending (t : ThreadId) (ended : i.known = false ∧ i.created = true)
      (fresh : i.removed = 1 ∧ i.destroyed = 0 ∧ i.told = 0)
      (ht : calls t = .unregistered x ∨ calls t = .disabled x)
      (hcalls : ∀ t', t' ≠ t → (calls t').about = some x → calls t' = .found x)
      (hdied : i.remoteDied = !i.locally) (hby : EndedBy x i t job)
  | ended (t : ThreadId) (ended : i.known = false ∧ i.created = true)
      (fresh : i.removed = 1 ∧ i.destroyed = 0) (htold : i.told = if i.locally then 1 else 0)
      (ht : calls t = .told x)
      (hcalls : ∀ t', t' ≠ t → (calls t').about = some x → calls t' = .found x)
      (hdied : i.remoteDied = false) (hby : EndedBy x i t job)
  | dead (ended : i.known = false ∧ i.created = true) (once : i.DiedOnce)
      (hcalls : ∀ t, (calls t).about = some x → calls t = .found x)
      (hdied : i.remoteDied = false) (hjob : job ≠ .found x ∧ job ≠ .inserted x)

/-- What threads do with other instances leaves the instance where it is. -/
theorem Stage.frame (h : Stage x i calls job)
    (hcalls : ∀ t, (calls' t).about = some x ∨ (calls t).about = some x → calls' t = calls t)
    (hjob : job'.about = some x ∨ job.about = some x → job' = job) : Stage x i calls' job' := by
  have hby : ∀ t, EndedBy x i t job → EndedBy x i t job' := by
    intro t h
    unfold EndedBy at h ⊢
    grind
  cases h with
  | unborn hi h hj => exact .unborn hi (by grind) (by grind)
  | loading t hi ht h hj => exact .loading t hi (by grind [Call.loading]) (by grind) (by grind)
  | living hk hc hf h hd hj =>
    exact .living hk hc hf (by grind) (by grind) (by grind)
  | ending t he hf ht h hd hb =>
    exact .ending t he hf (by grind) (by grind) hd (hby t hb)
  | ended t he hf hn ht h hd hb =>
    exact .ended t he hf hn (by grind) (by grind) hd (hby t hb)
  | dead he ho h hd hj => exact .dead he ho (by grind) hd (by grind)

/-! ## Steps of a thread -/

/-- `profileDiedInternal` has not yet called back, or has looked what has become of it. -/
def Job.Waits (job : Job) : Prop := ∃ x, job = .found x ∨ job = .inserted x ∨ job = .returned x

structure Orderly (s : State) : Prop where
  unused : s.usedDestroyed = false
  stage : ∀ x, Stage x (s.instances x) s.calls s.job
  waiting : s.job.Waits → s.calls poolThread = .idle

theorem Orderly.init : Orderly .init where
  unused := rfl
  stage := fun _ => .unborn rfl (fun _ h => nomatch h) fun h => nomatch h
  waiting := fun _ => rfl

/-- A step moves the instance it is about. -/
theorem Orderly.move (h : Orderly s) (hused : s'.usedDestroyed = false)
    (hinstances : ∀ y ≠ x, s'.instances y = s.instances y)
    (hcalls : ∀ y ≠ x, ∀ t, (s'.calls t).about = some y ∨ (s.calls t).about = some y →
      s'.calls t = s.calls t)
    (hjob : ∀ y ≠ x, s'.job.about = some y ∨ s.job.about = some y → s'.job = s.job)
    (hwaiting : s'.job.Waits → s'.calls poolThread = .idle)
    (hx : Stage x (s'.instances x) s'.calls s'.job) : Orderly s' where
  unused := hused
  stage := by
    intro y
    by_cases hy : y = x
    · exact hy ▸ hx
    · rw [hinstances y hy]
      exact (h.stage y).frame (hcalls y hy) (hjob y hy)
  waiting := hwaiting

theorem Orderly.callStep (h : Orderly s) (hold : ∀ y ≠ x, (s.calls t).about ≠ some y)
    (hnew : ∀ y ≠ x, c.about ≠ some y) (hpool : t = poolThread → ¬ s.job.Waits)
    (hx : Stage x i (Function.update s.calls t c) s.job) :
    Orderly ((s.setInstance x i).setCall t c) := by
  refine h.move (x := x) h.unused ?_ ?_ (fun _ _ _ => rfl) ?_ ?_
  · intro y hy
    simp [State.setInstance, State.setCall, hy]
  · intro y hy t' habout
    by_cases ht : t' = t
    · subst ht
      simp only [State.setCall, Function.update_self] at habout
      exact absurd habout (not_or.mpr ⟨hnew y hy, hold y hy⟩)
    · simp [State.setInstance, State.setCall, ht]
  · intro hwaits
    by_cases ht : poolThread = t
    · exact absurd hwaits (hpool ht.symm)
    · simpa [State.setInstance, State.setCall, ht] using h.waiting hwaits
  · simpa [State.setInstance, State.setCall] using hx

/-- A thread of the pool that is in a call does not wait. -/
theorem Orderly.not_waits (h : Orderly s) (hcall : s.calls t ≠ .idle) (ht : t = poolThread) :
    ¬ s.job.Waits :=
  fun hwaits => hcall (ht ▸ h.waiting hwaits)

theorem not_waits_of_running (h : s.Running t) (ht : t = poolThread) : ¬ s.job.Waits := by
  rintro ⟨x, hjob⟩
  have := h.2 ht
  grind

theorem setInstance_self : s.setInstance x (s.instances x) = s := by
  simp [State.setInstance]

/-- The same where nothing of the instance changes. -/
theorem Orderly.callStep' (h : Orderly s) (hold : ∀ y ≠ x, (s.calls t).about ≠ some y)
    (hnew : ∀ y ≠ x, c.about ≠ some y) (hpool : t = poolThread → ¬ s.job.Waits)
    (hx : Stage x (s.instances x) (Function.update s.calls t c) s.job) :
    Orderly (s.setCall t c) := by
  have := h.callStep hold hnew hpool hx
  rwa [setInstance_self] at this

theorem Orderly.use (h : Orderly s) (hx : (s.instances x).destroyed = 0) : Orderly (s.use x) where
  unused := by simp [State.use, h.unused, hx]
  stage := h.stage
  waiting := h.waiting

theorem Stage.register (h : Stage x i calls job) (hi : i.created = false) :
    Stage x { i with known := true, created := true } (Function.update calls t (.registered x))
      job := by
  cases h with
  | unborn habsent hcalls hjob =>
    subst habsent
    refine .loading t rfl (.inl (by simp)) ?_ hjob
    intro t' hne
    simpa [hne] using hcalls t'
  | loading _ hi' _ _ _ => subst hi'; simp at hi
  | living _ hc _ _ _ _ => rw [hi] at hc; cases hc
  | ending _ he _ _ _ _ _ | ended _ he _ _ _ _ _ _ | dead he _ _ _ _ =>
    rw [hi] at he; cases he.2

/-- What is being loaded is with the thread that loads it. -/
theorem Stage.of_loading (h : Stage x i calls job) (ht : (calls t).loading x) :
    i = { Instance.absent with known := true, created := true } ∧
      (∀ t', t' ≠ t → (calls t').about ≠ some x) ∧ job.about ≠ some x := by
  have habout : (calls t).about = some x := by rcases ht with ht | ht <;> rw [ht] <;> rfl
  cases h with
  | unborn _ hcalls _ => exact absurd habout (hcalls t)
  | loading t₀ hi ht₀ hcalls hjob =>
    by_cases h : t = t₀
    · exact h ▸ ⟨hi, hcalls, hjob⟩
    · exact absurd habout (hcalls t h)
  | living _ _ _ hcalls _ _ | dead _ _ hcalls _ _ =>
    have := hcalls t habout
    grind [Call.loading]
  | ending t₀ _ _ ht₀ hcalls _ _ | ended t₀ _ _ _ ht₀ hcalls _ _ =>
    have := hcalls t
    grind [Call.loading]

theorem Stage.announce (h : Stage x i calls job) (ht : (calls t).loading x) :
    Stage x i (Function.update calls t (.announced x)) job := by
  obtain ⟨hi, hcalls, hjob⟩ := h.of_loading ht
  refine .loading t hi (.inr (by simp)) ?_ hjob
  intro t' hne
  simpa [hne] using hcalls t' hne

/-- The thread that loads the instance is done with it. -/
theorem Stage.loaded (h : Stage x i calls job) (ht : (calls t).loading x) (returned : Bool) :
    Stage x { i with returned := returned } (Function.update calls t .idle) job := by
  obtain ⟨hi, hcalls, hjob⟩ := h.of_loading ht
  subst hi
  refine .living rfl rfl ⟨rfl, rfl, rfl⟩ ?_ ?_ ?_
  · intro t' habout
    by_cases hne : t' = t
    · simp [hne, Call.about] at habout
    · exact absurd habout (by simpa [hne] using hcalls t' hne)
  · constructor
    · intro h
      cases h
    · intro h
      exact absurd h.1 hjob
  · intro h
    exact absurd (h ▸ rfl) hjob

/-- An instance that is known and not being loaded lives. -/
theorem Stage.of_known (h : Stage x i calls job) (hknown : i.known = true)
    (hloading : ∀ t, ¬ (calls t).loading x) :
    i.created = true ∧ (i.removed = 0 ∧ i.destroyed = 0 ∧ i.told = 0) ∧
      (∀ t, (calls t).about = some x → calls t = .found x) ∧
      (i.remoteDied = true ↔ job.about = some x ∧ job ≠ .found x) ∧
      (job = .unloading x → calls poolThread = .found x) := by
  cases h with
  | unborn hi _ _ => subst hi; cases hknown
  | loading t _ ht _ _ => exact absurd ht (hloading t)
  | living _ hc hf h hd hj => exact ⟨hc, hf, h, hd, hj⟩
  | ending _ he _ _ _ _ _ | ended _ he _ _ _ _ _ _ | dead he _ _ _ _ =>
    rw [hknown] at he; cases he.1

/-- A thread that has found the instance does not load it, and nobody else does. -/
theorem Stage.not_loading (h : Stage x i calls job) (ht : calls t = .found x) (t' : ThreadId) :
    ¬ (calls t').loading x := by
  intro hloading
  have := (h.of_loading hloading).2.1 t
  grind [Call.loading]

theorem Stage.find (h : Stage x i calls job) (hknown : i.known = true)
    (hreturned : i.returned = true) (hjob : t = poolThread → job ≠ .unloading x) :
    Stage x i (Function.update calls t (.found x)) job := by
  have hloading : ∀ t', ¬ (calls t').loading x := by
    intro t' h'
    rw [(h.of_loading h').1] at hreturned
    cases hreturned
  obtain ⟨hc, hf, hcalls, hd, hj⟩ := h.of_known hknown hloading
  exact .living hknown hc hf (by grind) hd (by grind)

theorem Stage.remove (h : Stage x i calls job) (hknown : i.known = true) (ht : calls t = .found x)
    (hby : job.about = some x → t = poolThread) (hwaits : t = poolThread → ¬ job.Waits) :
    Stage x { i with
        known := false
        removed := i.removed + 1
        locally := !decide (t = poolThread ∧ job.about = some x) }
      (Function.update calls t (.unregistered x)) job := by
  obtain ⟨hc, ⟨hr, hds, htold⟩, hcalls, hd, hj⟩ := h.of_known hknown (h.not_loading ht)
  have hwaits : t = poolThread → job ≠ .found x ∧ job ≠ .inserted x ∧ job ≠ .returned x := by
    intro hpool
    have := hwaits hpool
    grind [Job.Waits]
  refine .ending t ⟨rfl, hc⟩ ⟨by simp [hr], hds, htold⟩ (.inl (by simp)) (by grind) ?_ ?_
  · grind
  · by_cases habout : job.about = some x
    · -- the pool handles the notice, and past `insert`
      have := Job.eq_of_about habout
      exact .inr ⟨by simp [hby habout, habout], hby habout, by grind⟩
    · exact .inl ⟨by simp [habout], habout⟩

/-- The thread that has found nothing to remove is done. -/
theorem Stage.giveUp (h : Stage x i calls job) (hknown : i.known = false)
    (ht : calls t = .found x) : Stage x i (Function.update calls t .idle) job := by
  cases h with
  | unborn _ hcalls _ => exact absurd (congrArg Call.about ht) (hcalls t)
  | loading _ hi _ _ _ => rw [hi] at hknown; cases hknown
  | living hk _ _ _ _ _ => rw [hknown] at hk; cases hk
  | ending t₀ he hf ht₀ hcalls hd hby =>
    exact .ending t₀ he hf (by grind) (by grind) hd hby
  | ended t₀ he hf hn ht₀ hcalls hd hby =>
    exact .ended t₀ he hf hn (by grind) (by grind) hd hby
  | dead he ho hcalls hd hjob => exact .dead he ho (by grind) hd hjob

/-- The thread that ends the instance does so alone. -/
theorem Stage.of_ending (h : Stage x i calls job)
    (ht : calls t = .unregistered x ∨ calls t = .disabled x) :
    (i.known = false ∧ i.created = true) ∧ (i.removed = 1 ∧ i.destroyed = 0 ∧ i.told = 0) ∧
      (∀ t', t' ≠ t → (calls t').about = some x → calls t' = .found x) ∧
      (i.remoteDied = !i.locally) ∧ EndedBy x i t job := by
  have habout : (calls t).about = some x := by rcases ht with ht | ht <;> rw [ht] <;> rfl
  cases h with
  | unborn _ hcalls _ => exact absurd habout (hcalls t)
  | loading t₀ _ ht₀ hcalls _ =>
    have := hcalls t
    grind [Call.loading]
  | living _ _ _ hcalls _ _ | dead _ _ hcalls _ _ =>
    have := hcalls t habout
    grind
  | ending t₀ he hf _ hcalls hd hby =>
    obtain rfl : t = t₀ := by
      by_contra hne
      have := hcalls t hne habout
      grind
    exact ⟨he, hf, hcalls, hd, hby⟩
  | ended t₀ _ _ _ _ hcalls _ _ =>
    have := hcalls t
    grind

theorem Stage.disable (h : Stage x i calls job) (ht : calls t = .unregistered x) :
    Stage x i (Function.update calls t (.disabled x)) job := by
  obtain ⟨he, hf, hcalls, hd, hby⟩ := h.of_ending (.inl ht)
  exact .ending t he hf (.inr (by simp)) (by grind) hd hby

/-- The entry is there if and only if the death was not started here. -/
theorem Stage.tell (h : Stage x i calls job) (ht : calls t = .disabled x) :
    Stage x (if i.remoteDied then { i with remoteDied := false } else { i with told := i.told + 1 })
      (Function.update calls t (.told x)) job := by
  obtain ⟨he, ⟨hr, hds, htold⟩, hcalls, hd, hby⟩ := h.of_ending (.inr ht)
  by_cases hremote : i.remoteDied = true
  · have hlocally : i.locally = false := by simpa [hremote] using hd
    rw [if_pos hremote]
    exact .ended t he ⟨hr, hds⟩ (by simp [hlocally, htold]) (by simp) (by grind) rfl hby
  · have hlocally : i.locally = true := by simpa [hremote] using hd
    rw [if_neg hremote]
    refine .ended t he ⟨hr, hds⟩ (by simp [hlocally, htold]) (by simp) (by grind) ?_ hby
    simpa using hremote

theorem Stage.destroy (h : Stage x i calls job) (ht : calls t = .told x) :
    Stage x { i with destroyed := i.destroyed + 1 } (Function.update calls t .idle) job := by
  have habout : (calls t).about = some x := by rw [ht]; rfl
  cases h with
  | unborn _ hcalls _ => exact absurd habout (hcalls t)
  | loading t₀ _ ht₀ hcalls _ =>
    have := hcalls t
    grind [Call.loading]
  | living _ _ _ hcalls _ _ | dead _ _ hcalls _ _ =>
    have := hcalls t habout
    grind
  | ending t₀ _ _ _ hcalls _ _ =>
    have := hcalls t
    grind
  | ended t₀ he hf hn _ hcalls hd hby =>
    -- the thread that ends the instance is the only one
    obtain rfl : t = t₀ := by
      by_contra hne
      have := hcalls t hne habout
      grind
    refine .dead he ?_ (by grind) hd ?_
    · unfold Instance.DiedOnce
      simp only [he.1, Bool.false_eq_true, if_false]
      exact ⟨hf.1, by omega, hn⟩
    · unfold EndedBy at hby
      grind

/-! ## Steps of a notice -/

theorem Orderly.noticeStep (h : Orderly s) (hold : ∀ y ≠ x, s.job.about ≠ some y)
    (hnew : ∀ y ≠ x, job.about ≠ some y) (hpool : s.calls poolThread = .idle)
    (hx : Stage x i s.calls job) : Orderly ((s.setInstance x i).setJob job) := by
  refine h.move (x := x) h.unused ?_ (fun _ _ _ _ => rfl) ?_ (fun _ => hpool) ?_
  · intro y hy
    simp [State.setInstance, State.setJob, hy]
  · intro y hy habout
    exact absurd habout (not_or.mpr ⟨hnew y hy, hold y hy⟩)
  · simpa [State.setInstance, State.setJob] using hx

theorem Orderly.noticeStep' (h : Orderly s) (hold : ∀ y ≠ x, s.job.about ≠ some y)
    (hnew : ∀ y ≠ x, job.about ≠ some y) (hpool : s.calls poolThread = .idle)
    (hx : Stage x (s.instances x) s.calls job) : Orderly (s.setJob job) := by
  have := h.noticeStep hold hnew hpool hx
  rwa [setInstance_self] at this

/-- A notice is about an instance that is known, until the callback. -/
theorem Stage.of_notice (h : Stage x i calls job) (hjob : job = .found x ∨ job = .inserted x) :
    i.known = true ∧ ∀ t, ¬ (calls t).loading x := by
  cases h with
  | unborn _ _ hj | loading _ _ _ _ hj => grind
  | living hk _ _ hcalls _ _ =>
    refine ⟨hk, ?_⟩
    intro t ht
    have := hcalls t
    grind [Call.loading]
  | ending _ _ _ _ _ _ hby | ended _ _ _ _ _ _ _ hby =>
    unfold EndedBy at hby
    grind
  | dead _ _ _ _ hj => grind

/-- What a notice does to an instance that lives. -/
theorem Stage.notice (h : Stage x i calls job) (hknown : i.known = true)
    (hloading : ∀ t, ¬ (calls t).loading x) {died : Bool}
    (hdied : died = true ↔ job'.about = some x ∧ job' ≠ .found x) (hjob : job' ≠ .unloading x) :
    Stage x { i with remoteDied := died } calls job' := by
  obtain ⟨hc, hf, hcalls, _, _⟩ := h.of_known hknown hloading
  exact .living hknown hc hf hcalls hdied (fun h => absurd h hjob)

theorem Stage.callbackReturns (h : Stage x i calls (.callback x))
    (hpool : calls poolThread = .idle) : Stage x i calls (.returned x) := by
  cases h with
  | unborn _ _ hj | loading _ _ _ _ hj => exact absurd rfl hj
  | living hk hc hf hcalls hd _ => exact .living hk hc hf hcalls (by simpa [Job.about] using hd) (by simp)
  | ending t _ _ ht _ _ hby =>
    unfold EndedBy at hby
    grind
  | ended t _ _ _ ht _ _ hby =>
    unfold EndedBy at hby
    grind
  | dead he ho hcalls hd _ => exact .dead he ho hcalls hd (by simp)

/-- The notice has been handled. -/
theorem Stage.handled (h : Stage x i calls job) (hknown : job = .returned x → i.known = false)
    (hjob : job = .returned x ∨ job = .unloading x) (hpool : calls poolThread = .idle) :
    Stage x i calls .none := by
  cases h with
  | unborn _ _ hj | loading _ _ _ _ hj => grind
  | living _ _ _ _ _ hj => grind
  | ending _ _ _ _ _ _ hby | ended _ _ _ _ _ _ _ hby =>
    unfold EndedBy at hby
    grind
  | dead he ho hcalls hd _ => exact .dead he ho hcalls hd (by simp)

theorem Orderly.unloadDied (h : Orderly s) (hjob : s.job = .inserted x ∨ s.job = .returned x)
    (hknown : (s.instances x).known = true) : Orderly (s.unloadDied x) := by
  have hpool : s.calls poolThread = .idle := h.waiting ⟨x, by grind⟩
  have hloading : ∀ t, ¬ (s.calls t).loading x := by
    intro t ht
    have := (h.stage x).of_loading ht
    grind
  obtain ⟨hc, hf, hcalls, hd, _⟩ := (h.stage x).of_known hknown hloading
  refine h.move (x := x) h.unused (fun _ _ => rfl) ?_ ?_ ?_ ?_
  · intro y hy t habout
    simp only [State.unloadDied, State.setCall, State.setJob] at habout ⊢
    grind
  · intro y hy habout
    simp only [State.unloadDied, State.setCall, State.setJob] at habout ⊢
    grind
  · rintro ⟨y, hy⟩
    simp [State.unloadDied, State.setCall, State.setJob] at hy
  · refine .living hknown hc hf ?_ ?_ (fun _ => by simp [State.unloadDied, State.setCall])
    · intro t
      simp only [State.unloadDied, State.setCall, State.setJob]
      grind
    · simp only [State.unloadDied, State.setCall, State.setJob]
      grind

/-! ## Runs -/

theorem Running.about (h : s.Running t) : (s.calls t).about ≠ some x := by
  rw [h.1]
  exact fun h => nomatch h

/-- A thread that is in a call about an instance is about no other. -/
theorem about_ne (ht : (s.calls t).about = some x) : ∀ y ≠ x, (s.calls t).about ≠ some y :=
  fun _ hne h => hne (Option.some.inj (h.symm.trans ht))

/-- A thread in a call about an instance is about no other, and no notice waits for the pool. -/
theorem Orderly.of_call {call : Call} (h : Orderly s) (hcall : s.calls t = call)
    (habout : call.about = some x) :
    (∀ y ≠ x, (s.calls t).about ≠ some y) ∧ (t = poolThread → ¬ s.job.Waits) := by
  refine ⟨about_ne (by rw [hcall, habout]), h.not_waits ?_⟩
  intro hidle
  rw [← hcall, hidle] at habout
  cases habout

theorem job_about_ne (hjob : s.job.about = some x) : ∀ y ≠ x, s.job.about ≠ some y :=
  fun _ hne h => hne (Option.some.inj (h.symm.trans hjob))

theorem Orderly.next_registerProfile (h : Orderly s)
    (hs : next s (.registerProfile t x) = some s') : Orderly s' := by
  simp only [next] at hs
  split at hs
  · rename_i hif
    obtain rfl := Option.some.inj hs
    exact h.callStep (fun _ _ => Running.about hif.1) (by grind) (not_waits_of_running hif.1)
      ((h.stage x).register hif.2)
  · cases hs

theorem Orderly.next_createProfile {ok : Bool} (h : Orderly s)
    (hs : next s (.createProfile t ok) = some s') : Orderly s' := by
  simp only [next] at hs
  split at hs
  · rename_i x hcall
    obtain rfl := Option.some.inj hs
    obtain ⟨hothers, hwaits⟩ := h.of_call hcall rfl
    refine h.callStep' hothers (by grind) hwaits ?_
    by_cases hok : ok = true
    · rw [if_pos hok]
      exact (h.stage x).announce (.inl hcall)
    · rw [if_neg hok]
      exact (h.stage x).loaded (.inl hcall) _
  · cases hs

theorem Orderly.next_enable (h : Orderly s) (hs : next s (.enable t) = some s') : Orderly s' := by
  obtain ⟨x, hcall, rfl⟩ := of_enable hs
  obtain ⟨hothers, hwaits⟩ := h.of_call hcall rfl
  have hfresh : (s.instances x).destroyed = 0 := by
    rw [((h.stage x).of_loading (.inr hcall)).1]
    rfl
  exact (h.use hfresh).callStep hothers (by grind) hwaits
    ((h.stage x).loaded (.inr hcall) true)

theorem Orderly.next_findPiuid (h : Orderly s) (hs : next s (.findPiuid t x) = some s') :
    Orderly s' := by
  simp only [next] at hs
  split at hs
  · rename_i hif
    obtain rfl := Option.some.inj hs
    by_cases hknown : (s.instances x).known = true
    · rw [if_pos hknown]
      have hjob : t = poolThread → s.job ≠ .unloading x := by
        intro hpool
        have := hif.1.2 hpool
        grind
      exact h.callStep' (fun _ _ => Running.about hif.1) (by grind) (not_waits_of_running hif.1)
        ((h.stage x).find hknown hif.2 hjob)
    · rw [if_neg hknown]
      exact h
  · cases hs

theorem Orderly.next_unregisterProfile (h : Orderly s) (hp : Undisturbed s (.unregisterProfile t))
    (hs : next s (.unregisterProfile t) = some s') : Orderly s' := by
  simp only [next] at hs
  split at hs
  · rename_i x hcall
    obtain ⟨hothers, hwaits⟩ := h.of_call hcall rfl
    by_cases hknown : (s.instances x).known = true
    · -- a notice that is being handled is about the instance only if the pool removes it
      rw [if_pos hknown] at hs
      obtain rfl := Option.some.inj hs
      exact h.callStep hothers (by grind) hwaits
        ((h.stage x).remove hknown hcall (hp x hcall hknown) hwaits)
    · rw [if_neg hknown] at hs
      obtain rfl := Option.some.inj hs
      exact h.callStep' hothers (by grind) hwaits
        ((h.stage x).giveUp (by simpa using hknown) hcall)
  · cases hs

theorem Orderly.next_disable (h : Orderly s) (hs : next s (.disable t) = some s') : Orderly s' := by
  simp only [next] at hs
  split at hs
  · rename_i x hcall
    obtain rfl := Option.some.inj hs
    obtain ⟨hothers, hwaits⟩ := h.of_call hcall rfl
    have hfresh := ((h.stage x).of_ending (.inl hcall)).2.1.2.1
    exact (h.use hfresh).callStep' hothers (by grind) hwaits ((h.stage x).disable hcall)
  · cases hs

theorem Orderly.next_eraseRemoteDied (h : Orderly s) (hs : next s (.eraseRemoteDied t) = some s') :
    Orderly s' := by
  simp only [next] at hs
  split at hs
  · rename_i x hcall
    obtain rfl := Option.some.inj hs
    obtain ⟨hothers, hwaits⟩ := h.of_call hcall rfl
    exact h.callStep hothers (by grind) hwaits ((h.stage x).tell hcall)
  · cases hs

theorem Orderly.next_destroy (h : Orderly s) (hs : next s (.destroy t) = some s') : Orderly s' := by
  simp only [next] at hs
  split at hs
  · rename_i x hcall
    obtain rfl := Option.some.inj hs
    obtain ⟨hothers, hwaits⟩ := h.of_call hcall rfl
    exact h.callStep hothers (by grind) hwaits ((h.stage x).destroy hcall)
  · cases hs

theorem Orderly.next_findInstance (h : Orderly s) (hp : Undisturbed s (.findInstance x))
    (hs : next s (.findInstance x) = some s') : Orderly s' := by
  simp only [next] at hs
  split at hs
  · rename_i hif
    obtain rfl := Option.some.inj hs
    by_cases hknown : (s.instances x).known = true
    · rw [if_pos hknown]
      obtain ⟨_, _, _, hd, _⟩ := (h.stage x).of_known hknown hp
      refine h.noticeStep' (x := x) (by grind) (by grind) hif.2 ?_
      refine (h.stage x).notice hknown hp ?_ (by simp)
      rw [hd]
      grind
    · rw [if_neg hknown]
      exact h
  · cases hs

theorem Orderly.next_insertRemoteDied (h : Orderly s) (hs : next s .insertRemoteDied = some s') :
    Orderly s' := by
  simp only [next] at hs
  split at hs
  · rename_i x hjob
    obtain rfl := Option.some.inj hs
    obtain ⟨hknown, hloading⟩ := (h.stage x).of_notice (.inl hjob)
    refine h.noticeStep (job_about_ne (by rw [hjob]; rfl)) (by grind)
      (h.waiting ⟨x, .inl hjob⟩) ?_
    exact (h.stage x).notice hknown hloading (by simp [Job.about]) (by simp)
  · cases hs

theorem Orderly.next_profileDied {clbs : Bool} (h : Orderly s)
    (hs : next s (.profileDied clbs) = some s') : Orderly s' := by
  simp only [next] at hs
  split at hs
  · rename_i x hjob
    obtain rfl := Option.some.inj hs
    obtain ⟨hknown, hloading⟩ := (h.stage x).of_notice (.inr hjob)
    by_cases hclbs : clbs = true
    · rw [if_pos hclbs]
      obtain ⟨_, hfresh, _, hd, _⟩ := (h.stage x).of_known hknown hloading
      refine (h.use hfresh.2.1).noticeStep' (job_about_ne (by rw [State.use, hjob]; rfl))
        (by grind) (h.waiting ⟨x, .inr (.inl hjob)⟩) ?_
      refine (h.stage x).notice hknown hloading ?_ (by simp)
      rw [hd, hjob]
      simp [Job.about]
    · rw [if_neg hclbs]
      exact h.unloadDied (.inl hjob) hknown
  · cases hs

theorem Orderly.next_callbackReturns (h : Orderly s) (hs : next s .callbackReturns = some s') :
    Orderly s' := by
  simp only [next] at hs
  split at hs
  · rename_i x hjob
    split at hs
    · rename_i hpool
      obtain rfl := Option.some.inj hs
      have hx := h.stage x
      rw [hjob] at hx
      exact h.noticeStep' (job_about_ne (by rw [hjob]; rfl)) (by grind) hpool
        (hx.callbackReturns hpool)
    · cases hs
  · cases hs

theorem Orderly.next_isKnown (h : Orderly s) (hs : next s .isKnown = some s') : Orderly s' := by
  simp only [next] at hs
  split at hs
  · rename_i x hjob
    obtain rfl := Option.some.inj hs
    have hpool := h.waiting ⟨x, .inr (.inr hjob)⟩
    by_cases hknown : (s.instances x).known = true
    · rw [if_pos hknown]
      exact h.unloadDied (.inr hjob) hknown
    · rw [if_neg hknown]
      exact h.noticeStep' (job_about_ne (by rw [hjob]; rfl)) (by grind) hpool
        ((h.stage x).handled (fun _ => by simpa using hknown) (.inl hjob) hpool)
  · cases hs

theorem Orderly.next_jobDone (h : Orderly s) (hs : next s .jobDone = some s') : Orderly s' := by
  obtain ⟨x, hjob, hpool, rfl⟩ := of_jobDone hs
  exact h.noticeStep' (job_about_ne (by rw [hjob]; rfl)) (by grind) hpool
    ((h.stage x).handled (by grind) (.inr hjob) hpool)

/-- **A step that is undisturbed** leaves every instance in one of its stages. -/
theorem Orderly.next (h : Orderly s) {e : Event} (hp : Undisturbed s e)
    (hs : CPIM.next s e = some s') : Orderly s' := by
  cases e with
  | registerProfile t x => exact h.next_registerProfile hs
  | createProfile t ok => exact h.next_createProfile hs
  | enable t => exact h.next_enable hs
  | findPiuid t x => exact h.next_findPiuid hs
  | unregisterProfile t => exact h.next_unregisterProfile hp hs
  | disable t => exact h.next_disable hs
  | eraseRemoteDied t => exact h.next_eraseRemoteDied hs
  | destroy t => exact h.next_destroy hs
  | findInstance x => exact h.next_findInstance hp hs
  | insertRemoteDied => exact h.next_insertRemoteDied hs
  | profileDied clbs => exact h.next_profileDied hs
  | callbackReturns => exact h.next_callbackReturns hs
  | isKnown => exact h.next_isKnown hs
  | jobDone => exact h.next_jobDone hs

theorem Stage.once (h : Stage x i calls job) :
    i.removed ≤ 1 ∧ i.destroyed ≤ 1 ∧ i.told ≤ 1 := by
  cases h with
  | unborn hi _ _ | loading _ hi _ _ _ => subst hi; simp [Instance.absent]
  | living _ _ hf _ _ _ | ending _ _ hf _ _ _ _ => omega
  | ended _ _ hf hn _ _ _ _ =>
    have : i.told ≤ 1 := by rw [hn]; split <;> omega
    omega
  | dead he ho _ _ _ =>
    unfold Instance.DiedOnce at ho
    simp only [he.1, Bool.false_eq_true, if_false] at ho
    have : i.told ≤ 1 := by rw [ho.2.2]; split <;> omega
    omega

/-- When nothing is under way the instance does not exist, lives or is dead. -/
theorem Stage.quiet (h : Stage x i calls .none) (hcalls : ∀ t, calls t = .idle) :
    (i.created = true → i.DiedOnce) ∧ i.remoteDied = false := by
  cases h with
  | unborn hi _ _ => subst hi; exact ⟨(fun h => nomatch h), rfl⟩
  | loading t _ ht _ _ =>
    rw [hcalls t] at ht
    rcases ht with ht | ht <;> cases ht
  | living hk _ hf _ hd _ =>
    refine ⟨fun _ => ?_, by simpa [Job.about] using hd⟩
    unfold Instance.DiedOnce
    rwa [if_pos hk]
  | ending t _ _ ht _ _ _ =>
    rw [hcalls t] at ht
    rcases ht with ht | ht <;> cases ht
  | ended t _ _ _ ht _ _ _ => rw [hcalls t] at ht; cases ht
  | dead _ ho _ hd _ => exact ⟨fun _ => ho, hd⟩

theorem Orderly.proper (h : Orderly s) : Proper s where
  unused := h.unused
  once := fun x => (h.stage x).once
  died := fun hquiet x hcreated => ((hquiet.2 ▸ h.stage x).quiet hquiet.1).1 hcreated
  forgotten := by
    intro hquiet x hdied
    have := ((hquiet.2 ▸ h.stage x).quiet hquiet.1).2
    rw [hdied] at this
    cases this

/-- An instance that the application unloads in the callback. -/
def unloadedInCallback : List Event :=
  [.registerProfile 1 7, .createProfile 1 true, .enable 1, .findInstance 7, .insertRemoteDied,
   .profileDied true, .findPiuid 0 7, .unregisterProfile 0, .disable 0, .eraseRemoteDied 0,
   .destroy 0, .callbackReturns, .isKnown]

/-- An instance that a thread of the application unloads between `find` and `insert`. -/
def unloadedMeanwhile : List Event :=
  [.registerProfile 1 7, .createProfile 1 true, .enable 1, .findInstance 7, .findPiuid 1 7,
   .unregisterProfile 1, .disable 1, .eraseRemoteDied 1, .destroy 1, .insertRemoteDied,
   .profileDied true]

end IviLink.PMAL.CPIM
