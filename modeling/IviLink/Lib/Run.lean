import Mathlib.Data.List.Induction
import Mathlib.Logic.Basic

/-!
# Runs of a step function

A system is a step function into `Option`: an action that is not enabled has no
successor. Nondeterminism lives in the choice of actions, so a run is a list of
them and a reachable state is what some list leads to. Statements about all runs
are proved once per step and carried over the list by `run_invariant`; a side
condition that every step of a run has to meet is `Along`.
-/

namespace IviLink.Lib

variable {σ α : Type*} {step : σ → α → Option σ}

/-- The state a list of actions leads to, if each of them is enabled in turn. -/
def run (step : σ → α → Option σ) : σ → List α → Option σ
  | s, [] => some s
  | s, a :: as =>
    match step s a with
    | none => none
    | some s' => run step s' as

/-- Every step of the run meets `P`, a condition on the state before it and the action. -/
def Along (step : σ → α → Option σ) (P : σ → α → Prop) : σ → List α → Prop
  | _, [] => True
  | s, a :: as => P s a ∧ ∀ s', step s a = some s' → Along step P s' as

@[simp] theorem run_nil (s : σ) : run step s [] = some s := rfl

theorem run_cons {s s' : σ} {a : α} {as : List α} (h : run step s (a :: as) = some s') :
    ∃ t, step s a = some t ∧ run step t as = some s' := by
  rw [run] at h
  cases ht : step s a with
  | none => rw [ht] at h; exact absurd h (by simp)
  | some t => rw [ht] at h; exact ⟨t, rfl, h⟩

theorem run_append (s : σ) (as bs : List α) :
    run step s (as ++ bs) = (run step s as).bind (fun t => run step t bs) := by
  induction as generalizing s with
  | nil => rfl
  | cons a as ih =>
    rw [List.cons_append, run, run]
    cases step s a with
    | none => rfl
    | some t => exact ih t

/-- **The invariant rule.** What the steps that meet `P` preserve holds at the end of a run
whose steps all meet it. -/
theorem run_invariant {P : σ → α → Prop} {I : σ → Prop}
    (hstep : ∀ s a s', I s → P s a → step s a = some s' → I s') :
    ∀ {as : List α} {s s' : σ}, I s → Along step P s as → run step s as = some s' → I s'
  | [], s, s', hi, _, hr => by
      rw [run_nil] at hr
      exact Option.some.inj hr ▸ hi
  | a :: as, s, s', hi, hp, hr => by
      obtain ⟨t, ht, hr⟩ := run_cons hr
      exact run_invariant hstep (hstep s a t hi hp.1 ht) (hp.2 t ht) hr

/-- **The progress rule.** If the steps that meet `P` are all enabled and preserve `I`, a run
whose steps all meet it reaches its end, and with `I`. -/
theorem run_total {P : σ → α → Prop} {I : σ → Prop}
    (hstep : ∀ s a, I s → P s a → ∃ s', step s a = some s' ∧ I s') :
    ∀ {as : List α} {s : σ}, I s → Along step P s as → ∃ s', run step s as = some s' ∧ I s'
  | [], s, hi, _ => ⟨s, rfl, hi⟩
  | a :: as, s, hi, hp => by
      obtain ⟨t, ht, hit⟩ := hstep s a hi hp.1
      obtain ⟨s', hr, hi'⟩ := run_total hstep hit (hp.2 t ht)
      refine ⟨s', ?_, hi'⟩
      rw [run, ht]
      exact hr

/-- **The countdown rule.** An action that can be done as long as there is something left can be
repeated until nothing is. -/
theorem run_replicate {S : Nat → σ → Prop} {a : α}
    (hstep : ∀ n s, S (n + 1) s → ∃ s', step s a = some s' ∧ S n s') :
    ∀ {n : Nat} {s : σ}, S n s → ∃ s', run step s (List.replicate n a) = some s' ∧ S 0 s'
  | 0, s, h => ⟨s, rfl, h⟩
  | n + 1, s, h => by
      obtain ⟨t, ht, hS⟩ := hstep n s h
      obtain ⟨s', hr, hS'⟩ := run_replicate hstep hS
      refine ⟨s', ?_, hS'⟩
      rw [List.replicate_succ, run, ht]
      exact hr

/-- **The falling rule.** If the rank falls with every action, a run has no more actions than it. -/
theorem length_le_of_falls (rank : σ → Nat) {as : List α} {s t : σ}
    (hfalls : ∀ s t a, a ∈ as → step s a = some t → rank t < rank s)
    (hr : run step s as = some t) : as.length ≤ rank s := by
  induction as generalizing s with
  | nil => exact Nat.zero_le _
  | cons a as ih =>
    obtain ⟨u, hu, hr⟩ := run_cons hr
    have hlt := hfalls s u a List.mem_cons_self hu
    have hle := ih (fun s t b hb => hfalls s t b (List.mem_cons_of_mem _ hb)) hr
    exact Nat.le_trans (Nat.succ_le_succ hle) hlt

/-- A condition that the actions meet in any state is met along the run. -/
theorem along_of_mem {P : σ → α → Prop} :
    ∀ {as : List α} {s : σ}, (∀ a ∈ as, ∀ s, P s a) → Along step P s as
  | [], _, _ => trivial
  | a :: _, s, h => ⟨h a List.mem_cons_self s,
      fun _ _ => along_of_mem fun a' ha' => h a' (List.mem_cons_of_mem _ ha')⟩

/-- A step that is known leaves the rest of the run. -/
theorem Along.cons {P : σ → α → Prop} {as : List α} {a : α} {s t : σ} (hp : P s a)
    (hs : step s a = some t) (h : Along step P t as) : Along step P s (a :: as) :=
  ⟨hp, fun _ ht => Option.some.inj (hs.symm.trans ht) ▸ h⟩

/-- Along a run that reaches its end every action is enabled. -/
theorem along_of_run : ∀ {as : List α} {s t : σ}, run step s as = some t →
    Along step (fun s a => ∃ s', step s a = some s') s as
  | [], _, _, _ => trivial
  | _ :: _, _, _, hr => by
    obtain ⟨u, hs, hu⟩ := run_cons hr
    exact Along.cons ⟨u, hs⟩ hs (along_of_run hu)

/-- Along a run that reaches its end every action meets a condition on the actions alone. -/
theorem Along.forall_mem {P : α → Prop} :
    ∀ {as : List α} {s t : σ}, Along step (fun _ a => P a) s as → run step s as = some t →
      ∀ a ∈ as, P a
  | [], _, _, _, _, _, ha => absurd ha List.not_mem_nil
  | _ :: _, _, _, hp, hr, a, ha => by
      obtain ⟨u, hu, hr⟩ := run_cons hr
      rcases List.mem_cons.mp ha with rfl | ha
      · exact hp.1
      · exact Along.forall_mem (hp.2 u hu) hr a ha

theorem Along.imp {P Q : σ → α → Prop} (h : ∀ s a, P s a → Q s a) :
    ∀ {as : List α} {s : σ}, Along step P s as → Along step Q s as
  | [], _, _ => trivial
  | _ :: _, _, hp => ⟨h _ _ hp.1, fun t ht => Along.imp h (hp.2 t ht)⟩

theorem Along.and {P Q : σ → α → Prop} : ∀ {as : List α} {s : σ}, Along step P s as →
    Along step Q s as → Along step (fun s a => P s a ∧ Q s a) s as
  | [], _, _, _ => trivial
  | _ :: _, _, hp, hq => ⟨⟨hp.1, hq.1⟩, fun t ht => Along.and (hp.2 t ht) (hq.2 t ht)⟩

/-- What holds of every step from a state with the invariant holds along a run whose steps meet
the condition that preserves it. -/
theorem Along.of_invariant {P Q : σ → α → Prop} {I : σ → Prop} (hpq : ∀ s a, I s → P s a → Q s a)
    (hstep : ∀ s a s', I s → P s a → step s a = some s' → I s') :
    ∀ {as : List α} {s : σ}, I s → Along step P s as → Along step Q s as
  | [], _, _, _ => trivial
  | a :: _, s, hi, hp => ⟨hpq s a hi hp.1,
      fun t ht => Along.of_invariant hpq hstep (hstep s a t hi hp.1 ht) (hp.2 t ht)⟩

/-- **Two conditions hold along the same runs** if they agree where an invariant holds that the
steps preserve. -/
theorem along_iff {P Q : σ → α → Prop} {I : σ → Prop} (hpq : ∀ s a, I s → (P s a ↔ Q s a))
    (hstep : ∀ s a s', I s → step s a = some s' → I s') :
    ∀ {as : List α} {s : σ}, I s → (Along step P s as ↔ Along step Q s as)
  | [], _, _ => Iff.rfl
  | a :: as, s, hi => by
      have hrest : ∀ s', step s a = some s' → (Along step P s' as ↔ Along step Q s' as) :=
        fun s' hs => along_iff hpq hstep (hstep s a s' hi hs)
      exact and_congr (hpq s a hi)
        ⟨fun h s' hs => (hrest s' hs).mp (h s' hs), fun h s' hs => (hrest s' hs).mpr (h s' hs)⟩

/-- The same where the steps preserve the invariant only as long as they meet the conditions,
along runs whose steps are all in `E`. -/
theorem along_iff_along {P Q E : σ → α → Prop} {I : σ → Prop}
    (hpq : ∀ s a, I s → E s a → (P s a ↔ Q s a))
    (hstep : ∀ s a s', I s → E s a → Q s a → step s a = some s' → I s') :
    ∀ {as : List α} {s : σ}, I s → Along step E s as → (Along step P s as ↔ Along step Q s as)
  | [], _, _, _ => Iff.rfl
  | a :: as, s, hi, he => by
      have hrest : Q s a → ∀ s', step s a = some s' → (Along step P s' as ↔ Along step Q s' as) :=
        fun hq s' hs => along_iff_along hpq hstep (hstep s a s' hi he.1 hq hs) (he.2 s' hs)
      constructor
      · rintro ⟨hp, h⟩
        have hq := (hpq s a hi he.1).mp hp
        exact ⟨hq, fun s' hs => (hrest hq s' hs).mp (h s' hs)⟩
      · rintro ⟨hq, h⟩
        exact ⟨(hpq s a hi he.1).mpr hq, fun s' hs => (hrest hq s' hs).mpr (h s' hs)⟩

/-- **The slip rule.** If a step that does not meet the condition leads to a state with `B`, and
`B` stays, a run with such a step ends in one. -/
theorem run_of_not_along {P : σ → α → Prop} {I B : σ → Prop}
    (hstep : ∀ s a s', I s → step s a = some s' → I s')
    (hslip : ∀ s a s', I s → ¬ P s a → step s a = some s' → B s')
    (hstay : ∀ s a s', I s → B s → step s a = some s' → B s') :
    ∀ {as : List α} {s t : σ}, I s → run step s as = some t → ¬ Along step P s as → B t
  | [], _, _, _, _, hslips => absurd trivial hslips
  | a :: as, s, t, hi, hr, hslips => by
      obtain ⟨u, hu, hr⟩ := run_cons hr
      by_cases hp : P s a
      · refine run_of_not_along hstep hslip hstay (hstep s a u hi hu) hr ?_
        intro halong
        refine hslips ⟨hp, ?_⟩
        intro u' hu'
        rwa [Option.some.inj (hu'.symm.trans hu)]
      · have hboth : I u ∧ B u := ⟨hstep s a u hi hu, hslip s a u hi hp hu⟩
        have hkeep : ∀ v b v', I v ∧ B v → True → step v b = some v' → I v' ∧ B v' :=
          fun v b v' h _ hs => ⟨hstep v b v' h.1 hs, hstay v b v' h.1 h.2 hs⟩
        exact (run_invariant (P := fun _ _ => True) hkeep hboth
          (along_of_mem fun _ _ _ => trivial) hr).2

/-- On a concrete run the condition can be evaluated. -/
instance Along.decidable {P : σ → α → Prop} [∀ s a, Decidable (P s a)] :
    ∀ (s : σ) (as : List α), Decidable (Along step P s as)
  | _, [] => isTrue trivial
  | s, a :: as =>
    have _ : Decidable (∀ s', step s a = some s' → Along step P s' as) :=
      match step s a with
      | none => isTrue fun _ h => nomatch h
      | some t =>
        have _ : Decidable (Along step P t as) := Along.decidable t as
        decidable_of_iff (Along step P t as)
          ⟨fun h _ ht => Option.some.inj ht ▸ h, fun h => h t rfl⟩
    inferInstanceAs (Decidable (P s a ∧ ∀ s', step s a = some s' → Along step P s' as))

/-- The condition holds along every initial part of the run. -/
theorem Along.prefix {P : σ → α → Prop} :
    ∀ {as bs : List α} {s : σ}, Along step P s (as ++ bs) → Along step P s as
  | [], _, _, _ => trivial
  | _ :: _, _, _, hp => ⟨hp.1, fun t ht => Along.prefix (hp.2 t ht)⟩

/-- The condition holds along what comes after an initial part of the run. -/
theorem Along.suffix {P : σ → α → Prop} :
    ∀ {as bs : List α} {s t : σ}, Along step P s (as ++ bs) → run step s as = some t →
      Along step P t bs
  | [], _, _, _, hp, hr => Option.some.inj hr ▸ hp
  | _ :: _, _, _, _, hp, hr => by
      obtain ⟨u, hu, hr⟩ := run_cons hr
      exact Along.suffix (hp.2 u hu) hr

theorem Along.append {P : σ → α → Prop} :
    ∀ {as bs : List α} {s : σ}, Along step P s as →
      (∀ t, run step s as = some t → Along step P t bs) → Along step P s (as ++ bs)
  | [], _, s, _, h => h s rfl
  | a :: as, _, s, hp, h => by
      refine ⟨hp.1, ?_⟩
      intro t ht
      refine Along.append (hp.2 t ht) ?_
      intro u hu
      refine h u ?_
      rw [run, ht]
      exact hu

/-! ## Histories -/

/-- Some state that the run has been in, its first and its last included, meets `P`. -/
def Ever (step : σ → α → Option σ) (s : σ) (as : List α) (P : σ → Prop) : Prop :=
  ∃ bs cs t, as = bs ++ cs ∧ run step s bs = some t ∧ P t

theorem Ever.now {s t : σ} {as : List α} {P : σ → Prop} (hr : run step s as = some t) (h : P t) :
    Ever step s as P :=
  ⟨as, [], t, (List.append_nil as).symm, hr, h⟩

/-- What has been the case stays so. -/
theorem Ever.append {s : σ} {as : List α} {P : σ → Prop} (h : Ever step s as P) (cs : List α) :
    Ever step s (as ++ cs) P := by
  obtain ⟨bs, ds, t, has, hr, ht⟩ := h
  exact ⟨bs, ds ++ cs, t, by rw [has, List.append_assoc], hr, ht⟩

/-- Every state that the run is in, its first and its last included, meets `P`. -/
def Always (step : σ → α → Option σ) (s : σ) (as : List α) (P : σ → Prop) : Prop :=
  ∀ bs cs t, as = bs ++ cs → run step s bs = some t → P t

theorem always_iff_along {s : σ} {as : List α} {P : σ → Prop} :
    Always step s as P ↔ P s ∧ Along step (fun s a => ∀ t, step s a = some t → P t) s as := by
  induction as generalizing s with
  | nil =>
    constructor
    · intro h
      exact ⟨h [] [] s rfl rfl, trivial⟩
    · intro h bs cs t has hr
      obtain ⟨rfl, -⟩ := List.append_eq_nil_iff.mp has.symm
      exact Option.some.inj hr ▸ h.1
  | cons a as ih =>
    constructor
    · intro h
      refine ⟨h [] (a :: as) s rfl rfl, ?_, ?_⟩
      · intro t ht
        exact h [a] as t rfl (by rw [run, ht]; rfl)
      · intro t ht
        refine (ih.mp ?_).2
        intro bs cs u has hr
        exact h (a :: bs) cs u (by rw [has]; rfl) (by rw [run, ht]; exact hr)
    · intro ⟨hs, hnow, hrest⟩ bs cs t has hr
      cases bs with
      | nil => exact Option.some.inj hr ▸ hs
      | cons b bs =>
        obtain ⟨rfl, htail⟩ := List.cons.inj has
        obtain ⟨u, hu, hr⟩ := run_cons hr
        exact ih.mpr ⟨hnow u hu, hrest u hu⟩ bs cs t htail hr

/-- **The exactness rule.** If a step from a state with `I` leads to one with `P` exactly when it
meets `Q`, and `I` stays along such steps, `P` holds all along a run exactly when every step of it
meets `Q`. -/
theorem always_iff_of_step {P I : σ → Prop} {Q : σ → α → Prop} (hnow : ∀ s, I s → P s)
    (hiff : ∀ s a t, I s → step s a = some t → (P t ↔ Q s a))
    (hkeep : ∀ s a t, I s → Q s a → step s a = some t → I t) {as : List α} {s t : σ}
    (hi : I s) (hr : run step s as = some t) : Always step s as P ↔ Along step Q s as := by
  have hsame : Along step (fun s a => ∀ u, step s a = some u → P u) s as ↔ Along step Q s as := by
    refine along_iff_along ?_ (fun v a u hv _ hq hs => hkeep v a u hv hq hs) hi (along_of_run hr)
    intro v a hv ⟨u, hs⟩
    constructor
    · intro hp
      exact (hiff v a u hv hs).mp (hp u hs)
    · intro hq u' hs'
      exact (hiff v a u' hv hs').mpr hq
  rw [always_iff_along, hsame]
  exact and_iff_right (hnow s hi)

/-- The same for a condition that an action meets which is not enabled. -/
theorem always_iff_of_enabled {P I : σ → Prop} {Q : σ → α → Prop} (hnow : ∀ s, I s → P s)
    (hiff : ∀ s a, I s → ((∀ t, step s a = some t → P t) ↔ Q s a))
    (hkeep : ∀ s a t, I s → Q s a → step s a = some t → I t) {as : List α} {s : σ} (hi : I s) :
    Always step s as P ↔ Along step Q s as := by
  have hsame : Along step (fun s a => ∀ t, step s a = some t → P t) s as ↔ Along step Q s as :=
    along_iff_along (E := fun _ _ => True) (fun v a hv _ => hiff v a hv)
      (fun v a u hv _ hq hs => hkeep v a u hv hq hs) hi (along_of_mem fun _ _ _ => trivial)
  rw [always_iff_along, hsame]
  exact and_iff_right (hnow s hi)

/-- The same where a step that does not meet `Q` may also have no successor. -/
theorem run_and_always_iff {P I : σ → Prop} {Q : σ → α → Prop} (hnow : ∀ s, I s → P s)
    (hiff : ∀ s a, I s → ((∃ t, step s a = some t ∧ P t) ↔ Q s a))
    (hkeep : ∀ s a t, I s → Q s a → step s a = some t → I t) {as : List α} {s : σ} (hi : I s) :
    (∃ t, run step s as = some t) ∧ Always step s as P ↔ Along step Q s as := by
  have hsame : Along step (fun s a => ∃ t, step s a = some t ∧ P t) s as ↔ Along step Q s as :=
    along_iff_along (E := fun _ _ => True) (fun v a hv _ => hiff v a hv)
      (fun v a u hv _ hq hs => hkeep v a u hv hq hs) hi (along_of_mem fun _ _ _ => trivial)
  rw [← hsame]
  constructor
  · intro ⟨⟨t, hr⟩, halways⟩
    refine ((along_of_run hr).and (always_iff_along.mp halways).2).imp ?_
    intro v a ⟨⟨u, hs⟩, hp⟩
    exact ⟨u, hs, hp u hs⟩
  · intro halong
    obtain ⟨t, hr, -⟩ := run_total (I := fun _ => True)
      (fun v a _ h => h.imp fun _ hs => ⟨hs.1, trivial⟩) trivial halong
    refine ⟨⟨t, hr⟩, always_iff_along.mpr ⟨hnow s hi, halong.imp ?_⟩⟩
    intro v a ⟨u, hs, hp⟩ u' hs'
    rwa [← Option.some.inj (hs.symm.trans hs')]

theorem run_snoc {s t t' : σ} {as : List α} {a : α} (hr : run step s as = some t)
    (hs : step t a = some t') : run step s (as ++ [a]) = some t' := by
  rw [run_append, hr, Option.bind_some, run, hs]
  rfl

/-- **The history rule.** An invariant may speak of the run that led to the state. -/
theorem run_history {I : List α → σ → Prop} {s : σ} (hinit : I [] s)
    (hstep : ∀ as t a t', run step s as = some t → I as t → step t a = some t' →
      I (as ++ [a]) t') :
    ∀ {as : List α} {t : σ}, run step s as = some t → I as t := by
  intro as
  induction as using List.reverseRecOn with
  | nil =>
    intro t hr
    exact Option.some.inj hr ▸ hinit
  | append_singleton as a ih =>
    intro t hr
    rw [run_append] at hr
    obtain ⟨u, hu, ht⟩ := Option.bind_eq_some_iff.mp hr
    obtain ⟨v, hv, hv'⟩ := run_cons ht
    obtain rfl := Option.some.inj hv'
    exact hstep as u a v hu (ih hu) hv

/-- If some step of the run meets `P`, the last one that does meets `Q`. -/
def Last (step : σ → α → Option σ) (P Q : σ → α → Prop) (s : σ) (as : List α) : Prop :=
  ∀ bs a cs t, as = bs ++ a :: cs → run step s bs = some t → P t a →
    (∀ u, step t a = some u → Along step (fun v b => ¬ P v b) u cs) → Q t a

section Last

variable {P Q : σ → α → Prop} {s t t' : σ} {as : List α} {a : α}

theorem last_nil : Last step P Q s [] := by
  intro bs a cs t has
  exact absurd has (by simp)

theorem last_snoc (hr : run step s as = some t) (hp : P t a) :
    Last step P Q s (as ++ [a]) ↔ Q t a := by
  constructor
  · intro h
    exact h as a [] t rfl hr hp fun _ _ => trivial
  · intro hq bs b cs u has hu hb hrest
    rcases List.eq_nil_or_concat cs with rfl | ⟨cs, c, rfl⟩
    · obtain ⟨rfl, hab⟩ := List.append_inj' has rfl
      obtain rfl := List.singleton_inj.mp hab
      obtain rfl := Option.some.inj (hr.symm.trans hu)
      exact hq
    · -- the step at the end of the run would come after the last one
      rw [List.concat_eq_append, ← List.cons_append, ← List.append_assoc] at has
      obtain ⟨rfl, hac⟩ := List.append_inj' has rfl
      obtain rfl := List.singleton_inj.mp hac
      rw [run_append, hu, Option.bind_some] at hr
      obtain ⟨v, hv, hr⟩ := run_cons hr
      have halong := hrest v hv
      rw [List.concat_eq_append] at halong
      exact absurd hp (halong.suffix hr).1

theorem last_snoc_of_not (hr : run step s as = some t) (hp : ¬ P t a) :
    Last step P Q s (as ++ [a]) ↔ Last step P Q s as := by
  constructor
  · intro h bs b cs u has hu hb hrest
    refine h bs b (cs ++ [a]) u (by rw [has]; simp) hu hb ?_
    intro v hv
    refine (hrest v hv).append ?_
    intro t' ht'
    have hsame : t' = t := by
      rw [has, run_append, hu, Option.bind_some, run, hv] at hr
      exact Option.some.inj (ht'.symm.trans hr)
    exact ⟨hsame ▸ hp, fun _ _ => trivial⟩
  · intro h bs b cs u has hu hb hrest
    rcases List.eq_nil_or_concat cs with rfl | ⟨cs, c, rfl⟩
    · obtain ⟨rfl, hab⟩ := List.append_inj' has rfl
      obtain rfl := List.singleton_inj.mp hab
      obtain rfl := Option.some.inj (hr.symm.trans hu)
      exact absurd hb hp
    · rw [List.concat_eq_append, ← List.cons_append, ← List.append_assoc] at has
      obtain ⟨rfl, hac⟩ := List.append_inj' has rfl
      refine h bs b cs u rfl hu hb ?_
      intro v hv
      have halong := hrest v hv
      rw [List.concat_eq_append] at halong
      exact halong.prefix

end Last

end IviLink.Lib
