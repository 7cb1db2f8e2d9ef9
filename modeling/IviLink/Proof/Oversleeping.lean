import IviLink.Utils.TimeoutManager
import Mathlib.Tactic.Common

/-!
# When the worker of a timeout manager oversleeps

`addSubscriber` signals when the map was empty before. That is enough for a worker
that sleeps for good, but a worker that sleeps until the first subscriber is due is
not woken for one that is due earlier: the test for this case asks again whether
the map was empty. `removeSubscriber` signals more often than it has to.

The map is ordered (`Sorted`), so a worker that goes to sleep takes the time of the
first element. From then on only `addSubscriber` can put something before it.
-/

namespace IviLink.Utils.TimeoutManager

open IviLink.Lib

variable {m m' : TimeoutManager} {e : Event} {logsInfo : Bool}

/-! ## The map -/

/-- The elements are ordered by their keys. -/
def Sorted (l : List (Int × Subscriber)) : Prop := l.Pairwise fun x y => x.1 ≤ y.1

theorem mem_insert {x y : Int × Subscriber} {l : List (Int × Subscriber)} :
    y ∈ insert x l ↔ y = x ∨ y ∈ l := by
  induction l with
  | nil => simp [insert]
  | cons z zs ih =>
    rw [insert]
    split
    · exact List.mem_cons
    · rw [List.mem_cons, ih, List.mem_cons]
      exact or_left_comm

theorem sorted_insert {x : Int × Subscriber} {l : List (Int × Subscriber)} (h : Sorted l) :
    Sorted (insert x l) := by
  induction l with
  | nil => exact List.pairwise_singleton ..
  | cons z zs ih =>
    obtain ⟨hz, hzs⟩ := List.pairwise_cons.mp h
    rw [insert]
    split
    · next hlt =>
      refine List.pairwise_cons.mpr ⟨?_, h⟩
      intro y hy
      rcases List.mem_cons.mp hy with rfl | hy
      · exact Int.le_of_lt hlt
      · exact Int.le_trans (Int.le_of_lt hlt) (hz y hy)
    · next hge =>
      refine List.pairwise_cons.mpr ⟨?_, ih hzs⟩
      intro y hy
      rcases mem_insert.mp hy with rfl | hy
      · exact Int.not_lt.mp hge
      · exact hz y hy

/-! ## Asleep -/

theorem not_asleep_of_worker {deadline : Option Int} (h : ∀ d, m.worker ≠ .waiting d) :
    ¬ m.Asleep deadline :=
  fun ha => h deadline ha.1

/-- A worker that does not wait, or is about to be woken, is punctual. -/
theorem punctual_of_awake (hawake : ∀ deadline, ¬ m.Asleep deadline)
    (htouched : m.touchedEmpty = false) : m.Punctual where
  forGood := fun ha => absurd ha (hawake none)
  timed := fun deadline ha => absurd ha (hawake (some deadline))
  untouched := htouched

/-- After `needReSetTimer` the worker sleeps only if it did and nobody has to signal. -/
theorem asleep_needReSetTimer {b : Bool} {deadline : Option Int}
    (h : (m.needReSetTimer b).Asleep deadline) : b = false ∧ m.Asleep deadline := by
  obtain ⟨hworker, hsem, hsignalling⟩ := h
  have hsum : m.signalling + b.toNat = 0 := hsignalling
  refine ⟨?_, hworker, hsem, by omega⟩
  cases b with
  | false => rfl
  | true => simp at hsum

/-- It is enough to look at whether the map was empty: the other test asks for the same. -/
theorem addSubscriber_eq (subscriber : Subscriber) (curTime : Int) (ms : UInt32) :
    m.addSubscriber subscriber curTime ms =
      ({ m with mSubscriberMap := insert (curTime + ms.toNat, subscriber) m.mSubscriberMap }
        ).needReSetTimer m.mSubscriberMap.isEmpty := by
  unfold addSubscriber
  cases m.mSubscriberMap.isEmpty <;> simp

/-! ## One step -/

/-- What holds in every state of a run that meets the condition. -/
structure Orderly (m : TimeoutManager) : Prop where
  sorted : Sorted m.mSubscriberMap
  punctual : m.Punctual

theorem Orderly.init : Orderly .init where
  sorted := List.Pairwise.nil
  punctual := punctual_of_awake (fun _ => not_asleep_of_worker fun _ => Worker.noConfusion) rfl

theorem sorted_step (h : Sorted m.mSubscriberMap) (hs : step logsInfo m e = some m') :
    Sorted m'.mSubscriberMap := by
  cases e with
  | addSubscriber subscriber curTime ms =>
    cases hs
    exact sorted_insert h
  | removeSubscriber subscriber =>
    cases hs
    exact h.sublist List.eraseP_sublist
  | processTopTimeout =>
    rw [step] at hs
    split at hs
    · cases hs
      unfold processTopTimeout
      split
      · exact h
      · next hmap =>
        split
        · exact h
        · rw [hmap] at h
          exact (List.pairwise_cons.mp h).2
    · cases hs
  | smartWait now =>
    rw [step] at hs
    split at hs
    · cases hs
      unfold smartWait
      split <;> exact h
    · cases hs
  | finish =>
    cases hs
    exact h
  | signal | processTimeout _ | wakeUp | timedOut =>
    rw [step] at hs
    split at hs <;> cases hs
    exact h

theorem punctual_addSubscriber (h : m.Orderly) (subscriber : Subscriber) {curTime : Int}
    {ms : UInt32} :
    (m.addSubscriber subscriber curTime ms).Punctual ↔
      InTime logsInfo m (.addSubscriber subscriber curTime ms) := by
  rw [addSubscriber_eq]
  constructor
  · intro hp deadline hasleep hmap
    have hempty : m.mSubscriberMap.isEmpty = false := by
      rw [List.isEmpty_eq_false_iff]
      exact hmap
    rw [hempty] at hp
    exact hp.timed deadline hasleep _ (mem_insert.mpr (Or.inl rfl))
  · intro hin
    constructor
    case forGood =>
      intro hasleep
      obtain ⟨hempty, hasleep⟩ := asleep_needReSetTimer hasleep
      rw [List.isEmpty_eq_false_iff] at hempty
      exact absurd (h.punctual.forGood hasleep) hempty
    case timed =>
      intro deadline hasleep x hx
      obtain ⟨hempty, hasleep⟩ := asleep_needReSetTimer hasleep
      rw [List.isEmpty_eq_false_iff] at hempty
      rcases mem_insert.mp hx with rfl | hx
      · exact hin deadline hasleep hempty
      · exact h.punctual.timed deadline hasleep x hx
    case untouched => exact h.punctual.untouched

theorem punctual_removeSubscriber (h : m.Orderly) (subscriber : Subscriber) :
    (m.removeSubscriber subscriber).Punctual where
  forGood := by
    intro hasleep
    obtain ⟨hb, hasleep⟩ := asleep_needReSetTimer hasleep
    rw [Bool.or_eq_false_iff] at hb
    exact absurd (h.punctual.forGood hasleep) (List.isEmpty_eq_false_iff.mp hb.1)
  timed := by
    intro deadline hasleep x hx
    obtain ⟨-, hasleep⟩ := asleep_needReSetTimer hasleep
    exact h.punctual.timed deadline hasleep x (List.mem_of_mem_eraseP hx)
  untouched := h.punctual.untouched

theorem punctual_processTopTimeout (h : m.Orderly) {now : Int} (hw : m.worker = .processing now) :
    (processTopTimeout logsInfo m now).Punctual ↔ InTime logsInfo m .processTopTimeout := by
  have hawake : ∀ deadline, ¬ (processTopTimeout logsInfo m now).Asleep deadline := by
    intro deadline
    refine not_asleep_of_worker fun d => ?_
    unfold processTopTimeout
    split
    · exact Worker.noConfusion
    · split
      · exact Worker.noConfusion
      · exact fun heq => Worker.noConfusion (hw.symm.trans heq)
  constructor
  · intro hp _ _ hlogs hmap
    have htouched := hp.untouched
    rw [processTopTimeout, hmap, hlogs, Bool.or_true] at htouched
    cases htouched
  · intro hin
    refine punctual_of_awake hawake ?_
    unfold processTopTimeout
    split
    · next hmap =>
      have hlogs : logsInfo = false := by
        rw [← Bool.not_eq_true]
        exact fun hlogs => hin now hw hlogs hmap
      simp only [hlogs, Bool.or_false]
      exact h.punctual.untouched
    · split <;> exact h.punctual.untouched

theorem punctual_smartWait (h : m.Orderly) (now : Int) : (m.smartWait now).Punctual := by
  unfold smartWait
  split
  · next hmap =>
    exact
      { forGood := fun _ => hmap
        timed := fun deadline hasleep => absurd hasleep.1 (by simp)
        untouched := h.punctual.untouched }
  · next x rest hmap =>
    split
    · constructor
      case forGood => exact fun hasleep => absurd hasleep.1 (by simp)
      case timed =>
        intro deadline hasleep y hy
        obtain rfl := Option.some.inj (Worker.waiting.inj hasleep.1)
        -- the first element is due first
        have hsorted := h.sorted
        have hy : y ∈ m.mSubscriberMap := hy
        rw [hmap] at hsorted hy
        rcases List.mem_cons.mp hy with rfl | hy
        · exact Int.le_refl _
        · exact (List.pairwise_cons.mp hsorted).1 y hy
      case untouched => exact h.punctual.untouched
    · exact punctual_of_awake (fun _ => not_asleep_of_worker fun _ => Worker.noConfusion)
        h.punctual.untouched

/-- **A step leaves the worker punctual exactly if it meets the condition.** -/
theorem punctual_step_iff (h : m.Orderly) :
    (∀ m', step logsInfo m e = some m' → m'.Punctual) ↔ InTime logsInfo m e := by
  cases e with
  | addSubscriber subscriber curTime ms =>
    rw [← punctual_addSubscriber h subscriber]
    exact ⟨fun hp => hp _ rfl, fun hp m' hs => Option.some.inj hs ▸ hp⟩
  | processTopTimeout =>
    cases hw : m.worker with
    | processing now =>
      have hstep : step logsInfo m .processTopTimeout = some (processTopTimeout logsInfo m now) := by
        rw [step, hw]
      rw [← punctual_processTopTimeout h hw, hstep]
      exact ⟨fun hp => hp _ rfl, fun hp m' hs => Option.some.inj hs ▸ hp⟩
    | looping | smartWait | waiting _ | stopped => simp [step, InTime, hw]
  | removeSubscriber subscriber =>
    refine ⟨fun _ => trivial, fun _ m' hs => ?_⟩
    cases hs
    exact punctual_removeSubscriber h subscriber
  | smartWait now =>
    refine ⟨fun _ => trivial, fun _ m' hs => ?_⟩
    rw [step] at hs
    split at hs <;> cases hs
    exact punctual_smartWait h now
  | signal =>
    refine ⟨fun _ => trivial, fun _ m' hs => ?_⟩
    rw [step] at hs
    split at hs <;> cases hs
    exact punctual_of_awake (fun _ hasleep => Nat.succ_ne_zero _ hasleep.2.1) h.punctual.untouched
  | finish =>
    refine ⟨fun _ => trivial, fun _ m' hs => ?_⟩
    cases hs
    exact punctual_of_awake (fun _ hasleep => Nat.succ_ne_zero _ hasleep.2.1) h.punctual.untouched
  | processTimeout now =>
    refine ⟨fun _ => trivial, fun _ m' hs => ?_⟩
    rw [step] at hs
    split at hs <;> cases hs
    refine punctual_of_awake (fun _ => not_asleep_of_worker fun _ => ?_) h.punctual.untouched
    dsimp only
    split <;> exact Worker.noConfusion
  | wakeUp | timedOut =>
    refine ⟨fun _ => trivial, fun _ m' hs => ?_⟩
    rw [step] at hs
    split at hs <;> cases hs
    exact punctual_of_awake (fun _ => not_asleep_of_worker fun _ => Worker.noConfusion)
      h.punctual.untouched

/-- The worker is punctual after every step of the run. -/
abbrev StaysPunctual (logsInfo : Bool) (es : List Event) : Prop :=
  Along (step logsInfo) (fun m e => ∀ m', step logsInfo m e = some m' → m'.Punctual) .init es

/-- **The worker never oversleeps, and never reads from an empty map, exactly along the runs whose
steps all meet the condition**, for any sequence of subscribers added and removed with any timeouts
at any moments of the worker. -/
theorem staysPunctual_iff (logsInfo : Bool) (es : List Event) :
    StaysPunctual logsInfo es ↔ Along (step logsInfo) (InTime logsInfo) .init es :=
  along_iff_along (E := fun _ _ => True) (I := Orderly)
    (fun _ _ h _ => punctual_step_iff h)
    (fun _ _ _ h _ hin hs => ⟨sorted_step h.sorted hs, (punctual_step_iff h).mpr hin _ hs⟩)
    Orderly.init (along_of_mem fun _ _ _ => trivial)

/-- The worker goes to sleep until 1000. -/
def sleeping : List Event :=
  [.addSubscriber 1 0 1000, .signal, .processTimeout 0, .processTopTimeout, .smartWait 0, .wakeUp,
    .processTimeout 0, .processTopTimeout, .smartWait 0]

/-- A subscriber that is due at 10 does not wake it. And where lines of level INFO are logged, a
worker that starts without subscribers looks for the first one. -/
theorem oversleeps :
    run (step false) .init (sleeping ++ [.addSubscriber 2 0 10])
        = some ⟨[(10, 2), (1000, 1)], 0, true, [], .waiting (some 1000), 0, false⟩
      ∧ run (step true) .init [.processTimeout 0, .processTopTimeout]
        = some ⟨[], 0, true, [], .smartWait, 0, true⟩
      ∧ (¬ ∀ es, StaysPunctual false es) ∧ ¬ ∀ es, StaysPunctual true es := by
  refine ⟨rfl, rfl, ?_, ?_⟩
  · intro h
    have hlast := (Along.suffix (h (sleeping ++ [.addSubscriber 2 0 10])) rfl).1 _ rfl
    have hle := hlast.timed 1000 (by decide) (10, 2) (by decide)
    revert hle
    decide
  · intro h
    have htouched := ((h [.processTimeout 0, .processTopTimeout]).2 _ rfl).1 _ rfl |>.untouched
    revert htouched
    decide

end IviLink.Utils.TimeoutManager
