import IviLink.Lib.Census
import IviLink.Utils.CThreadPool
import Mathlib.Data.List.Perm.Basic
import Mathlib.Tactic.Common

/-!
# The thread pool runs every job once, and ends

The queue is as long as there are workers on their way to it and tokens that will wake one. A job
that a worker has taken is begun and finished by that worker, but two workers may begin theirs in
any order. When the pool is destroyed the queue and the tokens are no longer tied to each other;
then there are at least as many tokens, those to come included, as workers that wait.
-/

namespace IviLink.Utils.CThreadPool

open IviLink.Lib
open scoped List

variable {p p' : CThreadPool} {i : Nat} {w : CWorkerThread}

/-! ## The jobs -/

structure Jobs (p : CThreadPool) : Prop where
  inOrder : p.destructor = .notCalled → p.taken ++ p.mJobQueue = p.added
  started : (p.started ++ p.held).Perm p.taken
  finished : (p.finished ++ p.performing).Perm p.started
  oneWorker : p.mThreadsQueue.length = 1 → p.started ++ p.held = p.taken
    ∧ p.finished ++ p.performing = p.started

/-- A step that leaves what the workers have, and the jobs of which something has become. -/
theorem Jobs.frame (hj : p.Jobs)
    (hqueue : p'.destructor = .notCalled →
      p.destructor = .notCalled ∧ p'.taken ++ p'.mJobQueue = p.taken ++ p.mJobQueue
        ∧ p'.added = p.added)
    (hheld : p'.held = p.held) (hperforming : p'.performing = p.performing)
    (hlength : p'.mThreadsQueue.length = p.mThreadsQueue.length) (htaken : p'.taken = p.taken)
    (hstarted : p'.started = p.started) (hfinished : p'.finished = p.finished) : p'.Jobs where
  inOrder := by
    intro hcall
    obtain ⟨hcall, hsame, hadded⟩ := hqueue hcall
    rw [hsame, hadded]
    exact hj.inOrder hcall
  started := by
    rw [hstarted, hheld, htaken]
    exact hj.started
  finished := by
    rw [hfinished, hperforming, hstarted]
    exact hj.finished
  oneWorker := by
    rw [hlength, hstarted, hheld, htaken, hfinished, hperforming]
    exact hj.oneWorker

theorem held_move (hw : p.mThreadsQueue[i]? = some w) {place : Place}
    (hplace : place.held = w.place.held) : (p.move i w place).held = p.held := by
  obtain ⟨front, back, hheld, hset, -⟩ := filterMap_split (fun w : CWorkerThread => w.place.held) hw
  rw [held, held, hheld, move, hset, hplace]

theorem performing_move (hw : p.mThreadsQueue[i]? = some w) {place : Place}
    (hplace : place.performed = w.place.performed) :
    (p.move i w place).performing = p.performing := by
  obtain ⟨front, back, hperf, hset, -⟩ :=
    filterMap_split (fun w : CWorkerThread => w.place.performed) hw
  rw [performing, performing, hperf, move, hset, hplace]

/-- A worker that has no job before and after the step. -/
theorem Jobs.move (hj : p.Jobs) (hw : p.mThreadsQueue[i]? = some w) {place : Place}
    (hheld : place.held = w.place.held) (hperf : place.performed = w.place.performed) :
    (p.move i w place).Jobs :=
  hj.frame (fun hcall => ⟨hcall, rfl, rfl⟩) (held_move hw hheld) (performing_move hw hperf)
    List.length_set rfl rfl rfl

/-- The jobs that the workers hold, and the one of them that worker `i` has or comes to have. -/
theorem held_split (hw : p.mThreadsQueue[i]? = some w) :
    ∃ front back, p.held = front ++ w.place.held.toList ++ back
      ∧ (∀ place, (p.move i w place).held = front ++ place.held.toList ++ back)
      ∧ (p.mThreadsQueue.length = 1 → front = [] ∧ back = []) := by
  obtain ⟨front, back, hheld, hset, hone⟩ :=
    filterMap_split (fun w : CWorkerThread => w.place.held) hw
  exact ⟨front, back, hheld, fun place => hset { w with place := place }, hone⟩

theorem performing_split (hw : p.mThreadsQueue[i]? = some w) :
    ∃ front back, p.performing = front ++ w.place.performed.toList ++ back
      ∧ (∀ place, (p.move i w place).performing = front ++ place.performed.toList ++ back)
      ∧ (p.mThreadsQueue.length = 1 → front = [] ∧ back = []) := by
  obtain ⟨front, back, hperf, hset, hone⟩ :=
    filterMap_split (fun w : CWorkerThread => w.place.performed) hw
  exact ⟨front, back, hperf, fun place => hset { w with place := place }, hone⟩

/-- What a worker has that is the only one. -/
theorem only_worker (hw : p.mThreadsQueue[i]? = some w) (hlength : p.mThreadsQueue.length = 1) :
    p.held = w.place.held.toList ∧ p.performing = w.place.performed.toList
      ∧ ∀ place, (p.move i w place).held = place.held.toList
        ∧ (p.move i w place).performing = place.performed.toList := by
  obtain ⟨front, back, hheld, hset, hone⟩ := held_split hw
  obtain ⟨front', back', hperf, hset', hone'⟩ := performing_split hw
  obtain ⟨rfl, rfl⟩ := hone hlength
  obtain ⟨rfl, rfl⟩ := hone' hlength
  simp only [List.nil_append, List.append_nil] at hheld hperf hset hset'
  exact ⟨hheld, hperf, fun place => ⟨hset place, hset' place⟩⟩

theorem perm_insert {job : CThreadPoolJob} {l front back m : List CThreadPoolJob}
    (h : (l ++ (front ++ back)).Perm m) : (l ++ (front ++ [job] ++ back)).Perm (m ++ [job]) := by
  calc
    l ++ (front ++ [job] ++ back) ~ l ++ (job :: (front ++ back)) := by
      rw [List.append_assoc, List.singleton_append]
      exact List.perm_middle.append_left l
    _ ~ job :: (l ++ (front ++ back)) := List.perm_middle
    _ ~ job :: m := h.cons job
    _ ~ m ++ [job] := (List.perm_append_singleton job m).symm

theorem perm_remove {job : CThreadPoolJob} {l front back m : List CThreadPoolJob}
    (h : (l ++ (front ++ [job] ++ back)).Perm m) : (l ++ [job] ++ (front ++ back)).Perm m := by
  refine List.Perm.trans ?_ h
  rw [List.append_assoc, List.append_assoc front, List.singleton_append, List.singleton_append]
  exact List.perm_middle.symm.append_left l

theorem Jobs.pop (hj : p.Jobs) (hw : p.mThreadsQueue[i]? = some w) (hplace : w.place = .popping)
    {job : CThreadPoolJob} {rest : List CThreadPoolJob} (hqueue : p.mJobQueue = job :: rest) :
    { p.move i w (.holding job) with
      mJobQueue := rest
      taken := p.taken ++ [job] : CThreadPool }.Jobs := by
  obtain ⟨front, back, hheld, hset, -⟩ := held_split hw
  rw [hplace] at hheld
  constructor
  · intro hcall
    have hall := hj.inOrder hcall
    rw [hqueue] at hall
    exact (List.append_assoc ..).trans hall
  · have hold := hj.started
    simp only [hheld, Place.held, Option.toList_none, List.append_nil] at hold
    exact (hset (.holding job)).symm ▸ perm_insert hold
  · have hperf : (p.move i w (.holding job)).performing = p.performing :=
      performing_move hw (by rw [hplace]; rfl)
    exact hperf.symm ▸ hj.finished
  · intro hlength
    have hlength : p.mThreadsQueue.length = 1 := List.length_set.symm.trans hlength
    obtain ⟨hnone, hidle, hmove⟩ := only_worker hw hlength
    obtain ⟨hstarted, hfinished⟩ := hj.oneWorker hlength
    rw [hnone, hplace] at hstarted
    rw [hidle, hplace] at hfinished
    refine ⟨?_, ?_⟩
    · exact (hmove (.holding job)).1 ▸ congrArg (· ++ [job]) ((List.append_nil _).symm.trans hstarted)
    · exact (hmove (.holding job)).2 ▸ hfinished

theorem Jobs.begin (hj : p.Jobs) (hw : p.mThreadsQueue[i]? = some w) {job : CThreadPoolJob}
    (hplace : w.place = .holding job) :
    { p.move i w (.performing job) with started := p.started ++ [job] : CThreadPool }.Jobs := by
  obtain ⟨front, back, hheld, hset, -⟩ := held_split hw
  obtain ⟨front', back', hperf, hset', -⟩ := performing_split hw
  rw [hplace] at hheld hperf
  constructor
  · exact hj.inOrder
  · have hold := hj.started
    rw [hheld] at hold
    refine List.Perm.trans ?_ (perm_remove hold)
    exact .of_eq (congrArg _ ((hset (.performing job)).trans (by simp [Place.held])))
  · have hold := hj.finished
    simp only [hperf, Place.performed, Option.toList_none, List.append_nil] at hold
    exact (hset' (.performing job)).symm ▸ perm_insert hold
  · intro hlength
    have hlength : p.mThreadsQueue.length = 1 := List.length_set.symm.trans hlength
    obtain ⟨honly, hidle, hmove⟩ := only_worker hw hlength
    obtain ⟨hstarted, hfinished⟩ := hj.oneWorker hlength
    rw [honly, hplace] at hstarted
    rw [hidle, hplace] at hfinished
    refine ⟨?_, ?_⟩
    · exact (hmove (.performing job)).1 ▸ (List.append_nil _).trans hstarted
    · exact (hmove (.performing job)).2 ▸
        congrArg (· ++ [job]) ((List.append_nil _).symm.trans hfinished)

theorem Jobs.finish (hj : p.Jobs) (hw : p.mThreadsQueue[i]? = some w) {job : CThreadPoolJob}
    (hplace : w.place = .performing job) :
    { p.move i w .testing with finished := p.finished ++ [job] : CThreadPool }.Jobs := by
  obtain ⟨front, back, hperf, hset, -⟩ := performing_split hw
  rw [hplace] at hperf
  constructor
  · exact hj.inOrder
  · have hheld : (p.move i w .testing).held = p.held := held_move hw (by rw [hplace]; rfl)
    exact hheld.symm ▸ hj.started
  · have hold := hj.finished
    rw [hperf] at hold
    refine List.Perm.trans ?_ (perm_remove hold)
    exact .of_eq (congrArg _ ((hset .testing).trans (by simp [Place.performed])))
  · intro hlength
    have hlength : p.mThreadsQueue.length = 1 := List.length_set.symm.trans hlength
    obtain ⟨honly, hidle, hmove⟩ := only_worker hw hlength
    obtain ⟨hstarted, hfinished⟩ := hj.oneWorker hlength
    rw [honly, hplace] at hstarted
    rw [hidle, hplace] at hfinished
    refine ⟨?_, ?_⟩
    · exact (hmove .testing).1 ▸ hstarted
    · exact (hmove .testing).2 ▸ (List.append_nil _).trans hfinished

theorem jobs_threadFunc (hj : p.Jobs) (hw : p.mThreadsQueue[i]? = some w)
    (hs : p.threadFunc i w = some p') : p'.Jobs := by
  rw [threadFunc] at hs
  split at hs
  · next hplace =>
    obtain rfl := Option.some.inj hs
    refine hj.move hw ?_ ?_ <;> rw [hplace] <;> split <;> rfl
  · next hplace =>
    obtain ⟨s, -, rfl⟩ := Option.map_eq_some_iff.mp hs
    have hmove : (p.move i w .woken).Jobs :=
      hj.move hw (by rw [hplace]; rfl) (by rw [hplace]; rfl)
    exact hmove.frame (fun hcall => ⟨hcall, rfl, rfl⟩) rfl rfl rfl rfl rfl rfl
  · next hplace =>
    obtain rfl := Option.some.inj hs
    refine hj.move hw ?_ ?_ <;> rw [hplace] <;> split <;> rfl
  · next hplace =>
    split at hs
    · obtain rfl := Option.some.inj hs
      exact hj.move hw (by rw [hplace]; rfl) (by rw [hplace]; rfl)
    · next hqueue =>
      obtain rfl := Option.some.inj hs
      exact hj.pop hw hplace hqueue
  · next hplace =>
    obtain rfl := Option.some.inj hs
    exact hj.begin hw hplace
  · next hplace =>
    obtain rfl := Option.some.inj hs
    exact hj.finish hw hplace
  · cases hs

theorem jobs_init (num_threads : UInt32) : (init num_threads).Jobs := by
  have hheld : (init num_threads).held = [] :=
    List.filterMap_eq_nil_iff.mpr fun w hw => List.eq_of_mem_replicate hw ▸ rfl
  have hperf : (init num_threads).performing = [] :=
    List.filterMap_eq_nil_iff.mpr fun w hw => List.eq_of_mem_replicate hw ▸ rfl
  constructor
  · exact fun _ => rfl
  · exact .of_eq (hheld ▸ rfl)
  · exact .of_eq (hperf ▸ rfl)
  · exact fun _ => ⟨hheld ▸ rfl, hperf ▸ rfl⟩

/-- A stop flag that is set changes nothing for the jobs. -/
theorem Jobs.setStopFlag (hj : p.Jobs) (hw : p.mThreadsQueue[i]? = some w)
    (hcall : p'.destructor ≠ .notCalled)
    (hworkers : p'.mThreadsQueue = p.mThreadsQueue.set i { w with mStopFlag := true })
    (htaken : p'.taken = p.taken) (hstarted : p'.started = p.started)
    (hfinished : p'.finished = p.finished) : p'.Jobs := by
  refine hj.frame (fun hnot => absurd hnot hcall) ?_ ?_ ?_ htaken hstarted hfinished
  · obtain ⟨front, back, hheld, hset, -⟩ :=
      filterMap_split (fun w : CWorkerThread => w.place.held) hw
    rw [held, held, hworkers, hset, hheld]
  · obtain ⟨front, back, hperf, hset, -⟩ :=
      filterMap_split (fun w : CWorkerThread => w.place.performed) hw
    rw [performing, performing, hworkers, hset, hperf]
  · rw [hworkers, List.length_set]

theorem jobs_continueDestructor (hj : p.Jobs) (hs : p.continueDestructor = some p') : p'.Jobs := by
  have hsame : ∀ {p' : CThreadPool}, p'.destructor ≠ .notCalled →
      p'.mThreadsQueue = p.mThreadsQueue → p'.taken = p.taken → p'.started = p.started →
      p'.finished = p.finished → p'.Jobs := by
    intro p' hcall hworkers htaken hstarted hfinished
    exact hj.frame (fun hnot => absurd hnot hcall) (by rw [held, held, hworkers])
      (by rw [performing, performing, hworkers]) (by rw [hworkers]) htaken hstarted hfinished
  rw [continueDestructor] at hs
  split at hs
  · cases hs
  · split at hs
    · cases hs
      exact hsame Destructor.noConfusion rfl rfl rfl rfl
    · next hw =>
      cases hs
      exact hj.setStopFlag hw Destructor.noConfusion rfl rfl rfl rfl
  · split at hs <;> cases hs <;> exact hsame Destructor.noConfusion rfl rfl rfl rfl
  · split at hs
    · cases hs
      exact hsame Destructor.noConfusion rfl rfl rfl rfl
    · split at hs <;> cases hs
      exact hsame Destructor.noConfusion rfl rfl rfl rfl
  · cases hs

theorem jobs_step {s : Step} (hj : p.Jobs) (hs : p.step s = some p') : p'.Jobs := by
  cases s with
  | addJob job =>
    obtain rfl := Option.some.inj hs
    refine ⟨?_, hj.started, hj.finished, hj.oneWorker⟩
    intro hcall
    exact (List.append_assoc ..).symm.trans (congrArg (· ++ [job]) (hj.inOrder hcall))
  | signal =>
    obtain ⟨s, -, rfl⟩ := Option.map_eq_some_iff.mp hs
    exact ⟨hj.inOrder, hj.started, hj.finished, hj.oneWorker⟩
  | worker i =>
    rw [step] at hs
    split at hs
    · cases hs
    · next hw => exact jobs_threadFunc hj hw hs
  | destroy =>
    rw [step] at hs
    split at hs <;> cases hs
    exact ⟨fun hcall => Destructor.noConfusion hcall, hj.started, hj.finished, hj.oneWorker⟩
  | destructor => exact jobs_continueDestructor hj hs

/-! ## The tokens -/

/-- How many workers have got their stop flags from the destructor. -/
def Destructor.flagged (workers : Nat) : Destructor → Nat
  | .notCalled => 0
  | .setting next => next
  | .signalling _ | .deleting _ | .done => workers

/-- The signals that the destructor has still to give. -/
def Destructor.toSignal (workers : Nat) : Destructor → Nat
  | .notCalled | .setting _ => workers
  | .signalling next => workers - next
  | .deleting _ | .done => 0

def Destructor.joined (workers : Nat) : Destructor → Nat
  | .deleting next => next
  | .done => workers
  | .notCalled | .setting _ | .signalling _ => 0

def Place.waits : Place → Bool
  | .waiting => true
  | _ => false

structure Tokens (p : CThreadPool) : Prop where
  counts : p.destructor = .notCalled →
    p.mJobQueue.length = p.awakened + p.mAvailableJobs.tokens
  running : p.destructor = .notCalled →
    ∀ w ∈ p.mThreadsQueue, w.mStopFlag = false ∧ w.place ≠ .ended
  flags : ∀ i w, p.mThreadsQueue[i]? = some w →
    i < p.destructor.flagged p.mThreadsQueue.length → w.mStopFlag = true
  waits : p.mThreadsQueue.countP (·.place.waits)
    ≤ p.mAvailableJobs.value + p.destructor.toSignal p.mThreadsQueue.length
  joined : ∀ i w, p.mThreadsQueue[i]? = some w →
    i < p.destructor.joined p.mThreadsQueue.length → w.place = .ended

theorem tokens_init (num_threads : UInt32) : (init num_threads).Tokens where
  counts := by
    intro _
    have hnone : (init num_threads).awakened = 0 :=
      List.countP_eq_zero.mpr fun w hw => List.eq_of_mem_replicate hw ▸ Bool.false_ne_true
    rw [hnone]
    rfl
  running := by
    intro _ w hw
    rw [List.eq_of_mem_replicate hw]
    exact ⟨rfl, Place.noConfusion⟩
  flags := fun _ _ _ hi => absurd hi (Nat.not_lt_zero _)
  waits := Nat.le_trans List.countP_le_length (Nat.le_add_left _ _)
  joined := fun _ _ _ hi => absurd hi (Nat.not_lt_zero _)

/-- Until the flags are all set, there is still a signal to come for every worker. -/
theorem toSignal_or_flagged (d : Destructor) (workers : Nat) :
    d.toSignal workers = workers ∨ d.flagged workers = workers := by
  cases d with
  | notCalled | setting _ => exact .inl rfl
  | signalling _ | deleting _ | done => exact .inr rfl

/-- What a step of worker `i` does beside the jobs. -/
structure Moves (p p' : CThreadPool) (i : Nat) (w : CWorkerThread) (place : Place) : Prop where
  running : w.place ≠ .ended
  workers : p'.mThreadsQueue = p.mThreadsQueue.set i { w with place := place }
  destructor : p'.destructor = p.destructor
  wakes : w.place = .waiting ∧ place = .woken
      ∧ p.mAvailableJobs.wait = some p'.mAvailableJobs
    ∨ w.place.waits = false ∧ place.rank < w.place.rank
      ∧ p'.mAvailableJobs = p.mAvailableJobs
  goesOn : w.mStopFlag = false → place ≠ .ended
  ends : w.mStopFlag = true → place.waits = false

theorem threadFunc_moves (hs : p.threadFunc i w = some p') : ∃ place, p.Moves p' i w place := by
  -- every step but the wait comes nearer to the next wait
  have hfalls : ∀ {place place' : Place}, w.place = place → place.waits = false →
      place'.rank < place.rank → p'.mAvailableJobs = p.mAvailableJobs →
      w.place.waits = false ∧ place'.rank < w.place.rank
        ∧ p'.mAvailableJobs = p.mAvailableJobs :=
    fun hplace hwaits hrank hsame => ⟨hplace ▸ hwaits, hplace ▸ hrank, hsame⟩
  rw [threadFunc] at hs
  split at hs
  · next hplace =>
    obtain rfl := Option.some.inj hs
    cases hflag : w.mStopFlag with
    | true =>
      exact ⟨.ended, hplace ▸ Place.noConfusion, rfl, rfl,
        .inr (hfalls hplace rfl Nat.zero_lt_one rfl),
        fun hnot => absurd (hflag.symm.trans hnot) (by simp), fun _ => rfl⟩
    | false =>
      exact ⟨.waiting, hplace ▸ Place.noConfusion, rfl, rfl,
        .inr (hfalls hplace rfl Nat.zero_lt_one rfl), fun _ => Place.noConfusion,
        fun hset => absurd (hflag.symm.trans hset) (by simp)⟩
  · next hplace =>
    obtain ⟨s, hwait, rfl⟩ := Option.map_eq_some_iff.mp hs
    exact ⟨.woken, hplace ▸ Place.noConfusion, rfl, rfl, .inl ⟨hplace, rfl, hwait⟩,
      fun _ => Place.noConfusion, fun _ => rfl⟩
  · next hplace =>
    obtain rfl := Option.some.inj hs
    cases hflag : w.mStopFlag with
    | true =>
      exact ⟨.ended, hplace ▸ Place.noConfusion, rfl, rfl,
        .inr (hfalls hplace rfl (by decide) rfl),
        fun hnot => absurd (hflag.symm.trans hnot) (by simp), fun _ => rfl⟩
    | false =>
      exact ⟨.popping, hplace ▸ Place.noConfusion, rfl, rfl,
        .inr (hfalls hplace rfl (by decide) rfl), fun _ => Place.noConfusion, fun _ => rfl⟩
  · next hplace =>
    split at hs
    · cases hs
      exact ⟨.testing, hplace ▸ Place.noConfusion, rfl, rfl,
        .inr (hfalls hplace rfl (by decide) rfl), fun _ => Place.noConfusion, fun _ => rfl⟩
    · next job _ _ =>
      cases hs
      exact ⟨.holding job, hplace ▸ Place.noConfusion, rfl, rfl,
        .inr (hfalls hplace rfl (Nat.lt_succ_self 3) rfl), fun _ => Place.noConfusion,
        fun _ => rfl⟩
  · next job hplace =>
    obtain rfl := Option.some.inj hs
    exact ⟨.performing job, hplace ▸ Place.noConfusion, rfl, rfl,
      .inr (hfalls hplace rfl (Nat.lt_succ_self 2) rfl), fun _ => Place.noConfusion,
      fun _ => rfl⟩
  · next job hplace =>
    obtain rfl := Option.some.inj hs
    exact ⟨.testing, hplace ▸ Place.noConfusion, rfl, rfl,
      .inr (hfalls hplace rfl (Nat.lt_succ_self 1) rfl), fun _ => Place.noConfusion,
      fun _ => rfl⟩
  · cases hs

theorem Moves.length {place : Place} (hm : p.Moves p' i w place) :
    p'.mThreadsQueue.length = p.mThreadsQueue.length := by
  rw [hm.workers, List.length_set]

theorem awakened_move (hw : p.mThreadsQueue[i]? = some w) (place : Place) :
    (p.move i w place).awakened + (if w.place.awakened then 1 else 0)
      = p.awakened + (if place.awakened then 1 else 0) := by
  have hcount := countP_set_add (b := (⟨w.mStopFlag, place⟩ : CWorkerThread))
    (fun w => w.place.awakened) hw
  exact hcount

theorem waits_move (hw : p.mThreadsQueue[i]? = some w) (place : Place) :
    (p.move i w place).mThreadsQueue.countP (·.place.waits) + (if w.place.waits then 1 else 0)
      = p.mThreadsQueue.countP (·.place.waits) + (if place.waits then 1 else 0) := by
  have hcount := countP_set_add (b := (⟨w.mStopFlag, place⟩ : CWorkerThread))
    (fun w => w.place.waits) hw
  exact hcount

/-- A worker that was woken finds a job, and takes it with its token. -/
theorem counts_threadFunc (ht : p.Tokens) (hw : p.mThreadsQueue[i]? = some w)
    (hcall : p.destructor = .notCalled) (hs : p.threadFunc i w = some p') :
    p'.mJobQueue.length = p'.awakened + p'.mAvailableJobs.tokens := by
  have hcounts := ht.counts hcall
  obtain ⟨hflag, -⟩ := ht.running hcall w (List.mem_of_getElem? hw)
  have hmove := awakened_move hw
  rw [threadFunc, hflag] at hs
  split at hs
  · next hplace =>
    rw [hplace] at hmove
    obtain rfl := Option.some.inj hs
    have hsame : (p.move i w .waiting).awakened + 0 = p.awakened + 0 := hmove .waiting
    exact hcounts.trans (congrArg (· + _) hsame.symm)
  · next hplace =>
    rw [hplace] at hmove
    obtain ⟨s, hwait, rfl⟩ := Option.map_eq_some_iff.mp hs
    have hmore : (p.move i w .woken).awakened + 0 = p.awakened + 1 := hmove .woken
    have htokens := Semaphore.tokens_wait hwait
    change p.mJobQueue.length = (p.move i w .woken).awakened + s.tokens
    omega
  · next hplace =>
    rw [hplace] at hmove
    obtain rfl := Option.some.inj hs
    have hsame : (p.move i w .popping).awakened + 1 = p.awakened + 1 := hmove .popping
    exact hcounts.trans (congrArg (· + _) (Nat.succ.inj hsame).symm)
  · next hplace =>
    rw [hplace] at hmove
    split at hs
    · next hqueue =>
      -- then nobody could be on the way to the queue
      have hfewer : (p.move i w .testing).awakened + 1 = p.awakened + 0 := hmove .testing
      rw [hqueue, List.length_nil] at hcounts
      omega
    · next job rest hqueue =>
      obtain rfl := Option.some.inj hs
      have hfewer : (p.move i w (.holding job)).awakened + 1 = p.awakened + 0 :=
        hmove (.holding job)
      rw [hqueue, List.length_cons] at hcounts
      change rest.length = (p.move i w (.holding job)).awakened + p.mAvailableJobs.tokens
      omega
  · next job hplace =>
    rw [hplace] at hmove
    obtain rfl := Option.some.inj hs
    have hsame : (p.move i w (.performing job)).awakened + 0 = p.awakened + 0 :=
      hmove (.performing job)
    exact hcounts.trans (congrArg (· + _) hsame.symm)
  · next job hplace =>
    rw [hplace] at hmove
    obtain rfl := Option.some.inj hs
    have hsame : (p.move i w .testing).awakened + 0 = p.awakened + 0 := hmove .testing
    exact hcounts.trans (congrArg (· + _) hsame.symm)
  · cases hs

/-- When the destructor has begun to signal, no worker comes to wait any more. -/
theorem Moves.waits {place : Place} (hm : p.Moves p' i w place) (ht : p.Tokens)
    (hw : p.mThreadsQueue[i]? = some w) :
    p'.mThreadsQueue.countP (·.place.waits)
      ≤ p'.mAvailableJobs.value + p'.destructor.toSignal p'.mThreadsQueue.length := by
  rcases toSignal_or_flagged p.destructor p.mThreadsQueue.length with hall | hall
  · -- a signal for everyone is still to come
    rw [hm.destructor, hm.length, hall, ← hm.length]
    exact Nat.le_trans List.countP_le_length (Nat.le_add_left _ _)
  · have hflag : w.mStopFlag = true :=
      ht.flags i w hw (hall.symm ▸ (List.getElem?_eq_some_iff.mp hw).1)
    have hwaits := ht.waits
    have hmove : p'.mThreadsQueue.countP (·.place.waits) + (if w.place.waits then 1 else 0)
        = p.mThreadsQueue.countP (·.place.waits) + (if place.waits then 1 else 0) := by
      rw [hm.workers]
      exact waits_move hw place
    rw [hm.ends hflag] at hmove
    rw [hm.destructor, hm.length]
    rcases hm.wakes with ⟨hplace, -, hwait⟩ | ⟨hplace, -, hsame⟩
    · rw [hplace] at hmove
      obtain ⟨hvalue, -⟩ := Semaphore.wait_spec hwait
      change _ + 1 = _ + 0 at hmove
      omega
    · rw [hplace] at hmove
      rw [hsame]
      change _ + 0 = _ + 0 at hmove
      omega

theorem tokens_threadFunc (ht : p.Tokens) (hw : p.mThreadsQueue[i]? = some w)
    (hs : p.threadFunc i w = some p') : p'.Tokens := by
  obtain ⟨place, hm⟩ := threadFunc_moves hs
  constructor
  · intro hcall
    exact counts_threadFunc ht hw (hm.destructor ▸ hcall) hs
  · intro hcall v hv
    have hrunning := ht.running (hm.destructor ▸ hcall)
    rw [hm.workers] at hv
    rcases List.mem_or_eq_of_mem_set hv with hv | rfl
    · exact hrunning v hv
    · have hflag := (hrunning w (List.mem_of_getElem? hw)).1
      exact ⟨hflag, hm.goesOn hflag⟩
  · intro j v hv hj
    rw [hm.destructor, hm.length] at hj
    rw [hm.workers] at hv
    rcases getElem?_set_cases hv with ⟨rfl, rfl⟩ | hv
    · exact ht.flags i w hw hj
    · exact ht.flags j v hv hj
  · exact hm.waits ht hw
  · intro j v hv hj
    rw [hm.destructor, hm.length] at hj
    rw [hm.workers] at hv
    rcases getElem?_set_cases hv with ⟨rfl, rfl⟩ | hv
    · exact absurd (ht.joined i w hw hj) hm.running
    · exact ht.joined j v hv hj

/-- The destructor has been called: of the tokens nothing is asked but that there are enough. -/
theorem tokens_continueDestructor (ht : p.Tokens) (hs : p.continueDestructor = some p') :
    p'.Tokens := by
  have hflags := ht.flags
  have hwaits := ht.waits
  have hjoined := ht.joined
  rw [continueDestructor] at hs
  split at hs
  · cases hs
  · next next hcall =>
    rw [hcall] at hflags
    split at hs
    · next hnone =>
      cases hs
      have hend := List.getElem?_eq_none_iff.mp hnone
      refine ⟨fun h => Destructor.noConfusion h, fun h => Destructor.noConfusion h, ?_, ?_, ?_⟩
      · intro i v hv hi
        exact hflags i v hv (Nat.lt_of_lt_of_le hi hend)
      · exact Nat.le_trans List.countP_le_length (Nat.le_add_left _ _)
      · exact fun _ _ _ hi => absurd hi (Nat.not_lt_zero _)
    · next worker hw =>
      cases hs
      refine ⟨fun h => Destructor.noConfusion h, fun h => Destructor.noConfusion h, ?_, ?_, ?_⟩
      · intro i v hv hi
        rcases getElem?_set_cases hv with ⟨rfl, rfl⟩ | hold
        · rfl
        · rcases Nat.lt_succ_iff_lt_or_eq.mp hi with hlt | rfl
          · exact hflags i v hold hlt
          · obtain rfl := Option.some.inj
              ((List.getElem?_set_self (List.getElem?_eq_some_iff.mp hw).1).symm.trans hv)
            rfl
      · exact Nat.le_trans List.countP_le_length (Nat.le_add_left _ _)
      · exact fun _ _ _ hi => absurd hi (Nat.not_lt_zero _)
  · next next hcall =>
    rw [hcall] at hflags hwaits
    split at hs
    · cases hs
      refine ⟨fun h => Destructor.noConfusion h, fun h => Destructor.noConfusion h, hflags, ?_,
        fun _ _ _ hi => absurd hi (Nat.not_lt_zero _)⟩
      simp only [Semaphore.signal, Destructor.toSignal] at hwaits ⊢
      omega
    · cases hs
      refine ⟨fun h => Destructor.noConfusion h, fun h => Destructor.noConfusion h, hflags, ?_,
        fun _ _ _ hi => absurd hi (Nat.not_lt_zero _)⟩
      simp only [Destructor.toSignal] at hwaits ⊢
      omega
  · next next hcall =>
    rw [hcall] at hflags hwaits hjoined
    split at hs
    · next hnone =>
      cases hs
      refine ⟨fun h => Destructor.noConfusion h, fun h => Destructor.noConfusion h, hflags,
        hwaits, ?_⟩
      intro i v hv hi
      exact hjoined i v hv (Nat.lt_of_lt_of_le hi (List.getElem?_eq_none_iff.mp hnone))
    · next worker hw =>
      split at hs
      · next hended =>
        cases hs
        refine ⟨fun h => Destructor.noConfusion h, fun h => Destructor.noConfusion h, hflags,
          hwaits, ?_⟩
        intro i v hv hi
        rcases Nat.lt_succ_iff_lt_or_eq.mp hi with hlt | rfl
        · exact hjoined i v hv hlt
        · exact Option.some.inj (hw.symm.trans hv) ▸ hended
      · cases hs
  · cases hs

theorem tokens_step {s : Step} (ht : p.Tokens) (hs : p.step s = some p') : p'.Tokens := by
  cases s with
  | addJob job =>
    obtain rfl := Option.some.inj hs
    refine ⟨?_, ht.running, ht.flags, ht.waits, ht.joined⟩
    intro hcall
    have hcounts := ht.counts hcall
    rw [List.length_append, List.length_singleton, hcounts, Semaphore.tokens_announce]
    rfl
  | signal =>
    obtain ⟨s, hpost, rfl⟩ := Option.map_eq_some_iff.mp hs
    refine ⟨?_, ht.running, ht.flags, ?_, ht.joined⟩
    · intro hcall
      exact (ht.counts hcall).trans (congrArg _ (Semaphore.tokens_post hpost).symm)
    · have hmore : p.mAvailableJobs.value ≤ s.value := by
        rw [(Semaphore.post_spec hpost).1]
        exact Nat.le_succ _
      exact Nat.le_trans ht.waits (Nat.add_le_add_right hmore _)
  | worker i =>
    rw [step] at hs
    split at hs
    · cases hs
    · next hw => exact tokens_threadFunc ht hw hs
  | destroy =>
    have hwaits := ht.waits
    rw [step] at hs
    split at hs
    · next hcall =>
      obtain rfl := Option.some.inj hs
      rw [hcall] at hwaits
      exact ⟨fun h => Destructor.noConfusion h, fun h => Destructor.noConfusion h,
        fun _ _ _ hi => absurd hi (Nat.not_lt_zero _), hwaits,
        fun _ _ _ hi => absurd hi (Nat.not_lt_zero _)⟩
    · cases hs
  | destructor => exact tokens_continueDestructor ht hs

/-! ## How long the pool goes on by itself -/

theorem rank_threadFunc (hw : p.mThreadsQueue[i]? = some w) (hs : p.threadFunc i w = some p') :
    p'.rank < p.rank := by
  obtain ⟨place, hm⟩ := threadFunc_moves hs
  have hsum : (p'.mThreadsQueue.map (·.place.rank)).sum + w.place.rank
      = (p.mThreadsQueue.map (·.place.rank)).sum + place.rank := by
    have hset := sum_set_add (b := (⟨w.mStopFlag, place⟩ : CWorkerThread))
      (fun w => w.place.rank) hw
    rw [hm.workers]
    exact hset
  rw [rank, rank, hm.destructor, hm.length]
  rcases hm.wakes with ⟨hplace, rfl, hwait⟩ | ⟨-, hfalls, hsame⟩
  · obtain ⟨hvalue, hsignalling⟩ := Semaphore.wait_spec hwait
    rw [hplace] at hsum
    change _ + 0 = _ + 5 at hsum
    omega
  · rw [hsame]
    omega

theorem rank_continueDestructor (hs : p.continueDestructor = some p') : p'.rank < p.rank := by
  rw [continueDestructor] at hs
  rw [rank, rank]
  split at hs
  · cases hs
  · next next hcall =>
    split at hs
    · next hnone =>
      cases hs
      rw [hcall]
      simp only [Destructor.rank]
      omega
    · next worker hw =>
      cases hs
      have hlt := (List.getElem?_eq_some_iff.mp hw).1
      have hsum := sum_set_add (b := { worker with mStopFlag := true })
        (fun w : CWorkerThread => w.place.rank) hw
      change _ + worker.place.rank = _ + worker.place.rank at hsum
      rw [hcall]
      simp only [Destructor.rank, List.length_set]
      omega
  · next next hcall =>
    split at hs
    · cases hs
      rw [hcall]
      simp only [Destructor.rank, Semaphore.signal]
      omega
    · cases hs
      rw [hcall]
      simp only [Destructor.rank]
      omega
  · next next hcall =>
    split at hs
    · cases hs
      rw [hcall]
      simp only [Destructor.rank]
      omega
    · next worker hw =>
      have hlt := (List.getElem?_eq_some_iff.mp hw).1
      split at hs <;> cases hs
      rw [hcall]
      simp only [Destructor.rank]
      omega
  · cases hs

theorem rank_step {s : Step} (hown : s.own = true) (hs : p.step s = some p') :
    p'.rank < p.rank := by
  cases s with
  | signal =>
    obtain ⟨s, hpost, rfl⟩ := Option.map_eq_some_iff.mp hs
    obtain ⟨hvalue, hsignalling⟩ := Semaphore.post_spec hpost
    rw [rank, rank]
    dsimp only
    omega
  | worker i =>
    rw [step] at hs
    split at hs
    · cases hs
    · next hw => exact rank_threadFunc hw hs
  | destructor => exact rank_continueDestructor hs
  | addJob _ | destroy => cases hown

/-! ## When nothing is left to do -/

theorem threadFunc_eq_none (hs : p.threadFunc i w = none) :
    w.place = .ended ∨ w.place = .waiting ∧ p.mAvailableJobs.value = 0 := by
  rw [threadFunc] at hs
  split at hs
  · cases hs
  · next hplace => exact .inr ⟨hplace, Semaphore.wait_eq_none.mp (Option.map_eq_none_iff.mp hs)⟩
  · cases hs
  · split at hs <;> cases hs
  · cases hs
  · cases hs
  · next hplace => exact .inl hplace

theorem Quiet.worker (hq : p.Quiet) (hw : p.mThreadsQueue[i]? = some w) :
    w.place = .ended ∨ w.place = .waiting ∧ p.mAvailableJobs.value = 0 := by
  have hnone := hq (.worker i) rfl
  rw [step, hw] at hnone
  exact threadFunc_eq_none hnone

/-- All workers wait, and there is no job. -/
theorem Quiet.finished (hq : p.Quiet) (ht : p.Tokens) (hj : p.Jobs)
    (hcall : p.destructor = .notCalled) (hworkers : p.mThreadsQueue ≠ []) :
    p.finished.Perm p.added := by
  have hwaiting : ∀ w ∈ p.mThreadsQueue, w.place = .waiting ∧ p.mAvailableJobs.value = 0 := by
    intro w hw
    obtain ⟨i, hi⟩ := List.mem_iff_getElem?.mp hw
    exact (hq.worker hi).resolve_left (ht.running hcall w hw).2
  have hsignalling : p.mAvailableJobs.signalling = 0 :=
    Semaphore.post_eq_none.mp (Option.map_eq_none_iff.mp (hq .signal rfl))
  have hvalue : p.mAvailableJobs.value = 0 := by
    obtain ⟨w, hw⟩ := List.exists_mem_of_ne_nil _ hworkers
    exact (hwaiting w hw).2
  have hawakened : p.awakened = 0 :=
    List.countP_eq_zero.mpr fun w hw => by rw [(hwaiting w hw).1]; exact Bool.false_ne_true
  have hheld : p.held = [] :=
    List.filterMap_eq_nil_iff.mpr fun w hw => by rw [(hwaiting w hw).1]; rfl
  have hperforming : p.performing = [] :=
    List.filterMap_eq_nil_iff.mpr fun w hw => by rw [(hwaiting w hw).1]; rfl
  have hqueue : p.mJobQueue = [] := by
    refine List.length_eq_zero_iff.mp ?_
    rw [ht.counts hcall, hawakened, Semaphore.tokens, hvalue, hsignalling]
  have hstarted := hj.started
  have hfinished := hj.finished
  have hadded := hj.inOrder hcall
  rw [hheld, List.append_nil] at hstarted
  rw [hperforming, List.append_nil] at hfinished
  rw [hqueue, List.append_nil] at hadded
  exact hadded ▸ hfinished.trans hstarted

/-- A worker that the destructor joins does not wait: there is a signal for it. -/
theorem Quiet.ended (hq : p.Quiet) (ht : p.Tokens) (hcall : p.destructor ≠ .notCalled) :
    p.destructor = .done ∧ ∀ w ∈ p.mThreadsQueue, w.place = .ended := by
  have hwaits := ht.waits
  have hjoined := ht.joined
  have hnone : p.continueDestructor = none := hq .destructor rfl
  rw [continueDestructor] at hnone
  split at hnone
  · next hnot => exact absurd hnot hcall
  · split at hnone <;> cases hnone
  · split at hnone <;> cases hnone
  · next next hdeleting =>
    rw [hdeleting] at hwaits
    split at hnone
    · cases hnone
    · next worker hw =>
      split at hnone
      · cases hnone
      · next hrunning =>
        obtain ⟨hplace, hvalue⟩ := (hq.worker hw).resolve_left hrunning
        have hsome := countP_ne_zero (p := fun w : CWorkerThread => w.place.waits) hw
          (by rw [hplace]; rfl)
        rw [hvalue] at hwaits
        exact absurd (Nat.le_zero.mp hwaits) hsome
  · next hdone =>
    refine ⟨hdone, ?_⟩
    intro w hw
    obtain ⟨i, hi⟩ := List.mem_iff_getElem?.mp hw
    refine hjoined i w hi ?_
    rw [hdone]
    exact (List.getElem?_eq_some_iff.mp hi).1

/-! ## Runs -/

theorem inv_of_run {num_threads : UInt32} {as : List Step}
    (hr : run step (init num_threads) as = some p) : p.Jobs ∧ p.Tokens :=
  run_invariant (P := fun _ _ => True) (I := fun p => p.Jobs ∧ p.Tokens)
    (fun _ _ _ hi _ hs => ⟨jobs_step hi.1 hs, tokens_step hi.2 hs⟩)
    ⟨jobs_init num_threads, tokens_init num_threads⟩ (along_of_mem fun _ _ _ => trivial) hr

/-- One worker has one job at most. -/
theorem held_add_performing_le (hlength : p.mThreadsQueue.length = 1) :
    p.held.length + p.performing.length ≤ 1 := by
  obtain ⟨w, hw⟩ := List.length_eq_one_iff.mp hlength
  obtain ⟨hheld, hperforming, -⟩ := only_worker (i := 0) (w := w) (hw ▸ rfl) hlength
  rw [hheld, hperforming]
  cases w.place <;> simp [Place.held, Place.performed]

theorem runsOnce_of (hj : p.Jobs) (ht : p.Tokens) : p.RunsOnce where
  inOrder := hj.inOrder
  started := hj.started
  finished := hj.finished
  oneWorker := by
    intro hlength
    obtain ⟨hstarted, hfinished⟩ := hj.oneWorker hlength
    exact ⟨hstarted, hfinished, held_add_performing_le hlength⟩
  notBlocked := by
    intro hcall
    rw [ht.counts hcall, Semaphore.tokens, Nat.add_assoc]

/-- **The pool runs every job once, and ends.** In every state of any run, with any number of
workers: what holds of the jobs there; that the pool goes on by itself for a limited number of
steps only; and that when it does not go on, either every job has been finished, or the destructor
is done and every worker has left its loop. -/
theorem runs_every_job_once {num_threads : UInt32} {as : List Step}
    (hr : run step (init num_threads) as = some p) :
    p.RunsOnce
      ∧ (∀ bs p', run step p bs = some p' → (∀ b ∈ bs, b.own = true) → bs.length ≤ p.rank)
      ∧ (p.Quiet → p.destructor = .notCalled → p.mThreadsQueue ≠ [] → p.finished.Perm p.added)
      ∧ (p.Quiet → p.destructor ≠ .notCalled →
          p.destructor = .done ∧ ∀ w ∈ p.mThreadsQueue, w.place = .ended) := by
  obtain ⟨hj, ht⟩ := inv_of_run hr
  refine ⟨runsOnce_of hj ht, ?_, ?_, ?_⟩
  · intro bs p' hr' hown
    exact length_le_of_falls rank (fun _ _ b hb hs => rank_step (hown b hb) hs) hr'
  · intro hq hcall hworkers
    exact hq.finished ht hj hcall hworkers
  · intro hq hcall
    exact hq.ended ht hcall

/-- A job is added to a pool of one worker, which takes and begins it; the pool is destroyed. -/
def destroyedRun : List Step :=
  [.addJob ⟨some 1, 1⟩, .worker 0, .signal, .worker 0, .worker 0, .worker 0, .worker 0, .destroy,
    .worker 0, .destructor, .destructor, .destructor, .destructor, .worker 0, .destructor,
    .destructor]

theorem runs_every_job_once_destroyed : ∃ p, run step (init 1) destroyedRun = some p
    ∧ p.RunsOnce ∧ p.finished = [⟨some 1, 1⟩] ∧ p.destructor = .done
    ∧ ∀ w ∈ p.mThreadsQueue, w.place = .ended := by
  have hr : run step (init 1) destroyedRun = some
      { mJobQueue := []
        mAvailableJobs := ⟨1, 0⟩
        mThreadsQueue := [⟨true, .ended⟩]
        destructor := .done
        added := [⟨some 1, 1⟩]
        taken := [⟨some 1, 1⟩]
        started := [⟨some 1, 1⟩]
        finished := [⟨some 1, 1⟩] } := by decide
  exact ⟨_, hr, (runs_every_job_once hr).1, rfl, rfl, by decide⟩

/-- Two workers take two jobs, and the second one is begun first. Between the push of a job and the
signal a worker waits that nothing will wake but that signal. Without workers a job stays. -/
theorem jobs_begun_out_of_order :
    (¬ ∀ as p, run step (init 2) as = some p → p.started <+: p.added)
      ∧ (¬ ∀ as p, run step (init 1) as = some p →
          (∃ w ∈ p.mThreadsQueue, w.place = .waiting) → p.mJobQueue ≠ [] →
          0 < p.awakened ∨ 0 < p.mAvailableJobs.value)
      ∧ ¬ ∀ as p, run step (init 0) as = some p → p.Quiet → p.finished.Perm p.added := by
  refine ⟨?_, ?_, ?_⟩
  · intro hall
    have hprefixed := hall [.addJob ⟨none, 1⟩, .addJob ⟨none, 2⟩, .signal, .signal, .worker 0,
      .worker 1, .worker 0, .worker 1, .worker 0, .worker 1, .worker 0, .worker 1, .worker 1] _ rfl
    revert hprefixed
    decide
  · intro hall
    have hsome := hall [.worker 0, .addJob ⟨none, 1⟩] _ rfl (by decide) (List.cons_ne_nil _ _)
    revert hsome
    decide
  · intro hall
    have hperm := hall [.addJob ⟨none, 1⟩, .signal] _ rfl (by
      intro s hs
      cases s with
      | signal | worker _ | destructor => rfl
      | addJob _ | destroy => cases hs)
    exact absurd hperm.length_eq (by decide)

end IviLink.Utils.CThreadPool
