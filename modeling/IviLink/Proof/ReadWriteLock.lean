import IviLink.Lib.Census
import IviLink.Utils.CRWMutex

/-!
# The read-write lock is exclusive and loses no wake-up

While somebody holds the lock nothing is owed to those who wait. When it is free and a
writer waits, some writer has been woken: the thread that freed it saw the writer in
`write_waiters` and signalled, and a writer that finds the lock taken goes back to
waiting only then. When it is free and no writer waits, all readers have been woken,
since readers wait for writers only, and the last of those woke them all.
-/

namespace IviLink.Utils.CRWMutex

open IviLink.Lib

variable {s s' : State} {n k : Nat} {p q : Phase} {c : rwlock}

namespace State

@[simp] theorem setPhase_self : (s.setPhase n p).self = s.self := rfl

@[simp] theorem setSelf_self : (s.setSelf c).self = c := rfl

@[simp] theorem setSelf_threads : (s.setSelf c).threads = s.threads := rfl

@[simp] theorem setPhase_threads : (s.setPhase n p).threads = s.threads.set n p := rfl

/-- A signal goes to a writer that waits, or finds that all have been woken. -/
theorem signalWrite_cases (h : s.signalWrite k = some s') :
    (s.threads[k]? = some (.writeWait false) ∧ s' = s.setPhase k (.writeWait true)) ∨
      (.writeWait false ∉ s.threads ∧ s' = s) := by
  unfold signalWrite at h
  split at h
  · split at h
    · next hk => exact Or.inl ⟨hk, (Option.some.inj h).symm⟩
    · cases h
  · next hnone => exact Or.inr ⟨hnone, (Option.some.inj h).symm⟩

/-! ## Counting -/

/-- A thread goes from one phase to another, and the counters with it. -/
theorem Counted.setPhase (h : s.Counted) (hn : s.threads[n]? = some p)
    (hr : c.readers + (if p = .reading then 1 else 0)
      = s.self.readers + (if q = .reading then 1 else 0))
    (hw : c.writers + (if p = .writing then 1 else 0)
      = s.self.writers + (if q = .writing then 1 else 0))
    (hrw : c.read_waiters + (if p.isReadWait then 1 else 0)
      = s.self.read_waiters + (if q.isReadWait then 1 else 0))
    (hww : c.write_waiters + (if p.isWriteWait then 1 else 0)
      = s.self.write_waiters + (if q.isWriteWait then 1 else 0)) :
    ((s.setSelf c).setPhase n q).Counted := by
  constructor
  · have hset := countP_set_add (b := q) (· = Phase.reading) hn
    have := h.readers
    simp only [decide_eq_true_eq] at hset
    show c.readers = (s.threads.set n q).countP _
    omega
  · have hset := countP_set_add (b := q) (· = Phase.writing) hn
    have := h.writers
    simp only [decide_eq_true_eq] at hset
    show c.writers = (s.threads.set n q).countP _
    omega
  · have hset := countP_set_add (b := q) Phase.isReadWait hn
    have := h.read_waiters
    show c.read_waiters = (s.threads.set n q).countP _
    omega
  · have hset := countP_set_add (b := q) Phase.isWriteWait hn
    have := h.write_waiters
    show c.write_waiters = (s.threads.set n q).countP _
    omega

theorem Counted.no_writing (h : s.Counted) (hw : s.self.writers = 0) : .writing ∉ s.threads := by
  intro hmem
  have := List.countP_eq_zero.mp (h.writers.symm.trans hw) _ hmem
  simp at this

theorem Counted.no_reading (h : s.Counted) (hr : s.self.readers = 0) : .reading ∉ s.threads := by
  intro hmem
  have := List.countP_eq_zero.mp (h.readers.symm.trans hr) _ hmem
  simp at this

/-- Somebody waits to write. -/
theorem Counted.exists_writeWait (h : s.Counted) (hw : s.self.write_waiters ≠ 0) :
    .writeWait false ∈ s.threads ∨ .writeWait true ∈ s.threads := by
  rw [h.write_waiters] at hw
  obtain ⟨p, hmem, hp⟩ := List.countP_pos_iff.mp (Nat.pos_of_ne_zero hw)
  cases p with
  | writeWait woken => cases woken with
    | false => exact Or.inl hmem
    | true => exact Or.inr hmem
  | idle | reading | writing | readWait _ => cases hp

/-! ## Exclusion -/

theorem Exclusive.setPhase (h : s.Exclusive) (hq : q.holds = false) :
    ((s.setSelf c).setPhase n q).Exclusive := by
  intro i j p hi hj hp
  rcases getElem?_set_cases hi with ⟨-, rfl⟩ | hi
  · cases hq
  · rcases getElem?_set_cases hj with ⟨-, rfl⟩ | hj
    · rw [hq] at hp
      cases hp
    · exact h i j p hi hj hp

theorem Exclusive.setReading (hw : .writing ∉ s.threads) :
    ((s.setSelf c).setPhase n .reading).Exclusive := by
  intro i j p hi
  rcases getElem?_set_cases hi with ⟨-, h⟩ | hi
  · cases h
  · exact absurd (List.mem_of_getElem? hi) hw

theorem Exclusive.setWriting (hr : .reading ∉ s.threads) (hw : .writing ∉ s.threads) :
    ((s.setSelf c).setPhase n .writing).Exclusive := by
  intro i j p hi hj hp
  have halone : ∀ {i p}, ((s.setSelf c).setPhase n .writing).threads[i]? = some p →
      p.holds = true → i = n := by
    intro i p hi hp
    rcases getElem?_set_cases hi with ⟨rfl, -⟩ | hi
    · rfl
    · have hmem := List.mem_of_getElem? hi
      cases p with
      | reading => exact absurd hmem hr
      | writing => exact absurd hmem hw
      | idle | readWait _ | writeWait _ => cases hp
  exact (halone hi rfl).trans (halone hj hp).symm

theorem Exclusive.broadcastRead (h : s.Exclusive) : s.broadcastRead.Exclusive := by
  intro i j p hi hj hp
  obtain ⟨pi, hpi, hi⟩ := Option.map_eq_some_iff.mp ((List.getElem?_map ..).symm.trans hi)
  obtain ⟨pj, hpj, hj⟩ := Option.map_eq_some_iff.mp ((List.getElem?_map ..).symm.trans hj)
  have hwriting : pi = .writing := by cases pi <;> first | rfl | cases hi
  have hholds : pj.holds = true := by
    subst hj
    cases pj <;> first | rfl | cases hp
  exact h i j pj (hwriting ▸ hpi) hpj hholds

theorem Exclusive.writing_le (h : s.Exclusive) : s.threads.countP (· = .writing) ≤ 1 := by
  refine countP_le_one ?_
  intro i j p q hi hj hp hq
  rw [of_decide_eq_true hp] at hi
  rw [of_decide_eq_true hq] at hj
  exact h i j _ hi hj rfl

end State

/-! ## Wake-ups -/

/-- **The invariant.** -/
structure Inv (s : State) : Prop where
  counted : s.Counted
  exclusive : s.Exclusive
  /-- Readers wait only for writers. -/
  readers : s.self.writers = 0 → s.self.write_waiters = 0 → .readWait false ∉ s.threads
  /-- If the lock is free, a writer that waits for it has been woken. -/
  writers : s.self.readers = 0 → s.self.writers = 0 → s.self.write_waiters ≠ 0 →
    .writeWait true ∈ s.threads

namespace Inv

theorem init (n : Nat) : Inv (State.init n) where
  counted := by
    constructor <;> simp [State.init, List.countP_replicate, Phase.isReadWait, Phase.isWriteWait]
  exclusive := by
    intro i j p hi
    have := List.eq_of_mem_replicate (List.mem_of_getElem? hi)
    cases this
  readers := by
    intro _ _ hmem
    cases List.eq_of_mem_replicate hmem
  writers := fun _ _ h => absurd rfl h

/-- The lock is taken, or somebody goes on waiting for it. -/
theorem of_busy (hc : s.Counted) (he : s.Exclusive)
    (hbusy : s.self.readers ≠ 0 ∨ s.self.writers ≠ 0)
    (hr : s.self.writers = 0 → s.self.write_waiters = 0 → .readWait false ∉ s.threads) : Inv s := by
  refine ⟨hc, he, hr, ?_⟩
  intro hreaders hwriters
  rcases hbusy with h | h
  · exact absurd hreaders h
  · exact absurd hwriters h

/-- **A signal** pays what is owed to the writers that wait. -/
theorem signalWrite (hc : s.Counted) (he : s.Exclusive) (hw : s.self.write_waiters ≠ 0)
    (h : s.signalWrite k = some s') : Inv s' := by
  rcases State.signalWrite_cases h with ⟨hk, rfl⟩ | ⟨hnone, rfl⟩
  · refine ⟨hc.setPhase hk rfl rfl rfl rfl, he.setPhase rfl, ?_, ?_⟩
    · intro _ hzero
      exact absurd hzero hw
    · intro _ _ _
      exact mem_set_self hk
  · refine ⟨hc, he, ?_, ?_⟩
    · intro _ hzero
      exact absurd hzero hw
    · intro _ _ _
      rcases hc.exists_writeWait hw with hmem | hmem
      · exact absurd hmem hnone
      · exact hmem

theorem broadcastRead (hc : s.Counted) (he : s.Exclusive) (hw : s.self.write_waiters = 0) :
    Inv s.broadcastRead := by
  have hcount : ∀ f : Phase → Bool, (∀ p, f p.broadcast = f p) →
      s.broadcastRead.threads.countP f = s.threads.countP f := by
    intro f hf
    rw [State.broadcastRead, List.countP_map]
    exact congrFun (congrArg List.countP (funext hf)) _
  refine ⟨⟨?_, ?_, ?_, ?_⟩, ?_, ?_, ?_⟩
  · rw [hcount _ (by rintro (_ | _ | _ | _ | _) <;> rfl)]
    exact hc.readers
  · rw [hcount _ (by rintro (_ | _ | _ | _ | _) <;> rfl)]
    exact hc.writers
  · rw [hcount _ (by rintro (_ | _ | _ | _ | _) <;> rfl)]
    exact hc.read_waiters
  · rw [hcount _ (by rintro (_ | _ | _ | _ | _) <;> rfl)]
    exact hc.write_waiters
  · exact he.broadcastRead
  · intro _ _ hmem
    obtain ⟨p, -, hp⟩ := List.mem_map.mp hmem
    cases p <;> cases hp
  · intro _ _ hne
    exact absurd hw hne

/-- A thread that does not hold the lock, and does not wait for it, leaves what is owed. -/
theorem frame (h : Inv s) (hc : ((s.setSelf c).setPhase n q).Counted)
    (he : ((s.setSelf c).setPhase n q).Exclusive) (hself : c = s.self)
    (hn : s.threads[n]? = some p) (hp : p ≠ .writeWait true) (hq : q ≠ .readWait false) :
    Inv (s.setPhase n q) := by
  subst hself
  refine ⟨hc, he, ?_, ?_⟩
  · intro hwriters hwaiters
    exact not_mem_set (h.readers hwriters hwaiters) hq.symm
  · intro hreaders hwriters hwaiters
    exact mem_set_of_ne (h.writers hreaders hwriters hwaiters) hn hp.symm

theorem reader_lock (h : Inv s) (hn : s.threads[n]? = some .idle) : Inv (s.reader_lock n) := by
  unfold State.reader_lock
  split
  · next hwaits =>
    refine ⟨h.counted.setPhase hn rfl rfl rfl rfl, h.exclusive.setPhase rfl, ?_, ?_⟩
    · intro hwriters hwaiters
      rcases hwaits with hne | hne
      · exact absurd hwriters hne
      · exact absurd hwaiters hne
    · intro hreaders hwriters hwaiters
      exact mem_set_of_ne (h.writers hreaders hwriters hwaiters) hn (by simp)
  · next hfree =>
    obtain ⟨hwriters, hwaiters⟩ := not_or.mp hfree
    refine of_busy (h.counted.setPhase hn rfl rfl rfl rfl)
      (State.Exclusive.setReading (h.counted.no_writing (not_not.mp hwriters)))
      (Or.inl (Nat.succ_ne_zero _)) ?_
    intro hw hww
    exact not_mem_set (h.readers hw hww) (by simp)

theorem reader_woken (h : Inv s) (hn : s.threads[n]? = some (.readWait true)) :
    Inv (s.reader_woken n) := by
  unfold State.reader_woken
  split
  · next hwaits =>
    refine ⟨h.counted.setPhase hn rfl rfl rfl rfl, h.exclusive.setPhase rfl, ?_, ?_⟩
    · intro hwriters hwaiters
      rcases hwaits with hne | hne
      · exact absurd hwriters hne
      · exact absurd hwaiters hne
    · intro hreaders hwriters hwaiters
      exact mem_set_of_ne (h.writers hreaders hwriters hwaiters) hn (by simp)
  · next hfree =>
    obtain ⟨hwriters, hwaiters⟩ := not_or.mp hfree
    have hwaiting : s.self.read_waiters ≠ 0 := by
      rw [h.counted.read_waiters]
      exact countP_ne_zero hn rfl
    refine of_busy (h.counted.setPhase hn rfl rfl ?_ rfl)
      (State.Exclusive.setReading (h.counted.no_writing (not_not.mp hwriters)))
      (Or.inl (Nat.succ_ne_zero _)) ?_
    · simp only [Phase.isReadWait, if_true, Bool.false_eq_true, if_false]
      omega
    · intro hw hww
      exact not_mem_set (h.readers hw hww) (by simp)

theorem reader_unlock (h : Inv s) (hn : s.threads[n]? = some .reading)
    (hs : s.reader_unlock n k = some s') : Inv s' := by
  have hholds : s.self.readers ≠ 0 := by
    rw [h.counted.readers]
    exact countP_ne_zero hn (by simp)
  have hcounted := h.counted.setPhase (c := { s.self with readers := s.self.readers - 1 })
    (q := .idle) hn (by simp; omega) rfl rfl rfl
  have hexcl := h.exclusive.setPhase (c := { s.self with readers := s.self.readers - 1 })
    (n := n) (q := .idle) rfl
  unfold State.reader_unlock at hs
  simp only at hs
  split at hs
  · next hwaiters => exact signalWrite hcounted hexcl hwaiters hs
  · next hnone =>
    -- nobody waits to write, and so nobody waits who has not been woken
    obtain rfl := Option.some.inj hs
    refine ⟨hcounted, hexcl, ?_, ?_⟩
    · intro hwriters hwaiters
      exact not_mem_set (h.readers hwriters hwaiters) (by simp)
    · intro _ _ hwaiters
      exact absurd hwaiters hnone

theorem writer_lock (h : Inv s) (hn : s.threads[n]? = some .idle) : Inv (s.writer_lock n) := by
  unfold State.writer_lock
  split
  · next hwaits =>
    refine of_busy (h.counted.setPhase hn rfl rfl rfl rfl) (h.exclusive.setPhase rfl) hwaits ?_
    intro _ hwaiters
    exact absurd hwaiters (Nat.succ_ne_zero _)
  · next hfree =>
    obtain ⟨hreaders, hwriters⟩ := not_or.mp hfree
    have hw := not_not.mp hwriters
    refine of_busy (h.counted.setPhase hn rfl (by simp [hw]) rfl rfl)
      (State.Exclusive.setWriting (h.counted.no_reading (not_not.mp hreaders))
        (h.counted.no_writing hw)) (Or.inr Nat.one_ne_zero) ?_
    intro hzero
    exact absurd hzero Nat.one_ne_zero

theorem writer_woken (h : Inv s) (hn : s.threads[n]? = some (.writeWait true)) :
    Inv (s.writer_woken n) := by
  have hwaiting : s.self.write_waiters ≠ 0 := by
    rw [h.counted.write_waiters]
    exact countP_ne_zero hn rfl
  unfold State.writer_woken
  split
  · next hwaits =>
    refine of_busy (h.counted.setPhase hn rfl rfl rfl rfl) (h.exclusive.setPhase rfl) hwaits ?_
    intro _ hwaiters
    exact absurd hwaiters hwaiting
  · next hfree =>
    obtain ⟨hreaders, hwriters⟩ := not_or.mp hfree
    have hw := not_not.mp hwriters
    refine of_busy (h.counted.setPhase hn rfl (by simp [hw]) rfl ?_)
      (State.Exclusive.setWriting (h.counted.no_reading (not_not.mp hreaders))
        (h.counted.no_writing hw)) (Or.inr Nat.one_ne_zero) ?_
    · simp only [Phase.isWriteWait, if_true, Bool.false_eq_true, if_false]
      omega
    · intro hzero
      exact absurd hzero Nat.one_ne_zero

theorem writer_unlock (h : Inv s) (hn : s.threads[n]? = some .writing)
    (hs : s.writer_unlock n k = some s') : Inv s' := by
  have hone : s.self.writers = 1 := by
    have hpos : s.threads.countP (· = Phase.writing) ≠ 0 := countP_ne_zero hn (by simp)
    have hle := h.exclusive.writing_le
    rw [h.counted.writers]
    omega
  have hcounted := h.counted.setPhase (c := { s.self with writers := 0 }) (q := .idle) hn rfl
    (by simp [hone]) rfl rfl
  have hexcl := h.exclusive.setPhase (c := { s.self with writers := 0 }) (n := n) (q := .idle) rfl
  unfold State.writer_unlock at hs
  simp only at hs
  split at hs
  · next hwaiters => exact signalWrite hcounted hexcl hwaiters hs
  · next hnone =>
    split at hs
    · obtain rfl := Option.some.inj hs
      exact broadcastRead hcounted hexcl (not_not.mp hnone)
    · next hnobody =>
      -- nobody waits at all
      obtain rfl := Option.some.inj hs
      refine ⟨hcounted, hexcl, ?_, ?_⟩
      · intro _ _ hmem
        have hzero := hcounted.read_waiters.symm.trans (not_not.mp hnobody)
        exact absurd rfl (List.countP_eq_zero.mp hzero _ hmem)
      · intro _ _ hwaiters
        exact absurd hwaiters hnone

theorem spurious_read (h : Inv s) {b : Bool} (hn : s.threads[n]? = some (.readWait b)) :
    Inv (s.setPhase n (.readWait true)) :=
  frame h (h.counted.setPhase hn rfl rfl rfl rfl) (h.exclusive.setPhase rfl) rfl hn (by simp)
    (by simp)

theorem spurious_write (h : Inv s) {b : Bool} (hn : s.threads[n]? = some (.writeWait b)) :
    Inv (s.setPhase n (.writeWait true)) := by
  refine ⟨h.counted.setPhase hn rfl rfl rfl rfl, h.exclusive.setPhase rfl, ?_, ?_⟩
  · intro hwriters hwaiters
    exact not_mem_set (h.readers hwriters hwaiters) (by simp)
  · intro _ _ _
    exact mem_set_self hn

/-- **Preserved by every step.** -/
theorem step (h : Inv s) {a : Act} (hs : step s a = some s') : Inv s' := by
  unfold CRWMutex.step at hs
  cases a with
  | reader_lock n =>
    obtain ⟨hn, hs⟩ := Option.ite_none_right_eq_some.mp hs
    exact Option.some.inj hs ▸ h.reader_lock hn
  | reader_unlock n k =>
    obtain ⟨hn, hs⟩ := Option.ite_none_right_eq_some.mp hs
    exact h.reader_unlock hn hs
  | writer_lock n =>
    obtain ⟨hn, hs⟩ := Option.ite_none_right_eq_some.mp hs
    exact Option.some.inj hs ▸ h.writer_lock hn
  | writer_unlock n k =>
    obtain ⟨hn, hs⟩ := Option.ite_none_right_eq_some.mp hs
    exact h.writer_unlock hn hs
  | woken n =>
    simp only at hs
    split at hs
    · next hn => exact Option.some.inj hs ▸ h.reader_woken hn
    · next hn => exact Option.some.inj hs ▸ h.writer_woken hn
    · cases hs
  | spurious n =>
    simp only at hs
    split at hs
    · next hn => exact Option.some.inj hs ▸ h.spurious_read hn
    · next hn => exact Option.some.inj hs ▸ h.spurious_write hn
    · cases hs

/-- A lock that is free and waited for: by a writer, or by readers only. -/
theorem wakeupPending (h : Inv s) : s.WakeupPending := by
  intro hfree hwaiting
  obtain ⟨p, hmem, hp⟩ := hwaiting
  have hreaders : s.self.readers = 0 := by
    rw [h.counted.readers]
    refine List.countP_eq_zero.mpr ?_
    intro p hmem hp
    have := hfree p hmem
    rw [of_decide_eq_true hp] at this
    cases this
  have hwriters : s.self.writers = 0 := by
    rw [h.counted.writers]
    refine List.countP_eq_zero.mpr ?_
    intro p hmem hp
    have := hfree p hmem
    rw [of_decide_eq_true hp] at this
    cases this
  by_cases hwaiters : s.self.write_waiters = 0
  · have hnone := h.readers hwriters hwaiters
    cases p with
    | readWait woken => cases woken with
      | false => exact absurd hmem hnone
      | true => exact Or.inl hmem
    | writeWait woken =>
      have := List.countP_eq_zero.mp (h.counted.write_waiters.symm.trans hwaiters) _ hmem
      exact absurd rfl this
    | idle | reading | writing => cases hp
  · exact Or.inr (h.writers hreaders hwriters hwaiters)

end Inv

/-- **The lock is exclusive and loses no wake-up**, in every run of any number of threads. -/
theorem lock_loses_no_wakeup (n : Nat) (as : List Act) (s : State)
    (hr : run step (.init n) as = some s) : s.Exclusive ∧ s.Counted ∧ s.WakeupPending := by
  have hinv : Inv s := run_invariant (P := fun _ _ => True) (fun _ _ _ h _ hs => h.step hs)
    (Inv.init n) (along_of_mem fun _ _ _ => trivial) hr
  exact ⟨hinv.exclusive, hinv.counted, hinv.wakeupPending⟩

/-- A writer that is woken finds the lock taken by another that came in between. -/
def overtaken : List Act :=
  [.writer_lock 0, .writer_lock 1, .writer_unlock 0 1, .writer_lock 2, .woken 1,
    .writer_unlock 2 1]

theorem lock_loses_no_wakeup_overtaken :
    ∃ s, run step (.init 3) overtaken = some s ∧ s.threads = [.idle, .writeWait true, .idle] ∧
      s.Exclusive ∧ s.Counted ∧ s.WakeupPending :=
  ⟨_, rfl, rfl, lock_loses_no_wakeup 3 overtaken _ rfl⟩

end IviLink.Utils.CRWMutex
