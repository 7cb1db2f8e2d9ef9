import IviLink.Hal.FinderThreads

/-!
# What holds of the finders' threads

A thread that waits for `mMainFuncMutex` has the highest rank, then one that waits for
a finder's state, then one that joins. A wait for a mutex is always for a thread of a
lower rank. A join is one if the thread that is joined waits for nothing, and goes on so
until it has ended: it is in its search and finds nothing more, or on its way to look at
its stop flag. That is a part of the invariant; it is kept by the steps that move one
thread and change one finder.
-/

namespace IviLink.Hal.FinderThreads

open IviLink.Lib

/-- The thread is in `performSearch` with no connection found, or on its way to look at its stop
flag, or has ended. -/
def Phase.InSearch : Phase → Prop
  | .searching | .returning | .head | .exited => True
  | _ => False

instance (p : Phase) : Decidable p.InSearch :=
  match p with
  | .searching | .returning | .head | .exited => isTrue trivial
  | .locking | .checking | .waiting | .waking | .setReady | .ready | .connectionFound
  | .getState _ | .getConnectedAdapter _ | .handshake _ | .stopSearch _ _ | .join _ _
  | .continueSearch _ | .unlocking => isFalse id

/-- No threads wait for each other in a circle, and `assert(false && "not implemented")` was not
reached. -/
def Works (s : State) : Prop := ¬ s.waiting.Deadlocked ∧ s.asserted = false

/-! ## Places -/

/-- The thread `t` is one of the finder `k` and at the place `p`. -/
def State.At (s : State) (t k : Nat) (p : Phase) : Prop := s.threads[t]? = some ⟨k, p⟩

section At

variable {s s' : State} {t u k j : Nat} {p q : Phase} {m : Mutex}

theorem State.At.unique (h : s.At t k p) (h' : s.At t j q) : k = j ∧ p = q := by
  have heq := Option.some.inj (h.symm.trans h')
  injection heq with hk hp
  exact ⟨hk, hp⟩

theorem holds_thread_iff : s.holds (.thread t) m ↔ ∃ k p, s.At t k p ∧ p.holds k m := by
  constructor
  · rintro ⟨⟨k, p⟩, hth, hm⟩
    exact ⟨k, p, hth, hm⟩
  · rintro ⟨k, p, hth, hm⟩
    exact ⟨⟨k, p⟩, hth, hm⟩

theorem free_iff : s.Free m ↔ ∀ x, ¬ s.holds x m := by
  constructor
  · rintro ⟨hagent, hthreads⟩ x hx
    cases x with
    | agent => exact hagent hx
    | thread t =>
      obtain ⟨th, hth, hm⟩ := hx
      exact hthreads th (List.mem_of_getElem? hth) hm
  · intro h
    refine ⟨h .agent, ?_⟩
    intro th hth hm
    obtain ⟨t, ht⟩ := List.mem_iff_getElem?.mp hth
    exact h (.thread t) ⟨th, ht, hm⟩

theorem exited_of_at (h : s.At t k p) : s.Exited t ↔ p = .exited := by
  unfold State.Exited
  rw [show s.threads[t]? = some ⟨k, p⟩ from h]
  simp

theorem main_of_outside (h : m = .main ∨ (false = true ∧ m = .state k)) : m = .main := by
  rcases h with hm | ⟨hinside, -⟩
  · exact hm
  · cases hinside

theorem main_or_state (h : m = .main ∨ (true = true ∧ m = .state k)) :
    m = .main ∨ m = .state k := by
  rcases h with hm | ⟨-, hm⟩
  · exact Or.inl hm
  · exact Or.inr hm

/-! ## Ranks -/

/-- What a thread that has `mMainFuncMutex` waits for is the state of a finder or the end of a
thread. -/
theorem Phase.wants_of_main (h : p.holds k .main) : p.wants k ≠ some .main := by
  cases p with
  | getState inside | getConnectedAdapter inside | continueSearch inside | stopSearch _ inside =>
    cases inside <;> simp [Phase.wants]
  | join _ _ | handshake _ | unlocking => simp [Phase.wants]
  | _ => simp [Phase.holds] at h

/-- A thread that has the state of a finder waits for no mutex. -/
theorem Phase.wants_of_state (h : p.holds k (.state j)) : p.wants k = none := by
  cases p with
  | getState inside | getConnectedAdapter inside | continueSearch inside | stopSearch _ inside =>
    cases inside with
    | true => rfl
    | false => simp [Phase.holds] at h
  | checking | ready | join _ _ => rfl
  | _ => simp [Phase.holds] at h

theorem AgentPhase.wants_of_main {a : AgentPhase} (h : a.holds .main) :
    a.wants ≠ some .main := by
  cases a with
  | startSearch _ inside => cases inside <;> simp [AgentPhase.wants]
  | deciding | unlocking => simp [AgentPhase.wants]
  | _ => simp [AgentPhase.holds] at h

theorem AgentPhase.wants_of_state {a : AgentPhase} (h : a.holds (.state j)) : a.wants = none := by
  cases a with
  | startSearch _ inside =>
    cases inside with
    | true => rfl
    | false => simp [AgentPhase.holds] at h
  | _ => simp [AgentPhase.holds] at h

theorem wants_of_main {x : Actor} (h : s.holds x .main) : s.wants x ≠ some .main := by
  cases x with
  | agent => exact AgentPhase.wants_of_main h
  | thread t =>
    obtain ⟨th, hth, hm⟩ := h
    simpa only [State.wants, hth, Option.bind_some] using Phase.wants_of_main hm

theorem wants_of_state {x : Actor} (h : s.holds x (.state j)) : s.wants x = none := by
  cases x with
  | agent => exact AgentPhase.wants_of_state h
  | thread t =>
    obtain ⟨th, hth, hm⟩ := h
    simpa only [State.wants, hth, Option.bind_some] using Phase.wants_of_state hm

/-- A thread that joins is at its join, and the other one has not ended. -/
theorem joins_eq_some {x y : Actor} (h : s.joins x = some y) :
    ∃ t k j u, x = .thread t ∧ y = .thread u ∧ s.At t k (.join j u) ∧ ¬ s.Exited u := by
  cases x with
  | agent => cases h
  | thread t =>
    simp only [State.joins] at h
    obtain ⟨⟨k, p⟩, hth, h⟩ := Option.bind_eq_some_iff.mp h
    cases p with
    | join j u =>
      by_cases hu : s.Exited u
      · simp [hu] at h
      · simp only [if_neg hu] at h
        exact ⟨t, k, j, u, rfl, (Option.some.inj h).symm, hth, hu⟩
    | _ => cases h

theorem joins_of_at (h : s.At t k (.join j u)) (hu : ¬ s.Exited u) :
    s.joins (.thread t) = some (.thread u) := by
  simp only [State.joins, show s.threads[t]? = some ⟨k, .join j u⟩ from h, Option.bind_some,
    if_neg hu]

/-- The rank of a thread, by what it waits for. -/
def rank (s : State) (x : Actor) : Nat :=
  match s.wants x with
  | some .main => 3
  | some (.state _) => 2
  | none => if (s.joins x).isSome then 1 else 0

/-- **Nobody waits in a circle** if the threads that are joined are in their search. -/
theorem not_deadlocked_of_inSearch
    (h : ∀ t k j u, s.At t k (.join j u) → ∃ i p, s.At u i p ∧ p.InSearch) :
    ¬ s.waiting.Deadlocked := by
  have hlow : ∀ x, s.wants x = none → rank s x ≤ 1 := by
    intro x hx
    simp only [rank, hx]
    split <;> omega
  suffices hfalls : ∀ x y, s.waiting.WaitsFor x y → rank s y < rank s x from
    Waiting.not_deadlocked hfalls
  intro x y hwaits
  rcases hwaits with ⟨m, hx, hy⟩ | hjoin
  · have hx : s.wants x = some m := hx
    cases m with
    | main =>
      have hrank : rank s x = 3 := by simp only [rank, hx]
      have hmain := wants_of_main hy
      rw [hrank]
      simp only [rank]
      split
      · next hy' => exact absurd hy' hmain
      · omega
      · split <;> omega
    | state j =>
      have hrank : rank s x = 2 := by simp only [rank, hx]
      have := hlow y (wants_of_state hy)
      omega
  · obtain ⟨t, k, j, u, rfl, rfl, hat, -⟩ := joins_eq_some hjoin
    obtain ⟨i, p, hu, hsearch⟩ := h t k j u hat
    have hx : rank s (.thread t) = 1 := by
      have hwants : s.wants (.thread t) = none := by
        simp only [State.wants, show s.threads[t]? = some ⟨k, .join j u⟩ from hat,
          Option.bind_some, Phase.wants]
      have hjoins : s.joins (.thread t) = some (.thread u) := hjoin
      simp only [rank, hwants, hjoins, Option.isSome_some, if_true]
    have hy : rank s (.thread u) = 0 := by
      have hth : s.threads[u]? = some ⟨i, p⟩ := hu
      cases p with
      | searching | returning | head | exited =>
        simp [rank, State.wants, State.joins, hth, Phase.wants]
      | _ => exact hsearch.elim
    omega

end At

/-! ## The invariant -/

/-- The thread goes on to its end if its finder has been stopped. -/
def Phase.Leaving : Phase → Prop
  | .stopSearch _ _ | .join _ _ | .unlocking | .returning | .head | .locking | .checking
  | .exited => True
  | _ => False

/-- The thread has reported a connection that is not decided on. -/
def Phase.Reporting : Phase → Prop
  | .connectionFound | .getState _ | .getConnectedAdapter _ | .handshake _ | .continueSearch _
  | .stopSearch _ _ | .join _ _ | .exited => True
  | _ => False

/-- The finder that the thread is stopping. -/
def Phase.stage : Phase → Option Nat
  | .stopSearch k _ | .join k _ => some k
  | _ => none

/-- The finder that the agent is starting. -/
def AgentPhase.stage : AgentPhase → Option Nat
  | .startSearch k _ => some k
  | _ => none

/-- Another thread than `t` joins `u`, one of the finder `k`. -/
def State.JoinedBy (s : State) (t k u : Nat) : Prop := ∃ x i, x ≠ t ∧ s.At x i (.join k u)

structure Inv (s : State) : Prop where
  mutex : ∀ x y m, s.holds x m → s.holds y m → x = y
  bound : ∀ t k p, s.At t k p → k < s.count
  own : ∀ k u, (s.mFinders k).mThread = some u → ∃ p, s.At u k p
  /-- The thread of a finder that was started last is its only one. -/
  alone : ∀ t k p, s.At t k p → p ≠ .exited → (s.mFinders k).mThread = some t
  joining : ∀ x i k u, s.At x i (.join k u) → (s.mFinders k).mThread = some u
    ∧ (s.mFinders k).mStopFlag = true ∧ (s.mFinders k).mState = .stopped
    ∧ ∃ p, s.At u k p ∧ p.InSearch
  /-- The loop that stops the finders has stopped those in front of it. -/
  stopping : ∀ x i p n, s.At x i p → p.stage = some n →
    s.mConnectionEstablished = true ∧ ∀ k, k < n → (s.mFinders k).mState = .stopped
  stopped : ∀ t k p, s.At t k p → (s.mFinders k).mState = .stopped →
    p.Leaving ∨ ∃ x i, s.At x i (.join k t)
  waitAck : ∀ t k p, s.At t k p → (s.mFinders k).mState = .waitAck → p.Reporting
  awake : ∀ t k p, s.At t k p → p ≠ .waiting ∧ p ≠ .waking
  /-- While there is a connection the finders are stopped, or are being stopped. -/
  established : s.mConnectionEstablished = true →
    (∀ k, k < s.count → (s.mFinders k).mState = .stopped) ∨
      ∃ x i p, s.At x i p ∧ p.stage ≠ none
  manager : s.mConnectionEstablished = true → s.mpManager = true
  starting : ∀ k, s.agent.stage = some k → s.mConnectionEstablished = false ∧ k < s.count
  asserted : s.asserted = false

theorem inv_initial {count : Nat} {apple : Bool} : Inv (.initial count apple) where
  mutex := by
    rintro (_ | t) y m hx hy
    · exact hx.elim
    · obtain ⟨th, hth, -⟩ := hx
      cases hth
  bound := fun _ _ _ h => nomatch h
  own := fun _ _ h => nomatch h
  alone := fun _ _ _ h => nomatch h
  joining := fun _ _ _ _ h => nomatch h
  stopping := fun _ _ _ _ h => nomatch h
  stopped := fun _ _ _ h => nomatch h
  waitAck := fun _ _ _ h => nomatch h
  awake := fun _ _ _ h => nomatch h
  established := fun h => nomatch h
  manager := fun h => nomatch h
  starting := fun _ h => nomatch h
  asserted := rfl

/-- What the invariant is for. -/
theorem Inv.works {s : State} (h : Inv s) : Works s := by
  refine ⟨not_deadlocked_of_inSearch ?_, h.asserted⟩
  intro t i k u ht
  obtain ⟨-, -, -, p, hu, hp⟩ := h.joining t i k u ht
  exact ⟨k, p, hu, hp⟩

section Inv

variable {s s' : State} {t j k u : Nat} {p p' : Phase} {f : Finder} {m : Mutex}

/-- Two threads that have the same mutex are one. -/
theorem Inv.unique (h : Inv s) {x y i l : Nat} {q r : Phase} (hx : s.At x i q) (hy : s.At y l r)
    (hq : q.holds i m) (hr : r.holds l m) : x = y :=
  Actor.thread.inj (h.mutex (.thread x) (.thread y) m (holds_thread_iff.mpr ⟨i, q, hx, hq⟩)
    (holds_thread_iff.mpr ⟨l, r, hy, hr⟩))

theorem Phase.main_of_stage {n : Nat} (h : p.stage = some n) : p.holds k .main := by
  cases p with
  | stopSearch _ _ | join _ _ => exact Or.inl rfl
  | _ => cases h

theorem AgentPhase.main_of_stage {a : AgentPhase} {n : Nat} (h : a.stage = some n) :
    a.holds .main := by
  cases a with
  | startSearch _ _ => exact Or.inl rfl
  | _ => cases h

/-- Only one thread stops finders. -/
theorem Inv.unique_stage (h : Inv s) {x y i l n : Nat} {q r : Phase} (hx : s.At x i q)
    (hy : s.At y l r) (hq : q.stage = some n) (hr : r.holds l .main) : x = y :=
  h.unique hx hy (Phase.main_of_stage hq) hr

/-- The thread `t` of the finder `j` gets from `p` to `p'`, and the finder `k` becomes `f`. -/
structure Moves (s s' : State) (t j k : Nat) (p p' : Phase) (f : Finder) : Prop where
  at_ : s.At t j p
  awake : p ≠ .exited
  threads : s'.threads = s.threads.set t ⟨j, p'⟩
  finders : s'.mFinders = Function.update s.mFinders k f
  count : s'.count = s.count
  agent : s'.agent = s.agent

theorem Moves.at_self (h : Moves s s' t j k p p' f) : s'.At t j p' := by
  have hlt : t < s.threads.length := (List.getElem?_eq_some_iff.mp h.at_).1
  unfold State.At
  rw [h.threads, List.getElem?_set_self hlt]

theorem Moves.at_iff (h : Moves s s' t j k p p' f) {x i : Nat} {q : Phase} (hx : x ≠ t) :
    s'.At x i q ↔ s.At x i q := by
  unfold State.At
  rw [h.threads, List.getElem?_set_ne hx.symm]

/-- A thread is where it was, or it is the one that moves. -/
theorem Moves.at_cases (h : Moves s s' t j k p p' f) {x i : Nat} {q : Phase} (hx : s'.At x i q) :
    (x = t ∧ i = j ∧ q = p') ∨ (x ≠ t ∧ s.At x i q) := by
  by_cases hxt : x = t
  · subst hxt
    obtain ⟨hi, hq⟩ := hx.unique h.at_self
    exact Or.inl ⟨rfl, hi, hq⟩
  · exact Or.inr ⟨hxt, (h.at_iff hxt).mp hx⟩

/-- The finder `k` keeps its thread, the others stay as they are. -/
theorem Moves.mThread (h : Moves s s' t j k p p' f) (hf : f.mThread = (s.mFinders k).mThread)
    (i : Nat) : (s'.mFinders i).mThread = (s.mFinders i).mThread := by
  rw [h.finders]
  by_cases hi : i = k
  · subst hi
    rw [Function.update_self, hf]
  · rw [Function.update_of_ne hi]

theorem Moves.finder_self (h : Moves s s' t j k p p' f) : s'.mFinders k = f := by
  rw [h.finders, Function.update_self]

theorem Moves.finder_of_ne (h : Moves s s' t j k p p' f) {i : Nat} (hi : i ≠ k) :
    s'.mFinders i = s.mFinders i := by
  rw [h.finders, Function.update_of_ne hi]

/-- Who has a mutex after a step had it before, or has just found it free. -/
theorem Inv.mutex_of_back (h : Inv s) {z : Actor}
    (hback : ∀ x m, s'.holds x m → s.holds x m ∨ (x = z ∧ s.Free m)) :
    ∀ x y m, s'.holds x m → s'.holds y m → x = y := by
  intro x y m hx hy
  rcases hback x m hx with hx | ⟨rfl, hfree⟩
  · rcases hback y m hy with hy | ⟨-, hfree⟩
    · exact h.mutex x y m hx hy
    · exact absurd hx (free_iff.mp hfree x)
  · rcases hback y m hy with hy | ⟨rfl, -⟩
    · exact absurd hy (free_iff.mp hfree y)
    · rfl

/-- A thread takes no mutex that another one has. -/
theorem Moves.mutex (h : Inv s) (hm : Moves s s' t j k p p' f)
    (hholds : ∀ m, p'.holds j m → p.holds j m ∨ s.Free m) :
    ∀ x y m, s'.holds x m → s'.holds y m → x = y := by
  have hback : ∀ x m, s'.holds x m → s.holds x m ∨ (x = .thread t ∧ s.Free m) := by
    intro x m hx
    cases x with
    | agent =>
      have hx : s'.agent.holds m := hx
      rw [hm.agent] at hx
      exact Or.inl hx
    | thread u =>
      obtain ⟨i, q, hat, hq⟩ := holds_thread_iff.mp hx
      rcases hm.at_cases hat with ⟨rfl, rfl, rfl⟩ | ⟨-, hold⟩
      · rcases hholds m hq with hp | hfree
        · exact Or.inl (holds_thread_iff.mpr ⟨_, p, hm.at_, hp⟩)
        · exact Or.inr ⟨rfl, hfree⟩
      · exact Or.inl (holds_thread_iff.mpr ⟨i, q, hold, hq⟩)
  exact h.mutex_of_back hback

/-- **What the invariant needs of a step of a finder's thread.** -/
theorem Inv.move (h : Inv s) (hm : Moves s s' t j k p p' f)
    (hthread : f.mThread = (s.mFinders k).mThread)
    (hholds : ∀ m, p'.holds j m → p.holds j m ∨ s.Free m)
    (hjoin : ∀ i u, p' = .join i u → i = k ∧ f.mThread = some u ∧ f.mStopFlag = true
      ∧ f.mState = .stopped ∧ u ≠ t ∧ ∃ q, s.At u k q ∧ q.InSearch)
    (hjoins : ∀ u, s.JoinedBy t k u → f.mStopFlag = true ∧ f.mState = .stopped)
    (hjoined : s.JoinedBy t j t → p'.InSearch)
    (hstage : ∀ n, p'.stage = some n → s'.mConnectionEstablished = true ∧
      ∀ i, i < n → (s'.mFinders i).mState = .stopped)
    (hstages : ∀ x i q n, x ≠ t → s.At x i q → q.stage = some n → k < n → f.mState = .stopped)
    (hkeep : s.mConnectionEstablished = true → s'.mConnectionEstablished = true)
    (hself : (s'.mFinders j).mState = .stopped → p'.Leaving ∨ s.JoinedBy t j t)
    (hstopped : f.mState = .stopped → ∀ u q, u ≠ t → s.At u k q →
      q.Leaving ∨ ∃ x i, s'.At x i (.join k u))
    (hlost : ∀ i u, p = .join i u → s.Exited u)
    (hwait : (s'.mFinders j).mState = .waitAck → p'.Reporting)
    (hwaits : f.mState = .waitAck → ∀ u q, u ≠ t → s.At u k q → q.Reporting)
    (hawake : p' ≠ .waiting ∧ p' ≠ .waking)
    (hest : s'.mConnectionEstablished = true →
      (∀ i, i < s.count → (s'.mFinders i).mState = .stopped) ∨
        ∃ x i q, s'.At x i q ∧ q.stage ≠ none)
    (hmanager : s'.mConnectionEstablished = true → s'.mpManager = true)
    (hstarting : ∀ n, s.agent.stage = some n → s'.mConnectionEstablished = false)
    (hasserted : s'.asserted = false) : Inv s' where
  mutex := hm.mutex h hholds
  bound := by
    intro x i q hx
    rw [hm.count]
    rcases hm.at_cases hx with ⟨rfl, rfl, rfl⟩ | ⟨-, hx⟩
    · exact h.bound _ _ _ hm.at_
    · exact h.bound x i q hx
  own := by
    intro i u hu
    rw [hm.mThread hthread] at hu
    obtain ⟨q, hq⟩ := h.own i u hu
    by_cases hut : u = t
    · subst hut
      obtain ⟨rfl, -⟩ := hq.unique hm.at_
      exact ⟨p', hm.at_self⟩
    · exact ⟨q, (hm.at_iff hut).mpr hq⟩
  alone := by
    intro x i q hx hq
    rw [hm.mThread hthread]
    rcases hm.at_cases hx with ⟨rfl, rfl, rfl⟩ | ⟨-, hx⟩
    · exact h.alone _ _ _ hm.at_ hm.awake
    · exact h.alone x i q hx hq
  joining := by
    intro x i l u hx
    -- the thread that is joined, where it is now
    have hpeer : ∀ q, u ≠ t → s.At u l q → q.InSearch → ∃ r, s'.At u l r ∧ r.InSearch :=
      fun q hut hu hq => ⟨q, (hm.at_iff hut).mpr hu, hq⟩
    rcases hm.at_cases hx with ⟨rfl, rfl, hp'⟩ | ⟨hxt, hx⟩
    · obtain ⟨rfl, hthr, hflag, hstate, hut, q, hu, hq⟩ := hjoin l u hp'.symm
      rw [hm.finder_self]
      exact ⟨hthr, hflag, hstate, hpeer q hut hu hq⟩
    · obtain ⟨hthr, hflag, hstate, q, hu, hq⟩ := h.joining x i l u hx
      have hfinder : (s'.mFinders l).mStopFlag = true ∧ (s'.mFinders l).mState = .stopped := by
        by_cases hlk : l = k
        · subst hlk
          rw [hm.finder_self]
          exact hjoins u ⟨x, i, hxt, hx⟩
        · rw [hm.finder_of_ne hlk]
          exact ⟨hflag, hstate⟩
      refine ⟨by rw [hm.mThread hthread, hthr], hfinder.1, hfinder.2, ?_⟩
      by_cases hut : u = t
      · subst hut
        obtain ⟨rfl, -⟩ := hu.unique hm.at_
        exact ⟨p', hm.at_self, hjoined ⟨x, i, hxt, hx⟩⟩
      · exact hpeer q hut hu hq
  stopping := by
    intro x i q n hx hn
    rcases hm.at_cases hx with ⟨rfl, rfl, rfl⟩ | ⟨hxt, hx⟩
    · exact hstage n hn
    · obtain ⟨hestab, hbefore⟩ := h.stopping x i q n hx hn
      refine ⟨hkeep hestab, ?_⟩
      intro l hl
      by_cases hlk : l = k
      · subst hlk
        rw [hm.finder_self]
        exact hstages x i q n hxt hx hn hl
      · rw [hm.finder_of_ne hlk]
        exact hbefore l hl
  stopped := by
    intro x i q hx hstate
    -- a thread that was joined is joined still, or it has ended
    have hstill : ∀ q y l, s.At x i q → s.At y l (.join i x) →
        q.Leaving ∨ ∃ x' l', s'.At x' l' (.join i x) := by
      intro q y l hxq hy
      by_cases hyt : y = t
      · subst hyt
        obtain ⟨rfl, rfl⟩ := hy.unique hm.at_
        have hexit := (exited_of_at hxq).mp (hlost i x rfl)
        exact Or.inl (by rw [hexit]; trivial)
      · exact Or.inr ⟨y, l, (hm.at_iff hyt).mpr hy⟩
    rcases hm.at_cases hx with ⟨rfl, rfl, rfl⟩ | ⟨hxt, hx⟩
    · rcases hself hstate with hleave | ⟨y, l, hyt, hy⟩
      · exact Or.inl hleave
      · exact Or.inr ⟨y, l, (hm.at_iff hyt).mpr hy⟩
    · by_cases hik : i = k
      · subst hik
        rw [hm.finder_self] at hstate
        exact hstopped hstate x q hxt hx
      · rw [hm.finder_of_ne hik] at hstate
        rcases h.stopped x i q hx hstate with hleave | ⟨y, l, hy⟩
        · exact Or.inl hleave
        · exact hstill q y l hx hy
  waitAck := by
    intro x i q hx hstate
    rcases hm.at_cases hx with ⟨rfl, rfl, rfl⟩ | ⟨hxt, hx⟩
    · exact hwait hstate
    · by_cases hik : i = k
      · subst hik
        rw [hm.finder_self] at hstate
        exact hwaits hstate x q hxt hx
      · rw [hm.finder_of_ne hik] at hstate
        exact h.waitAck x i q hx hstate
  awake := by
    intro x i q hx
    rcases hm.at_cases hx with ⟨rfl, rfl, rfl⟩ | ⟨-, hx⟩
    · exact hawake
    · exact h.awake x i q hx
  established := by
    rw [hm.count]
    exact hest
  manager := hmanager
  starting := by
    intro n hn
    rw [hm.agent] at hn
    rw [hm.count]
    exact ⟨hstarting n hn, (h.starting n hn).2⟩
  asserted := hasserted

theorem moves_goto {q : Phase} (ht : s.At t j p) (hp : p ≠ .exited) :
    Moves s (s.goto t j q) t j j p q (s.mFinders j) :=
  ⟨ht, hp, rfl, (Function.update_eq_self ..).symm, rfl, rfl⟩

/-- A finder that is joined by another thread has been stopped. -/
theorem Inv.stopped_of_joined (h : Inv s) (hj : s.JoinedBy t k u) :
    (s.mFinders k).mStopFlag = true ∧ (s.mFinders k).mState = .stopped := by
  obtain ⟨x, i, -, hx⟩ := hj
  obtain ⟨-, hflag, hstate, -⟩ := h.joining x i k u hx
  exact ⟨hflag, hstate⟩

/-- A thread that another one joins is in its search. -/
theorem Inv.inSearch_of_joined (h : Inv s) (ht : s.At t j p) (hj : s.JoinedBy t j t) :
    p.InSearch := by
  obtain ⟨x, i, -, hx⟩ := hj
  obtain ⟨-, -, -, q, hq, hsearch⟩ := h.joining x i j t hx
  obtain ⟨-, rfl⟩ := ht.unique hq
  exact hsearch

/-- A thread goes on, and no finder changes. -/
theorem Inv.goto (h : Inv s) (ht : s.At t j p) (hp : p ≠ .exited)
    (hholds : ∀ m, p'.holds j m → p.holds j m ∨ s.Free m) (hjoin : ∀ i u, p' ≠ .join i u)
    (hjoined : s.JoinedBy t j t → p'.InSearch)
    (hstage : ∀ n, p'.stage = some n → s.mConnectionEstablished = true ∧
      ∀ i, i < n → (s.mFinders i).mState = .stopped)
    (hself : (s.mFinders j).mState = .stopped → p'.Leaving ∨ s.JoinedBy t j t)
    (hlost : ∀ i u, p = .join i u → s.Exited u)
    (hwait : (s.mFinders j).mState = .waitAck → p'.Reporting)
    (hawake : p' ≠ .waiting ∧ p' ≠ .waking)
    (hest : s.mConnectionEstablished = true →
      (∀ i, i < s.count → (s.mFinders i).mState = .stopped) ∨ p'.stage ≠ none ∨ p.stage = none) :
    Inv (s.goto t j p') := by
  have hm := moves_goto (q := p') ht hp
  refine h.move hm rfl hholds (fun i u hi => absurd hi (hjoin i u))
    (fun u hu => h.stopped_of_joined hu) hjoined hstage ?_ id hself ?_ hlost hwait ?_ hawake ?_
    h.manager ?_ h.asserted
  · intro x i q n _ hx hn hk
    exact (h.stopping x i q n hx hn).2 j hk
  · intro hstate x q hxt hx
    rcases h.stopped x j q hx hstate with hleave | ⟨y, l, hy⟩
    · exact Or.inl hleave
    · by_cases hyt : y = t
      · subst hyt
        obtain ⟨rfl, rfl⟩ := hy.unique ht
        have hexit := (exited_of_at hx).mp (hlost _ x rfl)
        exact Or.inl (by rw [hexit]; trivial)
      · exact Or.inr ⟨y, l, (hm.at_iff hyt).mpr hy⟩
  · intro hstate x q _ hx
    exact h.waitAck x j q hx hstate
  · intro hestab
    rcases hest hestab with hall | hnew | hold
    · exact Or.inl hall
    · exact Or.inr ⟨t, j, p', hm.at_self, hnew⟩
    · rcases h.established hestab with hall | ⟨x, i, q, hx, hq⟩
      · exact Or.inl hall
      · have hxt : x ≠ t := by
          rintro rfl
          obtain ⟨-, rfl⟩ := hx.unique ht
          exact hq hold
        exact Or.inr ⟨x, i, q, (hm.at_iff hxt).mpr hx, hq⟩
  · exact fun n hn => (h.starting n hn).1

/-- A thread goes on that neither has been stopping finders nor begins with it. -/
theorem Inv.walk (h : Inv s) (ht : s.At t j p) (hp : p ≠ .exited) (hstage : p.stage = none)
    (hstage' : p'.stage = none) (hholds : ∀ m, p'.holds j m → p.holds j m ∨ s.Free m)
    (hjoined : s.JoinedBy t j t → p'.InSearch)
    (hself : (s.mFinders j).mState = .stopped → p'.Leaving ∨ s.JoinedBy t j t)
    (hwait : (s.mFinders j).mState = .waitAck → p'.Reporting)
    (hawake : p' ≠ .waiting ∧ p' ≠ .waking) : Inv (s.goto t j p') := by
  refine h.goto ht hp hholds ?_ hjoined ?_ hself ?_ hwait hawake fun _ => Or.inr (Or.inr hstage)
  · rintro i u rfl
    cases hstage'
  · intro n hn
    rw [hstage'] at hn
    cases hn
  · rintro i u rfl
    cases hstage

/-- A thread whose finder has been stopped leaves, or another one joins it. -/
theorem Inv.leaving_or_joined (h : Inv s) (ht : s.At t j p)
    (hstate : (s.mFinders j).mState = .stopped) : p.Leaving ∨ s.JoinedBy t j t := by
  rcases h.stopped t j p ht hstate with hleave | ⟨x, i, hx⟩
  · exact Or.inl hleave
  · refine Or.inr ⟨x, i, ?_, hx⟩
    rintro rfl
    obtain ⟨-, -, -, q, hq, hsearch⟩ := h.joining x i j x hx
    obtain ⟨-, rfl⟩ := hq.unique hx
    exact hsearch

/-- A thread at any other place is not one of a stopped finder. -/
theorem Inv.not_stopped (h : Inv s) (ht : s.At t j p) (hleave : ¬ p.Leaving)
    (hsearch : ¬ p.InSearch) : (s.mFinders j).mState ≠ .stopped := by
  intro hstate
  rcases h.leaving_or_joined ht hstate with hp | hj
  · exact hleave hp
  · exact hsearch (h.inSearch_of_joined ht hj)

theorem Inv.not_waitAck (h : Inv s) (ht : s.At t j p) (hp : ¬ p.Reporting) :
    (s.mFinders j).mState ≠ .waitAck :=
  fun hstate => hp (h.waitAck t j p ht hstate)

/-- The other threads of the finder have ended. -/
theorem Inv.exited_of_ne (h : Inv s) (ht : s.At t j p) (hp : p ≠ .exited) {q : Phase}
    (hu : s.At u j q) (hut : u ≠ t) : q = .exited := by
  by_contra hq
  have hsame := (h.alone t j p ht hp).symm.trans (h.alone u j q hu hq)
  exact hut (Option.some.inj hsame).symm

theorem stopFrom_cases (s : State) (k : Nat) :
    (k < s.count ∧ s.stopFrom k = .stopSearch k false) ∨
      (s.count ≤ k ∧ s.stopFrom k = .unlocking) := by
  unfold State.stopFrom
  split
  · next hk => exact Or.inl ⟨hk, rfl⟩
  · next hk => exact Or.inr ⟨Nat.le_of_not_lt hk, rfl⟩

/-- Where a thread gets that has just stopped the finder `k`. -/
structure Onward (s : State) (j k : Nat) (p : Phase) : Prop where
  holds : ∀ m, p.holds j m → m = .main ∨ m = .state k
  leaving : p.Leaving
  stage : ∀ n, p.stage = some n → n ≤ k + 1
  last : (p.stage ≠ none ∧ p.Reporting) ∨ s.count ≤ k + 1
  awake : p ≠ .waiting ∧ p ≠ .waking

theorem onward_stopFrom (s : State) (j k : Nat) : Onward s j k (s.stopFrom (k + 1)) := by
  rcases stopFrom_cases s (k + 1) with ⟨-, heq⟩ | ⟨hlast, heq⟩
  · rw [heq]
    refine ⟨?_, trivial, ?_, Or.inl ⟨by simp [Phase.stage], trivial⟩, by simp⟩
    · rintro m (hm | ⟨hinside, -⟩)
      · exact Or.inl hm
      · cases hinside
    · intro n hn
      exact Nat.le_of_eq (Option.some.inj hn).symm
  · rw [heq]
    refine ⟨fun m hm => Or.inl hm, trivial, ?_, Or.inr hlast, by simp⟩
    intro n hn
    cases hn

theorem onward_join (s : State) (j k u : Nat) : Onward s j k (.join k u) where
  holds := fun _ hm => hm
  leaving := trivial
  stage := by
    intro n hn
    obtain rfl := Option.some.inj hn
    exact Nat.le_succ k
  last := Or.inl ⟨by simp [Phase.stage], trivial⟩
  awake := by simp

/-- Finders up to `k` that have been stopped are all of them, or the loop goes on. -/
theorem Onward.all {r : State} (ho : Onward s j k p')
    (hbefore : ∀ i, i < k + 1 → (r.mFinders i).mState = .stopped) :
    (∀ i, i < s.count → (r.mFinders i).mState = .stopped) ∨ p'.stage ≠ none := by
  rcases ho.last with ⟨hstage, -⟩ | hlast
  · exact Or.inr hstage
  · exact Or.inl fun i hi => hbefore i (Nat.lt_of_lt_of_le hi hlast)

/-- The loop goes on behind a finder that has been stopped. -/
theorem Inv.advance (h : Inv s) (ht : s.At t j p) (hp : p.stage = some k)
    (hk : (s.mFinders k).mState = .stopped) (hlost : ∀ i u, p = .join i u → s.Exited u) :
    Inv (s.goto t j (s.stopFrom (k + 1))) := by
  have ho := onward_stopFrom s j k
  have hmain : p.holds j .main := Phase.main_of_stage hp
  obtain ⟨hestab, hbefore⟩ := h.stopping t j p k ht hp
  have hbefore' : ∀ i, i < k + 1 → (s.mFinders i).mState = .stopped := by
    intro i hi
    rcases Nat.lt_succ_iff_lt_or_eq.mp hi with hlt | rfl
    · exact hbefore i hlt
    · exact hk
  have hnosearch : ¬ p.InSearch := by
    intro hsearch
    cases p <;> first | exact hsearch | cases hp
  refine h.goto ht ?_ ?_ ?_ (fun hj => absurd (h.inSearch_of_joined ht hj) hnosearch) ?_
    (fun _ => Or.inl ho.leaving) hlost ?_ ho.awake ?_
  · rintro rfl
    cases hp
  · intro m hm
    rcases stopFrom_cases s (k + 1) with ⟨-, heq⟩ | ⟨-, heq⟩
    · rw [heq] at hm
      obtain rfl := main_of_outside hm
      exact Or.inl hmain
    · rw [heq] at hm
      have hm : m = .main := hm
      exact Or.inl (hm ▸ hmain)
  · intro i u
    rcases stopFrom_cases s (k + 1) with ⟨-, heq⟩ | ⟨-, heq⟩ <;> rw [heq] <;> simp
  · intro n hn
    exact ⟨hestab, fun i hi => hbefore' i (Nat.lt_of_lt_of_le hi (ho.stage n hn))⟩
  · intro hstate
    rcases ho.last with ⟨-, hreport⟩ | hlast
    · exact hreport
    · have hj := hbefore' j (Nat.lt_of_lt_of_le (h.bound t j p ht) hlast)
      exact absurd (hstate.symm.trans hj) (by simp)
  · intro _
    rcases ho.all (r := s) hbefore' with hall | hstage
    · exact Or.inl hall
    · exact Or.inr (Or.inl hstage)

/-- A finder is stopped. -/
theorem Inv.stop (h : Inv s) (ht : s.At t j (.stopSearch k true))
    (hthread : f.mThread = (s.mFinders k).mThread) (hstate : f.mState = .stopped)
    (ho : Onward s j k p')
    (hjoin : ∀ i u, p' = .join i u → i = k ∧ f.mThread = some u ∧ f.mStopFlag = true ∧ u ≠ t
      ∧ ∃ q, s.At u k q ∧ q.InSearch)
    (hothers : ∀ u q, u ≠ t → s.At u k q → q.Leaving ∨ p' = .join k u) :
    Inv ((s.setFinder k f).goto t j p') := by
  have hm : Moves s ((s.setFinder k f).goto t j p') t j k (.stopSearch k true) p' f :=
    ⟨ht, by simp, rfl, rfl, rfl, rfl⟩
  obtain ⟨hestab, hbefore⟩ := h.stopping t j _ k ht rfl
  have hbefore' : ∀ i, i < k + 1 →
      (((s.setFinder k f).goto t j p').mFinders i).mState = .stopped := by
    intro i hi
    by_cases hik : i = k
    · subst hik
      rw [hm.finder_self, hstate]
    · rw [hm.finder_of_ne hik]
      exact hbefore i (Nat.lt_of_le_of_ne (Nat.le_of_lt_succ hi) hik)
  have hnotjoined : ¬ s.JoinedBy t j t := fun hj => h.inSearch_of_joined ht hj
  refine h.move hm hthread ?_ ?_ ?_ (fun hj => absurd hj hnotjoined) ?_
    (fun _ _ _ _ _ _ _ _ => hstate) id (fun _ => Or.inl ho.leaving) ?_ ?_ ?_ ?_ ho.awake ?_ h.manager
    (fun n hn => (h.starting n hn).1) h.asserted
  · intro m hm'
    rcases ho.holds m hm' with rfl | rfl
    · exact Or.inl (Or.inl rfl)
    · exact Or.inl (Or.inr ⟨rfl, rfl⟩)
  · intro i u hp'
    obtain ⟨hi, hthr, hflag, hut, hq⟩ := hjoin i u hp'
    exact ⟨hi, hthr, hflag, hstate, hut, hq⟩
  · -- nobody else joins a thread of this finder: the thread has the mutex
    rintro u ⟨x, i, hxt, hx⟩
    exact absurd (h.unique (m := .state k) hx ht (Or.inr rfl) (Or.inr ⟨rfl, rfl⟩)) hxt
  · intro n hn
    exact ⟨hestab, fun i hi => hbefore' i (Nat.lt_of_lt_of_le hi (ho.stage n hn))⟩
  · intro _ u q hut hu
    rcases hothers u q hut hu with hleave | rfl
    · exact Or.inl hleave
    · exact Or.inr ⟨t, j, hm.at_self⟩
  · intro i u hp
    cases hp
  · intro hwait
    rcases ho.last with ⟨-, hreport⟩ | hlast
    · exact hreport
    · have hj := hbefore' j (Nat.lt_of_lt_of_le (h.bound t j _ ht) hlast)
      exact absurd (hwait.symm.trans hj) (by simp)
  · intro hwait
    rw [hstate] at hwait
    cases hwait
  · intro _
    rcases ho.all hbefore' with hall | hstage
    · exact Or.inl hall
    · exact Or.inr ⟨t, j, p', hm.at_self, hstage⟩

end Inv

end IviLink.Hal.FinderThreads
