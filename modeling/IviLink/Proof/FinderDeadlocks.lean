import IviLink.Proof.FinderInvariant
import IviLink.Lib.Run

/-!
# When the finders' threads do not block each other

`connectionFound` joins the threads of the other finders while it has `mMainFuncMutex`
and the mutex of the finder that it stops. `Quiet` asks that such a thread is in its
search, or on its way to look at its stop flag, and that it finds nothing more. A thread
that is stopped at any other place, or that finds a connection after it was stopped,
waits for a mutex that its stopper has.

The assertion of `connectionFound` fails if a finder reports a connection while there is
one. All finders have been stopped by then, and their threads have ended or are about
to, unless a finder was started again while its old thread was still there (`Fresh`).
-/

namespace IviLink.Hal.FinderThreads

open IviLink.Lib

/-- A finder is started only when its earlier threads have ended. -/
def Fresh (s : State) : Event → Prop
  | .agent _ => ∀ k ∈ List.range s.count, s.agent = .startSearch k true →
    (s.mFinders k).mState = .stopped → ∀ th ∈ s.threads, th.finder = k → th.phase = .exited
  | .thread _ _ => True

/-- A finder that is stopped from another thread is in its search and finds nothing more in it. -/
def Phase.Quiet (s : State) (t own : Nat) (answer : Bool) : Phase → Prop
  | .stopSearch k true => (s.mFinders k).mState ≠ .stopped →
    ∀ u ∈ (s.mFinders k).mThread, u ≠ t → ∀ other ∈ s.threads[u]?, other.phase.InSearch
  | .searching => answer = true → (s.mFinders own).mState ≠ .stopped
  | _ => True

def Quiet (s : State) : Event → Prop
  | .agent _ => True
  | .thread t answer => ∀ th ∈ s.threads[t]?, th.phase.Quiet s t th.finder answer

instance (s : State) (ev : Event) : Decidable (Fresh s ev) :=
  match ev with
  | .agent _ => inferInstanceAs (Decidable (∀ _ ∈ _, _))
  | .thread _ _ => isTrue trivial

instance (s : State) (t own : Nat) (answer : Bool) (p : Phase) :
    Decidable (p.Quiet s t own answer) :=
  match p with
  | .stopSearch _ true => inferInstanceAs (Decidable (_ → ∀ _ ∈ _, _ → ∀ _ ∈ _, _))
  | .searching => inferInstanceAs (Decidable (_ → _))
  | .stopSearch _ false | .head | .locking | .checking | .waiting | .waking | .setReady | .ready
  | .connectionFound | .getState _ | .getConnectedAdapter _ | .handshake _ | .join _ _
  | .continueSearch _ | .unlocking | .returning | .exited => isTrue trivial

instance (s : State) (ev : Event) : Decidable (Quiet s ev) :=
  match ev with
  | .agent _ => isTrue trivial
  | .thread _ _ => inferInstanceAs (Decidable (∀ _ ∈ _, _))

section Thread

variable {s s' : State} {t j k u : Nat} {p p' : Phase} {f : Finder} {m : Mutex} {answer : Bool}

/-! ## A step of a finder's thread -/

theorem lock_eq_some (h : s.lock m t j p = some s') : s.Free m ∧ s' = s.goto t j p := by
  unfold State.lock at h
  split at h
  · next hfree => exact ⟨hfree, (Option.some.inj h).symm⟩
  · cases h

/-- A thread that nobody joins goes on along its code. -/
theorem Inv.pass (h : Inv s) (ht : s.At t j p) (hsearch : ¬ p.InSearch) (hstage : p.stage = none)
    (hstage' : p'.stage = none) (hholds : ∀ m, p'.holds j m → p.holds j m ∨ s.Free m)
    (hleave : p.Leaving → p'.Leaving) (hreport : (s.mFinders j).mState = .waitAck → p'.Reporting)
    (hawake : p' ≠ .waiting ∧ p' ≠ .waking) : Inv (s.goto t j p') := by
  have hp : p ≠ .exited := by
    rintro rfl
    exact hsearch trivial
  have hnot : ¬ s.JoinedBy t j t := fun hj => hsearch (h.inSearch_of_joined ht hj)
  refine h.walk ht hp hstage hstage' hholds (fun hj => absurd hj hnot) ?_ hreport hawake
  intro hstate
  rcases h.leaving_or_joined ht hstate with hp | hj
  · exact Or.inl (hleave hp)
  · exact absurd hj hnot

/-- A thread takes a mutex and goes on. -/
theorem Inv.lock (h : Inv s) (ht : s.At t j p) (hsearch : ¬ p.InSearch) (hstage : p.stage = none)
    (hstage' : p'.stage = none) (hs : s.lock m t j p' = some s')
    (hholds : ∀ m', p'.holds j m' → p.holds j m' ∨ m' = m) (hleave : p.Leaving → p'.Leaving)
    (hreport : p.Reporting → p'.Reporting) (hawake : p' ≠ .waiting ∧ p' ≠ .waking) : Inv s' := by
  obtain ⟨hfree, rfl⟩ := lock_eq_some hs
  refine h.pass ht hsearch hstage hstage' ?_ hleave (fun hw => hreport (h.waitAck t j p ht hw))
    hawake
  intro m' hm'
  rcases hholds m' hm' with hp | rfl
  · exact Or.inl hp
  · exact Or.inr hfree

/-- A thread that has `mMainFuncMutex` takes the mutex of its finder's state too. -/
theorem Inv.enter (h : Inv s) (ht : s.At t j p) (hsearch : ¬ p.InSearch) (hstage : p.stage = none)
    (hstage' : p'.stage = none) (hmain : p.holds j .main)
    (hs : s.lock (.state j) t j p' = some s')
    (hholds : ∀ m, p'.holds j m → m = .main ∨ (true = true ∧ m = .state j))
    (hleave : p.Leaving → p'.Leaving) (hreport : p.Reporting → p'.Reporting)
    (hawake : p' ≠ .waiting ∧ p' ≠ .waking) : Inv s' := by
  refine h.lock ht hsearch hstage hstage' hs ?_ hleave hreport hawake
  intro m hm
  rcases main_or_state (hholds m hm) with rfl | rfl
  · exact Or.inl hmain
  · exact Or.inr rfl

/-- A thread changes the state of its finder, which has not been stopped. -/
theorem Inv.change (h : Inv s) (ht : s.At t j p) (hleave : ¬ p.Leaving) (hsearch : ¬ p.InSearch)
    (hthread : f.mThread = (s.mFinders j).mThread) (hstate : f.mState ≠ .stopped)
    (hstage : p.stage = none) (hstage' : p'.stage = none) (hholds : ∀ m, p'.holds j m → p.holds j m)
    (hreport : f.mState = .waitAck → p'.Reporting) (hawake : p' ≠ .waiting ∧ p' ≠ .waking) :
    Inv ((s.setFinder j f).goto t j p') := by
  have hp : p ≠ .exited := by
    rintro rfl
    exact hleave trivial
  have hm : Moves s ((s.setFinder j f).goto t j p') t j j p p' f :=
    ⟨ht, hp, rfl, rfl, rfl, rfl⟩
  have hold := h.not_stopped ht hleave hsearch
  refine h.move hm hthread (fun m hm' => Or.inl (hholds m hm')) ?_ ?_ ?_ ?_ ?_ id ?_ ?_ ?_ ?_ ?_
    hawake ?_ h.manager (fun n hn => (h.starting n hn).1) h.asserted
  · intro i u hi
    rw [hi] at hstage'
    cases hstage'
  · intro u hj
    exact absurd (h.stopped_of_joined hj).2 hold
  · intro hj
    exact absurd (h.stopped_of_joined hj).2 hold
  · intro n hn
    rw [hstage'] at hn
    cases hn
  · intro x i q n _ hx hn hj
    exact absurd ((h.stopping x i q n hx hn).2 j hj) hold
  · intro hstop
    rw [hm.finder_self] at hstop
    exact absurd hstop hstate
  · intro hstop
    exact absurd hstop hstate
  · intro i u hi
    rw [hi] at hstage
    cases hstage
  · intro hwait
    rw [hm.finder_self] at hwait
    exact hreport hwait
  · intro _ u q hut hu
    rw [h.exited_of_ne ht hp hu hut]
    trivial
  · intro hestab
    rcases h.established hestab with hall | ⟨x, i, q, hx, hq⟩
    · exact absurd (hall j (h.bound t j p ht)) hold
    · have hxt : x ≠ t := by
        rintro rfl
        obtain ⟨-, rfl⟩ := hx.unique ht
        exact hq hstage
      exact Or.inr ⟨x, i, q, (hm.at_iff hxt).mpr hx, hq⟩

/-- A thread looks at its stop flag. -/
theorem Inv.look (h : Inv s) (ht : s.At t j .head) :
    Inv (s.goto t j (if (s.mFinders j).mStopFlag then .exited else .locking)) := by
  have hwait : (s.mFinders j).mState ≠ .waitAck := h.not_waitAck ht fun hp => hp
  split
  · exact h.walk ht (by simp) rfl rfl (fun m hm => hm.elim) (fun _ => trivial)
      (fun _ => Or.inl trivial) (fun hw => absurd hw hwait) (by simp)
  · next hflag =>
    refine h.walk ht (by simp) rfl rfl (fun m hm => hm.elim) ?_ (fun _ => Or.inl trivial)
      (fun hw => absurd hw hwait) (by simp)
    -- a thread that is joined was told to stop
    intro hj
    exact absurd (h.stopped_of_joined hj).1 hflag

/-- A thread looks at the state of its finder. -/
theorem Inv.check (h : Inv s) (ht : s.At t j .checking) :
    Inv (s.goto t j (match (s.mFinders j).mState with
      | .waitAck => .waiting
      | .stopped => .exited
      | .searching => .searching)) := by
  have hwait : (s.mFinders j).mState ≠ .waitAck := h.not_waitAck ht fun hp => hp
  split
  · next hw => exact absurd hw hwait
  · exact h.pass ht (fun hp => hp) rfl rfl (fun m hm => hm.elim) (fun _ => trivial)
      (fun hw => absurd hw hwait) (by simp)
  · next hsearching =>
    refine h.walk ht (by simp) rfl rfl (fun m hm => hm.elim) (fun _ => trivial) ?_
      (fun hw => absurd hw hwait) (by simp)
    intro hstop
    exact absurd (hsearching.symm.trans hstop) (by simp)

/-- `performSearch` ends. -/
theorem Inv.search (h : Inv s) (ht : s.At t j .searching)
    (hquiet : answer = true → (s.mFinders j).mState ≠ .stopped) :
    Inv (s.goto t j (if answer then .setReady else .head)) := by
  have hwait : (s.mFinders j).mState ≠ .waitAck := h.not_waitAck ht fun hp => hp
  cases answer with
  | false =>
    exact h.walk ht (by simp) rfl rfl (fun m hm => hm.elim) (fun _ => trivial)
      (fun _ => Or.inl trivial) (fun hw => absurd hw hwait) (by simp)
  | true =>
    have hold := hquiet rfl
    exact h.walk ht (by simp) rfl rfl (fun m hm => hm.elim)
      (fun hj => absurd (h.stopped_of_joined hj).2 hold) (fun hstop => absurd hstop hold)
      (fun hw => absurd hw hwait) (by simp)

/-- **There is no connection while a finder reports one.** All finders would have been stopped, or
another thread would be stopping them, with `mMainFuncMutex` taken. -/
theorem Inv.not_established (h : Inv s) (ht : s.At t j p) (hstage : p.stage = none)
    (hmain : p.holds j .main) (hstate : (s.mFinders j).mState ≠ .stopped) :
    s.mConnectionEstablished = false := by
  cases hestab : s.mConnectionEstablished with
  | false => rfl
  | true =>
    exfalso
    rcases h.established hestab with hall | ⟨x, i, q, hx, hq⟩
    · exact hstate (hall j (h.bound t j p ht))
    · obtain ⟨n, hn⟩ := Option.ne_none_iff_exists'.mp hq
      obtain rfl := h.unique_stage hx ht hn hmain
      obtain ⟨-, rfl⟩ := hx.unique ht
      exact hq hstage

theorem Inv.getState (h : Inv s) (ht : s.At t j (.getState true))
    (hs : s.threadNext t j answer (.getState true) = some s') : Inv s' := by
  simp only [State.threadNext] at hs
  split at hs
  · next hwait =>
    have hnew : s.mConnectionEstablished = false :=
      h.not_established ht rfl (Or.inl rfl) (by rw [hwait]; simp)
    rw [hnew] at hs
    obtain rfl := Option.some.inj hs
    refine h.pass ht (fun hp => hp) rfl rfl ?_ (fun hp => hp) (fun _ => trivial) (by simp)
    intro m hm
    obtain rfl := main_of_outside hm
    exact Or.inl (Or.inl rfl)
  · next hwait =>
    obtain rfl := Option.some.inj hs
    exact h.pass ht (fun hp => hp) rfl rfl (fun m hm => Or.inl (Or.inl hm)) (fun hp => hp.elim)
      (fun hw => absurd hw hwait) (by simp)

theorem Inv.getConnectedAdapter (h : Inv s) (ht : s.At t j (.getConnectedAdapter true))
    (hs : s.threadNext t j answer (.getConnectedAdapter true) = some s') : Inv s' := by
  simp only [State.threadNext] at hs
  split at hs
  · next hwait =>
    obtain rfl := Option.some.inj hs
    exact h.change ht (fun hp => hp) (fun hp => hp) rfl (by rw [hwait]; simp) rfl rfl
      (fun m hm => Or.inl hm) (fun _ => trivial) (by simp)
  · next hwait =>
    obtain rfl := Option.some.inj hs
    exact h.pass ht (fun hp => hp) rfl rfl (fun m hm => Or.inl (Or.inl hm)) (fun hp => hp.elim)
      (fun hw => absurd hw hwait) (by simp)

theorem Inv.continueSearch (h : Inv s) (ht : s.At t j (.continueSearch true)) :
    Inv ((s.continueSearch j).goto t j .unlocking) := by
  unfold State.continueSearch
  split
  · exact h.change ht (fun hp => hp) (fun hp => hp) rfl (by simp) rfl rfl
      (fun m hm => Or.inl hm) (fun hw => nomatch hw) (by simp)
  · next hwait =>
    exact h.pass ht (fun hp => hp) rfl rfl (fun m hm => Or.inl (Or.inl hm)) (fun hp => hp.elim)
      (fun hw => absurd hw hwait) (by simp)

/-- A handshake succeeds, and the finders are about to be stopped. -/
theorem Inv.establish (h : Inv s) {adapter : Bool} (ht : s.At t j (.handshake adapter)) :
    Inv ({ s with mConnectionEstablished := true, mpManager := true }.goto t j (s.stopFrom 0)) := by
  have hcount := h.bound t j _ ht
  have hfirst : s.stopFrom 0 = .stopSearch 0 false :=
    if_pos (Nat.lt_of_le_of_lt (Nat.zero_le j) hcount)
  rw [hfirst]
  have hm : Moves s ({ s with mConnectionEstablished := true, mpManager := true }.goto t j
      (.stopSearch 0 false)) t j j (.handshake adapter) (.stopSearch 0 false) (s.mFinders j) :=
    ⟨ht, by simp, rfl, (Function.update_eq_self ..).symm, rfl, rfl⟩
  have hold := h.not_stopped ht (fun hp => hp) (fun hp => hp)
  have hnot : ∀ u, ¬ s.JoinedBy t j u := fun u hj => hold (h.stopped_of_joined hj).2
  refine h.move hm rfl ?_ ?_ (fun u hj => absurd hj (hnot u)) (fun hj => absurd hj (hnot t)) ?_ ?_
    (fun _ => rfl) ?_ (fun hstop => absurd hstop hold) ?_ (fun _ => trivial) ?_ (by simp) ?_
    (fun _ => rfl) ?_ h.asserted
  · intro m hm
    obtain rfl := main_of_outside hm
    exact Or.inl rfl
  · intro i u hi
    cases hi
  · intro n hn
    obtain rfl := Option.some.inj hn
    exact ⟨rfl, fun i hi => absurd hi (Nat.not_lt_zero i)⟩
  · intro x i q n _ hx hn hj
    exact (h.stopping x i q n hx hn).2 j hj
  · intro _
    exact Or.inl trivial
  · intro i u hi
    cases hi
  · intro hwait u q hut hu
    exact h.waitAck u j q hu hwait
  · intro _
    exact Or.inr ⟨t, j, _, hm.at_self, by simp [Phase.stage]⟩
  · -- the agent starts finders only with `mMainFuncMutex` taken, which this thread has
    intro n hn
    have hagent : s.holds .agent .main := AgentPhase.main_of_stage hn
    have hthread : s.holds (.thread t) .main := holds_thread_iff.mpr ⟨j, _, ht, rfl⟩
    cases h.mutex _ _ _ hagent hthread

theorem Inv.handshake (h : Inv s) {adapter : Bool} (ht : s.At t j (.handshake adapter))
    (hs : s.threadNext t j answer (.handshake adapter) = some s') : Inv s' := by
  simp only [State.threadNext] at hs
  split at hs
  · obtain rfl := Option.some.inj hs
    exact h.establish ht
  · obtain rfl := Option.some.inj hs
    refine h.pass ht (fun hp => hp) rfl rfl ?_ (fun hp => hp) (fun _ => trivial) (by simp)
    intro m hm
    obtain rfl := main_of_outside hm
    exact Or.inl rfl

/-- The thread that stops a finder takes the mutex of its state. -/
theorem Inv.lock_stopSearch (h : Inv s) (ht : s.At t j (.stopSearch k false))
    (hs : s.lock (.state k) t j (.stopSearch k true) = some s') : Inv s' := by
  obtain ⟨hfree, rfl⟩ := lock_eq_some hs
  refine h.goto ht (by simp) ?_ (fun i u hi => nomatch hi)
    (fun hj => absurd (h.inSearch_of_joined ht hj) (fun hp => hp)) ?_ (fun _ => Or.inl trivial)
    (fun i u hi => nomatch hi) (fun _ => trivial) (by simp)
    (fun _ => Or.inr (Or.inl (by simp [Phase.stage])))
  · intro m hm
    rcases main_or_state hm with rfl | rfl
    · exact Or.inl (Or.inl rfl)
    · exact Or.inr hfree
  · intro n hn
    obtain rfl := Option.some.inj hn
    exact h.stopping t j _ k ht rfl

/-- Threads of a finder that are not the one started last have ended. -/
theorem Inv.exited_of_mThread (h : Inv s) (hk : (s.mFinders k).mThread ≠ some u) {q : Phase}
    (hu : s.At u k q) : q = .exited := by
  by_contra hq
  exact hk (h.alone u k q hu hq)

/-- A finder is stopped whose thread, if another one, is in its search. -/
theorem Inv.stopSearch (h : Inv s) (ht : s.At t j (.stopSearch k true))
    (hquiet : (s.mFinders k).mState ≠ .stopped → ∀ u ∈ (s.mFinders k).mThread, u ≠ t →
      ∀ other ∈ s.threads[u]?, other.phase.InSearch) : Inv (s.stopSearch t j k) := by
  simp only [State.stopSearch]
  split
  · next hstop => exact h.advance ht rfl hstop fun i u hi => nomatch hi
  next hrunning =>
  have hnext : ∀ i u, s.stopFrom (k + 1) ≠ .join i u := by
    intro i u
    rcases stopFrom_cases s (k + 1) with ⟨-, heq⟩ | ⟨-, heq⟩ <;> rw [heq] <;> simp
  split
  · next hself =>
    refine h.stop ht rfl rfl (onward_stopFrom s j k) (fun i u hi => absurd hi (hnext i u)) ?_
    intro u q hut hu
    have hne : (s.mFinders k).mThread ≠ some u := by
      rw [hself]
      exact fun heq => hut (Option.some.inj heq).symm
    rw [h.exited_of_mThread hne hu]
    exact Or.inl trivial
  · next hother =>
    cases hthr : (s.mFinders k).mThread with
    | none =>
      refine h.stop ht hthr.symm rfl (onward_stopFrom s j k)
        (fun i u hi => absurd hi (hnext i u)) ?_
      intro u q _ hu
      have hne : (s.mFinders k).mThread ≠ some u := by
        rw [hthr]
        simp
      rw [h.exited_of_mThread hne hu]
      exact Or.inl trivial
    | some u =>
      have hut : u ≠ t := by
        rintro rfl
        exact hother hthr
      obtain ⟨q, hu⟩ := h.own k u hthr
      refine h.stop ht hthr.symm rfl (onward_join s j k u) ?_ ?_
      · intro i v hi
        obtain ⟨rfl, rfl⟩ : k = i ∧ u = v := by simpa using hi
        exact ⟨rfl, rfl, rfl, hut, q, hu, hquiet hrunning u hthr hut ⟨k, q⟩ hu⟩
      · intro v q' _ hv
        by_cases hvu : v = u
        · exact Or.inr (by rw [hvu])
        · have hne : (s.mFinders k).mThread ≠ some v := by
            rw [hthr]
            exact fun heq => hvu (Option.some.inj heq).symm
          rw [h.exited_of_mThread hne hv]
          exact Or.inl trivial

/-- The thread of a finder is forgotten that has ended and that nobody joins. -/
theorem Inv.forget (h : Inv s) (hended : ∀ u q, s.At u k q → q = .exited)
    (hjoin : ∀ x i u, ¬ s.At x i (.join k u)) :
    Inv (s.setFinder k { s.mFinders k with mThread := none }) := by
  have hstate : ∀ i, ((s.setFinder k { s.mFinders k with mThread := none }).mFinders i).mState
      = (s.mFinders i).mState := by
    intro i
    by_cases hi : i = k
    · subst hi
      simp [State.setFinder]
    · simp [State.setFinder, hi]
  have hothers : ∀ i, i ≠ k →
      (s.setFinder k { s.mFinders k with mThread := none }).mFinders i = s.mFinders i := by
    intro i hi
    simp [State.setFinder, hi]
  have hnone :
      ((s.setFinder k { s.mFinders k with mThread := none }).mFinders k).mThread = none := by
    simp [State.setFinder]
  exact {
    mutex := h.mutex
    bound := h.bound
    own := by
      intro i u hu
      by_cases hi : i = k
      · subst hi
        exact absurd (hnone.symm.trans hu) (by simp)
      · rw [hothers i hi] at hu
        exact h.own i u hu
    alone := by
      intro t i p ht hp
      by_cases hi : i = k
      · subst hi
        exact absurd (hended t p ht) hp
      · rw [hothers i hi]
        exact h.alone t i p ht hp
    joining := by
      intro x i l u hx
      have hl : l ≠ k := by
        rintro rfl
        exact hjoin x i u hx
      rw [hothers l hl]
      exact h.joining x i l u hx
    stopping := by
      intro x i p n hx hn
      refine ⟨(h.stopping x i p n hx hn).1, ?_⟩
      intro l hl
      rw [hstate]
      exact (h.stopping x i p n hx hn).2 l hl
    stopped := by
      intro t i p ht hstop
      rw [hstate] at hstop
      exact h.stopped t i p ht hstop
    waitAck := by
      intro t i p ht hwait
      rw [hstate] at hwait
      exact h.waitAck t i p ht hwait
    awake := h.awake
    established := by
      intro hestab
      rcases h.established hestab with hall | hstage
      · refine Or.inl ?_
        intro i hi
        rw [hstate]
        exact hall i hi
      · exact Or.inr hstage
    manager := h.manager
    starting := h.starting
    asserted := h.asserted }

/-- A join ends. -/
theorem Inv.join (h : Inv s) (ht : s.At t j (.join k u)) (hexit : s.Exited u) :
    Inv ((s.setFinder k { s.mFinders k with mThread := none }).goto t j (s.stopFrom (k + 1))) := by
  obtain ⟨hthr, -, hstop, q, hu, hq⟩ := h.joining t j k u ht
  have hlost : ∀ i v, Phase.join k u = .join i v → s.Exited v := by
    intro i v hi
    obtain ⟨-, rfl⟩ : k = i ∧ u = v := by simpa using hi
    exact hexit
  have hadv := h.advance ht rfl hstop hlost
  have hm := moves_goto (q := s.stopFrom (k + 1)) ht (by simp)
  refine hadv.forget ?_ ?_
  · intro v r hv
    rcases hm.at_cases hv with ⟨rfl, rfl, -⟩ | ⟨-, hv⟩
    · -- a thread does not join itself
      have hself := h.alone v k _ ht (by simp)
      obtain rfl := Option.some.inj (hself.symm.trans hthr)
      obtain ⟨-, rfl⟩ := hu.unique ht
      exact hq.elim
    · by_cases hvu : v = u
      · subst hvu
        exact (exited_of_at hv).mp hexit
      · refine h.exited_of_mThread ?_ hv
        rw [hthr]
        exact fun heq => hvu (Option.some.inj heq).symm
  · intro x i v hx
    rcases hm.at_cases hx with ⟨-, -, heq⟩ | ⟨hxt, hx⟩
    · rcases stopFrom_cases s (k + 1) with ⟨-, hnext⟩ | ⟨-, hnext⟩ <;> rw [hnext] at heq <;>
        cases heq
    · exact hxt (h.unique_stage hx ht rfl (Or.inl rfl))

/-- **A step of a finder's thread keeps the invariant**, as long as it is `Quiet`. -/
theorem Inv.thread (h : Inv s) (ht : s.At t j p) (hquiet : p.Quiet s t j answer)
    (hs : s.threadNext t j answer p = some s') : Inv s' := by
  cases p with
  | head =>
    obtain rfl := Option.some.inj hs
    exact h.look ht
  | locking =>
    exact h.lock ht (fun hp => hp) rfl rfl hs (fun m hm => Or.inr hm) (fun _ => trivial)
      (fun hp => hp.elim) (by simp)
  | checking =>
    obtain rfl := Option.some.inj hs
    exact h.check ht
  | waiting => exact absurd rfl (h.awake t j _ ht).1
  | waking => exact absurd rfl (h.awake t j _ ht).2
  | searching =>
    obtain rfl := Option.some.inj hs
    exact h.search ht hquiet
  | setReady =>
    exact h.lock ht (fun hp => hp) rfl rfl hs (fun m hm => Or.inr hm) (fun hp => hp.elim)
      (fun hp => hp.elim) (by simp)
  | ready =>
    obtain rfl := Option.some.inj hs
    exact h.change ht (fun hp => hp) (fun hp => hp) rfl (by simp) rfl rfl (fun m hm => hm.elim)
      (fun _ => trivial) (by simp)
  | connectionFound =>
    refine h.lock ht (fun hp => hp) rfl rfl hs ?_ (fun hp => hp.elim) (fun _ => trivial) (by simp)
    intro m hm
    obtain rfl := main_of_outside hm
    exact Or.inr rfl
  | getState inside =>
    cases inside with
    | false =>
      exact h.enter ht (fun hp => hp) rfl rfl (Or.inl rfl) hs (fun _ hm => hm)
        (fun hp => hp.elim) (fun _ => trivial) (by simp)
    | true => exact h.getState ht hs
  | getConnectedAdapter inside =>
    cases inside with
    | false =>
      exact h.enter ht (fun hp => hp) rfl rfl (Or.inl rfl) hs (fun _ hm => hm)
        (fun hp => hp.elim) (fun _ => trivial) (by simp)
    | true => exact h.getConnectedAdapter ht hs
  | handshake pAdapter => exact h.handshake ht hs
  | stopSearch k inside =>
    cases inside with
    | false => exact h.lock_stopSearch ht hs
    | true =>
      obtain rfl := Option.some.inj hs
      exact h.stopSearch ht hquiet
  | join k u =>
    simp only [State.threadNext] at hs
    split at hs
    · next hexit =>
      obtain rfl := Option.some.inj hs
      exact h.join ht hexit
    · cases hs
  | continueSearch inside =>
    cases inside with
    | false =>
      exact h.enter ht (fun hp => hp) rfl rfl (Or.inl rfl) hs (fun _ hm => hm)
        (fun hp => hp.elim) (fun _ => trivial) (by simp)
    | true =>
      obtain rfl := Option.some.inj hs
      exact h.continueSearch ht
  | unlocking =>
    obtain rfl := Option.some.inj hs
    have hwait := h.not_waitAck ht fun hp => hp
    exact h.pass ht (fun hp => hp) rfl rfl (fun m hm => hm.elim) (fun _ => trivial)
      (fun hw => absurd hw hwait) (by simp)
  | returning =>
    obtain rfl := Option.some.inj hs
    have hwait := h.not_waitAck ht fun hp => hp
    exact h.walk ht (by simp) rfl rfl (fun m hm => hm.elim) (fun _ => trivial)
      (fun _ => Or.inl trivial) (fun hw => absurd hw hwait) (by simp)
  | exited => cases hs

end Thread

section Agent

variable {s s' : State} {k : Nat} {a : AgentPhase} {answer : Bool}

/-! ## A step of the agent -/

theorem startFrom_cases (s : State) (k : Nat) :
    (k < s.count ∧ s.startFrom k = .startSearch k false) ∨ s.startFrom k = .unlocking := by
  unfold State.startFrom
  split
  · next hk => exact Or.inl ⟨hk, rfl⟩
  · exact Or.inr rfl

theorem startFrom_holds {m : Mutex} (h : (s.startFrom k).holds m) : m = .main := by
  rcases startFrom_cases s k with ⟨-, heq⟩ | heq
  · rw [heq] at h
    rcases h with rfl | ⟨hinside, -⟩
    · rfl
    · cases hinside
  · rw [heq] at h
    exact h

theorem startFrom_stage {n : Nat} (h : (s.startFrom k).stage = some n) : n < s.count := by
  rcases startFrom_cases s k with ⟨hk, heq⟩ | heq
  · rw [heq] at h
    exact Option.some.inj h ▸ hk
  · rw [heq] at h
    cases h

/-- The agent goes on along its code. -/
theorem Inv.setAgent (h : Inv s) (hholds : ∀ m, a.holds m → s.agent.holds m ∨ s.Free m)
    (hstarting : ∀ k, a.stage = some k → s.mConnectionEstablished = false ∧ k < s.count) :
    Inv (s.setAgent a) := by
  refine { h with mutex := ?_, starting := hstarting }
  refine h.mutex_of_back (z := .agent) ?_
  intro x m hx
  cases x with
  | agent =>
    rcases hholds m hx with hold | hfree
    · exact Or.inl hold
    · exact Or.inr ⟨rfl, hfree⟩
  | thread t => exact Or.inl hx

/-- The agent goes on and starts no finder. -/
theorem Inv.setAgent_of_none (h : Inv s) (ha : a.stage = none)
    (hholds : ∀ m, a.holds m → s.agent.holds m ∨ s.Free m) : Inv (s.setAgent a) :=
  h.setAgent hholds fun n hn => absurd (ha.symm.trans hn) (by simp)

/-- The connection is lost. -/
theorem Inv.lose (h : Inv s) (hmain : s.agent.holds .main) (stops : Bool) :
    Inv { s with mConnectionEstablished := false, agentStopFlag := stops } where
  mutex := h.mutex
  bound := h.bound
  own := h.own
  alone := h.alone
  joining := h.joining
  stopping := by
    -- a thread that stops finders would have the mutex that the agent has
    intro x i p n hx hn
    have hthread : s.holds (.thread x) .main :=
      holds_thread_iff.mpr ⟨i, p, hx, Phase.main_of_stage hn⟩
    cases h.mutex .agent (.thread x) .main hmain hthread
  stopped := h.stopped
  waitAck := h.waitAck
  awake := h.awake
  established := fun hestab => nomatch hestab
  manager := fun hestab => nomatch hestab
  starting := fun n hn => ⟨rfl, (h.starting n hn).2⟩
  asserted := h.asserted

/-- The finder `k` starts a thread. -/
structure Starts (s s' : State) (k : Nat) (f : Finder) : Prop where
  threads : s'.threads = s.threads ++ [⟨k, .head⟩]
  finders : s'.mFinders = Function.update s.mFinders k f
  count : s'.count = s.count
  agent : s'.agent = s.agent

section Starts

variable {f : Finder} {t i : Nat} {p : Phase}

theorem Starts.at_iff (h : Starts s s' k f) :
    s'.At t i p ↔ s.At t i p ∨ (t = s.threads.length ∧ i = k ∧ p = .head) := by
  unfold State.At
  rw [h.threads]
  rcases Nat.lt_trichotomy t s.threads.length with hlt | heq | hgt
  · rw [List.getElem?_append_left hlt]
    have hne : t ≠ s.threads.length := Nat.ne_of_lt hlt
    simp [hne]
  · subst heq
    simp [eq_comm]
  · have hne : t ≠ s.threads.length := Nat.ne_of_gt hgt
    rw [List.getElem?_eq_none (by simp; omega), List.getElem?_eq_none (by omega)]
    simp [hne]

theorem Starts.finder_self (h : Starts s s' k f) : s'.mFinders k = f := by
  rw [h.finders, Function.update_self]

theorem Starts.finder_of_ne (h : Starts s s' k f) (hi : i ≠ k) : s'.mFinders i = s.mFinders i := by
  rw [h.finders, Function.update_of_ne hi]

end Starts

/-- A finder is started whose threads have ended, while there is no connection. -/
theorem Inv.start (h : Inv s) {f : Finder} (hm : Starts s s' k f) (hk : k < s.count)
    (hlost : s.mConnectionEstablished = false) (hlost' : s'.mConnectionEstablished = false)
    (hfresh : ∀ t p, s.At t k p → p = .exited) (hstate : f.mState = .searching)
    (hthread : f.mThread = some s.threads.length) (hasserted : s'.asserted = false) : Inv s' := by
  -- nobody stops finders while there is no connection
  have hnostage : ∀ x i p, s'.At x i p → p.stage = none := by
    intro x i p hx
    rcases hm.at_iff.mp hx with hx | ⟨-, -, rfl⟩
    · cases hn : p.stage with
      | none => rfl
      | some n => exact absurd (hlost.symm.trans (h.stopping x i p n hx hn).1) (by simp)
    · rfl
  have hback : ∀ x m, s'.holds x m → s.holds x m := by
    intro x m hx
    cases x with
    | agent =>
      have hx : s'.agent.holds m := hx
      rw [hm.agent] at hx
      exact hx
    | thread t =>
      obtain ⟨i, p, ht, hp⟩ := holds_thread_iff.mp hx
      rcases hm.at_iff.mp ht with ht | ⟨-, -, rfl⟩
      · exact holds_thread_iff.mpr ⟨i, p, ht, hp⟩
      · exact hp.elim
  constructor
  case mutex => exact fun x y m hx hy => h.mutex x y m (hback x m hx) (hback y m hy)
  case bound =>
    intro t i p ht
    rw [hm.count]
    rcases hm.at_iff.mp ht with ht | ⟨-, rfl, -⟩
    · exact h.bound t i p ht
    · exact hk
  case own =>
    intro i u hu
    by_cases hi : i = k
    · subst hi
      rw [hm.finder_self, hthread] at hu
      obtain rfl := Option.some.inj hu
      exact ⟨.head, hm.at_iff.mpr (Or.inr ⟨rfl, rfl, rfl⟩)⟩
    · rw [hm.finder_of_ne hi] at hu
      obtain ⟨p, hp⟩ := h.own i u hu
      exact ⟨p, hm.at_iff.mpr (Or.inl hp)⟩
  case alone =>
    intro t i p ht hp
    rcases hm.at_iff.mp ht with ht | ⟨rfl, rfl, -⟩
    · have hi : i ≠ k := by
        rintro rfl
        exact hp (hfresh t p ht)
      rw [hm.finder_of_ne hi]
      exact h.alone t i p ht hp
    · rw [hm.finder_self, hthread]
  case joining =>
    intro x i l u hx
    cases hnostage x i _ hx
  case stopping =>
    intro x i p n hx hn
    rw [hnostage x i p hx] at hn
    cases hn
  case stopped =>
    intro t i p ht hstop
    have hi : i ≠ k := by
      rintro rfl
      rw [hm.finder_self, hstate] at hstop
      cases hstop
    rw [hm.finder_of_ne hi] at hstop
    rcases hm.at_iff.mp ht with ht | ⟨-, rfl, -⟩
    · rcases h.stopped t i p ht hstop with hleave | ⟨x, l, hx⟩
      · exact Or.inl hleave
      · exact Or.inr ⟨x, l, hm.at_iff.mpr (Or.inl hx)⟩
    · exact absurd rfl hi
  case waitAck =>
    intro t i p ht hwait
    have hi : i ≠ k := by
      rintro rfl
      rw [hm.finder_self, hstate] at hwait
      cases hwait
    rw [hm.finder_of_ne hi] at hwait
    rcases hm.at_iff.mp ht with ht | ⟨-, rfl, -⟩
    · exact h.waitAck t i p ht hwait
    · exact absurd rfl hi
  case awake =>
    intro t i p ht
    rcases hm.at_iff.mp ht with ht | ⟨-, -, rfl⟩
    · exact h.awake t i p ht
    · simp
  case established => exact fun hestab => absurd (hlost'.symm.trans hestab) (by simp)
  case manager => exact fun hestab => absurd (hlost'.symm.trans hestab) (by simp)
  case starting =>
    intro n hn
    rw [hm.agent] at hn
    rw [hm.count]
    exact ⟨hlost', (h.starting n hn).2⟩
  case asserted => exact hasserted

theorem Inv.startSearch (h : Inv s) (hstage : s.agent.stage = some k)
    (hfresh : (s.mFinders k).mState = .stopped → ∀ t p, s.At t k p → p = .exited) :
    Inv (s.startSearch k) := by
  obtain ⟨hlost, hk⟩ := h.starting k hstage
  simp only [State.startSearch]
  split
  · next hstop =>
    exact h.start ⟨rfl, rfl, rfl, rfl⟩ hk hlost hlost (hfresh hstop) rfl rfl h.asserted
  · exact h

/-- **A step of the agent keeps the invariant**, as long as it is `Fresh`. -/
theorem Inv.agentStep (h : Inv s) (hfresh : Fresh s (.agent answer))
    (hs : s.agentNext answer s.agent = some s') : Inv s' := by
  cases ha : s.agent with
  | head =>
    rw [ha] at hs
    obtain rfl := Option.some.inj hs
    split
    · exact h.setAgent_of_none rfl fun m hm => hm.elim
    · exact h.setAgent_of_none rfl fun m hm => hm.elim
  | locking =>
    rw [ha] at hs
    simp only [State.agentNext] at hs
    split at hs
    · next hfree =>
      obtain rfl := Option.some.inj hs
      refine h.setAgent_of_none rfl ?_
      intro m hm
      obtain rfl : m = .main := hm
      exact Or.inr hfree
    · cases hs
  | deciding =>
    rw [ha] at hs
    simp only [State.agentNext] at hs
    have hmain : s.agent.holds .main := by
      rw [ha]
      exact rfl
    split at hs
    · next hdown =>
      obtain rfl := Option.some.inj hs
      refine h.setAgent (fun m hm => Or.inl (startFrom_holds hm ▸ hmain)) ?_
      intro n hn
      refine ⟨?_, startFrom_stage hn⟩
      rcases hdown with hmanager | hlost
      · cases hestab : s.mConnectionEstablished with
        | false => rfl
        | true => exact absurd (hmanager.symm.trans (h.manager hestab)) (by simp)
      · exact hlost
    · split at hs
      · obtain rfl := Option.some.inj hs
        refine (h.lose hmain _).setAgent_of_none rfl ?_
        intro m hm
        obtain rfl : m = .main := hm
        exact Or.inl hmain
      · obtain rfl := Option.some.inj hs
        refine h.setAgent_of_none rfl ?_
        intro m hm
        obtain rfl : m = .main := hm
        exact Or.inl hmain
  | startSearch k inside =>
    have hstage : s.agent.stage = some k := by rw [ha]; rfl
    have hmain : s.agent.holds .main := AgentPhase.main_of_stage hstage
    obtain ⟨hlost, hk⟩ := h.starting k hstage
    rw [ha] at hs
    cases inside with
    | false =>
      simp only [State.agentNext] at hs
      split at hs
      · next hfree =>
        obtain rfl := Option.some.inj hs
        refine h.setAgent ?_ ?_
        · intro m hm
          rcases main_or_state hm with rfl | rfl
          · exact Or.inl hmain
          · exact Or.inr hfree
        · intro n hn
          obtain rfl := Option.some.inj hn
          exact ⟨hlost, hk⟩
      · cases hs
    | true =>
      obtain rfl := Option.some.inj hs
      have hstart := h.startSearch hstage ?_
      · have hkeep : (s.startSearch k).agent = s.agent ∧ (s.startSearch k).count = s.count
            ∧ (s.startSearch k).mConnectionEstablished = s.mConnectionEstablished := by
          simp only [State.startSearch]
          split <;> exact ⟨rfl, rfl, rfl⟩
        refine hstart.setAgent ?_ ?_
        · intro m hm
          rw [hkeep.1]
          exact Or.inl (startFrom_holds hm ▸ hmain)
        · intro n hn
          rw [hkeep.2.1, hkeep.2.2]
          exact ⟨hlost, startFrom_stage hn⟩
      · intro hstop t p ht
        exact hfresh k (List.mem_range.mpr hk) ha hstop ⟨k, p⟩ (List.mem_of_getElem? ht) rfl
  | unlocking =>
    rw [ha] at hs
    obtain rfl := Option.some.inj hs
    exact h.setAgent_of_none rfl fun m hm => hm.elim
  | sleeping =>
    rw [ha] at hs
    obtain rfl := Option.some.inj hs
    exact h.setAgent_of_none rfl fun m hm => hm.elim
  | ended =>
    rw [ha] at hs
    cases hs

end Agent

section Runs

variable {s s' : State} {t u j k : Nat} {p q : Phase} {m : Mutex} {ev : Event}

/-! ## Runs -/

theorem inv_next (h : Inv s) (hfresh : Fresh s ev) (hquiet : Quiet s ev)
    (hs : next s ev = some s') : Inv s' := by
  cases ev with
  | agent answer => exact h.agentStep hfresh hs
  | thread t answer =>
    cases hth : s.threads[t]? with
    | none =>
      simp only [next, hth] at hs
      cases hs
    | some th =>
      simp only [next, hth] at hs
      exact h.thread hth (hquiet th hth) hs

/-- A thread is joined that waits for a mutex of the one that joins it. -/
theorem deadlocked_of_join (ht : s.At t j (.join k u)) (hu : s.At u k q)
    (hwants : q.wants k = some m) (hm : m = .main ∨ m = .state k) : s.waiting.Deadlocked := by
  have halive : ¬ s.Exited u := by
    intro hexit
    obtain rfl := (exited_of_at hu).mp hexit
    cases hwants
  have hjoins : s.waiting.joins (.thread t) = some (.thread u) := joins_of_at ht halive
  have hwaits : s.waiting.wants (.thread u) = some m := by
    simp only [State.waiting, State.wants, show s.threads[u]? = some ⟨k, q⟩ from hu,
      Option.bind_some, hwants]
  exact Waiting.deadlocked_of_mutual (Waiting.waitsFor_of_join hjoins)
    (Waiting.waitsFor_of_mutex hwaits (holds_thread_iff.mpr ⟨j, _, ht, hm⟩))

/-- While a thread stops the finder, one of the finder's own threads that is not in its search
waits for a mutex that the stopper has. -/
theorem Inv.wants_of_stopped (h : Inv s) (ht : s.At t j (.stopSearch k true)) (hu : s.At u k q)
    (hut : u ≠ t) (hq : ¬ q.InSearch) :
    ∃ m, q.wants k = some m ∧ (m = .main ∨ m = .state k) := by
  have hmain : ¬ q.holds k .main := fun hm => hut (h.unique hu ht hm (Or.inl rfl))
  have hstate : ¬ q.holds k (.state k) := fun hm => hut (h.unique hu ht hm (Or.inr ⟨rfl, rfl⟩))
  cases q with
  | locking | setReady => exact ⟨_, rfl, Or.inr rfl⟩
  | connectionFound => exact ⟨_, rfl, Or.inl rfl⟩
  | waiting => exact absurd rfl (h.awake u k _ hu).1
  | waking => exact absurd rfl (h.awake u k _ hu).2
  | checking | ready => exact absurd rfl hstate
  | getState _ | getConnectedAdapter _ | continueSearch _ | stopSearch _ _ | join _ _ =>
    exact absurd (Or.inl rfl) hmain
  | handshake _ | unlocking => exact absurd rfl hmain
  | head | searching | returning | exited => exact absurd trivial hq

/-- A finder that was stopped finds a connection, and its stopper joins its thread. -/
theorem Inv.deadlocked_of_found (h : Inv s) (ht : s.At t j .searching)
    (hstop : (s.mFinders j).mState = .stopped) :
    (s.goto t j .setReady).waiting.Deadlocked := by
  have hm := moves_goto (q := .setReady) ht (by simp)
  rcases h.leaving_or_joined ht hstop with hleave | ⟨x, i, hxt, hx⟩
  · exact hleave.elim
  · exact deadlocked_of_join ((hm.at_iff hxt).mpr hx) hm.at_self rfl (Or.inr rfl)

/-- A finder is stopped whose thread is not in its search. -/
theorem Inv.deadlocked_of_stop (h : Inv s) (ht : s.At t j (.stopSearch k true))
    (hrunning : (s.mFinders k).mState ≠ .stopped) (hthr : (s.mFinders k).mThread = some u)
    (hut : u ≠ t) (hu : s.At u k q) (hq : ¬ q.InSearch) :
    (s.stopSearch t j k).waiting.Deadlocked := by
  obtain ⟨m, hwants, hm⟩ := h.wants_of_stopped ht hu hut hq
  have hother : some u ≠ some t := fun heq => hut (Option.some.inj heq)
  simp only [State.stopSearch, if_neg hrunning, hthr, if_neg hother]
  have hmoves : Moves s ((s.setFinder k ⟨.stopped, (s.mFinders k).mpAdapter, true, some u⟩).goto t j
      (.join k u)) t j k (.stopSearch k true) (.join k u)
      ⟨.stopped, (s.mFinders k).mpAdapter, true, some u⟩ :=
    ⟨ht, by simp, rfl, rfl, rfl, rfl⟩
  exact deadlocked_of_join hmoves.at_self ((hmoves.at_iff hut).mpr hu) hwants hm

/-- **After a step that is not `Quiet` two threads wait for each other.** -/
theorem Inv.deadlocked_of_not_quiet (h : Inv s) (hquiet : ¬ Quiet s ev) :
    ∃ s', next s ev = some s' ∧ s'.waiting.Deadlocked := by
  cases ev with
  | agent answer => exact absurd trivial hquiet
  | thread t answer =>
    simp only [Quiet, not_forall] at hquiet
    obtain ⟨⟨j, p⟩, ht, hp⟩ := hquiet
    have ht : s.At t j p := ht
    have hstep : next s (.thread t answer) = s.threadNext t j answer p := by
      simp only [next, show s.threads[t]? = some ⟨j, p⟩ from ht]
    rw [hstep]
    cases p with
    | searching =>
      simp only [Phase.Quiet, not_forall, not_not] at hp
      obtain ⟨rfl, hstop⟩ := hp
      exact ⟨_, rfl, h.deadlocked_of_found ht hstop⟩
    | stopSearch k inside =>
      cases inside with
      | false => exact absurd trivial hp
      | true =>
        simp only [Phase.Quiet, not_forall] at hp
        obtain ⟨hrunning, u, hthr, hut, ⟨i, q⟩, hu, hq⟩ := hp
        -- it is a thread of the finder that is stopped
        obtain ⟨r, hr⟩ := h.own k u hthr
        obtain ⟨rfl, rfl⟩ := State.At.unique hr hu
        exact ⟨_, rfl, h.deadlocked_of_stop ht hrunning hthr hut hr hq⟩
    | _ => exact absurd trivial hp

end Runs

/-- **The finders' threads and the agent's do not block each other**, and no finder reports a
connection while there is one, exactly if every finder that is stopped is in its search and
finds nothing more. -/
theorem finders_work {count : Nat} {apple : Bool} {es : List Event}
    (hfresh : Along next Fresh (.initial count apple) es) :
    Always next (.initial count apple) es Works ↔ Along next Quiet (.initial count apple) es := by
  have hagree : ∀ s ev, Inv s → Fresh s ev →
      ((∀ s', next s ev = some s' → Works s') ↔ Quiet s ev) := by
    intro s ev h hf
    constructor
    · intro hworks
      by_contra hquiet
      obtain ⟨s', hs, hdead⟩ := h.deadlocked_of_not_quiet hquiet
      exact (hworks s' hs).1 hdead
    · intro hquiet s' hs
      exact (inv_next h hf hquiet hs).works
  rw [always_iff_along, along_iff_along hagree
    (fun s ev s' h hf hq hs => inv_next h hf hq hs) inv_initial hfresh]
  exact and_iff_right inv_initial.works

/-- `n` steps of the agent. -/
def agentSteps (n : Nat) : List Event := List.replicate n (.agent false)

/-- `n` steps of a thread in which nothing is found. -/
def steps (n t : Nat) : List Event := List.replicate n (.thread t false)

/-- Two finders are started, and their threads get to their search. -/
def bothSearch : List Event := agentSteps 8 ++ steps 3 0 ++ steps 3 1

/-- The thread `t` finds a connection, reports it, and has begun its loop over the finders. -/
def reports (t : Nat) : List Event :=
  .thread t true :: steps 7 t ++ [.thread t true]

/-- The first finder reports a connection, while the second one finds nothing. -/
theorem finders_work_first_reports :
    Along next Fresh (.initial 2 false)
        (bothSearch ++ reports 0 ++ steps 4 0 ++ steps 2 1 ++ steps 5 0) ∧
      Always next (.initial 2 false)
        (bothSearch ++ reports 0 ++ steps 4 0 ++ steps 2 1 ++ steps 5 0) Works := by
  have hfresh : Along next Fresh (.initial 2 false)
      (bothSearch ++ reports 0 ++ steps 4 0 ++ steps 2 1 ++ steps 5 0) := by decide +kernel
  exact ⟨hfresh, (finders_work hfresh).mpr (by decide +kernel)⟩

/-- Both finders have found a connection, and the first one stops the second one. -/
def bothFound : List Event :=
  bothSearch ++ (.thread 1 true :: steps 2 1) ++ reports 0 ++ steps 4 0

/-- A finder that has reported a connection is started again after the connection was lost, and
its old and its new thread both find one. -/
def restarted : List Event :=
  agentSteps 6 ++ steps 3 0 ++ reports 0 ++ steps 3 0 ++
    (agentSteps 3 ++ [.agent true] ++ agentSteps 8) ++ steps 4 0 ++ steps 3 1 ++
      (.thread 0 true :: reports 1) ++ steps 3 1 ++ steps 5 0

theorem threads_bothFound : (run next (.initial 2 false) bothFound).map (·.threads) =
    some [⟨0, .join 1 1⟩, ⟨1, .connectionFound⟩] := by
  decide +kernel

theorem asserted_restarted : (run next (.initial 1 false) restarted).map (·.asserted) =
    some true := by
  decide +kernel

/-- Two finders that find a connection at the same time end in a deadlock, and one that was
restarted too early in the assertion. -/
theorem finders_deadlock_and_assert :
    (¬ ∀ (count : Nat) (apple : Bool) (es : List Event) (s : State),
        run next (.initial count apple) es = some s → ¬ s.waiting.Deadlocked) ∧
      ¬ ∀ (count : Nat) (apple : Bool) (es : List Event) (s : State),
        run next (.initial count apple) es = some s → s.asserted = false := by
  constructor
  · intro h
    obtain ⟨s, hr, hthreads⟩ := Option.map_eq_some_iff.mp threads_bothFound
    have hstopper : s.At 0 0 (.join 1 1) := by
      unfold State.At
      rw [hthreads]
      rfl
    have hstopped : s.At 1 1 .connectionFound := by
      unfold State.At
      rw [hthreads]
      rfl
    exact h 2 false bothFound s hr (deadlocked_of_join hstopper hstopped rfl (Or.inl rfl))
  · intro h
    obtain ⟨s, hr, hasserted⟩ := Option.map_eq_some_iff.mp asserted_restarted
    exact absurd (hasserted.symm.trans (h 1 false restarted s hr)) (by simp)

end IviLink.Hal.FinderThreads
