import IviLink.Proof.Oversleeping
import IviLink.Utils.EventHandler
import Mathlib.Data.List.Perm.Basic
import Mathlib.Data.List.Range

/-!
# The event handler loses no event and no timeout

The semaphore has a token for every event that was pushed while the worker was on its way from the
exception queue to the semaphore: what it finds in a queue it takes without a token, so that there
may be more tokens than events, never fewer by the time it waits. A timeout goes from the map of
the manager to its thread pool and from there into the event queue.
-/

namespace IviLink.Utils

open IviLink.Lib
open scoped List

namespace TimeoutManager

theorem insert_perm (x : Int × Subscriber) (l : List (Int × Subscriber)) :
    (insert x l).Perm (x :: l) := by
  induction l with
  | nil => exact .refl _
  | cons y ys ih =>
    rw [insert]
    split
    · exact .refl _
    · exact (ih.cons y).trans (.swap x y ys)

theorem forGood_addSubscriber {m : TimeoutManager} (h : m.Asleep none → m.mSubscriberMap = [])
    {subscriber : Subscriber} {curTime : Int} {ms : UInt32} :
    ¬ (m.addSubscriber subscriber curTime ms).Asleep none := by
  rw [addSubscriber_eq]
  intro hasleep
  obtain ⟨hempty, hasleep⟩ := asleep_needReSetTimer hasleep
  rw [List.isEmpty_eq_false_iff] at hempty
  exact hempty (h hasleep)

end TimeoutManager

namespace EventHandler

variable {h h' : EventHandler} {logsInfo : Bool}

/-! ## The timeout manager -/

/-- What its threads do with the subscribers, and what they know of the time. -/
structure Timer.Effect (clock : Int) (m m' : TimeoutManager) : Prop where
  moves : m'.mSubscriberMap = m.mSubscriberMap ∧ m'.jobs = m.jobs
    ∨ ∃ now x, m.worker = .processing now ∧ x.1 ≤ now
        ∧ m.mSubscriberMap = x :: m'.mSubscriberMap ∧ m'.jobs = m.jobs ++ [x.2]
  reads : ∀ now, m'.worker = .processing now → now = clock ∨ m.worker = .processing now
  forGood : (m.Asleep none → m.mSubscriberMap = []) → m'.Asleep none → m'.mSubscriberMap = []

theorem Timer.effect {clock : Int} {m m' : TimeoutManager} (t : Timer)
    (hs : TimeoutManager.step logsInfo m (t.toEvent clock) = some m') :
    Timer.Effect clock m m' := by
  cases t with
  | signal =>
    rw [toEvent, TimeoutManager.step] at hs
    split at hs <;> cases hs
    exact ⟨.inl ⟨rfl, rfl⟩, fun _ => .inr, fun _ hasleep => absurd hasleep.2.1 (Nat.succ_ne_zero _)⟩
  | processTimeout =>
    rw [toEvent, TimeoutManager.step] at hs
    split at hs <;> cases hs
    refine ⟨.inl ⟨rfl, rfl⟩, ?_, ?_⟩
    · intro now hnow
      dsimp only at hnow
      split at hnow
      · exact .inl (Worker.processing.inj hnow).symm
      · cases hnow
    · intro _ hasleep
      have hworker := hasleep.1
      dsimp only at hworker
      split at hworker <;> cases hworker
  | processTopTimeout =>
    rw [toEvent, TimeoutManager.step] at hs
    split at hs
    · next now hworker =>
      obtain rfl := Option.some.inj hs
      unfold TimeoutManager.processTopTimeout
      split
      · next hmap =>
        exact ⟨.inl ⟨rfl, rfl⟩, fun _ hnow => Worker.noConfusion hnow, fun _ _ => hmap⟩
      · next x rest hmap =>
        split
        · exact ⟨.inl ⟨rfl, rfl⟩, fun _ hnow => Worker.noConfusion hnow,
            fun _ hasleep => Worker.noConfusion hasleep.1⟩
        · next hdue =>
          refine ⟨.inr ⟨now, x, hworker, Int.not_lt.mp hdue, hmap, rfl⟩, fun _ => .inr, ?_⟩
          intro _ hasleep
          cases hworker.symm.trans hasleep.1
    · cases hs
  | smartWait =>
    rw [toEvent, TimeoutManager.step] at hs
    split at hs
    · obtain rfl := Option.some.inj hs
      unfold TimeoutManager.smartWait
      split
      · next hmap =>
        exact ⟨.inl ⟨rfl, rfl⟩, fun _ hnow => Worker.noConfusion hnow, fun _ _ => hmap⟩
      · refine ⟨.inl ⟨rfl, rfl⟩, ?_, ?_⟩
        · intro _ hnow
          dsimp only at hnow
          split at hnow <;> cases hnow
        · intro _ hasleep
          have hworker := hasleep.1
          dsimp only at hworker
          split at hworker <;> cases hworker
    · cases hs
  | wakeUp | timedOut =>
    rw [toEvent, TimeoutManager.step] at hs
    split at hs <;> cases hs
    exact ⟨.inl ⟨rfl, rfl⟩, fun _ hnow => Worker.noConfusion hnow,
      fun _ hasleep => Worker.noConfusion hasleep.1⟩

/-! ## The queues and the semaphore -/

structure Queues (h : EventHandler) : Prop where
  exceptions : h.handledExceptions ++ h.mExceptionQueue = h.pushedExceptions
  events : h.handledEvents ++ h.mEventQueue = h.pushedEvents.map (·.1)
  /-- What has come into the exception queue since it was found empty. -/
  came : h.worker = .exceptionsEmpty → h.mExceptionQueue.length ≤ h.mEventSemaphore.tokens
  tokens : h.worker = .waiting →
    h.mExceptionQueue.length + h.mEventQueue.length ≤ h.mEventSemaphore.tokens

theorem queues_init : init.Queues where
  exceptions := rfl
  events := rfl
  came := fun hw => Place.noConfusion hw
  tokens := fun hw => Place.noConfusion hw

theorem Queues.pushException (hq : h.Queues) (exception : Option IEvent) :
    (h.pushException exception).Queues := by
  cases exception with
  | none => exact hq
  | some event =>
    refine ⟨?_, hq.events, ?_, ?_⟩
    · exact (List.append_assoc ..).symm.trans (congrArg (· ++ [event]) hq.exceptions)
    · intro hw
      have hcame := hq.came hw
      simp only [EventHandler.pushException, List.length_append, List.length_singleton,
        Semaphore.tokens_announce]
      omega
    · intro hw
      have htokens := hq.tokens hw
      simp only [EventHandler.pushException, List.length_append, List.length_singleton,
        Semaphore.tokens_announce]
      omega

theorem Queues.pushEvent (hq : h.Queues) (timeout : Option Subscriber) (event : Option IEvent) :
    (h.pushEvent timeout event).Queues := by
  cases event with
  | none => exact hq
  | some event =>
    refine ⟨hq.exceptions, ?_, ?_, ?_⟩
    · simp only [EventHandler.pushEvent, List.map_append, List.map_cons, List.map_nil]
      rw [← List.append_assoc, hq.events]
    · intro hw
      have hcame := hq.came hw
      simp only [EventHandler.pushEvent, Semaphore.tokens_announce]
      omega
    · intro hw
      have htokens := hq.tokens hw
      simp only [EventHandler.pushEvent, List.length_append, List.length_singleton,
        Semaphore.tokens_announce]
      omega

/-- The worker's place does not matter where it is neither between the queues nor waiting. -/
theorem Queues.busy (hq : h.Queues) {place : Place} (hcame : place ≠ .exceptionsEmpty)
    (hwaiting : place ≠ .waiting) : { h with worker := place }.Queues :=
  ⟨hq.exceptions, hq.events, fun hw => absurd hw hcame, fun hw => absurd hw hwaiting⟩

theorem Queues.popException (hq : h.Queues) (hs : step logsInfo h .popException = some h') :
    h'.Queues := by
  rw [step] at hs
  split at hs
  · next hqueue =>
    obtain rfl := Option.some.inj hs
    refine ⟨hq.exceptions, hq.events, ?_, fun hw => Place.noConfusion hw⟩
    intro _
    exact hqueue ▸ Nat.zero_le _
  · next event rest _ hqueue =>
    obtain rfl := Option.some.inj hs
    refine ⟨?_, hq.events, fun hw => Place.noConfusion hw, fun hw => Place.noConfusion hw⟩
    have hall := hq.exceptions
    rw [hqueue] at hall
    exact (List.append_assoc ..).trans hall
  · cases hs

theorem Queues.popEvent (hq : h.Queues) (hs : step logsInfo h .popEvent = some h') :
    h'.Queues := by
  rw [step] at hs
  split at hs
  · next hworker hqueue =>
    obtain rfl := Option.some.inj hs
    refine ⟨hq.exceptions, hq.events, fun hw => Place.noConfusion hw, ?_⟩
    -- nothing is in the event queue, and what has come into the other one has its token
    intro _
    have hcame := hq.came hworker
    rw [hqueue]
    exact hcame
  · next event rest _ hqueue =>
    obtain rfl := Option.some.inj hs
    refine ⟨hq.exceptions, ?_, fun hw => Place.noConfusion hw, fun hw => Place.noConfusion hw⟩
    have hall := hq.events
    rw [hqueue] at hall
    exact (List.append_assoc ..).trans hall
  · cases hs

theorem Queues.signal (hq : h.Queues) (hs : step logsInfo h .signal = some h') : h'.Queues := by
  rw [step] at hs
  obtain ⟨s, hpost, rfl⟩ := Option.map_eq_some_iff.mp hs
  have hsame := Semaphore.tokens_post hpost
  refine ⟨hq.exceptions, hq.events, ?_, ?_⟩
  · intro hw
    exact hsame ▸ hq.came hw
  · intro hw
    exact hsame ▸ hq.tokens hw

theorem Queues.finishHandling (hq : h.Queues) {timeoutEvent : Option IEvent} {timeoutMs : Int32}
    (hs : step logsInfo h (.finishHandling timeoutEvent timeoutMs) = some h') : h'.Queues := by
  rw [step] at hs
  split at hs
  · obtain rfl := Option.some.inj hs
    have harm : (h.addTimeoutEvent timeoutMs timeoutEvent).Queues := by
      cases timeoutEvent with
      | none => exact hq
      | some event => exact ⟨hq.exceptions, hq.events, hq.came, hq.tokens⟩
    exact harm.busy Place.noConfusion Place.noConfusion
  · cases hs

theorem Queues.wait (hq : h.Queues) (hs : step logsInfo h .wait = some h') : h'.Queues := by
  rw [step] at hs
  split at hs
  · obtain ⟨s, -, rfl⟩ := Option.map_eq_some_iff.mp hs
    exact ⟨hq.exceptions, hq.events, fun hw => Place.noConfusion hw,
      fun hw => Place.noConfusion hw⟩
  · cases hs

theorem Queues.testStop (hq : h.Queues) (hs : step logsInfo h .testStop = some h') :
    h'.Queues := by
  rw [step] at hs
  split at hs
  · obtain rfl := Option.some.inj hs
    refine hq.busy ?_ ?_
    · split <;> exact Place.noConfusion
    · split <;> exact Place.noConfusion
  · cases hs

theorem Queues.signalEnd (hq : h.Queues) (hs : step logsInfo h .signalEnd = some h') :
    h'.Queues := by
  rw [step] at hs
  split at hs
  · obtain rfl := Option.some.inj hs
    refine ⟨hq.exceptions, hq.events, ?_, ?_⟩
    · intro hw
      exact Nat.le_trans (hq.came hw) (by simp)
    · intro hw
      exact Nat.le_trans (hq.tokens hw) (by simp)
  · cases hs

theorem queues_step {s : Step} (hq : h.Queues) (hs : step logsInfo h s = some h') :
    h'.Queues := by
  cases s with
  | pushEvent event =>
    obtain rfl := Option.some.inj hs
    exact hq.pushEvent none event
  | pushException exception =>
    obtain rfl := Option.some.inj hs
    exact hq.pushException exception
  | signal => exact hq.signal hs
  | popException => exact hq.popException hs
  | popEvent => exact hq.popEvent hs
  | finishHandling timeoutEvent timeoutMs => exact hq.finishHandling hs
  | wait => exact hq.wait hs
  | testStop => exact hq.testStop hs
  | tick ms =>
    obtain rfl := Option.some.inj hs
    exact ⟨hq.exceptions, hq.events, hq.came, hq.tokens⟩
  | timer t =>
    rw [step] at hs
    obtain ⟨m, -, rfl⟩ := Option.map_eq_some_iff.mp hs
    exact ⟨hq.exceptions, hq.events, hq.came, hq.tokens⟩
  | onTimeout =>
    rw [step] at hs
    split at hs
    · cases hs
    · next timeout rest _ =>
      obtain rfl := Option.some.inj hs
      refine Queues.pushEvent ?_ _ _
      exact ⟨hq.exceptions, hq.events, hq.came, hq.tokens⟩
  | stop =>
    rw [step] at hs
    split at hs <;> cases hs
    exact ⟨hq.exceptions, hq.events, hq.came, hq.tokens⟩
  | join =>
    rw [step] at hs
    split at hs <;> cases hs
    exact ⟨hq.exceptions, hq.events, hq.came, hq.tokens⟩
  | signalEnd => exact hq.signalEnd hs

theorem Queues.notStranded (hq : h.Queues) (hw : h.worker = .waiting)
    (hqueues : h.mExceptionQueue ≠ [] ∨ h.mEventQueue ≠ []) :
    0 < h.mEventSemaphore.value ∨ 0 < h.mEventSemaphore.signalling := by
  have htokens := hq.tokens hw
  rw [Semaphore.tokens] at htokens
  have hsome : 0 < h.mExceptionQueue.length + h.mEventQueue.length := by
    rcases hqueues with hne | hne
    · exact Nat.add_pos_left (List.length_pos_iff.mpr hne) _
    · exact Nat.add_pos_right _ (List.length_pos_iff.mpr hne)
  omega

/-! ## The timeouts -/

structure Timeouts (h : EventHandler) : Prop where
  timeouts : (h.expired ++ h.outstanding).Perm (List.range h.armed.length)
  armed : ∀ x ∈ h.mTimeoutManager.mSubscriberMap, ∃ event, h.armed[x.2]? = some (event, x.1)
  fired : ∀ timeout ∈ h.mTimeoutManager.jobs,
    ∃ event time, h.armed[timeout]? = some (event, time) ∧ time ≤ h.clock
  due : ∀ event timeout, (event, some timeout) ∈ h.pushedEvents →
    ∃ time, h.armed[timeout]? = some (event, time) ∧ time ≤ h.clock
  reading : ∀ now, h.mTimeoutManager.worker = .processing now → now ≤ h.clock
  awake : h.mTimeoutManager.Asleep none → h.mTimeoutManager.mSubscriberMap = []

theorem timeouts_init : init.Timeouts where
  timeouts := .refl _
  armed := fun _ hx => absurd hx List.not_mem_nil
  fired := fun _ ht => absurd ht List.not_mem_nil
  due := fun _ _ ht => absurd ht List.not_mem_nil
  reading := fun _ hnow => Worker.noConfusion hnow
  awake := fun _ => rfl

/-- The timeouts depend on the manager, the clock and what was pushed and armed alone. -/
theorem Timeouts.frame (ht : h.Timeouts) (hmanager : h'.mTimeoutManager = h.mTimeoutManager)
    (hclock : h.clock ≤ h'.clock) (harmed : h'.armed = h.armed)
    (hpushed : h'.pushedEvents = h.pushedEvents) : h'.Timeouts := by
  have hlater : ∀ {time : Int}, time ≤ h.clock → time ≤ h'.clock :=
    fun htime => Int.le_trans htime hclock
  refine ⟨?_, ?_, ?_, ?_, ?_, ?_⟩
  · simpa only [expired, outstanding, hmanager, harmed, hpushed] using ht.timeouts
  · rw [hmanager, harmed]
    exact ht.armed
  · rw [hmanager, harmed]
    intro timeout hmem
    obtain ⟨event, time, hget, htime⟩ := ht.fired timeout hmem
    exact ⟨event, time, hget, hlater htime⟩
  · rw [hpushed, harmed]
    intro event timeout hmem
    obtain ⟨time, hget, htime⟩ := ht.due event timeout hmem
    exact ⟨time, hget, hlater htime⟩
  · rw [hmanager]
    exact fun now hnow => hlater (ht.reading now hnow)
  · rw [hmanager]
    exact ht.awake

theorem Timeouts.pushEvent (ht : h.Timeouts) (event : Option IEvent) :
    (h.pushEvent none event).Timeouts := by
  cases event with
  | none => exact ht
  | some event =>
    refine ⟨?_, ht.armed, ht.fired, ?_, ht.reading, ht.awake⟩
    · have hsame : (h.pushEvent none (some event)).expired = h.expired := by
        simp [EventHandler.pushEvent, expired]
      rw [hsame]
      exact ht.timeouts
    · intro event' timeout hmem
      rcases List.mem_append.mp hmem with hmem | hmem
      · exact ht.due event' timeout hmem
      · cases List.mem_singleton.mp hmem

/-- The event of a timeout is still there when its time has come. -/
theorem Timeouts.onTimeout (ht : h.Timeouts) (hs : step logsInfo h .onTimeout = some h') :
    h'.Timeouts := by
  rw [step] at hs
  split at hs
  · cases hs
  · next timeout rest hjobs =>
    obtain rfl := Option.some.inj hs
    obtain ⟨event, time, hget, htime⟩ := ht.fired timeout (hjobs ▸ List.mem_cons_self)
    rw [hget]
    refine ⟨?_, ht.armed, ?_, ?_, ht.reading, ht.awake⟩
    · have hall := ht.timeouts
      rw [outstanding, hjobs, ← List.append_assoc] at hall
      simp only [EventHandler.pushEvent, Option.map_some, expired, outstanding,
        List.filterMap_append, List.filterMap_cons, List.filterMap_nil]
      refine List.Perm.trans ?_ hall
      rw [List.append_assoc, List.append_assoc, List.singleton_append]
      exact List.perm_middle.symm.append_left _
    · intro other hmem
      exact ht.fired other (hjobs ▸ List.mem_cons_of_mem _ hmem)
    · intro event' timeout' hmem
      rcases List.mem_append.mp hmem with hmem | hmem
      · exact ht.due event' timeout' hmem
      · cases List.mem_singleton.mp hmem
        exact ⟨time, hget, htime⟩

theorem armed_append {timeout : Subscriber} {x : IEvent × Int} (l : List (IEvent × Int))
    (hget : h.armed[timeout]? = some x) : (h.armed ++ l)[timeout]? = some x :=
  (List.getElem?_append_left (List.getElem?_eq_some_iff.mp hget).1).trans hget

theorem Timeouts.addTimeoutEvent (ht : h.Timeouts) (timeoutMs : Int32)
    (timeoutEvent : Option IEvent) : (h.addTimeoutEvent timeoutMs timeoutEvent).Timeouts := by
  cases timeoutEvent with
  | none => exact ht
  | some event =>
    refine ⟨?_, ?_, ?_, ?_, ht.reading, ?_⟩
    · -- its number is the next one
      simp only [EventHandler.addTimeoutEvent, expired, outstanding, List.length_append,
        List.length_singleton, List.range_succ]
      have hinsert := (TimeoutManager.insert_perm
        (h.clock + timeoutMs.toUInt32.toNat, h.armed.length)
        h.mTimeoutManager.mSubscriberMap).map (·.2)
      calc
        _ ~ h.expired ++ (h.armed.length :: h.outstanding) := (hinsert.append_right _).append_left _
        _ ~ h.armed.length :: (h.expired ++ h.outstanding) := List.perm_middle
        _ ~ h.armed.length :: List.range h.armed.length := ht.timeouts.cons _
        _ ~ List.range h.armed.length ++ [h.armed.length] := (List.perm_append_singleton _ _).symm
    · intro x hx
      rcases TimeoutManager.mem_insert.mp hx with rfl | hx
      · exact ⟨event, List.getElem?_concat_length⟩
      · obtain ⟨other, hget⟩ := ht.armed x hx
        exact ⟨other, armed_append _ hget⟩
    · intro timeout hmem
      obtain ⟨other, time, hget, htime⟩ := ht.fired timeout hmem
      exact ⟨other, time, armed_append _ hget, htime⟩
    · intro other timeout hmem
      obtain ⟨time, hget, htime⟩ := ht.due other timeout hmem
      exact ⟨time, armed_append _ hget, htime⟩
    · intro hasleep
      exact absurd hasleep (TimeoutManager.forGood_addSubscriber ht.awake)

theorem Timeouts.timer (ht : h.Timeouts) {t : Timer}
    (hs : step logsInfo h (.timer t) = some h') : h'.Timeouts := by
  rw [step] at hs
  obtain ⟨m, hm, rfl⟩ := Option.map_eq_some_iff.mp hs
  have heffect := t.effect hm
  have hreading : ∀ now, m.worker = .processing now → now ≤ h.clock := by
    intro now hnow
    rcases heffect.reads now hnow with rfl | hbefore
    · exact Int.le_refl _
    · exact ht.reading now hbefore
  rcases heffect.moves with ⟨hmap, hjobs⟩ | ⟨now, x, hnow, hdue, hmap, hjobs⟩
  · refine ⟨?_, ?_, ?_, ht.due, hreading, heffect.forGood ht.awake⟩
    · simp only [expired, outstanding, hmap, hjobs]
      exact ht.timeouts
    · exact hmap ▸ ht.armed
    · exact hjobs ▸ ht.fired
  · refine ⟨?_, ?_, ?_, ht.due, hreading, heffect.forGood ht.awake⟩
    · have hall := ht.timeouts
      rw [outstanding, hmap] at hall
      simp only [expired, outstanding, hjobs]
      refine List.Perm.trans (List.Perm.append_left _ ?_) hall
      rw [← List.append_assoc]
      exact List.perm_append_singleton _ _
    · intro y hy
      exact ht.armed y (hmap ▸ List.mem_cons_of_mem _ hy)
    · intro timeout hmem
      rcases List.mem_append.mp (hjobs ▸ hmem) with hmem | hmem
      · exact ht.fired timeout hmem
      · obtain rfl := List.mem_singleton.mp hmem
        obtain ⟨event, hget⟩ := ht.armed x (hmap ▸ List.mem_cons_self)
        exact ⟨event, x.1, hget, Int.le_trans hdue (ht.reading now hnow)⟩

theorem timeouts_step {s : Step} (ht : h.Timeouts) (hs : step logsInfo h s = some h') :
    h'.Timeouts := by
  cases s with
  | pushEvent event =>
    obtain rfl := Option.some.inj hs
    exact ht.pushEvent event
  | onTimeout => exact ht.onTimeout hs
  | timer t => exact ht.timer hs
  | finishHandling timeoutEvent timeoutMs =>
    rw [step] at hs
    split at hs
    · obtain rfl := Option.some.inj hs
      exact (ht.addTimeoutEvent timeoutMs timeoutEvent).frame rfl (Int.le_refl _) rfl rfl
    · cases hs
  | tick ms =>
    obtain rfl := Option.some.inj hs
    exact ht.frame rfl (Int.le_add_of_nonneg_right (Int.natCast_nonneg ms)) rfl rfl
  | pushException exception =>
    obtain rfl := Option.some.inj hs
    cases exception with
    | none => exact ht
    | some event => exact ht.frame rfl (Int.le_refl _) rfl rfl
  | signal =>
    obtain ⟨s, -, rfl⟩ := Option.map_eq_some_iff.mp hs
    exact ht.frame rfl (Int.le_refl _) rfl rfl
  | wait =>
    rw [step] at hs
    split at hs
    · obtain ⟨s, -, rfl⟩ := Option.map_eq_some_iff.mp hs
      exact ht.frame rfl (Int.le_refl _) rfl rfl
    · cases hs
  | popException | popEvent | testStop | stop | join | signalEnd =>
    rw [step] at hs
    split at hs <;> cases hs <;> exact ht.frame rfl (Int.le_refl _) rfl rfl

/-! ## Runs -/

structure Inv (h : EventHandler) : Prop where
  queues : h.Queues
  timeouts : h.Timeouts

theorem inv_of_run {as : List Step} (hr : run (step logsInfo) init as = some h) : h.Inv :=
  run_invariant (P := fun _ _ => True) (I := Inv)
    (fun _ _ _ hi _ hs => ⟨queues_step hi.queues hs, timeouts_step hi.timeouts hs⟩)
    ⟨queues_init, timeouts_init⟩ (along_of_mem fun _ _ _ => trivial) hr

theorem Inv.handlesInOrder (hi : h.Inv) : h.HandlesInOrder where
  exceptions := hi.queues.exceptions
  events := hi.queues.events
  timeouts := hi.timeouts.timeouts
  due := hi.timeouts.due
  awake := hi.timeouts.awake
  notStranded := hi.queues.notStranded

theorem worker_pushEvent (timeout : Option Subscriber) (event : Option IEvent) :
    (h.pushEvent timeout event).worker = h.worker := by
  cases event <;> rfl

/-- The others do not touch the worker. -/
theorem worker_of_other {s : Step} (hother : s.ofWorker = false)
    (hs : step logsInfo h s = some h') : h'.worker = h.worker := by
  cases s with
  | pushEvent event =>
    obtain rfl := Option.some.inj hs
    exact worker_pushEvent none event
  | pushException exception =>
    obtain rfl := Option.some.inj hs
    cases exception <;> rfl
  | signal | timer _ =>
    obtain ⟨_, -, rfl⟩ := Option.map_eq_some_iff.mp hs
    rfl
  | tick ms =>
    obtain rfl := Option.some.inj hs
    rfl
  | onTimeout =>
    rw [step] at hs
    split at hs <;> cases hs
    exact worker_pushEvent _ _
  | stop | join | signalEnd =>
    rw [step] at hs
    split at hs <;> cases hs
    rfl
  | popException | popEvent | finishHandling _ _ | wait | testStop => cases hother

/-- The worker comes between the queues only from an exception queue that is empty. -/
theorem exceptionsEmpty_step {s : Step} (hs : step logsInfo h s = some h')
    (hw : h'.worker = .exceptionsEmpty) :
    s = .popException ∧ h.worker = .loop ∧ h.mExceptionQueue = []
      ∨ s.ofWorker = false ∧ h.worker = .exceptionsEmpty := by
  cases hown : s.ofWorker with
  | false => exact .inr ⟨rfl, worker_of_other hown hs ▸ hw⟩
  | true =>
    refine .inl ?_
    cases s with
    | popException =>
      rw [step] at hs
      split at hs
      · next hloop hempty => exact ⟨rfl, hloop, hempty⟩
      · cases hs
        cases hw
      · cases hs
    | popEvent | finishHandling _ _ =>
      rw [step] at hs
      split at hs <;> cases hs <;> cases hw
    | wait =>
      rw [step] at hs
      split at hs
      · obtain ⟨_, -, rfl⟩ := Option.map_eq_some_iff.mp hs
        cases hw
      · cases hs
    | testStop =>
      rw [step] at hs
      split at hs <;> cases hs
      dsimp only at hw
      split at hw <;> cases hw
    | pushEvent _ | pushException _ | signal | tick _ | timer _ | onTimeout | stop | join
    | signalEnd => cases hown

theorem foundEmpty {as : List Step} (hr : run (step logsInfo) init as = some h)
    (hw : h.worker = .exceptionsEmpty) : FoundEmpty logsInfo as := by
  have hhistory : h.worker = .exceptionsEmpty → FoundEmpty logsInfo as := by
    refine run_history (I := fun as h => h.worker = .exceptionsEmpty → FoundEmpty logsInfo as)
      (fun hw => Place.noConfusion hw) ?_ hr
    intro as t a t' hr ih hs hw
    rcases exceptionsEmpty_step hs hw with ⟨rfl, hloop, hempty⟩ | ⟨hother, hstay⟩
    · exact ⟨as, [], t, rfl, hr, hloop, hempty, fun _ hmem => absurd hmem List.not_mem_nil⟩
    · obtain ⟨bs, cs, u, rfl, hu, hloop, hempty, hrest⟩ := ih hstay
      refine ⟨bs, cs ++ [a], u, by simp, hu, hloop, hempty, ?_⟩
      intro b hb
      rcases List.mem_append.mp hb with hb | hb
      · exact hrest b hb
      · exact List.mem_singleton.mp hb ▸ hother
  exact hhistory hw

/-- **Every event is handled once and in order, and none is stranded.** For any pushes by any
threads, at any moments of the worker and of the timeouts; an event comes from the event queue only
when the worker has just found the other one empty. -/
theorem handles_in_order {as : List Step} (hr : run (step logsInfo) init as = some h) :
    h.HandlesInOrder
      ∧ ∀ h', step logsInfo h .popEvent = some h' → FoundEmpty logsInfo as := by
  refine ⟨(inv_of_run hr).handlesInOrder, ?_⟩
  intro h' hs
  refine foundEmpty hr ?_
  rw [step] at hs
  split at hs
  · assumption
  · assumption
  · cases hs

/-- An event arms a timeout; the timeout's event comes behind an exception. -/
def timedRun : List Step :=
  [.pushEvent (some 1), .popException, .signal, .popEvent, .finishHandling (some 2) 100,
    .timer .signal, .timer .processTimeout, .timer .processTopTimeout, .testStop, .tick 100,
    .timer .smartWait, .timer .processTimeout, .timer .processTopTimeout, .onTimeout,
    .pushException (some 3), .popException]

theorem handles_in_order_timed : ∃ h, run (step false) init timedRun = some h
    ∧ h.HandlesInOrder ∧ ∀ h', step false h .popEvent = some h' → FoundEmpty false timedRun :=
  ⟨_, rfl, handles_in_order (show run (step false) init timedRun = some _ from rfl)⟩

/-- Between the push and the signal the worker waits, and the count is zero. -/
theorem waits_before_signal : ¬ ∀ as h, run (step false) init as = some h →
    h.worker = .waiting → h.mExceptionQueue ≠ [] ∨ h.mEventQueue ≠ [] →
      0 < h.mEventSemaphore.value := by
  intro hall
  have hpos := hall [.popException, .popEvent, .pushEvent (some 1)] _ rfl rfl
    (.inr (List.cons_ne_nil 1 []))
  exact Nat.lt_irrefl 0 hpos

end EventHandler

end IviLink.Utils
