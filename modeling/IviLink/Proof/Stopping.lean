import IviLink.Proof.EventOrder

/-!
# When stopping an event handler hangs

`deinit` sets the stop flag and joins the worker before it signals the semaphore that the worker
may wait on. A worker that has an event to take, or a signal to come, sees the flag after it; an
idle one never does. Once the flag is set a handler can only be idle that was idle before.
-/

namespace IviLink.Utils.EventHandler

open IviLink.Lib

variable {h h' : EventHandler} {logsInfo : Bool}

theorem stopFlag_pushEvent (timeout : Option Subscriber) (event : Option IEvent) :
    (h.pushEvent timeout event).mStopFlag = h.mStopFlag := by
  cases event <;> rfl

theorem stopFlag_step {s : Step} (hs : step logsInfo h s = some h') (hflag : h.mStopFlag = true) :
    h'.mStopFlag = true := by
  cases s with
  | pushEvent event =>
    obtain rfl := Option.some.inj hs
    exact (stopFlag_pushEvent none event).trans hflag
  | pushException exception =>
    obtain rfl := Option.some.inj hs
    cases exception <;> exact hflag
  | signal | timer _ =>
    obtain ⟨_, -, rfl⟩ := Option.map_eq_some_iff.mp hs
    exact hflag
  | tick ms =>
    obtain rfl := Option.some.inj hs
    exact hflag
  | finishHandling timeoutEvent timeoutMs =>
    rw [step] at hs
    split at hs <;> cases hs
    cases timeoutEvent <;> exact hflag
  | wait =>
    rw [step] at hs
    split at hs
    · obtain ⟨_, -, rfl⟩ := Option.map_eq_some_iff.mp hs
      exact hflag
    · cases hs
  | onTimeout =>
    rw [step] at hs
    split at hs <;> cases hs
    exact (stopFlag_pushEvent _ _).trans hflag
  | popException | popEvent | testStop | join | signalEnd =>
    rw [step] at hs
    split at hs <;> cases hs <;> exact hflag
  | stop =>
    rw [step] at hs
    split at hs <;> cases hs
    rfl

/-! ## Idleness comes from nowhere -/

theorem not_idle_of_worker (hloop : h.worker ≠ .loop) (hempty : h.worker ≠ .exceptionsEmpty)
    (hwaiting : h.worker ≠ .waiting) : ¬ h.Idle := by
  rintro ⟨hw | hw | hw, -⟩
  · exact hloop hw
  · exact hempty hw
  · exact hwaiting hw

theorem idle_of_worker (hidle : h'.Idle)
    (hw : h.worker = .loop ∨ h.worker = .exceptionsEmpty ∨ h.worker = .waiting)
    (hexceptions : h.mExceptionQueue = h'.mExceptionQueue)
    (hevents : h.mEventQueue = h'.mEventQueue)
    (htokens : h.mEventSemaphore.tokens = h'.mEventSemaphore.tokens)
    (houtstanding : h.outstanding = h'.outstanding) : h.Idle := by
  obtain ⟨-, hidle⟩ := hidle
  rw [← hexceptions, ← hevents, ← htokens, ← houtstanding] at hidle
  exact ⟨hw, hidle⟩

theorem idle_pushEvent {timeout : Option Subscriber} {event : Option IEvent}
    (hidle : (h.pushEvent timeout event).Idle) : event = none := by
  cases event with
  | none => rfl
  | some event => exact absurd hidle.2.2.1 (by simp [EventHandler.pushEvent])

theorem outstanding_timer {t : Timer} (hs : step logsInfo h (.timer t) = some h')
    (hnone : h'.outstanding = []) : h.outstanding = [] := by
  obtain ⟨m, hm, rfl⟩ := Option.map_eq_some_iff.mp hs
  rcases (t.effect hm).moves with ⟨hmap, hjobs⟩ | ⟨now, x, -, -, -, hjobs⟩
  · simpa only [outstanding, hmap, hjobs] using hnone
  · simp [outstanding, hjobs] at hnone

/-- **With the flag set, a handler that is idle after a step was so before it.** -/
theorem idle_of_step {s : Step} (hi : h.Inv) (hflag : h.mStopFlag = true)
    (hs : step logsInfo h s = some h') (hidle : h'.Idle) : h.Idle := by
  cases s with
  | pushEvent event =>
    obtain rfl := Option.some.inj hs
    obtain rfl := idle_pushEvent hidle
    exact hidle
  | pushException exception =>
    obtain rfl := Option.some.inj hs
    cases exception with
    | none => exact hidle
    | some event => exact absurd hidle.2.1 (by simp [EventHandler.pushException])
  | signal =>
    obtain ⟨s, hpost, rfl⟩ := Option.map_eq_some_iff.mp hs
    exact idle_of_worker hidle hidle.1 rfl rfl (Semaphore.tokens_post hpost).symm rfl
  | popException =>
    rw [step] at hs
    split at hs
    · next hloop _ =>
      obtain rfl := Option.some.inj hs
      exact idle_of_worker hidle (.inl hloop) rfl rfl rfl rfl
    · cases hs
      exact absurd hidle
        (not_idle_of_worker Place.noConfusion Place.noConfusion Place.noConfusion)
    · cases hs
  | popEvent =>
    rw [step] at hs
    split at hs
    · next hempty _ =>
      obtain rfl := Option.some.inj hs
      exact idle_of_worker hidle (.inr (.inl hempty)) rfl rfl rfl rfl
    · cases hs
      exact absurd hidle
        (not_idle_of_worker Place.noConfusion Place.noConfusion Place.noConfusion)
    · cases hs
  | finishHandling timeoutEvent timeoutMs =>
    rw [step] at hs
    split at hs <;> cases hs
    exact absurd hidle
      (not_idle_of_worker Place.noConfusion Place.noConfusion Place.noConfusion)
  | wait =>
    rw [step] at hs
    split at hs
    · obtain ⟨_, -, rfl⟩ := Option.map_eq_some_iff.mp hs
      exact absurd hidle
        (not_idle_of_worker Place.noConfusion Place.noConfusion Place.noConfusion)
    · cases hs
  | testStop =>
    rw [step, hflag] at hs
    split at hs <;> cases hs
    exact absurd hidle
      (not_idle_of_worker Place.noConfusion Place.noConfusion Place.noConfusion)
  | tick ms =>
    obtain rfl := Option.some.inj hs
    exact hidle
  | timer t =>
    have hnone := outstanding_timer hs hidle.2.2.2.2
    obtain ⟨m, -, rfl⟩ := Option.map_eq_some_iff.mp hs
    exact ⟨hidle.1, hidle.2.1, hidle.2.2.1, hidle.2.2.2.1, hnone⟩
  | onTimeout =>
    rw [step] at hs
    split at hs
    · cases hs
    · next timeout rest hjobs =>
      -- the timeout has its event, which is in the queue now
      obtain ⟨event, time, hget, -⟩ := hi.timeouts.fired timeout (hjobs ▸ List.mem_cons_self)
      obtain rfl := Option.some.inj hs
      have hnone := idle_pushEvent hidle
      rw [hget] at hnone
      cases hnone
  | stop | join =>
    rw [step] at hs
    split at hs <;> cases hs
    exact hidle
  | signalEnd =>
    rw [step] at hs
    split at hs <;> cases hs
    exact absurd hidle.2.2.2.1 (by simp)

/-! ## Hanging -/

theorem Hung.idle (hi : h.Inv) (hhung : h.Hung) : h.Idle := by
  obtain ⟨-, hw, htokens, hnone⟩ := hhung
  have hall := hi.queues.tokens hw
  rw [htokens] at hall
  refine ⟨.inr (.inr hw), ?_, ?_, htokens, hnone⟩
  · exact List.length_eq_zero_iff.mp (by omega)
  · exact List.length_eq_zero_iff.mp (by omega)

/-- An idle worker goes to the semaphore, or is there. -/
theorem hangs_of_idle (hidle : h.Idle) (hcall : h.deinit = .notCalled) :
    ∃ bs h', run (step logsInfo) h (.stop :: bs) = some h' ∧ h'.Hung := by
  obtain ⟨hw, hexceptions, hevents, htokens, hnone⟩ := hidle
  have hhung : { h with deinit := .joining, mStopFlag := true, worker := .waiting }.Hung :=
    ⟨rfl, rfl, htokens, hnone⟩
  rcases hw with hw | hw | hw
  · refine ⟨[.popException, .popEvent], _, ?_, hhung⟩
    simp [run, step, hcall, hw, hexceptions, hevents]
  · refine ⟨[.popEvent], _, ?_, hhung⟩
    simp [run, step, hcall, hw, hevents]
  · refine ⟨[], _, ?_, hhung⟩
    simp [run, step, hcall, ← hw]

/-- **Stopping hangs exactly when the handler is idle.** From every state that a run can lead to,
whatever the threads do after `deinit` was called. -/
theorem deinit_never_hangs_iff {as : List Step} (hr : run (step logsInfo) init as = some h)
    (hcall : h.deinit = .notCalled) :
    (∀ bs h', run (step logsInfo) h (.stop :: bs) = some h' → ¬ h'.Hung) ↔ ¬ h.Idle := by
  constructor
  · intro hnever hidle
    obtain ⟨bs, h', hr', hhung⟩ := hangs_of_idle hidle hcall
    exact hnever bs h' hr' hhung
  · intro hbusy bs h' hr'
    obtain ⟨t, ht, hr'⟩ := run_cons hr'
    rw [step, hcall] at ht
    obtain rfl := Option.some.inj ht
    have hi := inv_of_run hr
    have hbegins : Inv { h with deinit := .joining, mStopFlag := true } :=
      ⟨⟨hi.queues.exceptions, hi.queues.events, hi.queues.came, hi.queues.tokens⟩,
        hi.timeouts.frame rfl (Int.le_refl _) rfl rfl⟩
    have hends : h'.Inv ∧ h'.mStopFlag = true ∧ ¬ h'.Idle := by
      refine run_invariant (P := fun _ _ => True)
        (I := fun h => h.Inv ∧ h.mStopFlag = true ∧ ¬ h.Idle) ?_ ⟨hbegins, rfl, hbusy⟩
        (along_of_mem fun _ _ _ => trivial) hr'
      rintro u s u' ⟨hi, hflag, hbusy⟩ - hs
      exact ⟨⟨queues_step hi.queues hs, timeouts_step hi.timeouts hs⟩, stopFlag_step hs hflag,
        fun hidle => hbusy (idle_of_step hi hflag hs hidle)⟩
    exact fun hhung => hends.2.2 (hhung.idle hends.1)

/-- With an event in the queue it does not hang. -/
theorem deinit_never_hangs_busy : ∃ h, run (step false) init [.pushEvent (some 1)] = some h
    ∧ ∀ bs h', run (step false) h (.stop :: bs) = some h' → ¬ h'.Hung := by
  have hr : run (step false) init [.pushEvent (some 1)] = some (init.pushEvent none (some 1)) := rfl
  exact ⟨_, hr, (deinit_never_hangs_iff hr rfl).mpr (by decide)⟩

/-- The worker finds nothing and waits; nobody wakes it. -/
theorem deinit_hangs : ¬ ∀ as h, run (step false) init as = some h → ¬ h.Hung := by
  intro hnever
  refine hnever [.popException, .popEvent, .stop] _ rfl ?_
  decide

end IviLink.Utils.EventHandler
