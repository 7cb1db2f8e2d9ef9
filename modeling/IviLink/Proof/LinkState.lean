import IviLink.Proof.StartUp

/-!
# The state of the link

`linkIsUp` is set together with each notification, so it says what the last one said. A
loss of the counterpart takes the link down at once; the link comes up when the trigger
`AUTHENTICATION_ESTABLISHED` is read, whatever has happened since it was sent. So the link is up
without a counterpart where this trigger is read after a loss, and nowhere else.
-/

namespace IviLink.SystemController

open IviLink.Lib

/-! ## What a trace tells -/

/-- Neither the counterpart nor the link is concerned. -/
def Entry.isSilent (x : Entry) : Bool :=
  !x.isCounterCA && !x.isNotification && x != .effect .requestUnlockProfiles

section Silent

variable {x : Entry} {trace l : List Entry}

theorem down_append (h : ∀ x ∈ l, x.isCounterCA = false) : Down (trace ++ l) ↔ Down trace := by
  have hnil : l.filter Entry.isCounterCA = [] :=
    List.filter_eq_nil_iff.mpr fun x hx => Bool.eq_false_iff.mp (h x hx)
  rw [Down, Down, List.filter_append, hnil, List.append_nil]

theorem lastNotification_append (h : ∀ x ∈ l, x.isNotification = false) :
    lastNotification (trace ++ l) = lastNotification trace := by
  have hnil : l.filter Entry.isNotification = [] :=
    List.filter_eq_nil_iff.mpr fun x hx => Bool.eq_false_iff.mp (h x hx)
  rw [lastNotification, lastNotification, List.filter_append, hnil, List.append_nil]

theorem isSilent_iff : x.isSilent = true ↔
    (x.isCounterCA = false ∧ x.isNotification = false) ∧ x ≠ .effect .requestUnlockProfiles := by
  simp [Entry.isSilent]

end Silent

namespace CSystemStateMachine

variable {m m' m'' : CSystemStateMachine}

/-- Nothing that concerns the link. -/
def Silent (m m' : CSystemStateMachine) : Prop :=
  m'.linkIsUp = m.linkIsUp ∧ ∃ l, m'.trace = m.trace ++ l ∧ ∀ x ∈ l, x.isSilent = true

namespace Silent

theorem refl (m : CSystemStateMachine) : Silent m m := ⟨rfl, [], (List.append_nil _).symm, nofun⟩

theorem log (h : Silent m m') {x : Entry} (hx : x.isSilent = true) : Silent m (m'.log x) := by
  obtain ⟨hlink, l, htrace, hl⟩ := h
  refine ⟨hlink, l ++ [x], ?_, ?_⟩
  · rw [CSystemStateMachine.log, htrace, List.append_assoc]
  · intro y hy
    rcases List.mem_append.mp hy with hy | hy
    · exact hl y hy
    · exact List.mem_singleton.mp hy ▸ hx

theorem perform (h : Silent m m') {e : Effect} (he : (Entry.effect e).isSilent = true) :
    Silent m (m'.perform e) := h.log he

theorem doReset (h : Silent m m') : Silent m m'.doReset := by
  rw [CSystemStateMachine.doReset]
  split
  · exact h
  · exact (show Silent m { m' with isResetInProgress := true } from h).log rfl

theorem changeState (h : Silent m m') (s : SystemState) : Silent m (m'.changeState s) :=
  (show Silent m { m' with mSystemState := s } from h).log rfl

theorem launch (h : Silent m m') (source : SystemState) (c : Component) :
    Silent m (m'.launch source c) := by
  rw [CSystemStateMachine.launch]
  split
  · split
    · exact (h.perform rfl).perform rfl
    · exact (h.perform rfl).perform rfl
  · exact h

theorem advance (h : Silent m m') (source target : SystemState) (t : Trigger) :
    Silent m (m'.advance source target t) := by
  rw [CSystemStateMachine.advance]
  split
  · exact h.changeState target
  · exact h

theorem finishAuthentication (h : Silent m m') : Silent m m'.finishAuthentication := by
  rw [CSystemStateMachine.finishAuthentication]
  split
  · exact (h.changeState .CIdleState).perform rfl
  · exact h

theorem startAuthentication (h : Silent m m') : Silent m m'.startAuthentication := by
  rw [CSystemStateMachine.startAuthentication]
  split
  · split
    · dsimp only
      split
      · exact (h.perform rfl).perform rfl
      · exact h.perform rfl
    · exact h.changeState .CIdleState
  · exact h

end Silent

/-- What a step does to the link. -/
inductive LinkSteps (m : CSystemStateMachine) : Action → CSystemStateMachine → Prop
  | silent {a n} : InTime m a → Silent m n → LinkSteps m a n
  | connected {role n} : Silent (m.log (.callback (.onCounterCAConnected role))) n →
      LinkSteps m (.callback (.onCounterCAConnected role)) n
  | disconnected {n} :
      Silent ({ m.log (.callback .onCounterCADisconnected) with linkIsUp := false }.perform
        .linkDownNotification) n →
      LinkSteps m (.callback .onCounterCADisconnected) n
  | established {rest} : m.mQueue = .AUTHENTICATION_ESTABLISHED :: rest →
      LinkSteps m .receiveTrigger
        (({ m with mQueue := rest }.log (.trigger .AUTHENTICATION_ESTABLISHED)).handleTrigger
          .AUTHENTICATION_ESTABLISHED)

theorem call_link (m : CSystemStateMachine) (c : Callback) :
    LinkSteps m (.callback c) ((m.log (.callback c)).call c) := by
  cases c with
  | onCounterCAConnected role =>
    refine .connected ?_
    have hgender : Silent (m.log (.callback (.onCounterCAConnected role)))
        { m.log (.callback (.onCounterCAConnected role)) with mSystemGender := role.toNat } :=
      Silent.refl _
    exact hgender.advance ..
  | onCounterCADisconnected => exact .disconnected (Silent.refl _).doReset
  | onSystemControllerWatchdogNotAvaliable =>
    refine .silent trivial ?_
    rw [call]
    split
    · exact ((Silent.refl m).log rfl).doReset
    · exact (Silent.refl m).log rfl
  | onAuthenticationOK => exact .silent trivial ((Silent.refl m).log rfl).finishAuthentication
  | onAuthenticationError => exact .silent trivial ((Silent.refl m).log rfl).doReset
  | onCounterCSConnected => exact .silent trivial (((Silent.refl m).log rfl).advance ..)
  | onCounterPMConnected => exact .silent trivial (((Silent.refl m).log rfl).advance ..)
  | onCounterAMConnected => exact .silent trivial (((Silent.refl m).log rfl).advance ..)
  | onSystemControllerWatchdogAvaliable =>
    exact .silent trivial (((Silent.refl m).log rfl).advance ..)
  | onAuthenticationCanceled => exact .silent trivial (((Silent.refl m).log rfl).advance ..)
  | onConnectivityAgentAvailable => exact .silent trivial (((Silent.refl m).log rfl).advance ..)
  | onChannelSupervisorAvailable => exact .silent trivial (((Silent.refl m).log rfl).advance ..)
  | onProfileManagerAvailable => exact .silent trivial (((Silent.refl m).log rfl).advance ..)
  | onAppManAvailable => exact .silent trivial (((Silent.refl m).log rfl).advance ..)
  | _ => exact .silent trivial ((Silent.refl m).log rfl)

theorem handleTrigger_link (m : CSystemStateMachine) {t : Trigger} {rest : List Trigger}
    (h : m.mQueue = t :: rest) :
    LinkSteps m .receiveTrigger (({ m with mQueue := rest }.log (.trigger t)).handleTrigger t) := by
  by_cases ht : t = .AUTHENTICATION_ESTABLISHED
  · subst ht
    exact .established h
  have hintime : InTime m .receiveTrigger := by
    intro hhead
    rw [h] at hhead
    exact absurd (Option.some.inj hhead) ht
  have hread : Silent m ({ m with mQueue := rest }.log (.trigger t)) :=
    (show Silent m { m with mQueue := rest } from .refl m).log rfl
  refine .silent hintime ?_
  cases t with
  | AUTHENTICATION_ESTABLISHED => exact absurd rfl ht
  | INITIALIZED => exact hread.launch ..
  | SYSTEM_WATCHDOG_STARTED => exact (hread.launch ..).perform rfl
  | APPLICATION_MANAGER_CONNECTION_ESTABLISHED => exact (hread.launch ..).perform rfl
  | PHISYCAL_CONNECTION_ESTABLISHED => exact (hread.launch ..).perform rfl
  | CHANNEL_SUPERVISOR_STARTED => exact hread.perform rfl
  | CHANNEL_CONNECTION_ESTABLISHED => exact (hread.launch ..).perform rfl
  | PROFILE_MANAGER_CONNECTION_ESTABLISHED =>
    rw [handleTrigger]
    split
    · exact (hread.perform rfl).startAuthentication.perform rfl
    · exact hread.finishAuthentication
  | AUTHENTICATION_CANCELED => exact (hread.perform rfl).doReset
  | _ => exact hread

theorem link_cases {a : Action} (h : m.step a = some m') : LinkSteps m a m' := by
  cases a with
  | callback c => exact Option.some.inj h ▸ call_link m c
  | receiveTrigger =>
    rw [step] at h
    split at h
    · exact absurd h (by simp)
    · rename_i t rest hqueue
      exact Option.some.inj h ▸ handleTrigger_link m hqueue

end CSystemStateMachine

/-! ## The invariant -/

/-- What is asked of an entry: nothing that belongs to a link while there is no counterpart. -/
def Quiet (pre : List Entry) (x : Entry) : Prop :=
  x = .effect .linkUpNotification ∨ x = .effect .requestUnlockProfiles → ¬ Down pre

theorem quiet_of_silent {x : Entry} (hx : x.isSilent = true) (pre : List Entry) : Quiet pre x := by
  rintro (rfl | rfl) <;> exact absurd hx (by decide)

namespace Truthful

open CSystemStateMachine

variable {m m' : CSystemStateMachine}

theorem init (android authOn : Bool) (gender : Int) :
    Truthful (CSystemStateMachine.init android authOn gender) :=
  ⟨fun _ => rfl, each_nil, by simp [getLinkState, CSystemStateMachine.init, lastNotification]⟩

theorem silent (h : Truthful m) (hs : Silent m m') : Truthful m' := by
  obtain ⟨hlink, l, htrace, hl⟩ := hs
  refine ⟨?_, ?_, ?_⟩
  · rw [htrace, down_append fun x hx => (isSilent_iff.mp (hl x hx)).1.1, getLinkState, hlink]
    exact h.down
  · rw [htrace]
    refine h.quiet.append ?_
    rintro pre x post rfl
    exact quiet_of_silent (hl x (by simp)) _
  · rw [htrace, lastNotification_append fun x hx => (isSilent_iff.mp (hl x hx)).1.2, getLinkState,
      hlink]
    exact h.notified

theorem connected (h : Truthful m) (role : UInt8) :
    Truthful (m.log (.callback (.onCounterCAConnected role))) := by
  refine ⟨?_, h.quiet.snoc (by simp), ?_⟩
  · intro hdown
    have hfilter : (m.trace ++ [Entry.callback (.onCounterCAConnected role)]).filter Entry.isCounterCA =
        m.trace.filter Entry.isCounterCA ++ [.callback (.onCounterCAConnected role)] := by
      rw [List.filter_append]
      rfl
    rw [log, Down, hfilter, List.getLast?_concat] at hdown
    cases hdown
  · rw [log, lastNotification_append (by simp [Entry.isNotification])]
    exact h.notified

theorem disconnected (h : Truthful m) :
    Truthful ({ m.log (.callback .onCounterCADisconnected) with linkIsUp := false }.perform
      .linkDownNotification) := by
  refine ⟨fun _ => rfl, ?_, ?_⟩
  · change Each _ (m.trace ++ [.callback .onCounterCADisconnected] ++ [.effect .linkDownNotification])
    exact (h.quiet.snoc (by simp)).snoc (by simp)
  · simp [getLinkState, perform, log, lastNotification, Entry.isNotification]

/-- The trigger is read, and the profiles and the link with it. -/
theorem established_trace (m : CSystemStateMachine) (rest : List Trigger) :
    (({ m with mQueue := rest }.log (.trigger .AUTHENTICATION_ESTABLISHED)).handleTrigger
      .AUTHENTICATION_ESTABLISHED).trace = m.trace ++ [.trigger .AUTHENTICATION_ESTABLISHED] ++
        .effect .requestUnlockProfiles :: [.effect .requestAuthenticationDone,
          .effect .requestShutDown, .effect .onAuthenticationStopped,
          .effect .sendStopSignalToProgressBar, .effect .linkUpNotification] := by
  simp [handleTrigger, unlockProfiles, perform, log]

theorem established_not_counterCA : ∀ y ∈ [.trigger .AUTHENTICATION_ESTABLISHED] ++
    (.effect .requestUnlockProfiles :: [.effect .requestAuthenticationDone,
      .effect .requestShutDown, .effect .onAuthenticationStopped,
      .effect .sendStopSignalToProgressBar, .effect .linkUpNotification] : List Entry),
    y.isCounterCA = false := by
  intro y hy
  exact Bool.eq_false_iff.mpr (List.filter_eq_nil_iff.mp rfl y hy)

theorem established (h : Truthful m) {rest : List Trigger} (hup : ¬ Down m.trace) :
    Truthful (({ m with mQueue := rest }.log (.trigger .AUTHENTICATION_ESTABLISHED)).handleTrigger
      .AUTHENTICATION_ESTABLISHED) := by
  refine ⟨?_, ?_, ?_⟩
  · rw [established_trace, List.append_assoc,
      down_append fun y hy => established_not_counterCA y hy]
    exact fun hdown => absurd hdown hup
  · rw [established_trace, List.append_assoc]
    refine h.quiet.append ?_
    intro pre x post heq _
    -- nothing of what is added is about the counterpart
    have hnone : ∀ y ∈ pre ++ x :: post, y.isCounterCA = false := heq ▸ established_not_counterCA
    rw [down_append fun y hy => hnone y (List.mem_append_left _ hy)]
    exact hup
  · rw [established_trace]
    simp [getLinkState, handleTrigger, perform, log, lastNotification, Entry.isNotification]

theorem step (h : Truthful m) {a : Action} (ha : InTime m a) (hs : m.step a = some m') :
    Truthful m' := by
  cases link_cases hs with
  | silent _ hs => exact h.silent hs
  | connected hs => exact (h.connected _).silent hs
  | disconnected hs => exact h.disconnected.silent hs
  | established hqueue =>
    refine h.established (ha ?_)
    rw [hqueue]
    rfl

/-- A step that comes too late leaves its mark. -/
theorem not_quiet_of_late {a : Action} (ha : ¬ InTime m a) (hs : m.step a = some m') :
    ¬ Each Quiet m'.trace := by
  cases a with
  | callback c => exact absurd trivial ha
  | receiveTrigger =>
    obtain ⟨hhead, hdown⟩ := Classical.not_imp.mp ha
    cases link_cases hs with
    | silent hintime _ => exact absurd hintime ha
    | established _ =>
      rw [established_trace]
      intro hquiet
      refine hquiet _ _ _ rfl (.inr rfl) ?_
      rw [down_append (List.forall_mem_singleton.mpr rfl)]
      exact Classical.not_not.mp hdown

/-- Nothing that was written is taken back. -/
theorem trace_prefix {a : Action} (hs : m.step a = some m') : m.trace <+: m'.trace := by
  cases link_cases hs with
  | silent _ hs =>
    obtain ⟨-, l, htrace, -⟩ := hs
    exact htrace ▸ List.prefix_append _ _
  | connected hs =>
    obtain ⟨-, l, htrace, -⟩ := hs
    exact htrace ▸ (List.prefix_append _ _).trans (List.prefix_append _ _)
  | disconnected hs =>
    obtain ⟨-, l, htrace, -⟩ := hs
    exact htrace ▸ ((List.prefix_append _ _).trans (List.prefix_append _ _)).trans
      (List.prefix_append _ _)
  | established _ =>
    rw [established_trace, List.append_assoc]
    exact List.prefix_append _ _

end Truthful

namespace CSystemStateMachine

/-- **The state of the link is what it is said to be**, in every state of a run, exactly if the
success of the authentication is never taken up while the counterpart is gone. -/
theorem link_state_truthful_iff (android authOn : Bool) (gender : Int) (as : List Action)
    (m : CSystemStateMachine) (hr : run step (init android authOn gender) as = some m) :
    Truthful m ↔ Along step InTime (init android authOn gender) as := by
  constructor
  · intro htruth
    by_contra hlate
    have hmark : ¬ Each Quiet m.trace := by
      refine run_of_not_along (I := fun _ => True) (B := fun n => ¬ Each Quiet n.trace)
        (fun _ _ _ _ _ => trivial) (fun _ _ _ _ ha hs => Truthful.not_quiet_of_late ha hs) ?_
        trivial hr hlate
      intro n a n' _ hn hs hn'
      obtain ⟨l, hl⟩ := Truthful.trace_prefix hs
      exact hn (Each.left (hl ▸ hn'))
    exact hmark htruth.quiet
  · intro hintime
    exact run_invariant (fun _ _ _ h ha hs => Truthful.step h ha hs)
      (Truthful.init android authOn gender) hintime hr

/-- The link comes up, and goes down with the counterpart. -/
theorem link_state_truthful_wholeChain :
    ∃ m, run step (init false true 0) (wholeChain ++ [.callback .onAuthenticationOK,
        .receiveTrigger, .callback .onCounterCADisconnected]) = some m ∧
      m.getLinkState = false ∧ (Truthful m ↔ Along step InTime (init false true 0)
        (wholeChain ++ [.callback .onAuthenticationOK, .receiveTrigger,
          .callback .onCounterCADisconnected])) :=
  ⟨_, rfl, rfl, link_state_truthful_iff false true 0 (wholeChain ++ [.callback .onAuthenticationOK,
    .receiveTrigger, .callback .onCounterCADisconnected]) _ rfl⟩

/-- The counterpart goes before the trigger is read, and the link comes up without it. -/
theorem link_up_without_counterpart :
    ¬ ∀ (android authOn : Bool) (gender : Int) (as : List Action) (m : CSystemStateMachine),
      run step (init android authOn gender) as = some m → Truthful m := by
  intro h
  obtain ⟨m, hr, hdown, hup⟩ : ∃ m, run step (init false true 0) (wholeChain ++
      [.callback .onAuthenticationOK, .callback .onCounterCADisconnected, .receiveTrigger])
        = some m ∧ Down m.trace ∧ m.getLinkState = true :=
    ⟨_, rfl, by rw [Down]; rfl, rfl⟩
  exact Bool.noConfusion (hup.symm.trans ((h _ _ _ _ m hr).down hdown))

end CSystemStateMachine

end IviLink.SystemController
