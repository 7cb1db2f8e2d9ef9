import IviLink.Lib.Run
import IviLink.SystemController.CSystemStateMachine
import Mathlib.Data.List.Count
import Mathlib.Data.List.Perm.Subperm

/-!
# The system starts in order

A state is entered once, and entering it sends one trigger, so each trigger is sent once
at most, counting those that have been read; and what is launched is launched by the
one trigger that follows the handshake of the layer below. A trigger may be read when the
machine is in a later state already: then nothing is launched.

`CIdleState` is entered after a success or after a cancellation, not after both. So a
cancellation that the authentication took for its end excludes the trigger that unlocks the
profiles; one that comes later, or too early, is not looked at.
-/

namespace IviLink.SystemController

open IviLink.Lib

/-! ## Triggers and what they bring about -/

/-- The state that the trigger tells of. -/
def Trigger.state? : Trigger → Option SystemState
  | .INITIALIZED => some .InitialState
  | .SYSTEM_WATCHDOG_STARTED => some .WatchdogReady
  | .APPLICATION_MANAGER_STARTED => some .CApplicationManagerReady
  | .APPLICATION_MANAGER_CONNECTION_ESTABLISHED => some .ApplicationManagerInitDone
  | .CONNECTIVITY_AGENT_STARTED => some .CPhysicalLayerReady
  | .PHISYCAL_CONNECTION_ESTABLISHED => some .CPhysicalLayerHandshakeDone
  | .CHANNEL_SUPERVISOR_STARTED => some .CChannelLayerReady
  | .CHANNEL_CONNECTION_ESTABLISHED => some .CChannelLayerHandshakeDone
  | .PROFILE_MANAGER_STARTED => some .CProfileManagerReady
  | .PROFILE_MANAGER_CONNECTION_ESTABLISHED => some .CAuthenticateState
  | .AUTHENTICATION_ESTABLISHED => some .CIdleState
  | .AUTHENTICATION_CANCELED => some .CIdleState
  | _ => none

/-- The trigger whose handler launches the component. -/
def Component.cause : Component → Trigger
  | .SYSTEM_CONTROLLER_WATCHDOG => .INITIALIZED
  | .APPLICATION_MANAGER => .SYSTEM_WATCHDOG_STARTED
  | .CONNECTIVITY_AGENT => .APPLICATION_MANAGER_CONNECTION_ESTABLISHED
  | .CHANNEL_SUPERVISOR => .PHISYCAL_CONNECTION_ESTABLISHED
  | .PROFILE_MANAGER => .CHANNEL_CONNECTION_ESTABLISHED
  | .AUTHENTICATION_APP => .PROFILE_MANAGER_CONNECTION_ESTABLISHED

/-- The trigger whose handler does it; the other effects are not followed here. -/
def Effect.cause : Effect → Option Trigger
  | .launch c => some c.cause
  | .requestUnlockProfiles => some .AUTHENTICATION_ESTABLISHED
  | _ => none

/-- What has happened before the trigger is sent. -/
def Trigger.Announced (authOn : Bool) : Trigger → List Entry → Prop
  | .SYSTEM_WATCHDOG_STARTED => Accepted .onSystemControllerWatchdogAvaliable .WatchdogReady
  | .APPLICATION_MANAGER_CONNECTION_ESTABLISHED =>
    Accepted .onCounterAMConnected .ApplicationManagerInitDone
  | .PHISYCAL_CONNECTION_ESTABLISHED => fun trace =>
    ∃ role, Accepted (.onCounterCAConnected role) .CPhysicalLayerHandshakeDone trace
  | .CHANNEL_CONNECTION_ESTABLISHED => Accepted .onCounterCSConnected .CChannelLayerHandshakeDone
  | .PROFILE_MANAGER_CONNECTION_ESTABLISHED => Accepted .onCounterPMConnected .CAuthenticateState
  | .AUTHENTICATION_ESTABLISHED => fun trace =>
    authOn = false ∨ Accepted .onAuthenticationOK .CIdleState trace
  | _ => fun _ => True

theorem Accepted.append {c : Callback} {s : SystemState} {trace : List Entry}
    (h : Accepted c s trace) (l : List Entry) : Accepted c s (trace ++ l) :=
  h.trans (List.prefix_append trace l).isInfix

theorem Trigger.Announced.append {authOn : Bool} {t : Trigger} {trace : List Entry}
    (h : t.Announced authOn trace) (l : List Entry) : t.Announced authOn (trace ++ l) := by
  cases t with
  | SYSTEM_WATCHDOG_STARTED => exact Accepted.append h l
  | APPLICATION_MANAGER_CONNECTION_ESTABLISHED => exact Accepted.append h l
  | PHISYCAL_CONNECTION_ESTABLISHED =>
    obtain ⟨role, h⟩ := h
    exact ⟨role, Accepted.append h l⟩
  | CHANNEL_CONNECTION_ESTABLISHED => exact Accepted.append h l
  | PROFILE_MANAGER_CONNECTION_ESTABLISHED => exact Accepted.append h l
  | AUTHENTICATION_ESTABLISHED => exact h.imp_right fun h => Accepted.append h l
  | _ => exact h

theorem Accepted.prepend {c : Callback} {s : SystemState} {trace : List Entry}
    (h : Accepted c s trace) (l : List Entry) : Accepted c s (l ++ trace) :=
  h.trans (List.suffix_append l trace).isInfix

theorem Trigger.Announced.prepend {authOn : Bool} {t : Trigger} {trace : List Entry}
    (h : t.Announced authOn trace) (l : List Entry) : t.Announced authOn (l ++ trace) := by
  cases t with
  | SYSTEM_WATCHDOG_STARTED => exact Accepted.prepend h l
  | APPLICATION_MANAGER_CONNECTION_ESTABLISHED => exact Accepted.prepend h l
  | PHISYCAL_CONNECTION_ESTABLISHED =>
    obtain ⟨role, h⟩ := h
    exact ⟨role, Accepted.prepend h l⟩
  | CHANNEL_CONNECTION_ESTABLISHED => exact Accepted.prepend h l
  | PROFILE_MANAGER_CONNECTION_ESTABLISHED => exact Accepted.prepend h l
  | AUTHENTICATION_ESTABLISHED => exact h.imp_right fun h => Accepted.prepend h l
  | _ => exact h

theorem handshakeBelow_of_announced {authOn : Bool} {trace : List Entry} {c : Component}
    (h : c.cause.Announced authOn trace) : c.HandshakeBelow trace := by
  cases c <;> exact h

/-- The states up to this one. -/
def SystemState.upTo (s : SystemState) : List SystemState :=
  SystemState.chain.take (SystemState.chain.idxOf s + 1)

namespace SystemState

theorem upTo_prefix (s : SystemState) : s.upTo <+: SystemState.chain := List.take_prefix ..

theorem upTo_getLast? (s : SystemState) : s.upTo.getLast? = some s := by cases s <;> rfl

theorem upTo_nodup (s : SystemState) : s.upTo.Nodup :=
  s.upTo_prefix.sublist.nodup (by decide)

end SystemState

/-! ## What a step does -/

/-- Each effect that the trigger brings about once at most, and none of another trigger. -/
def Caused (t : Option Trigger) (es : List Effect) : Prop :=
  ∀ e t', e.cause = some t' → es.count e ≤ if some t' = t then 1 else 0

namespace Caused

variable {t : Option Trigger} {es es' : List Effect} {e : Effect}

theorem nil (t : Option Trigger) : Caused t [] := fun _ _ _ => Nat.zero_le _

theorem one (h : e.cause = t) : Caused t [e] := by
  intro e' t' he'
  by_cases heq : e' = e
  · subst heq
    rw [if_pos (he'.symm.trans h)]
    exact Nat.le_of_eq List.count_singleton_self
  · rw [List.count_eq_zero_of_not_mem (fun hmem => heq (List.mem_singleton.mp hmem))]
    exact Nat.zero_le _

theorem append (h : Caused t es) (h' : Caused none es') : Caused t (es ++ es') := by
  intro e t' he
  rw [List.count_append, Nat.le_zero.mp (h' e t' he)]
  exact h e t' he

theorem snoc (h : Caused t es) (he : e.cause = none) : Caused t (es ++ [e]) := h.append (one he)

theorem cons (h : Caused t es) (he : e.cause = none) : Caused t (e :: es) := by
  intro e' t' he'
  have hne : e ≠ e' := fun heq => nomatch (heq ▸ he).symm.trans he'
  rw [List.count_cons_of_ne hne]
  exact h e' t' he'

theorem of_quiet (h : Caused none es) : Caused t es := List.nil_append es ▸ (nil t).append h

theorem mem (h : Caused t es) (hmem : e ∈ es) {t' : Trigger} (he : e.cause = some t') :
    some t' = t := by
  by_contra hne
  have := h e t' he
  rw [if_neg hne] at this
  exact List.not_mem_of_count_eq_zero (Nat.le_zero.mp this) hmem

end Caused

namespace CSystemStateMachine

/-- Nothing but these effects, as far as the start-up is concerned. -/
structure Performs (m : CSystemStateMachine) (es : List Effect) (m' : CSystemStateMachine) :
    Prop where
  trace : m'.trace = m.trace ++ es.map .effect
  state : m'.mSystemState = m.mSystemState
  queue : m'.mQueue = m.mQueue
  authOn : m'.authOn = m.authOn

variable {m m' m'' : CSystemStateMachine} {es es' : List Effect} {t : Option Trigger}

theorem Performs.refl (m : CSystemStateMachine) : Performs m [] m :=
  ⟨(List.append_nil _).symm, rfl, rfl, rfl⟩

theorem Performs.trans (h : Performs m es m') (h' : Performs m' es' m'') :
    Performs m (es ++ es') m'' :=
  ⟨by rw [h'.trace, h.trace, List.map_append, List.append_assoc], h'.state.trans h.state,
    h'.queue.trans h.queue, h'.authOn.trans h.authOn⟩

theorem performs_perform (m : CSystemStateMachine) (e : Effect) : Performs m [e] (m.perform e) :=
  ⟨rfl, rfl, rfl, rfl⟩

/-- What is done here brings about what `t` does. -/
def Does (t : Option Trigger) (m m' : CSystemStateMachine) : Prop :=
  ∃ es, Performs m es m' ∧ Caused t es

theorem Does.refl (t : Option Trigger) (m : CSystemStateMachine) : Does t m m :=
  ⟨[], .refl m, .nil t⟩

theorem Does.perform (h : Does t m m') {e : Effect} (he : e.cause = none) :
    Does t m (m'.perform e) := by
  obtain ⟨es, hes, hcaused⟩ := h
  exact ⟨_, hes.trans (performs_perform m' e), hcaused.snoc he⟩

theorem Does.doReset (h : Does t m m') : Does t m m'.doReset := by
  rw [CSystemStateMachine.doReset]
  split
  · exact h
  · obtain ⟨es, hes, hcaused⟩ := h
    exact ⟨_, hes.trans ⟨rfl, rfl, rfl, rfl⟩, hcaused.snoc (e := .reset) rfl⟩

theorem launch_does (m : CSystemStateMachine) (source : SystemState) (c : Component) :
    Does (some c.cause) m (m.launch source c) := by
  rw [launch]
  split
  · split
    · exact ⟨_, (performs_perform m _).trans (performs_perform _ _),
        (Caused.one (e := .launch c) rfl).cons rfl⟩
    · exact ⟨_, (performs_perform m _).trans (performs_perform _ _),
        (Caused.one (e := .launch c) rfl).snoc rfl⟩
  · exact .refl _ m

/-- The kinds of steps. -/
inductive Steps (m : CSystemStateMachine) : Action → CSystemStateMachine → Prop
  /-- The present state does not wait for the call. -/
  | called {c m'} : Does none (m.log (.callback c)) m' → Steps m (.callback c) m'
  | accepted {c s t m'} : s.upTo = m.mSystemState.upTo ++ [s] → t.state? = some s →
      t.Announced m.authOn [.callback c, .changeState s] →
      (c = .onAuthenticationCanceled → t = .AUTHENTICATION_CANCELED) →
      Does none (((m.log (.callback c)).changeState s).sendTrigger t) m' →
      Steps m (.callback c) m'
  | handled {t rest m'} : m.mQueue = t :: rest →
      Does (some t) ({ m with mQueue := rest }.log (.trigger t)) m' → Steps m .receiveTrigger m'
  /-- The authentication is switched off, and over as soon as it starts. -/
  | skipped {t rest m'} : m.mQueue = t :: rest → m.authOn = false →
      m.mSystemState = .CAuthenticateState →
      Does none ((({ m with mQueue := rest }.log (.trigger t)).changeState .CIdleState).sendTrigger
        .AUTHENTICATION_ESTABLISHED) m' → Steps m .receiveTrigger m'

theorem advance_cases (m : CSystemStateMachine) (source target : SystemState) (t : Trigger) :
    m.advance source target t = m ∨ m.mSystemState = source ∧
      m.advance source target t = (m.changeState target).sendTrigger t := by
  rw [advance]
  split
  · exact .inr ⟨‹_›, rfl⟩
  · exact .inl rfl

/-- A call that the state `source` waits for. -/
theorem Steps.advance (m : CSystemStateMachine) (c : Callback) (source s : SystemState)
    (t : Trigger) (hs : s.upTo = source.upTo ++ [s]) (ht : t.state? = some s)
    (hannounced : t.Announced m.authOn [.callback c, .changeState s])
    (hcancel : c = .onAuthenticationCanceled → t = .AUTHENTICATION_CANCELED)
    {gender : Int} :
    Steps m (.callback c)
      ({ m.log (.callback c) with mSystemGender := gender }.advance source s t) := by
  rcases advance_cases { m.log (.callback c) with mSystemGender := gender } source s t with
    heq | ⟨rfl, heq⟩
  · rw [heq]
    exact .called ⟨[], ⟨(List.append_nil _).symm, rfl, rfl, rfl⟩, .nil _⟩
  · rw [heq]
    exact .accepted hs ht hannounced hcancel
      ⟨[], ⟨(List.append_nil _).symm, rfl, rfl, rfl⟩, .nil _⟩

theorem accepted_pair (c : Callback) (s : SystemState) :
    Accepted c s [.callback c, .changeState s] := List.infix_rfl

theorem call_steps (m : CSystemStateMachine) (c : Callback) :
    Steps m (.callback c) ((m.log (.callback c)).call c) := by
  cases c with
  | onCounterCAConnected role =>
    exact .advance m (.onCounterCAConnected role) .CPhysicalLayerReady .CPhysicalLayerHandshakeDone
      .PHISYCAL_CONNECTION_ESTABLISHED rfl rfl ⟨role, accepted_pair _ _⟩ nofun
  | onCounterCADisconnected =>
    refine .called (Does.doReset ?_)
    exact ⟨_, ⟨rfl, rfl, rfl, rfl⟩, Caused.one (e := .linkDownNotification) rfl⟩
  | onCounterCSConnected =>
    exact .advance m .onCounterCSConnected .CChannelLayerReady .CChannelLayerHandshakeDone
      .CHANNEL_CONNECTION_ESTABLISHED rfl rfl (accepted_pair _ _) nofun
  | onCounterPMConnected =>
    exact .advance m .onCounterPMConnected .CProfileManagerReady .CAuthenticateState
      .PROFILE_MANAGER_CONNECTION_ESTABLISHED rfl rfl (accepted_pair _ _) nofun
  | onCounterAMConnected =>
    exact .advance m .onCounterAMConnected .CApplicationManagerReady .ApplicationManagerInitDone
      .APPLICATION_MANAGER_CONNECTION_ESTABLISHED rfl rfl (accepted_pair _ _) nofun
  | onSystemControllerWatchdogAvaliable =>
    exact .advance m .onSystemControllerWatchdogAvaliable .InitialState .WatchdogReady
      .SYSTEM_WATCHDOG_STARTED rfl rfl (accepted_pair _ _) nofun
  | onSystemControllerWatchdogNotAvaliable =>
    rw [call]
    split
    · exact .called (Does.refl _ _).doReset
    · exact .called (Does.refl _ _)
  | onAuthenticationOK =>
    rw [call, finishAuthentication]
    split
    · rename_i hstate
      have hstate : m.mSystemState = .CAuthenticateState := hstate
      have hannounced : Trigger.AUTHENTICATION_ESTABLISHED.Announced m.authOn
          [.callback .onAuthenticationOK, .changeState .CIdleState] := .inr (accepted_pair _ _)
      exact .accepted (by rw [hstate]; rfl) rfl hannounced nofun ((Does.refl _ _).perform rfl)
    · exact .called (Does.refl _ _)
  | onAuthenticationCanceled =>
    exact .advance m .onAuthenticationCanceled .CAuthenticateState .CIdleState
      .AUTHENTICATION_CANCELED rfl rfl trivial fun _ => rfl
  | onAuthenticationError => exact .called (Does.refl _ _).doReset
  | onConnectivityAgentAvailable =>
    exact .advance m .onConnectivityAgentAvailable .ApplicationManagerInitDone .CPhysicalLayerReady
      .CONNECTIVITY_AGENT_STARTED rfl rfl trivial nofun
  | onChannelSupervisorAvailable =>
    exact .advance m .onChannelSupervisorAvailable .CPhysicalLayerHandshakeDone .CChannelLayerReady
      .CHANNEL_SUPERVISOR_STARTED rfl rfl trivial nofun
  | onProfileManagerAvailable =>
    exact .advance m .onProfileManagerAvailable .CChannelLayerHandshakeDone .CProfileManagerReady
      .PROFILE_MANAGER_STARTED rfl rfl trivial nofun
  | onAppManAvailable =>
    exact .advance m .onAppManAvailable .WatchdogReady .CApplicationManagerReady
      .APPLICATION_MANAGER_STARTED rfl rfl trivial nofun
  | _ => exact .called (Does.refl _ _)

theorem startAuthentication_does (m : CSystemStateMachine) (hon : m.authOn = true) :
    Does (some .PROFILE_MANAGER_CONNECTION_ESTABLISHED) m m.startAuthentication := by
  rw [startAuthentication]
  split
  · dsimp only
    split
    · exact ⟨_, (performs_perform m _).trans (performs_perform _ _),
        (Caused.one (e := .launch .AUTHENTICATION_APP) rfl).cons rfl⟩
    · exact (Does.refl _ m).perform rfl
  · exact .refl _ m

theorem Does.of_quiet (h : Does none m m') : Does t m m' := by
  obtain ⟨es, hes, hcaused⟩ := h
  exact ⟨es, hes, hcaused.of_quiet⟩

theorem Does.after (h : Does none m m') (h' : Does t m' m'') : Does t m m'' := by
  obtain ⟨es, hes, hcaused⟩ := h
  obtain ⟨es', hes', hcaused'⟩ := h'
  refine ⟨_, hes.trans hes', ?_⟩
  intro e t' he
  rw [List.count_append, Nat.le_zero.mp (hcaused e t' he), Nat.zero_add]
  exact hcaused' e t' he

theorem handleTrigger_steps (m : CSystemStateMachine) {t : Trigger} {rest : List Trigger}
    (h : m.mQueue = t :: rest) :
    Steps m .receiveTrigger (({ m with mQueue := rest }.log (.trigger t)).handleTrigger t) := by
  cases t with
  | INITIALIZED => exact .handled h (launch_does _ _ .SYSTEM_CONTROLLER_WATCHDOG)
  | SYSTEM_WATCHDOG_STARTED =>
    exact .handled h ((launch_does _ _ .APPLICATION_MANAGER).perform rfl)
  | APPLICATION_MANAGER_CONNECTION_ESTABLISHED =>
    exact .handled h ((launch_does _ _ .CONNECTIVITY_AGENT).perform rfl)
  | PHISYCAL_CONNECTION_ESTABLISHED =>
    exact .handled h ((launch_does _ _ .CHANNEL_SUPERVISOR).perform rfl)
  | CHANNEL_SUPERVISOR_STARTED => exact .handled h ((Does.refl _ _).perform rfl)
  | CHANNEL_CONNECTION_ESTABLISHED =>
    exact .handled h ((launch_does _ _ .PROFILE_MANAGER).perform rfl)
  | PROFILE_MANAGER_CONNECTION_ESTABLISHED =>
    rw [handleTrigger]
    split
    · rename_i hon
      refine .handled h (Does.perform ?_ rfl)
      exact ((Does.refl _ _).perform rfl).after (startAuthentication_does _ hon)
    · rename_i hoff
      rw [finishAuthentication]
      split
      · rename_i hstate
        exact .skipped h (Bool.eq_false_iff.mpr hoff) hstate ((Does.refl _ _).perform rfl)
      · exact .handled h (.refl _ _)
  | AUTHENTICATION_ESTABLISHED =>
    refine .handled h ?_
    have hunlock : Does (some .AUTHENTICATION_ESTABLISHED) _
        (({ m with mQueue := rest }.log (.trigger .AUTHENTICATION_ESTABLISHED)).perform
          .requestUnlockProfiles) :=
      ⟨_, performs_perform _ _, Caused.one (e := .requestUnlockProfiles) rfl⟩
    obtain ⟨es, hes, hcaused⟩ := (((hunlock.perform (e := .requestAuthenticationDone)
      rfl).perform (e := .requestShutDown) rfl).perform (e := .onAuthenticationStopped)
      rfl).perform (e := .sendStopSignalToProgressBar) rfl
    exact ⟨_, hes.trans ⟨rfl, rfl, rfl, rfl⟩, hcaused.snoc (e := .linkUpNotification) rfl⟩
  | AUTHENTICATION_CANCELED => exact .handled h ((Does.refl _ _).perform rfl).doReset
  | _ => exact .handled h (.refl _ _)

/-- **What a step does.** -/
theorem step_cases {a : Action} (h : m.step a = some m') : Steps m a m' := by
  cases a with
  | callback c => exact Option.some.inj h ▸ call_steps m c
  | receiveTrigger =>
    rw [step] at h
    split at h
    · exact absurd h (by simp)
    · rename_i t rest hqueue
      exact Option.some.inj h ▸ handleTrigger_steps m hqueue

end CSystemStateMachine

/-! ## The invariant -/

def Entry.trigger? : Entry → Option Trigger
  | .trigger t => some t
  | _ => none

/-- The triggers that have been read. -/
def handled (trace : List Entry) : List Trigger := trace.filterMap Entry.trigger?

section Effects

variable (trace : List Entry) (es : List Effect)

theorem visited_effects : visited (trace ++ es.map .effect) = visited trace := by
  have hnil : (es.map Entry.effect).filterMap Entry.state? = [] := by
    rw [List.filterMap_map, List.filterMap_eq_nil_iff]
    exact fun _ _ => rfl
  rw [visited, List.filterMap_append, hnil, List.append_nil, visited]

theorem handled_effects : handled (trace ++ es.map .effect) = handled trace := by
  have hnil : (es.map Entry.effect).filterMap Entry.trigger? = [] := by
    rw [List.filterMap_map, List.filterMap_eq_nil_iff]
    exact fun _ _ => rfl
  rw [handled, List.filterMap_append, hnil, List.append_nil, handled]

theorem count_effects (e : Effect) :
    (trace ++ es.map Entry.effect).count (Entry.effect e) =
      trace.count (Entry.effect e) + es.count e := by
  have hinj : Function.Injective Entry.effect := fun _ _ h => Entry.effect.inj h
  rw [List.count_append, List.count_map_of_injective _ _ hinj]

variable {trace es}

theorem accepted_effects {c : Callback} {s : SystemState}
    (h : Accepted c s (trace ++ es.map .effect)) : Accepted c s trace :=
  pair_infix_append h (by simp)

end Effects

namespace CSystemStateMachine

variable {m m' : CSystemStateMachine}

/-- The triggers sent so far. -/
def sent (m : CSystemStateMachine) : List Trigger := handled m.trace ++ m.mQueue

/-- The authentication was canceled before it was over. -/
abbrev Canceled : List Entry → Prop := Accepted .onAuthenticationCanceled .CIdleState

structure Inv (m : CSystemStateMachine) : Prop where
  states : visited m.trace = m.mSystemState.upTo
  /-- A trigger for each state that was entered. -/
  triggers : ∀ s, m.sent.countP (fun t => t.state? = some s) = m.mSystemState.upTo.count s
  announced : ∀ t ∈ m.sent, t.Announced m.authOn m.trace
  performed : ∀ e t, e.cause = some t → m.trace.count (.effect e) ≤ (handled m.trace).count t
  each : Each (fun pre x => ∀ e t, x = .effect e → e.cause = some t → t.Announced m.authOn pre)
    m.trace
  canceled : Canceled m.trace → .AUTHENTICATION_CANCELED ∈ m.sent
  notCanceled : Each (fun pre x => x = .effect .requestUnlockProfiles → ¬ Canceled pre) m.trace

namespace Inv

theorem init (android authOn : Bool) (gender : Int) :
    Inv (CSystemStateMachine.init android authOn gender) where
  states := rfl
  triggers := by intro s; cases s <;> rfl
  announced := by
    intro t ht
    obtain rfl := List.mem_singleton.mp ht
    trivial
  performed := fun _ _ _ => Nat.zero_le _
  each := each_nil
  canceled := fun h => absurd h (by simp [CSystemStateMachine.init, Accepted])
  notCanceled := each_nil

/-- Of the triggers that tell of one state, one was sent at most. -/
theorem sent_once (h : Inv m) (s : SystemState) :
    m.sent.countP (fun t => t.state? = some s) ≤ 1 :=
  h.triggers s ▸ List.nodup_iff_count.mp m.mSystemState.upTo_nodup s

theorem count_sent (h : Inv m) {t : Trigger} {s : SystemState} (ht : t.state? = some s) :
    m.sent.count t ≤ 1 := by
  refine Nat.le_trans (List.countP_mono_left ?_) (h.sent_once s)
  intro t' _ heq
  exact decide_eq_true (eq_of_beq heq ▸ ht)

/-- The profiles are not unlocked after the authentication was canceled. -/
theorem not_canceled (h : Inv m) (ht : .AUTHENTICATION_ESTABLISHED ∈ m.sent) :
    ¬ Canceled m.trace := by
  intro hcanceled
  have hboth : List.Subperm [Trigger.AUTHENTICATION_ESTABLISHED, .AUTHENTICATION_CANCELED]
      m.sent := by
    refine List.subperm_of_subset (by decide) ?_
    intro t hmem
    rcases List.mem_pair.mp hmem with rfl | rfl
    · exact ht
    · exact h.canceled hcanceled
  have := Nat.le_trans (hboth.countP_le fun t => t.state? = some .CIdleState)
    (h.sent_once .CIdleState)
  exact absurd this (by decide)

/-- A call is noted. -/
theorem called (h : Inv m) (c : Callback) : Inv (m.log (.callback c)) := by
  have hhandled : handled (m.trace ++ [.callback c]) = handled m.trace := by
    simp [handled, Entry.trigger?]
  have hsent : (m.log (.callback c)).sent = m.sent := congrArg (· ++ m.mQueue) hhandled
  refine ⟨?_, ?_, ?_, ?_, ?_, ?_, ?_⟩
  · rw [log, ← h.states]
    simp [visited, Entry.state?]
  · rw [hsent]
    exact h.triggers
  · rw [hsent]
    exact fun t ht => (h.announced t ht).append _
  · intro e t he
    have := h.performed e t he
    simpa [log, hhandled] using this
  · exact h.each.snoc fun _ _ hx => nomatch hx
  · rw [hsent]
    exact fun hc => h.canceled (pair_infix_append hc (by simp))
  · exact h.notCanceled.snoc nofun

/-- The next state is entered, and a trigger is sent that tells of it. -/
theorem enter (h : Inv m) {s : SystemState} {t : Trigger} (hs : s.upTo = m.mSystemState.upTo ++ [s])
    (ht : t.state? = some s) (hannounced : t.Announced m.authOn (m.trace ++ [.changeState s]))
    (hcancel : [.callback .onAuthenticationCanceled] <:+ m.trace → t = .AUTHENTICATION_CANCELED) :
    Inv ((m.changeState s).sendTrigger t) := by
  have hhandled : handled (m.trace ++ [.changeState s]) = handled m.trace := by
    simp [handled, Entry.trigger?]
  have hsent : ((m.changeState s).sendTrigger t).sent = m.sent ++ [t] := by
    rw [sent, sent, List.append_assoc, ← hhandled]
    rfl
  refine ⟨?_, ?_, ?_, ?_, ?_, ?_, ?_⟩
  · rw [show ((m.changeState s).sendTrigger t).mSystemState = s from rfl, hs, ← h.states]
    simp [visited, sendTrigger, changeState, log, Entry.state?]
  · intro s'
    rw [hsent, show ((m.changeState s).sendTrigger t).mSystemState = s from rfl, hs,
      List.countP_append, List.count_append, h.triggers s', List.countP_singleton, ht,
      List.count_singleton]
    simp
  · rw [hsent]
    intro t' hmem
    rcases List.mem_append.mp hmem with hmem | hmem
    · exact (h.announced t' hmem).append _
    · exact List.mem_singleton.mp hmem ▸ hannounced
  · intro e t' he
    rw [show ((m.changeState s).sendTrigger t).trace = m.trace ++ [.changeState s] from rfl,
      hhandled]
    simpa using h.performed e t' he
  · exact h.each.snoc fun _ _ hx => nomatch hx
  · rw [hsent]
    intro hc
    rcases pair_infix_snoc hc with hc | ⟨hlast, -⟩
    · exact List.mem_append_left _ (h.canceled hc)
    · exact List.mem_append_right _ (List.mem_singleton.mpr (hcancel hlast).symm)
  · exact h.notCanceled.snoc nofun

/-- A trigger is read. What it brings about has not been done as often as it was read. -/
theorem read (h : Inv m) {t : Trigger} {rest : List Trigger} (hqueue : m.mQueue = t :: rest) :
    Inv ({ m with mQueue := rest }.log (.trigger t)) ∧ ∀ e : Effect, e.cause = some t →
      (m.trace ++ [Entry.trigger t]).count (Entry.effect e) <
        (handled (m.trace ++ [.trigger t])).count t := by
  have hhandled : handled (m.trace ++ [.trigger t]) = handled m.trace ++ [t] := by
    simp [handled, Entry.trigger?]
  have hsent : ({ m with mQueue := rest }.log (.trigger t)).sent = m.sent := by
    rw [sent, log, hhandled, List.append_assoc, sent, hqueue]
    rfl
  have hcount : ∀ e : Effect,
      (m.trace ++ [Entry.trigger t]).count (Entry.effect e) = m.trace.count (Entry.effect e) := by
    simp
  refine ⟨⟨?_, ?_, ?_, ?_, ?_, ?_, ?_⟩, ?_⟩
  · rw [log, ← h.states]
    simp [visited, Entry.state?]
  · rw [hsent]
    exact h.triggers
  · rw [hsent]
    exact fun t' ht' => (h.announced t' ht').append _
  · intro e t' he
    refine Nat.le_trans (Nat.le_of_eq (hcount e)) (Nat.le_trans (h.performed e t' he) ?_)
    rw [log, hhandled, List.count_append]
    exact Nat.le_add_right _ _
  · exact h.each.snoc fun _ _ hx => nomatch hx
  · rw [hsent]
    exact fun hc => h.canceled (pair_infix_append hc (by simp))
  · exact h.notCanceled.snoc nofun
  · intro e he
    have := h.performed e t he
    rw [hcount, hhandled, List.count_append, List.count_singleton_self]
    omega

/-- What a trigger brings about is done, once it has been read. -/
theorem does (h : Inv m) {t : Option Trigger} (hdoes : Does t m m')
    (ht : ∀ t', t = some t' → t' ∈ m.sent ∧
      ∀ e, e.cause = some t' → m.trace.count (.effect e) < (handled m.trace).count t') :
    Inv m' := by
  obtain ⟨es, hes, hcaused⟩ := hdoes
  have hsent : m'.sent = m.sent := by rw [sent, sent, hes.trace, handled_effects, hes.queue]
  -- where an effect stands among those that are added, its trigger has been announced
  have hcause : ∀ {pre x post e t'}, es.map Entry.effect = pre ++ x :: post → x = .effect e →
      e.cause = some t' → t' ∈ m.sent := by
    rintro pre x post e t' heq rfl he
    have hmem : Entry.effect e ∈ es.map Entry.effect :=
      heq ▸ List.mem_append_right _ List.mem_cons_self
    obtain ⟨e', hmem', heq'⟩ := List.mem_map.mp hmem
    obtain rfl := Entry.effect.inj heq'
    exact (ht t' (hcaused.mem hmem' he).symm).1
  refine ⟨?_, ?_, ?_, ?_, ?_, ?_, ?_⟩
  · rw [hes.state, hes.trace, visited_effects, h.states]
  · rw [hsent, hes.state]
    exact h.triggers
  · rw [hsent, hes.authOn, hes.trace]
    exact fun t' ht' => (h.announced t' ht').append _
  · intro e t' he
    rw [hes.trace, count_effects, handled_effects]
    have hle := hcaused e t' he
    split at hle
    · rename_i heq
      have := (ht t' heq.symm).2 e he
      omega
    · have := h.performed e t' he
      omega
  · rw [hes.trace, hes.authOn]
    refine h.each.append ?_
    intro pre x post heq e t' hx he
    exact (h.announced t' (hcause heq hx he)).append _
  · rw [hsent, hes.trace]
    exact fun hc => h.canceled (accepted_effects hc)
  · rw [hes.trace]
    refine h.notCanceled.append ?_
    intro pre x post heq hx hc
    refine h.not_canceled (hcause heq hx rfl) ?_
    obtain ⟨es', es'', -, rfl, -⟩ := List.map_eq_append_iff.mp heq
    exact accepted_effects hc

/-- **The step lemma.** -/
theorem step (h : Inv m) {a : Action} (hs : m.step a = some m') : Inv m' := by
  have hquiet : ∀ {P : Trigger → Prop} t', none = some t' → P t' := nofun
  cases step_cases hs with
  | called hdoes => exact (h.called _).does hdoes hquiet
  | @accepted c s t _ hstate ht hannounced hcancel hdoes =>
    refine ((h.called c).enter hstate ht ?_ ?_).does hdoes hquiet
    · have := hannounced.prepend m.trace
      rwa [List.append_cons] at this
    · intro hlast
      refine hcancel ?_
      have := List.singleton_suffix_append_singleton_iff.mp hlast
      exact (Entry.callback.inj this).symm
  | @handled t rest _ hqueue hdoes =>
    obtain ⟨hread, hroom⟩ := h.read hqueue
    refine hread.does hdoes ?_
    rintro t' ⟨⟩
    refine ⟨?_, hroom⟩
    exact List.mem_append_left _ (by simp [handled, log, Entry.trigger?])
  | @skipped t rest _ hqueue hoff hstate hdoes =>
    obtain ⟨hread, -⟩ := h.read hqueue
    refine (hread.enter (t := .AUTHENTICATION_ESTABLISHED) ?_ rfl (Or.inl hoff) ?_).does hdoes
      hquiet
    · rw [log, hstate]
      rfl
    · intro hlast
      exact nomatch List.singleton_suffix_append_singleton_iff.mp hlast

/-- Every state that a run reaches meets the invariant. -/
theorem of_run {android authOn : Bool} {gender : Int} {as : List Action}
    (hr : run CSystemStateMachine.step (CSystemStateMachine.init android authOn gender) as
      = some m) : Inv m :=
  run_invariant (P := fun _ _ => True) (fun _ _ _ h _ hs => h.step hs)
    (.init android authOn gender) (along_of_mem fun _ _ _ => trivial) hr

/-- An effect is had once at most, as its trigger was sent once at most. -/
theorem count_le (h : Inv m) {e : Effect} {t : Trigger} {s : SystemState} (he : e.cause = some t)
    (ht : t.state? = some s) : m.trace.count (Entry.effect e) ≤ 1 :=
  calc m.trace.count (Entry.effect e)
      ≤ (handled m.trace).count t := h.performed e t he
    _ ≤ m.sent.count t := (List.sublist_append_left _ _).count_le t
    _ ≤ 1 := h.count_sent ht

end Inv

theorem authOn_step {a : Action} (hs : m.step a = some m') : m'.authOn = m.authOn := by
  cases step_cases hs with
  | called hdoes => exact hdoes.choose_spec.1.authOn
  | accepted _ _ _ _ hdoes => exact hdoes.choose_spec.1.authOn
  | handled _ hdoes => exact hdoes.choose_spec.1.authOn
  | skipped _ _ _ hdoes => exact hdoes.choose_spec.1.authOn

theorem authOn_run {android authOn : Bool} {gender : Int} {as : List Action}
    (hr : run step (init android authOn gender) as = some m) : m.authOn = authOn :=
  run_invariant (P := fun _ _ => True) (I := fun n => n.authOn = authOn)
    (fun _ _ _ h _ hs => (authOn_step hs).trans h) rfl (along_of_mem fun _ _ _ => trivial) hr

/-- **The system starts in order**, whatever is called and whenever, if a cancellation is one that
ends the authentication. -/
theorem starts_in_order (android authOn : Bool) (gender : Int) (as : List Action)
    (m : CSystemStateMachine) (hr : run step (init android authOn gender) as = some m) :
    StartsInOrder authOn Canceled m where
  chain := (Inv.of_run hr).states ▸ m.mSystemState.upTo_prefix
  present := (Inv.of_run hr).states ▸ m.mSystemState.upTo_getLast?
  launched := by
    intro c
    obtain ⟨s, hs⟩ : ∃ s, c.cause.state? = some s := by cases c <;> exact ⟨_, rfl⟩
    exact (Inv.of_run hr).count_le rfl hs
  handshake := fun c => (Inv.of_run hr).each.imp fun pre x h hx =>
    handshakeBelow_of_announced (h _ _ hx rfl)
  unlocked := (Inv.of_run hr).count_le (e := .requestUnlockProfiles) rfl rfl
  authenticated := (Inv.of_run hr).each.imp fun pre x h hx => authOn_run hr ▸ h _ _ hx rfl
  notCanceled := (Inv.of_run hr).notCanceled

/-- Each component comes and meets its counterpart, up to the authentication. -/
def wholeChain : List Action :=
  [.receiveTrigger, .callback .onSystemControllerWatchdogAvaliable, .receiveTrigger,
    .callback .onAppManAvailable, .receiveTrigger, .callback .onCounterAMConnected,
    .receiveTrigger, .callback .onConnectivityAgentAvailable, .receiveTrigger,
    .callback (.onCounterCAConnected 1), .receiveTrigger,
    .callback .onChannelSupervisorAvailable, .receiveTrigger, .callback .onCounterCSConnected,
    .receiveTrigger, .callback .onProfileManagerAvailable, .receiveTrigger,
    .callback .onCounterPMConnected, .receiveTrigger]

theorem starts_in_order_wholeChain :
    ∃ m, run step (init false true 0) (wholeChain ++ [.callback .onAuthenticationOK,
        .receiveTrigger]) = some m ∧ m.getLinkState = true ∧ StartsInOrder true Canceled m :=
  ⟨_, rfl, rfl, starts_in_order false true 0 (wholeChain ++ [.callback .onAuthenticationOK,
    .receiveTrigger]) _ rfl⟩

/-- The authentication succeeds, is called off before its trigger is read, and the profiles are
unlocked. -/
theorem unlocks_after_late_cancellation :
    ¬ ∀ (android authOn : Bool) (gender : Int) (as : List Action) (m : CSystemStateMachine),
      run step (init android authOn gender) as = some m → StartsInOrder authOn CancelCalled m := by
  intro h
  obtain ⟨m, hr, hcalled, hunlock⟩ : ∃ m, run step (init false true 0) (wholeChain ++
      [.callback .onAuthenticationOK, .callback .onAuthenticationCanceled, .receiveTrigger])
        = some m ∧ CancelCalled (m.trace.take 52) ∧
      m.trace = m.trace.take 52 ++ .effect .requestUnlockProfiles :: m.trace.drop 53 :=
    ⟨_, rfl, List.mem_iff_getElem?.mpr ⟨50, rfl⟩, rfl⟩
  exact (h _ _ _ _ m hr).notCanceled _ _ _ hunlock rfl hcalled

end CSystemStateMachine

end IviLink.SystemController
