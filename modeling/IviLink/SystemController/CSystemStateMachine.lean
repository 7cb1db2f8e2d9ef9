import IviLink.Lib.Journal

/-!
# The start-up of the system

`CSystemStateMachine` starts one component after the other. A component that is there, or
has met its counterpart on the other device, calls back; the state that waits for this call
is left for the next one and a trigger is put into the queue, and the thread of the machine
reads the triggers and calls the state that the machine is in by then. A call that the
present state does not wait for does nothing.

Callbacks and triggers are handled one at a time. `doReset` is taken to return, as
it does under Android. `trace` is a ghost: all that happened, in its order.
-/

namespace IviLink.SystemController

/-- `Components`, less those that the state machine does not launch. -/
inductive Component
  | SYSTEM_CONTROLLER_WATCHDOG
  | APPLICATION_MANAGER
  | CONNECTIVITY_AGENT
  | CHANNEL_SUPERVISOR
  | PROFILE_MANAGER
  | AUTHENTICATION_APP
  deriving DecidableEq, Repr

/-- The classes derived from `CSystemState`. -/
inductive SystemState
  | InitialState
  | WatchdogReady
  | CApplicationManagerReady
  | ApplicationManagerInitDone
  | CPhysicalLayerReady
  | CPhysicalLayerHandshakeDone
  | CChannelLayerReady
  | CChannelLayerHandshakeDone
  | CProfileManagerReady
  | CAuthenticateState
  | CIdleState
  deriving DecidableEq, Repr

/-- `eSSMTriggers` -/
inductive Trigger
  | EMPTY_TRIGGER_QUEUE
  | INITIALIZED
  | SYSTEM_WATCHDOG_STARTED
  | CONNECTIVITY_AGENT_STARTED
  | PHISYCAL_CONNECTION_ESTABLISHED
  | PHISYCAL_CONNECTION_LOST
  | CHANNEL_SUPERVISOR_STARTED
  | CHANNEL_CONNECTION_ESTABLISHED
  | CHANNEL_CONNECTION_LOST
  | AUTHENTICATION_ESTABLISHED
  | AUTHENTICATION_CANCELED
  | PROFILE_MANAGER_STARTED
  | PROFILE_MANAGER_CONNECTION_ESTABLISHED
  | APPLICATION_MANAGER_STARTED
  | APPLICATION_MANAGER_CONNECTION_ESTABLISHED
  | AUTHENTICATION_STARTED
  | AUTHENTICATION_STOPPED
  deriving DecidableEq, Repr

/-- What the proxies of the components call. -/
inductive Callback
  | onCounterCAConnected (role : UInt8)
  | onCounterCADisconnected
  | onCounterCSConnected
  | onCounterCSDisconnected
  | onCounterPMConnected
  | onCounterPMDisconnected
  | onCounterAMConnected
  | onCounterAMDisconnected
  | onSystemControllerWatchdogAvaliable
  | onSystemControllerWatchdogNotAvaliable
  | onAuthenticationOK
  | onAuthenticationNOK
  | onAuthenticationCanceled
  | onAuthenticationError
  | onConnectivityAgentAvailable
  | onConnectivityAgentNotAvailable
  | onChannelSupervisorAvailable
  | onChannelSupervisorNotAvailable
  | onProfileManagerAvailable
  | onProfileManagerNotAvailable
  | onAppManAvailable
  | onAppManNotAvailable
  | onAuthenticationAppAvailable
  | onAuthenticationAppNotAvailable
  deriving DecidableEq, Repr

/-- What the machine asks of others. -/
inductive Effect
  /-- `CComponentLauncher` starts the process, under Android `makeRequest`. -/
  | launch (c : Component)
  /-- The proxy of the component waits for its connection. -/
  | connect (c : Component)
  | disconnectAuthenticationApp
  | onApplicationLayerStarted
  | onPhysicalLayerStarted
  | onChannelLayerStarted
  | onProfileLayerStarted
  | onAuthenticationStarted
  | onAuthenticationStopped
  | sendRole (isMaster : Bool)
  | requestUnlockAuthenticationProfile
  | requestUnlockProfiles
  | requestAuthenticationDone
  /-- `AuthenticationAppMsgProxy::requestShutDown` -/
  | requestShutDown
  /-- `sendStopSignalToProgressBar`, under Android `makeRequest(eIdle)`. -/
  | sendStopSignalToProgressBar
  | linkUpNotification
  | linkDownNotification
  /-- `hardReset(true)`, under Android `makeRequest(eReset)`. -/
  | reset
  deriving DecidableEq, Repr

inductive Entry
  | callback (c : Callback)
  | trigger (t : Trigger)
  | changeState (s : SystemState)
  | effect (e : Effect)
  deriving DecidableEq, Repr

structure CSystemStateMachine where
  /-- The build is one for Android. -/
  android : Bool
  authOn : Bool
  mSystemGender : Int
  mSystemState : SystemState
  linkIsUp : Bool
  isResetInProgress : Bool
  /-- `mQueue` of the trigger queue -/
  mQueue : List Trigger
  trace : List Entry
  deriving Repr

namespace CSystemStateMachine

/-- The state after `init`. `mSystemGender` has no value yet. -/
def init (android authOn : Bool) (mSystemGender : Int) : CSystemStateMachine where
  android := android
  authOn := authOn
  mSystemGender := mSystemGender
  mSystemState := .InitialState
  linkIsUp := false
  isResetInProgress := false
  mQueue := [.INITIALIZED]
  trace := []

def log (m : CSystemStateMachine) (x : Entry) : CSystemStateMachine :=
  { m with trace := m.trace ++ [x] }

def perform (m : CSystemStateMachine) (e : Effect) : CSystemStateMachine := m.log (.effect e)

def sendTrigger (m : CSystemStateMachine) (t : Trigger) : CSystemStateMachine :=
  { m with mQueue := m.mQueue ++ [t] }

def changeState (m : CSystemStateMachine) (s : SystemState) : CSystemStateMachine :=
  { m with mSystemState := s }.log (.changeState s)

def getLinkState (m : CSystemStateMachine) : Bool := m.linkIsUp

def doReset (m : CSystemStateMachine) : CSystemStateMachine :=
  if m.isResetInProgress then m else { m with isResetInProgress := true }.perform .reset

def unlockProfiles (m : CSystemStateMachine) : CSystemStateMachine :=
  (m.perform .requestUnlockProfiles).perform .requestAuthenticationDone

/-! ## The states

A function that a state does not have does nothing there. -/

/-- The state `source` starts the component `c`. -/
def launch (m : CSystemStateMachine) (source : SystemState) (c : Component) :
    CSystemStateMachine :=
  if m.mSystemState = source then
    if m.android then (m.perform (.connect c)).perform (.launch c)
    else (m.perform (.launch c)).perform (.connect c)
  else m

/-- `InitialState::launchSystemWatchdog` -/
def launchSystemWatchdog (m : CSystemStateMachine) : CSystemStateMachine :=
  m.launch .InitialState .SYSTEM_CONTROLLER_WATCHDOG

/-- `WatchdogReady::launchApplicationManager` -/
def launchApplicationManager (m : CSystemStateMachine) : CSystemStateMachine :=
  m.launch .WatchdogReady .APPLICATION_MANAGER

/-- `ApplicationManagerInitDone::launchPhysicalLayer` -/
def launchPhysicalLayer (m : CSystemStateMachine) : CSystemStateMachine :=
  m.launch .ApplicationManagerInitDone .CONNECTIVITY_AGENT

/-- `CPhysicalLayerHandshakeDone::launchChannelLayer` -/
def launchChannelLayer (m : CSystemStateMachine) : CSystemStateMachine :=
  m.launch .CPhysicalLayerHandshakeDone .CHANNEL_SUPERVISOR

/-- `CChannelLayerHandshakeDone::launchProfileManager` -/
def launchProfileManager (m : CSystemStateMachine) : CSystemStateMachine :=
  m.launch .CChannelLayerHandshakeDone .PROFILE_MANAGER

/-- `CAuthenticateState::startAuthentication` -/
def startAuthentication (m : CSystemStateMachine) : CSystemStateMachine :=
  if m.mSystemState = .CAuthenticateState then
    if m.authOn then
      let m := m.perform (.connect .AUTHENTICATION_APP)
      if m.mSystemGender = 1 then m.perform (.launch .AUTHENTICATION_APP) else m
    else m.changeState .CIdleState
  else m

/-- `CAuthenticateState::finishAuthentication` -/
def finishAuthentication (m : CSystemStateMachine) : CSystemStateMachine :=
  if m.mSystemState = .CAuthenticateState then
    ((m.changeState .CIdleState).sendTrigger .AUTHENTICATION_ESTABLISHED).perform
      .disconnectAuthenticationApp
  else m

/-- The state `source` is left for `target`, and `t` tells of it. -/
def advance (m : CSystemStateMachine) (source target : SystemState) (t : Trigger) :
    CSystemStateMachine :=
  if m.mSystemState = source then (m.changeState target).sendTrigger t else m

/-- `CAuthenticateState::cancelAuthentication` -/
def cancelAuthentication (m : CSystemStateMachine) : CSystemStateMachine :=
  m.advance .CAuthenticateState .CIdleState .AUTHENTICATION_CANCELED

/-- `InitialState::onSystemWatchdogAvaliable` -/
def onSystemWatchdogAvaliable (m : CSystemStateMachine) : CSystemStateMachine :=
  m.advance .InitialState .WatchdogReady .SYSTEM_WATCHDOG_STARTED

/-- `WatchdogReady::onApplicationManagerAvailable` -/
def onApplicationManagerAvailable (m : CSystemStateMachine) : CSystemStateMachine :=
  m.advance .WatchdogReady .CApplicationManagerReady .APPLICATION_MANAGER_STARTED

/-- `CApplicationManagerReady::onApplicationManagerHandshakeDone` -/
def onApplicationManagerHandshakeDone (m : CSystemStateMachine) : CSystemStateMachine :=
  m.advance .CApplicationManagerReady .ApplicationManagerInitDone
    .APPLICATION_MANAGER_CONNECTION_ESTABLISHED

/-- `ApplicationManagerInitDone::onConnectivityAgentAvailable` -/
def onConnectivityAgentAvailable (m : CSystemStateMachine) : CSystemStateMachine :=
  m.advance .ApplicationManagerInitDone .CPhysicalLayerReady .CONNECTIVITY_AGENT_STARTED

/-- `CPhysicalLayerReady::onConnectivityAgentHandshakeDone` -/
def onConnectivityAgentHandshakeDone (m : CSystemStateMachine) : CSystemStateMachine :=
  m.advance .CPhysicalLayerReady .CPhysicalLayerHandshakeDone .PHISYCAL_CONNECTION_ESTABLISHED

/-- `CPhysicalLayerHandshakeDone::onChannelSupervisorAvailable` -/
def onChannelSupervisorAvailable (m : CSystemStateMachine) : CSystemStateMachine :=
  m.advance .CPhysicalLayerHandshakeDone .CChannelLayerReady .CHANNEL_SUPERVISOR_STARTED

/-- `CChannelLayerReady::onChannelSupervisorHandshakeDone` -/
def onChannelSupervisorHandshakeDone (m : CSystemStateMachine) : CSystemStateMachine :=
  m.advance .CChannelLayerReady .CChannelLayerHandshakeDone .CHANNEL_CONNECTION_ESTABLISHED

/-- `CChannelLayerHandshakeDone::onProfileManagerAvailable` -/
def onProfileManagerAvailable (m : CSystemStateMachine) : CSystemStateMachine :=
  m.advance .CChannelLayerHandshakeDone .CProfileManagerReady .PROFILE_MANAGER_STARTED

/-- `CProfileManagerReady::onProfileManagerHandshakeDone` -/
def onProfileManagerHandshakeDone (m : CSystemStateMachine) : CSystemStateMachine :=
  m.advance .CProfileManagerReady .CAuthenticateState .PROFILE_MANAGER_CONNECTION_ESTABLISHED

/-! ## The machine -/

/-- The callbacks of the proxies. -/
def call (m : CSystemStateMachine) : Callback → CSystemStateMachine
  | .onCounterCAConnected role =>
    { m with mSystemGender := role.toNat }.onConnectivityAgentHandshakeDone
  | .onCounterCADisconnected =>
    ({ m with linkIsUp := false }.perform .linkDownNotification).doReset
  | .onCounterCSConnected => m.onChannelSupervisorHandshakeDone
  | .onCounterPMConnected => m.onProfileManagerHandshakeDone
  | .onCounterAMConnected => m.onApplicationManagerHandshakeDone
  | .onSystemControllerWatchdogAvaliable => m.onSystemWatchdogAvaliable
  | .onSystemControllerWatchdogNotAvaliable => if m.android then m.doReset else m
  | .onAuthenticationOK => m.finishAuthentication
  | .onAuthenticationCanceled => m.cancelAuthentication
  | .onAuthenticationError => m.doReset
  | .onConnectivityAgentAvailable => m.onConnectivityAgentAvailable
  | .onChannelSupervisorAvailable => m.onChannelSupervisorAvailable
  | .onProfileManagerAvailable => m.onProfileManagerAvailable
  | .onAppManAvailable => m.onApplicationManagerAvailable
  | .onCounterCSDisconnected => m
  | .onCounterPMDisconnected => m
  | .onCounterAMDisconnected => m
  | .onAuthenticationNOK => m
  | .onConnectivityAgentNotAvailable => m
  | .onChannelSupervisorNotAvailable => m
  | .onProfileManagerNotAvailable => m
  | .onAppManNotAvailable => m
  | .onAuthenticationAppAvailable => m
  | .onAuthenticationAppNotAvailable => m

/-- The body of the loop of `startTriggerHandler`. -/
def handleTrigger (m : CSystemStateMachine) : Trigger → CSystemStateMachine
  | .EMPTY_TRIGGER_QUEUE => m
  | .INITIALIZED => m.launchSystemWatchdog
  | .SYSTEM_WATCHDOG_STARTED => m.launchApplicationManager.perform .onApplicationLayerStarted
  | .APPLICATION_MANAGER_STARTED => m
  | .APPLICATION_MANAGER_CONNECTION_ESTABLISHED =>
    m.launchPhysicalLayer.perform .onPhysicalLayerStarted
  | .CONNECTIVITY_AGENT_STARTED => m
  | .PHISYCAL_CONNECTION_ESTABLISHED => m.launchChannelLayer.perform .onChannelLayerStarted
  | .PHISYCAL_CONNECTION_LOST => m
  | .CHANNEL_SUPERVISOR_STARTED => m.perform (.sendRole (m.mSystemGender = 1))
  | .CHANNEL_CONNECTION_ESTABLISHED => m.launchProfileManager.perform .onProfileLayerStarted
  | .CHANNEL_CONNECTION_LOST => m
  | .PROFILE_MANAGER_STARTED => m
  | .PROFILE_MANAGER_CONNECTION_ESTABLISHED =>
    if m.authOn then
      (m.perform .requestUnlockAuthenticationProfile).startAuthentication.perform
        .onAuthenticationStarted
    else m.finishAuthentication
  | .AUTHENTICATION_ESTABLISHED =>
    let m := m.unlockProfiles
    let m := ((m.perform .requestShutDown).perform .onAuthenticationStopped).perform
      .sendStopSignalToProgressBar
    { m with linkIsUp := true }.perform .linkUpNotification
  | .AUTHENTICATION_CANCELED => (m.perform .requestShutDown).doReset
  -- the `switch` has no case for these
  | .AUTHENTICATION_STARTED => m
  | .AUTHENTICATION_STOPPED => m

inductive Action
  | callback (c : Callback)
  | receiveTrigger
  deriving DecidableEq, Repr

/-- `receiveTrigger` waits for as long as the queue is empty. -/
def step (m : CSystemStateMachine) : Action → Option CSystemStateMachine
  | .callback c => some ((m.log (.callback c)).call c)
  | .receiveTrigger =>
    match m.mQueue with
    | [] => none
    | t :: rest => some (({ m with mQueue := rest }.log (.trigger t)).handleTrigger t)

end CSystemStateMachine

/-! ## What a start-up is -/

/-- The states in the order of the start-up. -/
def SystemState.chain : List SystemState :=
  [.InitialState, .WatchdogReady, .CApplicationManagerReady, .ApplicationManagerInitDone,
    .CPhysicalLayerReady, .CPhysicalLayerHandshakeDone, .CChannelLayerReady,
    .CChannelLayerHandshakeDone, .CProfileManagerReady, .CAuthenticateState, .CIdleState]

def Entry.state? : Entry → Option SystemState
  | .changeState s => some s
  | _ => none

/-- The states that the machine has been in. -/
def visited (trace : List Entry) : List SystemState :=
  .InitialState :: trace.filterMap Entry.state?

/-- The call came to the state that waits for it, which was left for `s`. -/
def Accepted (c : Callback) (s : SystemState) (trace : List Entry) : Prop :=
  [.callback c, .changeState s] <:+: trace

/-- The layer below the component has done its handshake. The watchdog, which has none, is
there; nothing is below it. -/
def Component.HandshakeBelow : Component → List Entry → Prop
  | .SYSTEM_CONTROLLER_WATCHDOG => fun _ => True
  | .APPLICATION_MANAGER => Accepted .onSystemControllerWatchdogAvaliable .WatchdogReady
  | .CONNECTIVITY_AGENT => Accepted .onCounterAMConnected .ApplicationManagerInitDone
  | .CHANNEL_SUPERVISOR => fun trace =>
    ∃ role, Accepted (.onCounterCAConnected role) .CPhysicalLayerHandshakeDone trace
  | .PROFILE_MANAGER => Accepted .onCounterCSConnected .CChannelLayerHandshakeDone
  | .AUTHENTICATION_APP => Accepted .onCounterPMConnected .CAuthenticateState

/-- `Canceled` says which traces have a cancellation. -/
structure StartsInOrder (authOn : Bool) (Canceled : List Entry → Prop)
    (m : CSystemStateMachine) : Prop where
  chain : visited m.trace <+: SystemState.chain
  present : (visited m.trace).getLast? = some m.mSystemState
  /-- Each layer is launched once at most. -/
  launched : ∀ c, m.trace.count (.effect (.launch c)) ≤ 1
  handshake : ∀ c, Lib.Each (fun pre x => x = .effect (.launch c) → c.HandshakeBelow pre) m.trace
  /-- The profiles are unlocked once at most. -/
  unlocked : m.trace.count (.effect .requestUnlockProfiles) ≤ 1
  authenticated : Lib.Each (fun pre x => x = .effect .requestUnlockProfiles →
    authOn = false ∨ Accepted .onAuthenticationOK .CIdleState pre) m.trace
  notCanceled : Lib.Each (fun pre x => x = .effect .requestUnlockProfiles → ¬ Canceled pre) m.trace

/-- A cancellation was called for, in whatever state. -/
def CancelCalled (trace : List Entry) : Prop := .callback .onAuthenticationCanceled ∈ trace

/-! ## What the state of the link is -/

def Entry.isCounterCA : Entry → Bool
  | .callback (.onCounterCAConnected _) => true
  | .callback .onCounterCADisconnected => true
  | _ => false

/-- The counterpart has gone, and has not come back since. -/
def Down (trace : List Entry) : Prop :=
  (trace.filter Entry.isCounterCA).getLast? = some (.callback .onCounterCADisconnected)

instance (trace : List Entry) : Decidable (Down trace) := inferInstanceAs (Decidable (_ = _))

def Entry.isNotification : Entry → Bool
  | .effect .linkUpNotification => true
  | .effect .linkDownNotification => true
  | _ => false

/-- The last that the application manager was told of the link. -/
def lastNotification (trace : List Entry) : Option Entry :=
  (trace.filter Entry.isNotification).getLast?

/-- The state of the link is what it is said to be. -/
structure Truthful (m : CSystemStateMachine) : Prop where
  down : Down m.trace → m.getLinkState = false
  /-- Nothing that belongs to a link is done while the counterpart is gone. -/
  quiet : Lib.Each (fun pre x => x = .effect .linkUpNotification ∨
    x = .effect .requestUnlockProfiles → ¬ Down pre) m.trace
  notified : m.getLinkState = true ↔
    lastNotification m.trace = some (.effect .linkUpNotification)

/-- Where the success of the authentication is taken up, the counterpart is there. -/
def InTime (m : CSystemStateMachine) : CSystemStateMachine.Action → Prop
  | .receiveTrigger => m.mQueue.head? = some .AUTHENTICATION_ESTABLISHED → ¬ Down m.trace
  | .callback _ => True

end IviLink.SystemController
