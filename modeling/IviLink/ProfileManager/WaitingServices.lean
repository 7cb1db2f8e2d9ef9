import IviLink.ProfileManager.Complements
import IviLink.ProfileManager.Roles

/-!
# Which waiting service is started

Services that wait for the other device are listed by the application manager of each
side. The slave sends the pairs of its services to the master; the master takes, of its
own services and of these, the one with the least priority number, 0 standing for a
service that is not started, and asks its application manager to load it, but not
before the authentication is done.

The two managers come here with the numbers that tell them apart, and have yet to look
at them; how they come by them is in `Roles`. What happens to a manager is put into the
queue of its event thread, which handles one event after the other. A null pointer that
is used, or an access outside of an array, leaves no next step.
-/

namespace IviLink.ProfileManager.WaitingServices

open IviLink.L0 (Side)
open IviLink.Lib
open Complements (PMP_FRAME_SIZE INT_MAX hton32 stringToBuffer stringInBufSize readUInt32
  bufferToString)

/-- The string in `BaseUid`. -/
abbrev Uid := Complements.Uid

/-! ## The list in bytes -/

/-- `size` of the frame, which is of type `UInt32`. -/
def frameSize (services : List Uid) : UInt32 :=
  services.foldl (fun size it => size + UInt32.ofNat (stringInBufSize it))
    (UInt32.ofNat (PMP_FRAME_SIZE + 4))

/-- What is written to `data` of the frame. -/
def listData (services : List Uid) : List UInt8 :=
  le32 (hton32 (UInt32.ofNat services.length)) ++ services.flatMap stringToBuffer

/-- `PmpSessionProtocol::sendWaitingServicesList`: the data of the frame. The array has `size`
bytes, and has to have room for what is written. -/
def sendWaitingServicesList (services : List Uid) : Option (List UInt8) :=
  if PMP_FRAME_SIZE + (listData services).length ≤ (frameSize services).toNat then
    some (listData services)
  else none

/-- The loop over the entries; `rest` is what is left from `frame->data + pos` on. -/
def readServices : Nat → Nat → List UInt8 → Option (List Uid)
  | 0, _, _ => some []
  | n + 1, pos, rest =>
    match bufferToString rest with
    | none => none
    | some str =>
      let pos := pos + stringInBufSize str
      if pos ≤ INT_MAX then
        (readServices n pos (rest.drop (stringInBufSize str))).map (str :: ·)
      else none

/-- `PmpSessionProtocol::onReceivedServicesList` -/
def onReceivedServicesList (data : List UInt8) : Option (List Uid) :=
  match readUInt32 data with
  | none => none
  | some (count, rest) => readServices count.toNat 4 rest

/-! ## The manager of the waiting services -/

/-- What is used of a `ServiceInfo`. -/
structure ServiceInfo where
  pairUid : Uid
  priority : UInt32
  deriving DecidableEq, Repr

/-- The services of the device. A service without a name is not put into the repository. -/
structure ServiceRepository where
  getServiceInfo : Uid → Option ServiceInfo
  named : getServiceInfo [] = none

structure WaitingServiceManager where
  mLocalWaitingServices : List Uid
  mRemoteWaitingServices : List Uid
  mSetLocalServices : Bool
  mSetRemoteServices : Bool
  mServiceToStart : Uid
  mStartRequest : Bool
  mAuthenticationDone : Bool
  deriving DecidableEq, Repr

namespace WaitingServiceManager

def init : WaitingServiceManager := ⟨[], [], false, false, [], false, false⟩

def setLocalWaitingServices (w : WaitingServiceManager) (services : List Uid) :
    WaitingServiceManager :=
  { w with mLocalWaitingServices := services, mSetLocalServices := true }

def setRemoteWaitingServices (w : WaitingServiceManager) (services : List Uid) :
    WaitingServiceManager :=
  { w with mRemoteWaitingServices := services, mSetRemoteServices := true }

/-- The services for which `waitingServiceLoadRequest` is called. -/
def startWaitingServiceInAppLib (w : WaitingServiceManager) : List Uid :=
  if w.mAuthenticationDone ∧ w.mStartRequest then
    if w.mServiceToStart = [] then [] else [w.mServiceToStart]
  else []

def authenticationDone (w : WaitingServiceManager) : WaitingServiceManager :=
  { w with mAuthenticationDone := true }

/-- The loop that looks for a service with a smaller priority number than `minPrio`. -/
def minService (repository : ServiceRepository) : List Uid → UInt32 × Uid → Option (UInt32 × Uid)
  | [], found => some found
  | it :: rest, (minPrio, service) =>
    match repository.getServiceInfo it with
    | none => none
    | some info =>
      if info.priority < minPrio ∧ 0 ≠ info.priority then
        minService repository rest (info.priority, it)
      else minService repository rest (minPrio, service)

/-- The pairs of the services, in their order. -/
def pairServices (repository : ServiceRepository) : List Uid → Option (List Uid)
  | [] => some []
  | it :: rest =>
    match repository.getServiceInfo it, pairServices repository rest with
    | some info, some pairs => some (info.pairUid :: pairs)
    | _, _ => none

def UINT_MAX : UInt32 := 4294967295

/-- `startWaitingServiceRequest(true)`: the local services first, then the remote ones. -/
def startAsMaster (w : WaitingServiceManager) (repository : ServiceRepository) :
    Option WaitingServiceManager :=
  match minService repository w.mLocalWaitingServices (UINT_MAX, []) with
  | none => none
  | some found =>
    match minService repository w.mRemoteWaitingServices found with
    | none => none
    | some (_, service) => some { w with mStartRequest := true, mServiceToStart := service }

/-- `startWaitingServiceRequest(false)`: the frame that is sent. -/
def startAsSlave (w : WaitingServiceManager) (repository : ServiceRepository) :
    Option (List UInt8) :=
  (pairServices repository w.mLocalWaitingServices).bind sendWaitingServicesList

end WaitingServiceManager

/-! ## One stack -/

inductive Event
  | negotiateRole (number : UInt32)
  | onWaitingServicesRequest (services : List Uid)
  | receiveRemoteWaitingServiceList (services : List Uid)
  | authenticationDone
  | startWaitingService (master : Bool)
  deriving DecidableEq, Repr

/-- What has happened to a stack so far: ghost. -/
structure History where
  /-- The number of the other side has come. -/
  role : Bool
  /-- The list of the waiting services that was set. -/
  services : Option (List Uid)
  authentication : Bool
  /-- How many lists have come from the other side. -/
  received : Nat
  /-- How many events `startWaitingService` were handled. -/
  started : Nat
  deriving DecidableEq, Repr

structure Stack where
  manager : PmpComponentManager
  waiting : WaitingServiceManager
  repository : ServiceRepository
  /-- `mEventQueue` -/
  events : List Event
  /-- The number that the other manager has drawn. -/
  otherNumber : RoleNumber
  history : History

namespace Stack

abbrev Done := Reaction Stack (List UInt8) Uid

def init (repository : ServiceRepository) (own other : RoleNumber) : Stack where
  manager := ⟨true, .PMP_ROLE_NONE, own.val, -1⟩
  waiting := .init
  repository := repository
  events := []
  otherNumber := other
  history := ⟨false, none, false, 0, 0⟩

def pushEvent (s : Stack) (e : Event) : Stack := { s with events := s.events ++ [e] }

/-- `PmpComponentManager::checkWaitingServices` -/
def checkWaitingServices (s : Stack) : Stack :=
  match s.manager.mRole with
  | .PMP_ROLE_NONE => s
  | .PMP_ROLE_MASTER =>
    if s.waiting.mSetLocalServices ∧ s.waiting.mSetRemoteServices then
      s.pushEvent (.startWaitingService true)
    else s
  | .PMP_ROLE_SLAVE =>
    if s.waiting.mSetLocalServices then s.pushEvent (.startWaitingService false) else s

/-- `PmpComponentManager::onNegotiateRole`. The own number is there and is not the other one, so
that the first branch, where the number is kept or `next` is drawn, is not taken here. -/
def onNegotiateRole (s : Stack) (next : RoleNumber) (number : UInt32) : Stack :=
  let r := s.manager.onNegotiateRole next number
  if s.manager.mRoleNubmer = -1 ∨ s.manager.mRoleNubmer = number then
    { s with manager := r.state }
  else { s with manager := r.state }.checkWaitingServices

def handle (s : Stack) : Event → Option Done
  | .negotiateRole number => some ⟨s.onNegotiateRole s.otherNumber number, [], []⟩
  | .onWaitingServicesRequest services =>
    let s := { s with waiting := s.waiting.setLocalWaitingServices services }
    some ⟨s.checkWaitingServices, [], []⟩
  | .receiveRemoteWaitingServiceList services =>
    let s := { s with waiting := s.waiting.setRemoteWaitingServices services }
    some ⟨s.checkWaitingServices, [], []⟩
  | .authenticationDone =>
    let s := { s with waiting := s.waiting.authenticationDone }
    some ⟨s, [], s.waiting.startWaitingServiceInAppLib⟩
  | .startWaitingService master =>
    let s := { s with history := { s.history with started := s.history.started + 1 } }
    if master then
      match s.waiting.startAsMaster s.repository with
      | none => none
      | some waiting => some ⟨{ s with waiting := waiting }, [], waiting.startWaitingServiceInAppLib⟩
    else
      match s.waiting.startAsSlave s.repository with
      | none => none
      | some data => some ⟨s, [data], []⟩

/-- The events that come from outside, each once, and the event thread. -/
inductive Activity
  | negotiateRole
  | onWaitingServicesRequest (services : List Uid)
  | authenticationDone
  | handleEvent
  deriving DecidableEq, Repr

def act (s : Stack) : Activity → Option Done
  | .negotiateRole =>
    if s.history.role then none
    else
      let s := { s with history := { s.history with role := true } }
      some ⟨s.pushEvent (.negotiateRole s.otherNumber.val), [], []⟩
  | .onWaitingServicesRequest services =>
    match s.history.services with
    | some _ => none
    | none =>
      let s := { s with history := { s.history with services := some services } }
      some ⟨s.pushEvent (.onWaitingServicesRequest services), [], []⟩
  | .authenticationDone =>
    if s.history.authentication then none
    else
      let s := { s with history := { s.history with authentication := true } }
      some ⟨s.pushEvent .authenticationDone, [], []⟩
  | .handleEvent =>
    match s.events with
    | [] => none
    | e :: rest => { s with events := rest }.handle e

/-- A list has come from the other side. -/
def receive (s : Stack) (data : List UInt8) : Option Done :=
  match onReceivedServicesList data with
  | none => none
  | some services =>
    let s := { s with history := { s.history with received := s.history.received + 1 } }
    some ⟨s.pushEvent (.receiveRemoteWaitingServiceList services), [], []⟩

end Stack

/-! ## Two stacks -/

abbrev Stacks := Duplex Side Stack (List UInt8) Uid

namespace Stacks

abbrev Action := Duplex.Action Side Stack.Activity Unit

def machine : Machine Stack Stack.Activity Unit (List UInt8) Uid :=
  ⟨fun s a => s.act a, fun s _ data => s.receive data⟩

def step (w : Stacks) (a : Action) : Option Stacks := Duplex.step machine Side.other w a

/-- Both have drawn their numbers. -/
def init (repository : Side → ServiceRepository) (number : Side → RoleNumber) : Stacks :=
  ⟨fun s => .init (repository s) (number s) (number s.other), fun _ => [], fun _ => []⟩

/-! ## What the start is for -/

/-- The manager is the master, and has all that a start needs. -/
structure Ready (s : Stack) : Prop where
  master : s.manager.mRole = .PMP_ROLE_MASTER
  localServices : s.waiting.mSetLocalServices = true
  remoteServices : s.waiting.mSetRemoteServices = true
  authentication : s.waiting.mAuthenticationDone = true

/-- All that comes from outside has come, and nothing is left to be handled. -/
structure Settled (w : Stacks) : Prop where
  role : ∀ s, (w.state s).history.role = true
  services : ∀ s, (w.state s).history.services.isSome = true
  authentication : ∀ s, (w.state s).history.authentication = true
  events : ∀ s, (w.state s).events = []
  link : ∀ s, w.link s = []

/-- The pairs of the services that were set on the other side. -/
def Pairs (repository : Side → ServiceRepository) (w : Stacks) (s : Side) (l : List Uid) : Prop :=
  ∃ services, (w.state s.other).history.services = some services ∧
    WaitingServiceManager.pairServices (repository s.other) services = some l

/-- The service is in the list of the master, or pair of one in the list of the slave, and the
master knows it with this priority. -/
def Listed (repository : Side → ServiceRepository) (number : Side → RoleNumber) (w : Stacks)
    (it : Uid) (priority : UInt32) : Prop :=
  ∃ m : Side, (number m.other).val < (number m).val ∧
    (∃ services, ((w.state m).history.services = some services ∨ Pairs repository w m services) ∧
      it ∈ services) ∧
    ∃ info, (repository m).getServiceInfo it = some info ∧ info.priority = priority

/-- `waitingServiceLoadRequest` is called once at most, by a master that is ready, and is called in
the end if and only if there is a service to start. -/
structure StartedOnce (repository : Side → ServiceRepository) (number : Side → RoleNumber)
    (w : Stacks) : Prop where
  once : (w.told .a).length + (w.told .b).length ≤ 1
  ready : ∀ s, w.told s ≠ [] → Ready (w.state s)
  complete : w.Settled → ((∃ s, w.told s ≠ []) ↔
    ∃ it priority, Listed repository number w it priority ∧ priority ≠ 0)

/-- If there is a service to start, there is one whose priority is not `UINT_MAX`. -/
def BelowMax (repository : Side → ServiceRepository) (number : Side → RoleNumber) (w : Stacks) :
    Prop :=
  (∃ it priority, Listed repository number w it priority ∧ priority ≠ 0) →
    ∃ it priority, Listed repository number w it priority ∧ priority ≠ 0 ∧
      priority ≠ WaitingServiceManager.UINT_MAX

end Stacks

end IviLink.ProfileManager.WaitingServices
