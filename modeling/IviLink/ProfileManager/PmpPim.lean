import IviLink.ProfileManager.ClientAppRegistry
import Std.Data.TreeSet

/-!
# The profile instance manager

`PmpPim`, and the events that its methods are called for. The events of a profile manager are
handled one after the other, in the order in which they are put into its queue, except that
the creation of a profile for the other side is put back for 300 ms while an application is
being started.

An instance is created by a client on one side, which the other side is told; there a
client is asked for the instance that goes with it, and answers with a creation of its own.
Both have the same uid.

The pointers to the other components are set. The loss of a client's connection, the unloading
of instances and `appRequestError`, which does nothing, come later. What a request to another
component returns is only logged.
-/

namespace IviLink.ProfileManager.PIM

open IviLink.L0 (Side)
open IviLink.Lib

/-- `std::tr1::tuple` -/
structure PendingService where
  profileUid : Uid
  piuid : IUid
  sid : ServiceUid
  deriving DecidableEq, Repr

/-- The requests to the other side. -/
inductive PMPFrame
  | PMP_REQ_PIM_CREATE_PROFILE (profileUid : Uid) (piuid : IUid) (sid : ServiceUid)
  | PMP_REQ_PIM_PROFILE_DIED (piuid : IUid) (sid : ServiceUid)
  deriving DecidableEq, Repr

/-- What clients are told, and what the application manager is. -/
inductive Notice
  | incomingProfile (profileUid papiUid : Uid) (piuid : IUid) (sid : ServiceUid)
    (dirId : DirectionID)
  | profileDied (piuid : IUid) (dirId : DirectionID)
  | applicationRequest (session : SessionUid) (service : ServiceUid)
  deriving DecidableEq, Repr

inductive PimEvent
  | PimIpcOnConnection (dirId : DirectionID)
  | PimIpcCreateProfile (profileUid : Uid) (piuid : IUid) (sid : ServiceUid) (dirId : DirectionID)
  | PimIpcProfileDied (piuid : IUid) (dirId : DirectionID)
  | PimIpcReadyToServe (sesUid : SessionUid) (dirId : DirectionID)
  | PimProtocolCreateProfile (profileUid : Uid) (piuid : IUid) (sid : ServiceUid)
  | PimProtocolProfileDied (piuid : IUid) (sid : ServiceUid)
  | InternalPimProcessIncomingProfile (appId profileUid : Uid) (piuid : IUid) (sid : ServiceUid)
  deriving DecidableEq, Repr

structure PmpPim where
  mCore : PmpCore
  mIncomingProfiles : Std.TreeSet IUid
  mRegistry : ClientAppRegistry
  /-- `std::map`; a session is inserted only when there is none. -/
  mPendingServiceMap : List (SessionUid × PendingService)

/-- What a method does. -/
structure Effect where
  pim : PmpPim
  /-- What is sent to the other side. -/
  sent : List PMPFrame := []
  told : List Notice := []
  /-- The events that it pushes. -/
  events : List PimEvent := []
  /-- The creations that are to come back as events after their timeout. -/
  timeouts : List PendingService := []

namespace PmpPim

def createProfile (s : PmpPim) (profileUid : Uid) (piuid : IUid) (sid : ServiceUid)
    (dirId : DirectionID) : Option Effect :=
  match s.mRegistry.findAppByDirId dirId with
  | .error _ => some { pim := s }
  | .ok appId =>
    let remoteCreation := s.mIncomingProfiles.contains piuid
    let s := { s with mIncomingProfiles := s.mIncomingProfiles.erase piuid }
    match s.mRegistry.registerProfile appId ⟨piuid, sid, profileUid⟩ with
    | none => none
    | some (.error _) => some { pim := s }
    | some (.ok mRegistry) =>
      let s := { s with mRegistry }
      -- creation was started on the other side
      if remoteCreation then some { pim := s }
      else
        match s.mCore.getComplementary profileUid with
        | none => some { pim := s }
        | some compUid =>
          some { pim := s, sent := [.PMP_REQ_PIM_CREATE_PROFILE compUid piuid sid] }

def profileDied (s : PmpPim) (piuid : IUid) : Option Effect :=
  match s.mRegistry.findSidByPIUID piuid with
  | .error _ => some { pim := s }
  | .ok sid =>
    match s.mRegistry.unregisterProfile piuid with
    | none => none
    | some (.error _) => some { pim := s }
    | some (.ok mRegistry) =>
      some { pim := { s with mRegistry }, sent := [.PMP_REQ_PIM_PROFILE_DIED piuid sid] }

/-- `saveIncomingProfileForProcessing` -/
def saveIncomingProfileForProcessing (appId : Uid) (x : PendingService) : PimEvent :=
  .InternalPimProcessIncomingProfile appId x.profileUid x.piuid x.sid

def readyToServe (s : PmpPim) (sesUid : SessionUid) (dirId : DirectionID) : Effect :=
  match s.mPendingServiceMap.find? (·.1 = sesUid) with
  | none => { pim := s }
  | some it =>
    let mPendingServiceMap := s.mPendingServiceMap.filter (·.1 ≠ sesUid)
    match s.mRegistry.findAppByDirId dirId with
    | .error _ => { pim := { s with mPendingServiceMap } }
    | .ok appId =>
      let mRegistry := s.mRegistry.addServiceToApp appId it.2.sid
      let s := { s with mRegistry, mPendingServiceMap }
      if appId = [] then { pim := s }
      else { pim := s, events := [saveIncomingProfileForProcessing appId it.2] }

/-- `appId` is what `generateUid` gives. -/
def onConnection (s : PmpPim) (appId : Uid) (dirId : DirectionID) : Option Effect :=
  match s.mRegistry.registerApp appId dirId with
  | some (.ok mRegistry) => some { pim := { s with mRegistry } }
  | _ => none

/-- `sesUid` is what `generateUid` gives. -/
def onCreateProfile (s : PmpPim) (sesUid : SessionUid) (x : PendingService) : Effect × Bool :=
  if s.mPendingServiceMap ≠ [] then ({ pim := s }, false)
  else
    match s.mRegistry.findAppBySid x.sid with
    | .ok appId => ({ pim := s, events := [saveIncomingProfileForProcessing appId x] }, true)
    | .error _ =>
      ({ pim := { s with mPendingServiceMap := (sesUid, x) :: s.mPendingServiceMap }
         told := [.applicationRequest sesUid x.sid] }, true)

def onProfileDied (s : PmpPim) (piuid : IUid) : Option Effect :=
  match s.mRegistry.findAppByPIUID piuid with
  | .error _ => some { pim := s }
  | .ok appId =>
    match s.mRegistry.unregisterProfile piuid with
    | none => none
    | some (.error _) => some { pim := s }
    | some (.ok mRegistry) =>
      let s := { s with mRegistry }
      match s.mRegistry.findDirIdByApp appId with
      | .error _ => some { pim := s }
      | .ok dirId => some { pim := s, told := [.profileDied piuid dirId] }

def processIncomingProfile (s : PmpPim) (appId profileUid : Uid) (piuid : IUid)
    (sid : ServiceUid) : Effect :=
  match s.mCore.getPapiUid profileUid with
  | none => { pim := s }
  | some papiUid =>
    match s.mRegistry.findDirIdByApp appId with
    | .error _ => { pim := s }
    | .ok dirId =>
      match s.mRegistry.findAppByPIUID piuid with
      | .ok _ => { pim := s }
      | .error _ =>
        { pim := { s with mIncomingProfiles := s.mIncomingProfiles.insert piuid }
          told := [.incomingProfile profileUid papiUid piuid sid dirId] }

/-- `handleEvent` of an event; `uid` is what `generateUid` gives if it is called. -/
def handleEvent (s : PmpPim) (uid : Uid) : PimEvent → Option Effect
  | .PimIpcOnConnection dirId => s.onConnection uid dirId
  | .PimIpcCreateProfile profileUid piuid sid dirId => s.createProfile profileUid piuid sid dirId
  | .PimIpcProfileDied piuid _ => s.profileDied piuid
  | .PimIpcReadyToServe sesUid dirId => some (s.readyToServe sesUid dirId)
  | .PimProtocolCreateProfile profileUid piuid sid =>
    let r := s.onCreateProfile uid ⟨profileUid, piuid, sid⟩
    some (if r.2 then r.1 else { r.1 with timeouts := [⟨profileUid, piuid, sid⟩] })
  | .PimProtocolProfileDied piuid _ => s.onProfileDied piuid
  | .InternalPimProcessIncomingProfile appId profileUid piuid sid =>
    some (s.processIncomingProfile appId profileUid piuid sid)

end PmpPim

/-- A profile that a client is asked for. -/
structure IncomingProfile where
  profileUid : Uid
  piuid : IUid
  sid : ServiceUid
  dirId : DirectionID
  deriving DecidableEq, Repr

def Notice.asks : Notice → Option IncomingProfile
  | .incomingProfile profileUid _ piuid sid dirId => some ⟨profileUid, piuid, sid, dirId⟩
  | _ => none

/-- One side: the instance manager, its events, and what its clients are asked for. -/
structure Stack where
  pim : PmpPim
  mEventQueue : List PimEvent
  /-- The creations that wait for their timeout. -/
  timeouts : List PendingService
  /-- What a client has been asked for and has not answered. -/
  asked : List IncomingProfile
  /-- Ghost: the uids of the instances that clients have created, other than in answers. -/
  made : List IUid

inductive Call
  | onConnection (dirId : DirectionID)
  | createProfile (profileUid : Uid) (piuid : IUid) (sid : ServiceUid) (dirId : DirectionID)
  | profileDied (piuid : IUid) (dirId : DirectionID)
  | readyToServe (sesUid : SessionUid) (dirId : DirectionID)
  /-- A client creates one of the profiles that clients have been asked for. -/
  | answer (n : Nat)
  /-- A timeout is over. -/
  | timeout (n : Nat)
  /-- The next event is handled; `uid` is what `generateUid` gives. -/
  | handleEvent (uid : Uid)
  deriving DecidableEq, Repr

namespace Stack

def init (libs : List LibInfo) : Stack :=
  ⟨⟨⟨libs.map .init⟩, ∅, .init, []⟩, [], [], [], []⟩

/-- `pushEvent` -/
def pushEvent (s : Stack) (event : PimEvent) : Stack :=
  { s with mEventQueue := s.mEventQueue ++ [event] }

/-- A client is connected over the direction. -/
def Connected (s : Stack) (dirId : DirectionID) : Prop :=
  dirId ∈ s.pim.mRegistry.mDirIdAppMap ∨ .PimIpcOnConnection dirId ∈ s.mEventQueue

instance (s : Stack) (dirId : DirectionID) : Decidable (s.Connected dirId) :=
  inferInstanceAs (Decidable (_ ∨ _))

abbrev Done := Reaction Stack PMPFrame Notice

/-- A call that does nothing but push an event. -/
def pushes (s : Stack) (event : PimEvent) : Done := ⟨s.pushEvent event, [], []⟩

/-- What a method does, to the rest of the queue. -/
def perform (s : Stack) (rest : List PimEvent) (x : Effect) : Done :=
  ⟨{ s with
      pim := x.pim
      mEventQueue := rest ++ x.events
      timeouts := s.timeouts ++ x.timeouts
      asked := s.asked ++ x.told.filterMap Notice.asks }, x.sent, x.told⟩

/-- Calls come from clients that are connected. `generateUid` gives no empty string. -/
def act (s : Stack) : Call → Option Done
  | .onConnection dirId =>
    if s.Connected dirId then none else some (s.pushes (.PimIpcOnConnection dirId))
  | .createProfile profileUid piuid sid dirId =>
    if s.Connected dirId then
      some ({ s with made := piuid :: s.made }.pushes
        (.PimIpcCreateProfile profileUid piuid sid dirId))
    else none
  | .profileDied piuid dirId =>
    if s.Connected dirId then some (s.pushes (.PimIpcProfileDied piuid dirId)) else none
  | .readyToServe sesUid dirId =>
    if s.Connected dirId then some (s.pushes (.PimIpcReadyToServe sesUid dirId)) else none
  | .answer n =>
    match s.asked[n]? with
    | none => none
    | some x =>
      some ({ s with asked := s.asked.eraseIdx n }.pushes
        (.PimIpcCreateProfile x.profileUid x.piuid x.sid x.dirId))
  | .timeout n =>
    match s.timeouts[n]? with
    | none => none
    | some x =>
      some ({ s with timeouts := s.timeouts.eraseIdx n }.pushes
        (.PimProtocolCreateProfile x.profileUid x.piuid x.sid))
  | .handleEvent uid =>
    match s.mEventQueue with
    | [] => none
    | event :: rest => if uid = [] then none else (s.pim.handleEvent uid event).map (s.perform rest)

/-- The event of a request. -/
def onPimRequest : PMPFrame → PimEvent
  | .PMP_REQ_PIM_CREATE_PROFILE profileUid piuid sid =>
    .PimProtocolCreateProfile profileUid piuid sid
  | .PMP_REQ_PIM_PROFILE_DIED piuid sid => .PimProtocolProfileDied piuid sid

end Stack

/-! ## Two sides -/

abbrev PmpPims := Duplex Side Stack PMPFrame Notice

namespace PmpPims

abbrev Action := Duplex.Action Side Call Unit

def machine : Machine Stack Call Unit PMPFrame Notice :=
  ⟨Stack.act, fun s _ x => some (s.pushes (Stack.onPimRequest x))⟩

def step (w : PmpPims) (a : Action) : Option PmpPims := Duplex.step machine Side.other w a

def init (libs : Side → List LibInfo) : PmpPims :=
  ⟨fun i => .init (libs i), fun _ => [], fun _ => []⟩

def registered (w : PmpPims) (i : Side) (piuid : IUid) : Bool :=
  (w.state i).pim.mRegistry.registered piuid

/-- All messages, events and answers of clients have been processed. -/
def Quiet (w : PmpPims) : Prop :=
  ∀ i, w.link i = [] ∧ (w.state i).mEventQueue = [] ∧ (w.state i).timeouts = [] ∧
    (w.state i).pim.mPendingServiceMap = [] ∧ (w.state i).asked = []

/-- Every profile has a complement on the other side, and is its complement. -/
def Complementary (libs : Side → List LibInfo) : Prop :=
  ∀ i, ∀ l ∈ libs i, ∃ l' ∈ libs i.other, l'.uid = l.complement ∧ l'.complement = l.uid

/-- A client creates profiles that its side has, and each instance under a new uid. -/
def Proper (libs : Side → List LibInfo) (w : PmpPims) : Action → Prop
  | .act i (.createProfile profileUid piuid _ _) =>
    (∃ l ∈ libs i, l.uid = profileUid) ∧ piuid ∉ (w.state i).made ∧
      piuid ∉ (w.state i.other).made
  | _ => True

instance (libs : Side → List LibInfo) (w : PmpPims) : ∀ a, Decidable (Proper libs w a)
  | .act _ (.createProfile ..) => inferInstanceAs (Decidable (_ ∧ _ ∧ _))
  | .act _ (.onConnection _) | .act _ (.profileDied ..) | .act _ (.readyToServe ..)
  | .act _ (.answer _) | .act _ (.timeout _) | .act _ (.handleEvent _) | .deliver .. =>
    .isTrue trivial

end PmpPims

/-! ## Creations that are under way -/

/-- The instance that the event is to create for the other side; no client has been asked. -/
def PimEvent.coming : PimEvent → Option IUid
  | .PimProtocolCreateProfile _ piuid _ => some piuid
  | .InternalPimProcessIncomingProfile _ _ piuid _ => some piuid
  | _ => none

/-- The instance that a client creates. -/
def PimEvent.creating : PimEvent → Option IUid
  | .PimIpcCreateProfile _ piuid _ _ => some piuid
  | _ => none

/-- The instance that has died on the other side. -/
def PimEvent.dying : PimEvent → Option IUid
  | .PimProtocolProfileDied piuid _ => some piuid
  | _ => none

namespace Stack

/-- The instances that are to be created for the other side: in events, put back, or waiting for
an application to be started. -/
def coming (s : Stack) : List IUid :=
  s.mEventQueue.filterMap PimEvent.coming ++ s.timeouts.map (·.piuid) ++
    s.pim.mPendingServiceMap.map (·.2.piuid)

/-- The instances that clients create or have been asked to create. -/
def creating (s : Stack) : List IUid :=
  s.mEventQueue.filterMap PimEvent.creating ++ s.asked.map (·.piuid)

/-- The next event is not the death of an instance whose creation has come and is not done. -/
def Timely (s : Stack) : Prop :=
  ∀ piuid ∈ s.mEventQueue.head?.bind PimEvent.dying, piuid ∉ s.coming ∧ piuid ∉ s.creating

instance (s : Stack) : Decidable s.Timely :=
  inferInstanceAs (Decidable (∀ piuid ∈ s.mEventQueue.head?.bind PimEvent.dying, _ ∧ _))

end Stack

namespace PmpPims

/-- No side handles the death of an instance that it is still creating. -/
def Timely (w : PmpPims) : Action → Prop
  | .act i (.handleEvent _) => (w.state i).Timely
  | _ => True

instance (w : PmpPims) : ∀ a, Decidable (Timely w a)
  | .act i (.handleEvent _) => inferInstanceAs (Decidable (w.state i).Timely)
  | .act _ (.onConnection _) | .act _ (.createProfile ..) | .act _ (.profileDied ..)
  | .act _ (.readyToServe ..) | .act _ (.answer _) | .act _ (.timeout _) | .deliver .. =>
    .isTrue trivial

end PmpPims

end IviLink.ProfileManager.PIM
