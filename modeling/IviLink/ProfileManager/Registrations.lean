import IviLink.ProfileManager.PmpPim
import IviLink.Utils.CUid

/-!
# Applications that come and go

What `PmpPim` leaves out so far: the loss of a client's connection, which takes all the instances
of the application with it, and the unloading of the instances of a profile. The uids are generated
in the process, where other components take some of them.

A direction is connected once at a time, and is lost when it is connected.
-/

namespace IviLink.ProfileManager.PIM

open IviLink.Utils (generateUid firstCounter)

structure ProfileInstanceData where
  piuid : IUid
  sid : ServiceUid
  appId : Uid
  deriving DecidableEq, Repr

namespace ClientAppRegistry

/-- The first direction of the application is taken out. -/
def unregisterApp (r : ClientAppRegistry) (appId : Uid) : Option (Result ClientAppRegistry) :=
  if appId ∈ r.mAppDatas then
    match r.mDirIdAppMap.toList.find? (·.2 = appId) with
    | none => none
    | some it => some (.ok { r with
        mAppDatas := r.mAppDatas.erase appId
        mAppProfiles := r.mAppProfiles.erase appId
        mDirIdAppMap := r.mDirIdAppMap.erase it.1 })
  else some (.error "appId is unknown")

def findInstancesOf (r : ClientAppRegistry) (uid : Uid) : List ProfileInstanceData :=
  r.mAppProfiles.toList.flatMap fun it =>
    (it.2.filter (·.profileUid = uid)).map fun pd => ⟨pd.piuid, pd.sid, it.1⟩

def getProfilesOfApp (r : ClientAppRegistry) (appId : Uid) : List IUid :=
  match r.mAppProfiles[appId]? with
  | none => []
  | some ds => ds.map (·.piuid)

end ClientAppRegistry

namespace PmpPim

/-- The loop over the instances of an application that is lost. -/
def profilesDied (s : PmpPim) : List IUid → Option Effect
  | [] => some { pim := s }
  | piuid :: rest =>
    match s.profileDied piuid with
    | none => none
    | some x => (x.pim.profilesDied rest).map fun y => { y with sent := x.sent ++ y.sent }

def onConnectionLost (s : PmpPim) (dirId : DirectionID) : Option Effect :=
  match s.mRegistry.findAppByDirId dirId with
  | .error _ => none
  | .ok appId =>
    match s.profilesDied (s.mRegistry.getProfilesOfApp appId) with
    | none => none
    | some x =>
      match x.pim.mRegistry.unregisterApp appId with
      | none => none
      | some (.error _) => some x
      | some (.ok mRegistry) => some { x with pim := { x.pim with mRegistry } }

/-- The client of an instance that is unloaded. -/
def toldUnloaded (r : ClientAppRegistry) (data : ProfileInstanceData) : List Notice :=
  match r.findDirIdByApp data.appId with
  | .error _ => []
  | .ok dirId => if dirId = -1 then [] else [.profileDied data.piuid dirId]

/-- The loop over the instances of a profile. -/
def unloadEach (s : PmpPim) : List ProfileInstanceData → Option Effect
  | [] => some { pim := s }
  | data :: rest =>
    match s.mRegistry.unregisterProfile data.piuid with
    | none => none
    | some r =>
      let next : PmpPim := match r with
        | .error _ => s
        | .ok mRegistry => { s with mRegistry }
      (next.unloadEach rest).map fun y =>
        { y with
          sent := .PMP_REQ_PIM_PROFILE_DIED data.piuid data.sid :: y.sent
          told := toldUnloaded s.mRegistry data ++ y.told }

def unloadInstances (s : PmpPim) (profileId : Uid) : Option Effect :=
  s.unloadEach (s.mRegistry.findInstancesOf profileId)

/-- Whether the handling of the event generates a uid. -/
def generates (s : PmpPim) : PimEvent → Bool
  | .PimIpcOnConnection _ => true
  | .PimProtocolCreateProfile _ _ sid =>
    s.mPendingServiceMap.isEmpty && !(s.mRegistry.findAppBySid sid).isOk
  | _ => false

end PmpPim

/-! ## The process -/

structure PmpProcess where
  pim : PmpPim
  gCounter : Nat

inductive Incident
  | handleEvent (event : PimEvent)
  | onConnectionLost (dirId : DirectionID)
  | unloadInstances (profileId : Uid)
  /-- Another component takes a uid. -/
  | generateUid
  deriving DecidableEq, Repr

inductive Outcome
  | done (x : Effect) (gCounter : Nat)
  | assertion
  /-- The counter of the uids cannot be incremented. -/
  | overflow

namespace PmpProcess

def init (libs : List LibInfo) : PmpProcess := ⟨(Stack.init libs).pim, firstCounter⟩

/-- What a method has done; where an assertion fails it has no effect. -/
def finish (x : Option Effect) (gCounter : Nat) : Outcome :=
  match x with
  | none => .assertion
  | some x => .done x gCounter

/-- A method that needs a generated uid. -/
def withUid (p : PmpProcess) (f : Uid → Option Effect) : Outcome :=
  match generateUid p.gCounter with
  | none => .overflow
  | some (uid, gCounter) => finish (f uid) gCounter

def handle (p : PmpProcess) : Incident → Outcome
  | .handleEvent event =>
    if p.pim.generates event then p.withUid fun uid => p.pim.handleEvent uid event
    else finish (p.pim.handleEvent [] event) p.gCounter
  | .onConnectionLost dirId => finish (p.pim.onConnectionLost dirId) p.gCounter
  | .unloadInstances profileId => finish (p.pim.unloadInstances profileId) p.gCounter
  | .generateUid => p.withUid fun _ => some { pim := p.pim }

/-- Connections come over directions that are not connected, and those that are connected are
lost. -/
def Admits (p : PmpProcess) : Incident → Prop
  | .handleEvent (.PimIpcOnConnection dirId) => dirId ∉ p.pim.mRegistry.mDirIdAppMap
  | .onConnectionLost dirId => dirId ∈ p.pim.mRegistry.mDirIdAppMap
  | _ => True

instance (p : PmpProcess) : ∀ a, Decidable (p.Admits a)
  | .handleEvent (.PimIpcOnConnection _) => inferInstanceAs (Decidable (_ ∉ _))
  | .onConnectionLost _ => inferInstanceAs (Decidable (_ ∈ _))
  | .handleEvent (.PimIpcCreateProfile ..) | .handleEvent (.PimIpcProfileDied ..)
  | .handleEvent (.PimIpcReadyToServe ..) | .handleEvent (.PimProtocolCreateProfile ..)
  | .handleEvent (.PimProtocolProfileDied ..)
  | .handleEvent (.InternalPimProcessIncomingProfile ..) | .unloadInstances _ | .generateUid =>
    .isTrue trivial

def step (p : PmpProcess) (a : Incident) : Option PmpProcess :=
  if p.Admits a then
    match p.handle a with
    | .done x gCounter => some ⟨x.pim, gCounter⟩
    | _ => none
  else none

end PmpProcess

/-! ## What the registry says -/

namespace ClientAppRegistry

/-- How many entries of the instance the application has. -/
def entries (r : ClientAppRegistry) (appId : Uid) (piuid : IUid) : Nat :=
  match r.mAppProfiles[appId]? with
  | none => 0
  | some ds => ds.countP (·.piuid = piuid)

/-- The containers say the same. -/
structure Agrees (r : ClientAppRegistry) : Prop where
  owner : ∀ (piuid : IUid) (appId : Uid), r.mProfileToApp[piuid]? = some appId ↔
    r.entries appId piuid = 1 ∧ ∀ other ≠ appId, r.entries other piuid = 0
  connected : ∀ appId, appId ∈ r.mAppDatas ↔
    ∃ dirId : DirectionID, r.mDirIdAppMap[dirId]? = some appId
  once : ∀ (dirId dirId' : DirectionID) (appId : Uid), r.mDirIdAppMap[dirId]? = some appId →
    r.mDirIdAppMap[dirId']? = some appId → dirId = dirId'
  profiled : ∀ appId, appId ∈ r.mAppDatas ↔ appId ∈ r.mAppProfiles

end ClientAppRegistry

end IviLink.ProfileManager.PIM
