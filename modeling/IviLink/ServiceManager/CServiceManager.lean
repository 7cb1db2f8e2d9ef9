import IviLink.Lib.Run
import Std.Data.TreeMap
import Mathlib.Tactic.Common

/-!
# The services of an application

`CServiceManager` of the application library with the `CService`s it holds. A service
has a map of its profiles, in which a profile that is expected from the other side is
`NULL`, and the set of those that are to be unloaded when they are released.

The manifests are files that do not change. What the profile manager and the profile
libraries do in a call comes with the call. What the client of the manager is told
while a call lasts, and `mCorrect`, on which only that depends, are left out.

A call may dereference a `NULL`, or lock a mutex that its own thread has locked;
then it does not return, and neither does any later call.
-/

namespace IviLink.ServiceManager

open IviLink.Lib

/-- `Service::Uid`, `Profile::ApiUid` and `Profile::IUid` are `BaseUid`s. -/
abbrev Uid := String

/-- `pthread_t` -/
abbrev ThreadId := Nat

/-- What is read of the file of a service: `pair`, and the `api` of each profile. -/
structure Manifest where
  pair : Uid
  profiles : List Uid
  deriving DecidableEq, Repr

structure ProfileHolder where
  getProfileID : Uid
  getProfileApiUid : Uid
  mLockSet : List ThreadId
  deriving DecidableEq, Repr

namespace ProfileHolder

/-- Whoever asks for the profile has it locked. -/
def profileInstance (h : ProfileHolder) (t : ThreadId) : ProfileHolder :=
  { h with mLockSet := h.mLockSet.insert t }

def release (h : ProfileHolder) (t : ThreadId) : ProfileHolder :=
  { h with mLockSet := h.mLockSet.filter (· ≠ t) }

def isLocked (h : ProfileHolder) : Bool := h.mLockSet ≠ []

end ProfileHolder

abbrev ProfilesMap := Std.TreeMap Uid (Option ProfileHolder)

/-- Callback proxies by api, which may be `NULL`. -/
abbrev CallbacksMap := Std.TreeMap Uid (Option Nat)

/-- Why a call does not return. -/
inductive Fault
  | nullDereferenced
  | deadlock
  deriving DecidableEq, Repr

/-- What `findProfiles` and `loadProfile` give for a profile. -/
inductive PimResult
  | findFailed
  | noProfiles
  | loadFailed
  | loaded (piuid apiUid : Uid)
  deriving DecidableEq, Repr

/-- The `pProfile` that `loadProfile` leaves. -/
def PimResult.profile : PimResult → Option ProfileHolder
  | .loaded piuid apiUid => some ⟨piuid, apiUid, []⟩
  | .findFailed | .noProfiles | .loadFailed => none

inductive ERROR_CODE
  | noError
  | SERVICE_NOT_FOUND
  | SERVICE_ALREADY_LOADED
  | XML_PARSING_FAILED
  /-- Or `IPC_REQUEST_TIMEOUT`. -/
  | IPC_REQUEST_FAILED
  | NO_PROFILES_FOUND
  | CALLBACKS_NOT_REGISTERED
  | PIM_ERROR
  deriving DecidableEq, Repr

structure CService where
  mUid : Uid
  mPairUid : Uid
  mProfilesMap : ProfilesMap
  mCbMap : CallbacksMap
  mUnloadRequests : List Uid

namespace CService

def new (service : Uid) : CService := ⟨service, "", ∅, ∅, []⟩

/-- The loop of `load`; the profile nodes are counted by `n`. -/
def loadProfiles (cbMap : CallbacksMap) (pim : Nat → PimResult) :
    Nat → List Uid → CService → CService × ERROR_CODE
  | _, [], s => (s, .noError)
  | n, api :: profiles, s =>
    if api = "" then (s, .XML_PARSING_FAILED)
    else
      match pim n with
      | .findFailed => (s, .IPC_REQUEST_FAILED)
      | .noProfiles => (s, .NO_PROFILES_FOUND)
      | result =>
        match cbMap[api]? with
        | none => (s, .CALLBACKS_NOT_REGISTERED)
        | some _ =>
          match result.profile with
          | none => (s, .PIM_ERROR)
          | some profile =>
            loadProfiles cbMap pim (n + 1) profiles
              { s with mProfilesMap := s.mProfilesMap.insert api (some profile) }

def load (s : CService) (manifest : Option Manifest) (cbMap : CallbacksMap)
    (pim : Nat → PimResult) : CService × ERROR_CODE :=
  match manifest with
  | none => (s, .XML_PARSING_FAILED)
  | some doc => loadProfiles cbMap pim 0 doc.profiles { s with mPairUid := doc.pair }

/-- One round of the first loop of `unload`, which also lists what is to be erased. -/
def unloadRound (t : ThreadId) (x : CService × List Uid) (it : Uid × Option ProfileHolder) :
    Except Fault (CService × List Uid) :=
  match it.2 with
  | none => .error .nullDereferenced
  | some holder =>
    if holder.isLocked then
      .ok ({ x.1 with
        mUnloadRequests := x.1.mUnloadRequests.insert holder.getProfileApiUid
        mProfilesMap := x.1.mProfilesMap.modify it.1 (Option.map (·.profileInstance t)) }, x.2)
    else .ok (x.1, x.2 ++ [it.1])

def unload (s : CService) (t : ThreadId) : Except Fault CService :=
  match s.mProfilesMap.toList.foldlM (unloadRound t) (s, []) with
  | .error fault => .error fault
  | .ok (s, eraseList) => .ok { s with mProfilesMap := eraseList.foldl (·.erase ·) s.mProfilesMap }

/-- The destructor. -/
def delete (s : CService) (t : ThreadId) : Except Fault Unit := (s.unload t).map fun _ => ()

/-- The loop of `incomingLoad`. -/
def expectProfiles (cbMap : CallbacksMap) : List Uid → CService → CService × Bool
  | [], s => (s, true)
  | api :: profiles, s =>
    if api = "" then (s, false)
    else
      let s := { s with mProfilesMap := s.mProfilesMap.insert api none }
      match cbMap[api]? with
      | none => (s, false)
      | some none => (s, false)
      | some (some callback) =>
        expectProfiles cbMap profiles { s with mCbMap := s.mCbMap.insert api (some callback) }

def incomingLoad (s : CService) (manifest : Option Manifest) (cbMap : CallbacksMap) :
    CService × Bool :=
  match manifest with
  | none => (s, false)
  | some doc => expectProfiles cbMap doc.profiles { s with mPairUid := doc.pair }

/-- Whether it returns `ERR_OK`; a profile that cannot be loaded is stored as `NULL`. -/
def incomingProfileRequest (s : CService) (manifest : Option Manifest) (papiUid : Uid)
    (pim : PimResult) : CService × Bool :=
  match manifest with
  | none => (s, false)
  | some doc =>
    let s := if s.mPairUid = "" then { s with mPairUid := doc.pair } else s
    let profile_api := if papiUid ∈ doc.profiles then papiUid else ""
    match s.mCbMap[papiUid]? with
    | some _ => ({ s with mProfilesMap := s.mProfilesMap.insert profile_api pim.profile }, true)
    | none => (s, false)

/-- Where the search for a profile instance ends: at that instance, or at a `NULL`. -/
def searchProfile (s : CService) (piuid : Uid) : Option (Uid × Option ProfileHolder) :=
  s.mProfilesMap.toList.find? fun it =>
    match it.2 with
    | none => true
    | some holder => holder.getProfileID = piuid

/-- With whether it returns with the mutex of the map still locked. -/
def profileDied (s : CService) (t : ThreadId) (piuid : Uid) : Except Fault (CService × Bool) :=
  match s.searchProfile piuid with
  | none => .ok (s, false)
  | some (_, none) => .error .nullDereferenced
  | some (api, some holder) =>
    if holder.isLocked then
      .ok ({ s with
        mUnloadRequests := s.mUnloadRequests.insert holder.getProfileApiUid
        mProfilesMap := s.mProfilesMap.insert api (some (holder.profileInstance t)) }, true)
    else .ok ({ s with mProfilesMap := s.mProfilesMap.erase api }, false)

def allDied (s : CService) : Bool := s.mProfilesMap.isEmpty

def hasUnloadWaits (s : CService) : Bool := s.mUnloadRequests ≠ []

def getProfile (s : CService) (t : ThreadId) (profileApi : Uid) : CService × Option ProfileHolder :=
  match s.mProfilesMap[profileApi]? with
  | some (some holder) =>
    ({ s with mProfilesMap := s.mProfilesMap.insert profileApi (some (holder.profileInstance t)) },
      some holder)
  | _ => (s, none)

/-- To look the profile up among those that wait for it locks it once more. -/
def releaseProfile (s : CService) (t : ThreadId) (profileApi : Uid) : CService :=
  match s.mProfilesMap[profileApi]? with
  | some (some holder) =>
    if holder.getProfileApiUid ∈ s.mUnloadRequests then
      { s with mProfilesMap := s.mProfilesMap.erase profileApi }
    else
      { s with mProfilesMap :=
          s.mProfilesMap.insert profileApi (some ((holder.profileInstance t).release t)) }
  | _ => s

end CService

structure CServiceManager where
  mSystemServices : List Uid
  mActiveServices : Std.TreeMap Uid CService
  mCallbacks : CallbacksMap

namespace CServiceManager

def init (mSystemServices : List Uid) : CServiceManager := ⟨mSystemServices, ∅, ∅⟩

def setActive (m : CServiceManager) (service : Uid) (s : CService) : CServiceManager :=
  { m with mActiveServices := m.mActiveServices.insert service s }

/-- A service is removed and destroyed. -/
def remove (m : CServiceManager) (t : ThreadId) (service : Uid) (s : CService) :
    Except Fault CServiceManager :=
  (s.delete t).map fun _ => { m with mActiveServices := m.mActiveServices.erase service }

/-- `unload`, from where the service has been found. -/
def unloadFound (m : CServiceManager) (t : ThreadId) (service : Uid) (s : CService) :
    Except Fault CServiceManager :=
  match s.unload t with
  | .error fault => .error fault
  | .ok s => if s.hasUnloadWaits then .ok (m.setActive service s) else m.remove t service s

section Manifests

variable (manifests : Uid → Option Manifest)

def load (m : CServiceManager) (t : ThreadId) (service : Uid) (pim : Nat → PimResult) :
    Except Fault (CServiceManager × ERROR_CODE) :=
  if service ∉ m.mSystemServices then .ok (m, .SERVICE_NOT_FOUND)
  else if service ∈ m.mActiveServices then .ok (m, .SERVICE_ALREADY_LOADED)
  else
    let (pService, error) := (CService.new service).load (manifests service) m.mCallbacks pim
    if error ≠ .noError then (pService.delete t).map fun _ => (m, error)
    else .ok (m.setActive service pService, .noError)

def incomingLoad (m : CServiceManager) (t : ThreadId) (service : Uid) :
    Except Fault (CServiceManager × Bool) :=
  if service ∉ m.mSystemServices then .ok (m, false)
  else if service ∈ m.mActiveServices then .ok (m, true)
  else
    let (pService, ok) := (CService.new service).incomingLoad (manifests service) m.mCallbacks
    if ok then .ok (m.setActive service pService, true)
    else (pService.delete t).map fun _ => (m, false)

def unload (m : CServiceManager) (t : ThreadId) (service : Uid) :
    Except Fault (CServiceManager × Bool) :=
  match m.mActiveServices[service]? with
  | none => .ok (m, false)
  | some s => (m.unloadFound t service s).map fun m => (m, true)

/-- A service that cannot take the profile is unloaded. -/
def incomingProfile (m : CServiceManager) (t : ThreadId) (service api : Uid) (pim : PimResult) :
    Except Fault (CServiceManager × Bool) :=
  match m.mActiveServices[service]? with
  | none => .ok (m, false)
  | some s =>
    let (s, ok) := s.incomingProfileRequest (manifests s.mUid) api pim
    if ok then .ok (m.setActive service s, true)
    else ((m.setActive service s).unload t service).map fun (m, _) => (m, false)

end Manifests

/-- The service, or the first one that has it as its pair. -/
def findForDeath (m : CServiceManager) (service : Uid) : Option (Uid × CService) :=
  match m.mActiveServices[service]? with
  | some s => some (service, s)
  | none => m.mActiveServices.toList.find? fun it => it.2.mPairUid = service

/-- `allDied` locks the mutex of the map again. -/
def profileDied (m : CServiceManager) (t : ThreadId) (service piuid : Uid) :
    Except Fault CServiceManager :=
  match m.findForDeath service with
  | none => .ok m
  | some (service, s) =>
    match s.profileDied t piuid with
    | .error fault => .error fault
    | .ok (_, true) => .error .deadlock
    | .ok (s, false) => if s.allDied then m.remove t service s else .ok (m.setActive service s)

def getProfile (m : CServiceManager) (t : ThreadId) (service profileApi : Uid) : CServiceManager :=
  match m.mActiveServices[service]? with
  | none => m
  | some s => m.setActive service (s.getProfile t profileApi).1

def releaseProfile (m : CServiceManager) (t : ThreadId) (service profileApi : Uid) :
    Except Fault CServiceManager :=
  match m.mActiveServices[service]? with
  | none => .ok m
  | some s =>
    let s := s.releaseProfile t profileApi
    if s.allDied then m.unloadFound t service s else .ok (m.setActive service s)

end CServiceManager

/-- The calls, with what the other components give in them. -/
inductive Call
  | registerProfileCallbacks (profileApi : Uid) (pCallbacks : Option Nat)
  | load (service : Uid) (pim : Nat → PimResult)
  | incomingLoad (service : Uid)
  | incomingProfile (service api : Uid) (pim : PimResult)
  | getProfile (service profileApi : Uid)
  | releaseProfile (service profileApi : Uid)
  | unload (service : Uid)
  | profileDied (service piuid : Uid)

/-- A call, by a thread. -/
def CServiceManager.call (manifests : Uid → Option Manifest) (m : CServiceManager) (t : ThreadId) :
    Call → Except Fault CServiceManager
  | .registerProfileCallbacks profileApi pCallbacks =>
    .ok { m with mCallbacks := m.mCallbacks.insert profileApi pCallbacks }
  | .load service pim => (m.load manifests t service pim).map (·.1)
  | .incomingLoad service => (m.incomingLoad manifests t service).map (·.1)
  | .incomingProfile service api pim => (m.incomingProfile manifests t service api pim).map (·.1)
  | .getProfile service profileApi => .ok (m.getProfile t service profileApi)
  | .releaseProfile service profileApi => m.releaseProfile t service profileApi
  | .unload service => (m.unload t service).map (·.1)
  | .profileDied service piuid => m.profileDied t service piuid

/-- One call after the other, as long as they return. -/
def next (manifests : Uid → Option Manifest) (s : Except Fault CServiceManager)
    (call : ThreadId × Call) : Option (Except Fault CServiceManager) :=
  match s with
  | .error _ => none
  | .ok m => some (m.call manifests call.1 call.2)

/-- The profiles of a service; one that is not active has none. -/
def CServiceManager.profiles (m : CServiceManager) (service : Uid) : ProfilesMap :=
  match m.mActiveServices[service]? with
  | none => ∅
  | some s => s.mProfilesMap

/-- Every call has returned, and the active services are those that have profiles. -/
def Sound : Except Fault CServiceManager → Prop
  | .error _ => False
  | .ok m => ∀ service, service ∈ m.mActiveServices ↔ (m.profiles service).isEmpty = false

/-! ## When a call is fine -/

/-- Nothing is expected, and if unload requests are left, some profile is locked. -/
def CService.Unloadable (s : CService) : Prop :=
  (∀ it ∈ s.mProfilesMap.toList, it.2 ≠ none) ∧
    (s.mUnloadRequests ≠ [] →
      ∃ it ∈ s.mProfilesMap.toList, it.2.any ProfileHolder.isLocked = true)

/-- There are callbacks for the api. -/
def HasCallbacks (cbMap : CallbacksMap) (api : Uid) : Prop :=
  api ≠ "" ∧ ∃ callback, cbMap[api]? = some (some callback)

/-- The first `api` is missing, or there are profiles and all of them have callbacks. -/
def Manifest.Expectable (doc : Manifest) (cbMap : CallbacksMap) : Prop :=
  doc.profiles.head? = some "" ∨
    (doc.profiles ≠ [] ∧ ∀ api ∈ doc.profiles, HasCallbacks cbMap api)

/-- The call does not go wrong. -/
def Fine (manifests : Uid → Option Manifest) (m : CServiceManager) : Call → Prop
  | .registerProfileCallbacks _ _ => True
  | .load service _ =>
    service ∈ m.mSystemServices → service ∉ m.mActiveServices →
      ∀ doc, manifests service = some doc → doc.profiles ≠ []
  | .incomingLoad service =>
    service ∈ m.mSystemServices → service ∉ m.mActiveServices →
      ∀ doc, manifests service = some doc → doc.Expectable m.mCallbacks
  | .incomingProfile service api _ =>
    ∀ s, m.mActiveServices[service]? = some s →
      manifests s.mUid = none ∨ s.mCbMap[api]? = none → s.Unloadable
  | .getProfile _ _ => True
  | .releaseProfile service profileApi =>
    ∀ s holder, m.mActiveServices[service]? = some s →
      s.mProfilesMap[profileApi]? = some (some holder) →
      holder.getProfileApiUid ∈ s.mUnloadRequests → ∃ api ∈ s.mProfilesMap, api ≠ profileApi
  | .unload service => ∀ s, m.mActiveServices[service]? = some s → s.Unloadable
  | .profileDied service piuid =>
    ∀ key s, m.findForDeath service = some (key, s) → ∀ it, s.searchProfile piuid = some it →
      ∃ holder, it.2 = some holder ∧ holder.isLocked = false

end IviLink.ServiceManager
