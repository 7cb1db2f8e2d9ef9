import IviLink.ServiceManager.CServiceManager
import IviLink.Lib.Mutexes

/-!
# A service and the mutex of its profiles

`CService::profileDied` once more, one mutex operation after the other, and the sections in which
the other methods use the profiles.
-/

namespace IviLink.ServiceManager.Profiles

open IviLink.Lib

inductive Mutex
  | mpProfilesMapMutex
  deriving DecidableEq, Repr

inductive Place
  | plain
  /-- The profile instance is looked for. -/
  | profileDied (piuid : Uid)
  deriving DecidableEq, Repr

inductive Method
  | profileDied (t : ThreadId) (piuid : Uid)
  /-- A section of another method. -/
  | other (f : CService → CService)

abbrev Method.Code := Lib.Code Mutex CService Place Unit

open Lib.Code Mutex

def change (guards : List Mutex) (f : CService → CService) (next : Method.Code) : Method.Code :=
  act guards .plain f fun _ => next

def profileDied (t : ThreadId) (piuid : Uid) : Method.Code :=
  lock mpProfilesMapMutex <|
  act [mpProfilesMapMutex] (.profileDied piuid) id fun s =>
  match s.searchProfile piuid with
  | none => unlock mpProfilesMapMutex <| ret ()
  | some (_, none) => undefined
  | some (api, some holder) =>
    if holder.isLocked then
      change [mpProfilesMapMutex]
        (fun s => { s with
          mUnloadRequests := s.mUnloadRequests.insert holder.getProfileApiUid
          mProfilesMap := s.mProfilesMap.insert api (some (holder.profileInstance t)) }) <|
      ret ()
    else
      change [mpProfilesMapMutex]
        (fun s => { s with mProfilesMap := s.mProfilesMap.erase api }) <|
      unlock mpProfilesMapMutex <|
      ret ()

def Method.body : Method → Method.Code
  | .profileDied t piuid => Profiles.profileDied t piuid
  | .other f =>
    lock mpProfilesMapMutex <| change [mpProfilesMapMutex] f <| unlock mpProfilesMapMutex <| ret ()

/-- The instance is not there, or is that of a profile that no one has locked. -/
def Expected : Place → CService → Prop
  | .plain, _ => True
  | .profileDied piuid, s => ∀ it, s.searchProfile piuid = some it →
    ∃ holder, it.2 = some holder ∧ holder.isLocked = false

end IviLink.ServiceManager.Profiles
