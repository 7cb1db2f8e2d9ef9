import IviLink.ProfileManager.PmpCore
import IviLink.Lib.FirstEntries

/-!
# Looking for profiles

The profile database (`ProfileDatabase.cpp`) has, for each profile, the libraries that
implement it, by version and platform. The core has an entry for each library of its own
platform, and looks among them for the profiles of an API (`PmpCore::findProfiles`): what
it finds goes by its relevance.
-/

namespace IviLink.ProfileManager.Repository

open IviLink.Lib

structure ProfileLibInfo where
  version : UInt32
  path : List Char
  platform : List Char
  deriving DecidableEq, Repr

structure ProfileInfo where
  mUid : Uid
  mApiUid : Uid
  mComplement : Uid
  mLibs : List ProfileLibInfo
  deriving DecidableEq, Repr

structure LibInfo where
  uid : Uid
  apiUid : Uid
  complement : Uid
  version : UInt32
  platform : List Char
  path : List Char
  deriving DecidableEq, Repr

structure ProfileDatabase where
  mProfiles : Std.TreeMap Uid ProfileInfo

namespace ProfileDatabase

def getAllLibs (db : ProfileDatabase) : List LibInfo :=
  db.mProfiles.toList.flatMap fun it => it.2.mLibs.map fun pit =>
    ⟨it.2.mUid, it.2.mApiUid, it.2.mComplement, pit.version, pit.platform, pit.path⟩

/-- What an `int` has after `x` is assigned to it. -/
def toInt (x : Int) : Int := x.bmod 4294967296

/-- `ProfileDatabase::getRelevance`: how far behind in the list of libraries the first one of
the version is. It is divided by a `size_t`; the arguments are not looked at. -/
def getRelevance (db : ProfileDatabase) (profile : Uid) (version : UInt32)
    (_profileArguments : List (List Char × List Char)) : Int :=
  match db.mProfiles[profile]? with
  | none => 0
  | some info =>
    match info.mLibs.findIdx? (·.version = version) with
    | none => 0
    | some k => toInt (toInt (100 * (k + 1)) % 18446744073709551616 / info.mLibs.length)

end ProfileDatabase

structure PmpCoreProfileInfo where
  mLibInfo : LibInfo
  mEnabledByComplement : Bool
  mEnabledByClient : Bool
  mLocked : Bool
  deriving DecidableEq, Repr

namespace PmpCoreProfileInfo

/-- A profile as it comes from the repository. -/
def init (libInfo : LibInfo) : PmpCoreProfileInfo := ⟨libInfo, false, true, false⟩

def uid (p : PmpCoreProfileInfo) : Uid := p.mLibInfo.uid

def api (p : PmpCoreProfileInfo) : Uid := p.mLibInfo.apiUid

def version (p : PmpCoreProfileInfo) : UInt32 := p.mLibInfo.version

def enabled (p : PmpCoreProfileInfo) : Bool := p.mEnabledByClient && p.mEnabledByComplement

def available (p : PmpCoreProfileInfo) : Bool := p.enabled && !p.mLocked

end PmpCoreProfileInfo

/-- The core, in any state of its profiles. -/
structure PmpCore where
  mRepository : ProfileDatabase
  mPlatform : List Char
  mProfiles : List PmpCoreProfileInfo
  /-- The profiles are those that have been loaded. -/
  loaded : mProfiles.map (·.mLibInfo) = mRepository.getAllLibs.filter (mPlatform = ·.platform)

namespace PmpCore

def reloadProfilesFromRepository (mRepository : ProfileDatabase) (mPlatform : List Char) :
    PmpCore where
  mRepository := mRepository
  mPlatform := mPlatform
  mProfiles := (mRepository.getAllLibs.filter (mPlatform = ·.platform)).map .init
  loaded := by
    rw [List.map_map]
    exact List.map_id _

/-- What `findProfiles` asks of a profile. -/
def Fits (id : Uid) (enabledProfiles : Bool) (it : PmpCoreProfileInfo) : Prop :=
  (id = it.api ∨ id = it.uid) ∧ (enabledProfiles = false ∨ it.available = true)

instance (id : Uid) (enabledProfiles : Bool) (it : PmpCoreProfileInfo) :
    Decidable (Fits id enabledProfiles it) :=
  inferInstanceAs (Decidable ((id = it.api ∨ id = it.uid) ∧
    (enabledProfiles = false ∨ it.available = true)))

/-- The pairs that `findProfiles` inserts. -/
def fitting (c : PmpCore) (id : Uid) (profileParameters : List (List Char × List Char))
    (enabledProfiles : Bool) : List (Int × Uid) :=
  (c.mProfiles.filter (Fits id enabledProfiles ·)).map fun it =>
    (c.mRepository.getRelevance it.uid it.version profileParameters, it.uid)

/-- `PmpCore::findProfiles`: the map is by relevance, and is gone through from its end. -/
def findProfiles (c : PmpCore) (id : Uid) (profileParameters : List (List Char × List Char))
    (enabledProfiles : Bool) : List Uid :=
  (insertAll compare (c.fitting id profileParameters enabledProfiles)).toList.reverse.map Prod.snd

end PmpCore

end IviLink.ProfileManager.Repository
