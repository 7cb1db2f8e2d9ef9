import IviLink.L0.Peers
import IviLink.ProfileManager.ProfileDatabase
import Mathlib.Data.List.MinMax

/-!
# Which library a profile is loaded from

A core offers the other one its profiles with their versions, and enables those of its own whose
complement it is offered in the same version. `getProfileLibPath` looks for the library by the
uid alone.

The two cores come here with their repositories loaded. What one of them offers does not change
while it keeps its repository, so that its answer is not told from what it has.
-/

namespace IviLink.ProfileManager.Repository

open IviLink.L0 (Side)

namespace PmpCoreProfileInfo

def complement (p : PmpCoreProfileInfo) : Uid := p.mLibInfo.complement

def library (p : PmpCoreProfileInfo) : List Char := p.mLibInfo.path

def enableByComplement (p : PmpCoreProfileInfo) : PmpCoreProfileInfo :=
  { p with mEnabledByComplement := true }

def disableByComplement (p : PmpCoreProfileInfo) : PmpCoreProfileInfo :=
  { p with mEnabledByComplement := false }

def lock (p : PmpCoreProfileInfo) : PmpCoreProfileInfo := { p with mLocked := true }

/-- `lock`, `unlock`, `enableByClient` and `disableByClient`. -/
def set (p : PmpCoreProfileInfo) (v : Bool) : Flag → PmpCoreProfileInfo
  | .locked => { p with mLocked := v }
  | .enabledByClient => { p with mEnabledByClient := v }

@[simp] theorem set_mLibInfo (p : PmpCoreProfileInfo) (v : Bool) (f : Flag) :
    (p.set v f).mLibInfo = p.mLibInfo := by
  cases f <;> rfl

@[simp] theorem set_mEnabledByComplement (p : PmpCoreProfileInfo) (v : Bool) (f : Flag) :
    (p.set v f).mEnabledByComplement = p.mEnabledByComplement := by
  cases f <;> rfl

@[simp] theorem mLibInfo_ite (p : PmpCoreProfileInfo) (v b : Bool) (f : Flag) :
    (if b then p.set v f else p).mLibInfo = p.mLibInfo := by
  cases b with
  | true => exact p.set_mLibInfo v f
  | false => rfl

@[simp] theorem mEnabledByComplement_ite (p : PmpCoreProfileInfo) (v b : Bool) (f : Flag) :
    (if b then p.set v f else p).mEnabledByComplement = p.mEnabledByComplement := by
  cases b with
  | true => exact p.set_mEnabledByComplement v f
  | false => rfl

/-- One step of the loop over the complements of the other side. -/
def complemented (p : PmpCoreProfileInfo) (it : Uid × UInt32) : PmpCoreProfileInfo :=
  if it.1 = p.complement ∧ it.2 = p.version then p.enableByComplement else p

@[simp] theorem complemented_mLibInfo (p : PmpCoreProfileInfo) (it : Uid × UInt32) :
    (p.complemented it).mLibInfo = p.mLibInfo := by
  rw [complemented]
  split <;> rfl

end PmpCoreProfileInfo

namespace PmpCore

/-- A loop over `mProfiles` that leaves what the repository says. -/
def update (c : PmpCore) (f : PmpCoreProfileInfo → PmpCoreProfileInfo)
    (hf : ∀ p, (f p).mLibInfo = p.mLibInfo) : PmpCore where
  mRepository := c.mRepository
  mPlatform := c.mPlatform
  mProfiles := c.mProfiles.map f
  loaded := by
    rw [← c.loaded, List.map_map]
    exact List.map_congr_left fun p _ => hf p

def disableByComplementAll (c : PmpCore) : PmpCore :=
  c.update (·.disableByComplement) fun _ => rfl

def onLockAll (c : PmpCore) : PmpCore := c.update (·.lock) fun _ => rfl

/-- After it the other core is asked for its profiles. -/
def resetProfilesState (c : PmpCore) : PmpCore := c.disableByComplementAll.onLockAll

/-- What the other core is answered. -/
def getAvailableProfileComplements (c : PmpCore) : List (Uid × UInt32) :=
  c.mProfiles.map fun it => (it.uid, it.version)

def getAvailbleProfileComplementsResponse (c : PmpCore) (complements : List (Uid × UInt32)) :
    PmpCore :=
  complements.foldl (fun c it => c.update (·.complemented it) (·.complemented_mLibInfo it)) c

/-- The loops that lock and unlock profiles, and that enable and disable them by client. -/
def change (c : PmpCore) (f : Flag) (v : Bool) (selected : LibInfo → Bool) : PmpCore :=
  c.update (fun p => if selected p.mLibInfo then p.set v f else p) fun p =>
    p.mLibInfo_ite v (selected p.mLibInfo) f

/-- `getProfileLibPath`: what `path` is afterwards, and what is returned. The number of the
version that has been found starts at 0. -/
def getProfileLibPath (c : PmpCore) (uid : Uid) (path : List Char) : List Char × Bool :=
  let found := c.mProfiles.foldl (fun found it =>
    if it.uid = uid ∧ found.2 < it.version then (it.library, it.version) else found)
    (path, (0 : UInt32))
  (found.1, found.2 ≠ 0)

end PmpCore

/-! ## Two cores -/

abbrev PmpCores := Side → PmpCore

inductive Operation
  | reloadProfilesFromRepository
  | resetProfilesState
  | getAvailbleProfileComplementsResponse
  | change (f : Flag) (v : Bool) (selected : LibInfo → Bool)

namespace PmpCores

/-- The operations of the core of one side; the other side has answered with its profiles. -/
def operate (w : PmpCores) (i : Side) : Operation → PmpCore
  | .reloadProfilesFromRepository =>
    .reloadProfilesFromRepository (w i).mRepository (w i).mPlatform
  | .resetProfilesState => (w i).resetProfilesState
  | .getAvailbleProfileComplementsResponse =>
    (w i).getAvailbleProfileComplementsResponse (w i.other).getAvailableProfileComplements
  | .change f v selected => (w i).change f v selected

def step (w : PmpCores) (a : Side × Operation) : PmpCores :=
  Function.update w a.1 (w.operate a.1 a.2)

def init (mRepository : Side → ProfileDatabase) (mPlatform : Side → List Char) : PmpCores :=
  fun i => .reloadProfilesFromRepository (mRepository i) (mPlatform i)

/-- The cores after these operations, in any order of the sides. -/
def after (mRepository : Side → ProfileDatabase) (mPlatform : Side → List Char)
    (as : List (Side × Operation)) : PmpCores :=
  as.foldl step (init mRepository mPlatform)

/-- The side has had the list of the other one, and has not reset or reloaded its profiles since. -/
def HasExchanged (as : List (Side × Operation)) (i : Side) : Prop :=
  ∃ bs cs, as = bs ++ (i, .getAvailbleProfileComplementsResponse) :: cs ∧
    (i, .resetProfilesState) ∉ cs ∧ (i, .reloadProfilesFromRepository) ∉ cs

/-! ## What a library has to be -/

/-- The libraries that the core of the side can load. -/
def libraries (mRepository : Side → ProfileDatabase) (mPlatform : Side → List Char) (i : Side) :
    List LibInfo :=
  (mRepository i).getAllLibs.filter (mPlatform i = ·.platform)

/-- The other side has the complement in the same version. -/
def Held (mRepository : Side → ProfileDatabase) (mPlatform : Side → List Char) (i : Side)
    (l : LibInfo) : Prop :=
  ∃ l' ∈ libraries mRepository mPlatform i.other, l'.uid = l.complement ∧ l'.version = l.version

instance (mRepository : Side → ProfileDatabase) (mPlatform : Side → List Char) (i : Side)
    (l : LibInfo) : Decidable (Held mRepository mPlatform i l) :=
  inferInstanceAs (Decidable (∃ l' ∈ libraries mRepository mPlatform i.other,
    l'.uid = l.complement ∧ l'.version = l.version))

/-- The first of the profile's libraries with the greatest version. -/
def newest (libs : List LibInfo) (uid : Uid) : Option LibInfo :=
  (libs.filter (·.uid = uid)).argmax (·.version.toNat)

/-- The newest library of the profile, which has a version other than 0, is the file of one whose
complement the other side has in the same version. -/
def NewestHeld (mRepository : Side → ProfileDatabase) (mPlatform : Side → List Char) (i : Side)
    (uid : Uid) : Prop :=
  ∃ l ∈ newest (libraries mRepository mPlatform i) uid, l.version ≠ 0 ∧
    ∃ l' ∈ libraries mRepository mPlatform i, l'.uid = uid ∧ l'.path = l.path ∧
      Held mRepository mPlatform i l'

instance (mRepository : Side → ProfileDatabase) (mPlatform : Side → List Char) (i : Side)
    (uid : Uid) : Decidable (NewestHeld mRepository mPlatform i uid) :=
  inferInstanceAs (Decidable (∃ l ∈ newest (libraries mRepository mPlatform i) uid,
    l.version ≠ 0 ∧ ∃ l' ∈ libraries mRepository mPlatform i,
      l'.uid = uid ∧ l'.path = l.path ∧ Held mRepository mPlatform i l'))

/-- The path of a library of the profile is returned that is enabled by its complement, which the
other side has in the same version. -/
def Loads (w : PmpCores) (i : Side) (uid : Uid) (path : List Char) : Prop :=
  ∃ p ∈ (w i).mProfiles, p.uid = uid ∧ p.mEnabledByComplement = true ∧
    (∃ q ∈ (w i.other).mProfiles, q.uid = p.complement ∧ q.version = p.version) ∧
    (w i).getProfileLibPath uid path = (p.library, true)

instance (w : PmpCores) (i : Side) (uid : Uid) (path : List Char) :
    Decidable (w.Loads i uid path) :=
  inferInstanceAs (Decidable (∃ p ∈ (w i).mProfiles, p.uid = uid ∧
    p.mEnabledByComplement = true ∧
    (∃ q ∈ (w i.other).mProfiles, q.uid = p.complement ∧ q.version = p.version) ∧
    (w i).getProfileLibPath uid path = (p.library, true)))

end PmpCores

end IviLink.ProfileManager.Repository
