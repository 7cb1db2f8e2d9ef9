import IviLink.L0.Peers
import IviLink.Lib.Duplex

/-!
# The profile manager's core

Every profile of the repository has a complement on the other side. The core keeps
for each of its profiles whether it is locked and whether the client has enabled it;
what is asked for locally is done at once and then announced to the other core.

The core is initialised: the pointers it tests are set. What is left out is enabling
by complement, which none of these operations touches, and the instances that are
unloaded when a profile is disabled; whether a profile has instances is up to the
surroundings.
-/

namespace IviLink.ProfileManager

open IviLink.L0 (Side)
open IviLink.Lib

/-- The string in `BaseUid`. -/
abbrev Uid := List Char

structure LibInfo where
  uid : Uid
  apiUid : Uid
  complement : Uid
  deriving DecidableEq, Repr

/-- What can be changed about a profile. -/
inductive Flag
  | locked
  | enabledByClient
  deriving DecidableEq, Repr

structure PmpCoreProfileInfo where
  mLibInfo : LibInfo
  mEnabledByClient : Bool
  mLocked : Bool
  deriving DecidableEq, Repr

namespace PmpCoreProfileInfo

/-- A profile as it comes from the repository. -/
def init (libInfo : LibInfo) : PmpCoreProfileInfo := ⟨libInfo, true, false⟩

def get (p : PmpCoreProfileInfo) : Flag → Bool
  | .locked => p.mLocked
  | .enabledByClient => p.mEnabledByClient

/-- `lock`, `unlock`, `enableByClient` and `disableByClient`. -/
def set (p : PmpCoreProfileInfo) (v : Bool) : Flag → PmpCoreProfileInfo
  | .locked => { p with mLocked := v }
  | .enabledByClient => { p with mEnabledByClient := v }

@[simp] theorem set_mLibInfo (p : PmpCoreProfileInfo) (v : Bool) (f : Flag) :
    (p.set v f).mLibInfo = p.mLibInfo := by
  cases f <;> rfl

@[simp] theorem get_set_self (p : PmpCoreProfileInfo) (v : Bool) (f : Flag) :
    (p.set v f).get f = v := by
  cases f <;> rfl

theorem get_set_ne (p : PmpCoreProfileInfo) (v : Bool) {f f' : Flag} (h : f' ≠ f) :
    (p.set v f).get f' = p.get f' := by
  cases f <;> cases f' <;> first | rfl | exact absurd rfl h

end PmpCoreProfileInfo

/-- The core requests of the protocol that change profiles. -/
inductive PMPFrame
  | PMP_REQ_CORE_LOCK (id : Uid)
  | PMP_REQ_CORE_UNLOCK (id : Uid)
  | PMP_REQ_CORE_LOCK_ALL
  | PMP_REQ_CORE_UNLOCK_ALL
  | PMP_REQ_CORE_DIS_BY_CLIENT (id : Uid)
  | PMP_REQ_CORE_ENABLE_BY_CLNT (id : Uid)
  | PMP_REQ_CORE_ENABLE_BY_CLNT_ALL
  deriving DecidableEq, Repr

structure PmpCore where
  mProfiles : List PmpCoreProfileInfo

namespace PmpCore

/-- What an operation does, what it announces, and what it returns. -/
abbrev Done := Reaction PmpCore PMPFrame Bool

/-! ## The loops -/

/-- A loop over `mProfiles` that changes the profiles it selects. -/
def change (c : PmpCore) (f : Flag) (v : Bool) (selected : LibInfo → Bool) : PmpCore where
  mProfiles := c.mProfiles.map fun p => if selected p.mLibInfo then p.set v f else p

/-- Changes the profiles of an API; each is announced. `free` is what a profile has to meet. -/
def changeByApiUid (c : PmpCore) (f : Flag) (v : Bool) (request : Uid → PMPFrame)
    (free : Uid → Bool) (id : Uid) : Done :=
  let selected := fun l : LibInfo => decide (l.apiUid = id) && free l.uid
  let lst := (c.mProfiles.map (·.mLibInfo)).filter selected
  ⟨c.change f v selected, lst.map fun l => request l.complement, [!lst.isEmpty]⟩

/-- Changes the profile of this uid; its complement is announced, once. If there is none the id
is taken for the one of an API. -/
def changeByUid (c : PmpCore) (f : Flag) (v : Bool) (request : Uid → PMPFrame)
    (free : Uid → Bool) (id : Uid) : Done :=
  let selected := fun l : LibInfo => decide (l.uid = id)
  match ((c.mProfiles.map (·.mLibInfo)).filter selected).getLast? with
  | none => c.changeByApiUid f v request free id
  | some l => ⟨c.change f v selected, [request l.complement], [true]⟩

/-- Changes all profiles, which is announced. -/
def changeAll (c : PmpCore) (f : Flag) (v : Bool) (request : PMPFrame) : Done :=
  ⟨c.change f v fun _ => true, [request], []⟩

/-! ## Operations -/

def gsAuthProfilePapiUid : Uid :=
  ['A', 'u', 't', 'h', 'e', 'n', 't', 'i', 'c', 'a', 't', 'i', 'o', 'n', 'P', 'r', 'o', 'f', 'i',
    'l', 'e', '_', 'P', 'A', 'P', 'I', '_', 'U', 'I', 'D']

/-- Does nothing when the id is of a profile that has instances; `lockByApiUid` leaves those out
one by one. -/
def lock (c : PmpCore) (hasInstance : Uid → Bool) (id : Uid) : Done :=
  if hasInstance id then ⟨c, [], [false]⟩
  else c.changeByUid .locked true .PMP_REQ_CORE_LOCK (fun uid => !hasInstance uid) id

def unlockByApiUid (c : PmpCore) (id : Uid) : Done :=
  c.changeByApiUid .locked false .PMP_REQ_CORE_UNLOCK (fun _ => true) id

def unlock (c : PmpCore) (id : Uid) : Done :=
  c.changeByUid .locked false .PMP_REQ_CORE_UNLOCK (fun _ => true) id

def lockAll (c : PmpCore) : Done := c.changeAll .locked true .PMP_REQ_CORE_LOCK_ALL

def unlockAll (c : PmpCore) : Done := c.changeAll .locked false .PMP_REQ_CORE_UNLOCK_ALL

def disableByClient (c : PmpCore) (id : Uid) : Done :=
  c.changeByUid .enabledByClient false .PMP_REQ_CORE_DIS_BY_CLIENT (fun _ => true) id

def enableByClient (c : PmpCore) (id : Uid) : Done :=
  c.changeByUid .enabledByClient true .PMP_REQ_CORE_ENABLE_BY_CLNT (fun _ => true) id

def enableByClientAll (c : PmpCore) : Done :=
  c.changeAll .enabledByClient true .PMP_REQ_CORE_ENABLE_BY_CLNT_ALL

def unlockAuthProfile (c : PmpCore) : Done := c.unlockByApiUid gsAuthProfilePapiUid

def unlockBySysCtrlAll (c : PmpCore) : Done := c.unlockAll

inductive Operation
  | lock (hasInstance : Uid → Bool) (id : Uid)
  | unlock (id : Uid)
  | lockAll
  | unlockAll
  | disableByClient (id : Uid)
  | enableByClient (id : Uid)
  | enableByClientAll
  | unlockAuthProfile
  | unlockBySysCtrlAll

def operate (c : PmpCore) : Operation → Done
  | .lock hasInstance id => c.lock hasInstance id
  | .unlock id => c.unlock id
  | .lockAll => c.lockAll
  | .unlockAll => c.unlockAll
  | .disableByClient id => c.disableByClient id
  | .enableByClient id => c.enableByClient id
  | .enableByClientAll => c.enableByClientAll
  | .unlockAuthProfile => c.unlockAuthProfile
  | .unlockBySysCtrlAll => c.unlockBySysCtrlAll

/-! ## Requests of the other side -/

/-- Changes the profile of this uid. Nobody reads what `onLock` and its likes return. -/
def onChange (c : PmpCore) (f : Flag) (v : Bool) (id : Uid) : PmpCore :=
  c.change f v fun l => decide (l.uid = id)

def onLock (c : PmpCore) (id : Uid) : PmpCore := c.onChange .locked true id

def onUnlock (c : PmpCore) (id : Uid) : PmpCore := c.onChange .locked false id

def onLockAll (c : PmpCore) : PmpCore := c.change .locked true fun _ => true

def onUnlockAll (c : PmpCore) : PmpCore := c.change .locked false fun _ => true

def onDisableByClient (c : PmpCore) (id : Uid) : PmpCore := c.onChange .enabledByClient false id

def onEnableByClient (c : PmpCore) (id : Uid) : PmpCore := c.onChange .enabledByClient true id

def onEnableByClientAll (c : PmpCore) : PmpCore := c.change .enabledByClient true fun _ => true

def onCoreRequest (c : PmpCore) : PMPFrame → PmpCore
  | .PMP_REQ_CORE_LOCK id => c.onLock id
  | .PMP_REQ_CORE_UNLOCK id => c.onUnlock id
  | .PMP_REQ_CORE_LOCK_ALL => c.onLockAll
  | .PMP_REQ_CORE_UNLOCK_ALL => c.onUnlockAll
  | .PMP_REQ_CORE_DIS_BY_CLIENT id => c.onDisableByClient id
  | .PMP_REQ_CORE_ENABLE_BY_CLNT id => c.onEnableByClient id
  | .PMP_REQ_CORE_ENABLE_BY_CLNT_ALL => c.onEnableByClientAll

/-! ## What is looked up -/

/-- The first profile of this uid. -/
def find (c : PmpCore) (profUid : Uid) : Option LibInfo :=
  (c.mProfiles.map (·.mLibInfo)).find? (·.uid = profUid)

def getComplementary (c : PmpCore) (profUid : Uid) : Option Uid :=
  (c.find profUid).map (·.complement)

def getPapiUid (c : PmpCore) (profUid : Uid) : Option Uid := (c.find profUid).map (·.apiUid)

end PmpCore

/-! ## Two cores -/

abbrev PmpCores := Duplex Side PmpCore PMPFrame Bool

namespace PmpCores

abbrev Action := Duplex.Action Side PmpCore.Operation Unit

def machine : Machine PmpCore PmpCore.Operation Unit PMPFrame Bool :=
  ⟨fun c op => some (c.operate op), fun c _ x => some ⟨c.onCoreRequest x, [], []⟩⟩

def step (w : PmpCores) (a : Action) : Option PmpCores := Duplex.step machine Side.other w a

/-- The cores as they come from the repositories. -/
def init (libs : Side → List LibInfo) : PmpCores :=
  ⟨fun i => ⟨(libs i).map .init⟩, fun _ => [], fun _ => []⟩

end PmpCores

end IviLink.ProfileManager
