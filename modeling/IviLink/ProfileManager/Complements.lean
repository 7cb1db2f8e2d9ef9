import IviLink.L0.Peers
import IviLink.Lib.Bytes
import IviLink.Lib.Duplex

/-!
# Which profiles have a complement

When two profile managers are connected, each core disables its profiles, asks the
other one for its list, and enables the profiles whose complement is in it, in the
same version. A core answers requests whatever its own state is.

The list goes over the connection in bytes. The hosts are little-endian, and `int` has
32 bits. Where the code would write or read outside of an array, or give an `int` a value
beyond its range, there is no next step: what it does then is not defined by the language.
-/

namespace IviLink.ProfileManager.Complements

open IviLink.L0 (Side)
open IviLink.Lib

/-- The string in `BaseUid`. -/
abbrev Uid := List UInt8

structure LibInfo where
  uid : Uid
  complement : Uid
  version : UInt32
  platform : List UInt8
  deriving DecidableEq, Repr

structure PmpCoreProfileInfo where
  mLibInfo : LibInfo
  mEnabledByComplement : Bool
  mLocked : Bool
  deriving DecidableEq, Repr

namespace PmpCoreProfileInfo

/-- A profile as it comes from the repository. -/
def init (libInfo : LibInfo) : PmpCoreProfileInfo := ⟨libInfo, false, false⟩

def enableByComplement (p : PmpCoreProfileInfo) : PmpCoreProfileInfo :=
  { p with mEnabledByComplement := true }

def disableByComplement (p : PmpCoreProfileInfo) : PmpCoreProfileInfo :=
  { p with mEnabledByComplement := false }

def lock (p : PmpCoreProfileInfo) : PmpCoreProfileInfo := { p with mLocked := true }

end PmpCoreProfileInfo

/-- The requests of the core, with `data`. -/
inductive PMPFrame
  | PMP_REQ_CORE_GET_COMPLEMENTS_REQUEST
  | PMP_REQ_CORE_GET_COMPLEMENTS_RESPONSE (data : List UInt8)
  deriving DecidableEq, Repr

/-! ## The list in bytes -/

/-- `sizeof(PMPFrame)` -/
def PMP_FRAME_SIZE : Nat := 16

def INT_MAX : Nat := 2147483647

def hton32 (x : UInt32) : UInt32 := swap32 x

def ntoh32 (x : UInt32) : UInt32 := swap32 x

/-- The string with the byte that ends it, and its size in front. -/
def stringToBuffer (str : List UInt8) : List UInt8 :=
  le32 (hton32 (UInt32.ofNat (str.length + 1))) ++ str ++ [0]

def stringInBufSize (str : List UInt8) : Nat := str.length + 1 + 4

/-- `size` of the response, which is of type `UInt32`. -/
def responseSize (complements : List (Uid × UInt32)) : UInt32 :=
  complements.foldl (fun size it => size + UInt32.ofNat (stringInBufSize it.1) + 4)
    (UInt32.ofNat (PMP_FRAME_SIZE + 4))

def entryToBuffer (it : Uid × UInt32) : List UInt8 := stringToBuffer it.1 ++ le32 (hton32 it.2)

/-- What is written to `data` of the response. -/
def responseData (complements : List (Uid × UInt32)) : List UInt8 :=
  le32 (hton32 (UInt32.ofNat complements.length)) ++ complements.flatMap entryToBuffer

/-- The array has `size` bytes, and has to have room for what is written. -/
def getAvailableProfileComplementsResponse (complements : List (Uid × UInt32)) : Option PMPFrame :=
  if PMP_FRAME_SIZE + (responseData complements).length ≤ (responseSize complements).toNat then
    some (.PMP_REQ_CORE_GET_COMPLEMENTS_RESPONSE (responseData complements))
  else none

/-- The integer at the start of what is left, and what comes behind it. -/
def readUInt32 (rest : List UInt8) : Option (UInt32 × List UInt8) :=
  if 4 ≤ rest.length then some (ntoh32 (ofLE32 (rest.take 4)), rest.drop 4) else none

/-- The string at the start of what is left; the size in front is not looked at before one is
taken from it. -/
def bufferToString (rest : List UInt8) : Option (List UInt8) :=
  match readUInt32 rest with
  | none => none
  | some (size, rest) =>
    if (size - 1).toNat ≤ rest.length then some (rest.take (size - 1).toNat) else none

/-- The loop over the entries; `rest` is what is left from `frame->data + pos` on. -/
def readComplements : Nat → Nat → List UInt8 → Option (List (Uid × UInt32))
  | 0, _, _ => some []
  | n + 1, pos, rest =>
    match bufferToString rest with
    | none => none
    | some str =>
      let pos := pos + stringInBufSize str
      match readUInt32 (rest.drop (stringInBufSize str)) with
      | none => none
      | some (version, rest) =>
        if pos + 4 ≤ INT_MAX then (readComplements n (pos + 4) rest).map ((str, version) :: ·)
        else none

def onGetAvailableProfileComplementsResponse (data : List UInt8) : Option (List (Uid × UInt32)) :=
  match readUInt32 data with
  | none => none
  | some (count, rest) => readComplements count.toNat 4 rest

/-! ## The core -/

structure PmpCore where
  mRepository : List LibInfo
  mPlatform : List UInt8
  mProfiles : List PmpCoreProfileInfo

namespace PmpCore

def reloadProfilesFromRepository (c : PmpCore) : PmpCore :=
  { c with mProfiles := (c.mRepository.filter (·.platform = c.mPlatform)).map .init }

def disableByComplementAll (c : PmpCore) : PmpCore :=
  { c with mProfiles := c.mProfiles.map (·.disableByComplement) }

def onLockAll (c : PmpCore) : PmpCore := { c with mProfiles := c.mProfiles.map (·.lock) }

/-- After it the request is sent. -/
def resetProfilesState (c : PmpCore) : PmpCore := c.disableByComplementAll.onLockAll

def getAvailableProfileComplements (c : PmpCore) : List (Uid × UInt32) :=
  c.mProfiles.map fun it => (it.mLibInfo.uid, it.mLibInfo.version)

/-- The loop over the profiles for one complement. -/
def enableComplemented (mProfiles : List PmpCoreProfileInfo) (it : Uid × UInt32) :
    List PmpCoreProfileInfo :=
  mProfiles.map fun pit =>
    if it.1 = pit.mLibInfo.complement ∧ it.2 = pit.mLibInfo.version then pit.enableByComplement
    else pit

/-- `getAvailbleProfileComplementsResponse` -/
def getAvailbleProfileComplementsResponse (c : PmpCore) (complements : List (Uid × UInt32)) :
    PmpCore :=
  { c with mProfiles := complements.foldl enableComplemented c.mProfiles }

def onLostConnection (c : PmpCore) : PmpCore := c.disableByComplementAll

end PmpCore

inductive Operation
  | reloadProfilesFromRepository
  | resetProfilesState
  | onLostConnection
  deriving DecidableEq, Repr

/-- Tells that the core is ready. -/
inductive Notice
  | coreIsReady
  deriving DecidableEq, Repr

namespace PmpCore

def operate (c : PmpCore) : Operation → Reaction PmpCore PMPFrame Notice
  | .reloadProfilesFromRepository => ⟨c.reloadProfilesFromRepository, [], []⟩
  | .resetProfilesState => ⟨c.resetProfilesState, [.PMP_REQ_CORE_GET_COMPLEMENTS_REQUEST], []⟩
  | .onLostConnection => ⟨c.onLostConnection, [], []⟩

def onCoreRequest (c : PmpCore) : PMPFrame → Option (Reaction PmpCore PMPFrame Notice)
  | .PMP_REQ_CORE_GET_COMPLEMENTS_REQUEST =>
    match getAvailableProfileComplementsResponse c.getAvailableProfileComplements with
    | none => none
    | some response => some ⟨c, [response], []⟩
  | .PMP_REQ_CORE_GET_COMPLEMENTS_RESPONSE data =>
    match onGetAvailableProfileComplementsResponse data with
    | none => none
    | some complements =>
      some ⟨c.getAvailbleProfileComplementsResponse complements, [], [.coreIsReady]⟩

end PmpCore

/-! ## Two cores -/

abbrev PmpCores := Duplex Side PmpCore PMPFrame Notice

abbrev Action := Duplex.Action Side Operation Unit

def machine : Machine PmpCore Operation Unit PMPFrame Notice :=
  ⟨fun c op => some (c.operate op), fun c _ x => c.onCoreRequest x⟩

def step (w : PmpCores) (a : Action) : Option PmpCores := Duplex.step machine Side.other w a

/-- The cores as the managers are started: with their profiles loaded. -/
def init (mRepository : Side → List LibInfo) (mPlatform : Side → List UInt8) : PmpCores :=
  ⟨fun i => (PmpCore.mk (mRepository i) (mPlatform i) []).reloadProfilesFromRepository,
    fun _ => [], fun _ => []⟩

/-- All messages have been processed. -/
def Quiet (w : PmpCores) : Prop := ∀ i, w.link i = []

/-- The side has reset its profiles and has neither reloaded them nor lost the connection since. -/
def HasReset (as : List Action) (i : Side) : Prop :=
  ∃ bs cs, as = bs ++ .act i .resetProfilesState :: cs ∧
    .act i .reloadProfilesFromRepository ∉ cs ∧ .act i .onLostConnection ∉ cs

/-- Whoever is the complement of a profile has it as its own. -/
def Symmetric (mRepository : Side → List LibInfo) : Prop :=
  ∀ i, ∀ l ∈ mRepository i, ∀ l' ∈ mRepository i.other, l'.uid = l.complement →
    l'.complement = l.uid

end IviLink.ProfileManager.Complements
