import IviLink.Ipc.BufferHelpers
import IviLink.Lib.FirstEntries

/-!
# The messages between the application library and the profile manager

`CIpcProtocol` is the end in an application and `PmpIpcProtocol` the one in the profile manager.
A message is a header, with a type and a size, and that many bytes behind it, into which the
arguments of a call are written in turn. Both ends write over what is left in a buffer that they
keep, and give only its beginning to `asyncRequest`. At the other end the type selects what is
read, and which handler gets it. Each direction has its own types.

Uids and strings are their characters.
-/

namespace IviLink.ProfileManager.Ipc

open IviLink.Lib IviLink.Ipc.Helpers

/-! ## Messages -/

/-- `iviLink::BaseUid` -/
abbrev Uid := List UInt8

/-- `std::map<std::string, std::string>`: its entries in the order of their keys. -/
structure StringMap where
  entries : List (List UInt8 × List UInt8)
  ordered : entries.Pairwise fun e e' => compare e.1 e'.1 = .lt
  deriving DecidableEq

/-- The map after `std::inserter` has got these entries. -/
def StringMap.inserter (entries : List (List UInt8 × List UInt8)) : StringMap :=
  ⟨(insertAll compare entries).toList, Std.TreeMap.ordered_keys_toList⟩

/-- Messages from PMAL to PMP -/
inductive ePmalPmpMessages
  | PMAL_PMP_GENERATE_PIUID
  | PMAL_PMP_RELEASE_PIUID
  | PMAL_PMP_CREATE_PROFILE
  | PMAL_PMP_PROFILE_DIED
  | PMAL_PMP_DISABLE_BY_UID
  | PMAL_PMP_ENABLE_BY_UID
  | PMAL_PMP_ENABLE_ALL
  | PMAL_PMP_GET_PROFILE_LIB_PATH
  | PMAL_PMP_FIND_PROFILES
  | PMAL_PMP_READY_TO_SERVE
  deriving DecidableEq, Repr

def ePmalPmpMessages.code : ePmalPmpMessages → UInt16
  | .PMAL_PMP_GENERATE_PIUID => 1
  | .PMAL_PMP_RELEASE_PIUID => 2
  | .PMAL_PMP_CREATE_PROFILE => 3
  | .PMAL_PMP_PROFILE_DIED => 4
  | .PMAL_PMP_DISABLE_BY_UID => 5
  | .PMAL_PMP_ENABLE_BY_UID => 6
  | .PMAL_PMP_ENABLE_ALL => 7
  | .PMAL_PMP_GET_PROFILE_LIB_PATH => 8
  | .PMAL_PMP_FIND_PROFILES => 9
  | .PMAL_PMP_READY_TO_SERVE => 10

def ePmalPmpMessages.ofCode (code : UInt16) : Option ePmalPmpMessages :=
  [.PMAL_PMP_GENERATE_PIUID, .PMAL_PMP_RELEASE_PIUID, .PMAL_PMP_CREATE_PROFILE,
    .PMAL_PMP_PROFILE_DIED, .PMAL_PMP_DISABLE_BY_UID, .PMAL_PMP_ENABLE_BY_UID,
    .PMAL_PMP_ENABLE_ALL, .PMAL_PMP_GET_PROFILE_LIB_PATH, .PMAL_PMP_FIND_PROFILES,
    .PMAL_PMP_READY_TO_SERVE].find? fun t => t.code = code

@[simp] theorem ePmalPmpMessages.ofCode_code (t : ePmalPmpMessages) : ofCode t.code = some t := by
  cases t <;> rfl

/-- Messages from PMP to PMAL -/
inductive ePmpPmalMessages
  | PMP_PMAL_GENERATE_PIUID
  | PMP_PMAL_CREATE_PROFILE
  | PMP_PMAL_PROFILE_DIED
  | PMP_PMAL_INCOMMING_PROFILE
  | PMP_PMAL_DISABLE_BY_UID
  | PMP_PMAL_ENABLE_BY_UID
  | PMP_PMAL_GET_PROFILE_LIB_PATH
  | PMP_PMAL_FIND_PROFILES
  deriving DecidableEq, Repr

def ePmpPmalMessages.code : ePmpPmalMessages → UInt16
  | .PMP_PMAL_GENERATE_PIUID => 1
  | .PMP_PMAL_CREATE_PROFILE => 2
  | .PMP_PMAL_PROFILE_DIED => 3
  | .PMP_PMAL_INCOMMING_PROFILE => 4
  | .PMP_PMAL_DISABLE_BY_UID => 5
  | .PMP_PMAL_ENABLE_BY_UID => 6
  | .PMP_PMAL_GET_PROFILE_LIB_PATH => 7
  | .PMP_PMAL_FIND_PROFILES => 8

def ePmpPmalMessages.ofCode (code : UInt16) : Option ePmpPmalMessages :=
  [.PMP_PMAL_GENERATE_PIUID, .PMP_PMAL_CREATE_PROFILE, .PMP_PMAL_PROFILE_DIED,
    .PMP_PMAL_INCOMMING_PROFILE, .PMP_PMAL_DISABLE_BY_UID, .PMP_PMAL_ENABLE_BY_UID,
    .PMP_PMAL_GET_PROFILE_LIB_PATH, .PMP_PMAL_FIND_PROFILES].find? fun t => t.code = code

@[simp] theorem ePmpPmalMessages.ofCode_code (t : ePmpPmalMessages) : ofCode t.code = some t := by
  cases t <;> rfl

/-- `sizeof(MessageHeader)`, and so `sizeof(PmMessage)`: both are packed. -/
def sizeofHeader : UInt32 := 6

structure PmMessage where
  type : UInt16
  size : UInt32
  /-- What is in memory behind the header. -/
  data : List UInt8
  deriving DecidableEq, Repr

/-- `reinterpret_cast<PmMessage const*>(pPayload)` -/
def PmMessage.ofPayload (pPayload : List UInt8) : Option PmMessage :=
  if pPayload.length < sizeofHeader.toNat then none
  else some ⟨ofLE16 (pPayload.take 2), ofLE32 ((pPayload.drop 2).take 4), pPayload.drop 6⟩

/-! ## Writing -/

/-- The size of the buffers of `CBufferManager`. -/
def BUFFER_SIZE : UInt32 := 4096

/-- What `asyncRequest` gets. -/
structure Request where
  writeBuf : List UInt8
  reqSize : UInt32
  deriving DecidableEq, Repr

/-- The bytes that are sent. -/
def Request.payload (req : Request) : List UInt8 := req.writeBuf.take req.reqSize.toNat

/-- The values one after the other, up to the first error. -/
def writeFields : List Value → CBufferWriter → CBufferWriter.Result
  | [], w => (true, w)
  | v :: rest, w => CBufferWriter.andThen (CBufferWriter.write v w) (writeFields rest)

/-- What all messages have in common. Nothing is sent after an error. -/
def request (type : UInt16) (fields : List Value) (writeBuf : List UInt8) : Option Request :=
  let r := writeFields fields
    (.new (writeBuf.drop sizeofHeader.toNat) (BUFFER_SIZE - sizeofHeader))
  if r.1 then
    some ⟨le16 type ++ le32 r.2.mUsedSize ++ r.2.mpBuffer, sizeofHeader + r.2.mUsedSize⟩
  else none

def uidField (uid : Uid) : Value := ⟨.value .uid, uid⟩

def stringField (str : List UInt8) : Value := ⟨.value .string, str⟩

def boolField (b : Bool) : Value := ⟨.value (.int .one), if b then (1 : BitVec 8) else 0⟩

/-! ## Reading -/

/-- What a message leads to. -/
inductive Received (κ : Type)
  /-- The calls of the handlers. -/
  | calls (made : List κ)
  /-- `assert` fails. -/
  | aborted
  /-- A byte is looked at that is not in the message. -/
  | beyond
  deriving DecidableEq, Repr

variable {κ : Type}

/-- The arguments are read, and the handler is called if all of them could be. -/
def process (rd : Read (List κ)) (req : PmMessage) : Received κ :=
  match (rd (.new (req.data.take req.size.toNat) req.size)).1 with
  | .ok made => .calls made
  | .error => .calls []
  | .beyond _ => .beyond

/-- `OnAsyncRequest`, up to the `switch`. -/
def onAsyncRequest (switch : PmMessage → Received κ) (pPayload : List UInt8)
    (payloadSize : UInt32) : Received κ :=
  match PmMessage.ofPayload pPayload with
  | none => .beyond
  | some req =>
    if req.size.toNat + sizeofHeader.toNat = payloadSize.toNat then switch req else .aborted

def readBool : Read Bool := do
  let b ← CBufferReader.readInt .one
  return b ≠ 0

end IviLink.ProfileManager.Ipc

/-! ## The profile manager -/

namespace IviLink.PMP.Ipc

open IviLink.Ipc.Helpers IviLink.Ipc.Helpers.CBufferReader IviLink.ProfileManager.Ipc

abbrev DirectionID := Int32

/-- The calls of `IPmpPimForIpc` and of `IPmpCoreForIpc`. -/
inductive HandlerCall
  | generatePIUID (dirId : DirectionID)
  | releasePIUID (piuid : Uid) (dirId : DirectionID)
  | createProfile (profileUid piuid sid : Uid) (dirId : DirectionID)
  | profileDied (piuid : Uid) (dirId : DirectionID)
  | readyToServe (sesUid : Uid) (dirId : DirectionID)
  | disableByClient (uid : Uid) (dirId : DirectionID)
  | enableByClient (uid : Uid) (dirId : DirectionID)
  | enableByClientAll (dirId : DirectionID)
  | getProfileLibPath (uid : Uid) (dirId : DirectionID)
  | findProfiles (uid : Uid) (profileParameters : StringMap) (enabledProfile : Bool)
      (dirId : DirectionID)
  deriving DecidableEq

namespace PmpIpcProtocol

def incomingProfile (profileUid papiUid piuid serviceUID : Uid) : List UInt8 → Option Request :=
  request ePmpPmalMessages.PMP_PMAL_INCOMMING_PROFILE.code
    [uidField profileUid, uidField papiUid, uidField piuid, uidField serviceUID]

def profileDied (piuid : Uid) : List UInt8 → Option Request :=
  request ePmpPmalMessages.PMP_PMAL_PROFILE_DIED.code [uidField piuid]

def generatePIUidResponse (piuid : Uid) : List UInt8 → Option Request :=
  request ePmpPmalMessages.PMP_PMAL_GENERATE_PIUID.code [uidField piuid]

def getProfileLibPathResponse (path : List UInt8) : List UInt8 → Option Request :=
  request ePmpPmalMessages.PMP_PMAL_GET_PROFILE_LIB_PATH.code [stringField path]

def findProfilesResponse (profiles : List Uid) : List UInt8 → Option Request :=
  request ePmpPmalMessages.PMP_PMAL_FIND_PROFILES.code [⟨.container .uid, profiles⟩]

def processGeneratePIUIDRequest (dirId : DirectionID) : Received HandlerCall :=
  .calls [.generatePIUID dirId]

/-- A request with one uid. -/
def processUid (call : Uid → HandlerCall) : PmMessage → Received HandlerCall := process do
  let uid ← readUid
  return [call uid]

def processReleasePIUIDRequest (req : PmMessage) (dirId : DirectionID) : Received HandlerCall :=
  processUid (.releasePIUID · dirId) req

def processCreateProfileRequest (req : PmMessage) (dirId : DirectionID) : Received HandlerCall :=
  process (do
    let uid ← readUid
    let piuid ← readUid
    let sid ← readUid
    return [.createProfile uid piuid sid dirId]) req

def processProfileDiedRequest (req : PmMessage) (dirId : DirectionID) : Received HandlerCall :=
  processUid (.profileDied · dirId) req

def processDisableByUidRequest (req : PmMessage) (dirId : DirectionID) : Received HandlerCall :=
  processUid (.disableByClient · dirId) req

def processEnableByUidRequest (req : PmMessage) (dirId : DirectionID) : Received HandlerCall :=
  processUid (.enableByClient · dirId) req

def processEnableAllRequest (dirId : DirectionID) : Received HandlerCall :=
  .calls [.enableByClientAll dirId]

def processGetProfileLibPathRequest (req : PmMessage) (dirId : DirectionID) :
    Received HandlerCall :=
  processUid (.getProfileLibPath · dirId) req

def processFindProfilesRequest (req : PmMessage) (dirId : DirectionID) : Received HandlerCall :=
  process (do
    let uid ← readUid
    let profileParameters ← readMap readString readString
    let enabledProfile ← readBool
    return [.findProfiles uid (.inserter profileParameters) enabledProfile dirId]) req

def processReadyToServeRequest (req : PmMessage) (dirId : DirectionID) : Received HandlerCall :=
  processUid (.readyToServe · dirId) req

def OnAsyncRequest (dirId : DirectionID) : List UInt8 → UInt32 → Received HandlerCall :=
  onAsyncRequest fun req =>
    match ePmalPmpMessages.ofCode req.type with
    | some .PMAL_PMP_GENERATE_PIUID => processGeneratePIUIDRequest dirId
    | some .PMAL_PMP_RELEASE_PIUID => processReleasePIUIDRequest req dirId
    | some .PMAL_PMP_CREATE_PROFILE => processCreateProfileRequest req dirId
    | some .PMAL_PMP_PROFILE_DIED => processProfileDiedRequest req dirId
    | some .PMAL_PMP_DISABLE_BY_UID => processDisableByUidRequest req dirId
    | some .PMAL_PMP_ENABLE_BY_UID => processEnableByUidRequest req dirId
    | some .PMAL_PMP_ENABLE_ALL => processEnableAllRequest dirId
    | some .PMAL_PMP_GET_PROFILE_LIB_PATH => processGetProfileLibPathRequest req dirId
    | some .PMAL_PMP_FIND_PROFILES => processFindProfilesRequest req dirId
    | some .PMAL_PMP_READY_TO_SERVE => processReadyToServeRequest req dirId
    | none => .calls []

end PmpIpcProtocol

end IviLink.PMP.Ipc

/-! ## The application -/

namespace IviLink.PMAL.Ipc

open IviLink.Ipc.Helpers IviLink.Ipc.Helpers.CBufferReader IviLink.ProfileManager.Ipc

/-- The calls of `IPMALPIMToIpc`, and the signals of `SyncRequestsData`. -/
inductive HandlerCall
  | profileDied (piuid : Uid)
  | incomingProfile (uid papiUid piuid sid : Uid)
  | generatePIUidResponseSignal (piuid : Uid)
  | getProfileLibPathResponseSignal (path : List UInt8)
  | findProfilesResponseSignal (profiles : List Uid)
  deriving DecidableEq

structure CPMALComponentMgr where
  /-- Whether there is one. -/
  getPIMToIpc : Bool
  deriving DecidableEq, Repr

/-- The call, if the PIM can be asked for. -/
def toPim (mgr : Option CPMALComponentMgr) (call : HandlerCall) : List HandlerCall :=
  match mgr with
  | none => []
  | some mgr => if mgr.getPIMToIpc then [call] else []

namespace CIpcProtocol

def generatePIUID : List UInt8 → Option Request :=
  request ePmalPmpMessages.PMAL_PMP_GENERATE_PIUID.code []

def releasePIUID (piuid : Uid) : List UInt8 → Option Request :=
  request ePmalPmpMessages.PMAL_PMP_RELEASE_PIUID.code [uidField piuid]

def createProfile (profileUid piuid sid : Uid) : List UInt8 → Option Request :=
  request ePmalPmpMessages.PMAL_PMP_CREATE_PROFILE.code
    [uidField profileUid, uidField piuid, uidField sid]

def profileDied (piuid : Uid) : List UInt8 → Option Request :=
  request ePmalPmpMessages.PMAL_PMP_PROFILE_DIED.code [uidField piuid]

def readyToServe (sesId : Uid) : List UInt8 → Option Request :=
  request ePmalPmpMessages.PMAL_PMP_READY_TO_SERVE.code [uidField sesId]

def disableByUid (uid : Uid) : List UInt8 → Option Request :=
  request ePmalPmpMessages.PMAL_PMP_DISABLE_BY_UID.code [uidField uid]

def enableByUid (uid : Uid) : List UInt8 → Option Request :=
  request ePmalPmpMessages.PMAL_PMP_ENABLE_BY_UID.code [uidField uid]

def enableAll : List UInt8 → Option Request :=
  request ePmalPmpMessages.PMAL_PMP_ENABLE_ALL.code []

def getProfileLibPath (uid : Uid) : List UInt8 → Option Request :=
  request ePmalPmpMessages.PMAL_PMP_GET_PROFILE_LIB_PATH.code [uidField uid]

def findProfiles (profileApiUid : Uid) (profileParameters : StringMap) (enabledProfiles : Bool) :
    List UInt8 → Option Request :=
  request ePmalPmpMessages.PMAL_PMP_FIND_PROFILES.code
    [uidField profileApiUid, ⟨.map .string .string, profileParameters.entries⟩,
      boolField enabledProfiles]

def processProfileDiedRequest (mgr : Option CPMALComponentMgr) :
    PmMessage → Received HandlerCall := process do
  let piuid ← readUid
  return toPim mgr (.profileDied piuid)

def processIncomingProfileRequest (mgr : Option CPMALComponentMgr) :
    PmMessage → Received HandlerCall := process do
  let uid ← readUid
  let papiUid ← readUid
  let piuid ← readUid
  let sid ← readUid
  return toPim mgr (.incomingProfile uid papiUid piuid sid)

/-- What the responses have in common: one with another type or with no bytes is dropped. -/
def processResponse (type : ePmpPmalMessages) (rd : Read (List HandlerCall)) (req : PmMessage) :
    Received HandlerCall :=
  if req.type ≠ type.code then .calls []
  else if req.size = 0 then .calls []
  else process rd req

def processGeneratePIUidResponse : PmMessage → Received HandlerCall :=
  processResponse .PMP_PMAL_GENERATE_PIUID do
    let piuid ← readUid
    return [.generatePIUidResponseSignal piuid]

def processGetProfileLibPathResponse : PmMessage → Received HandlerCall :=
  processResponse .PMP_PMAL_GET_PROFILE_LIB_PATH do
    let path ← readString
    return [.getProfileLibPathResponseSignal path]

def processFindProfilesResponse : PmMessage → Received HandlerCall :=
  processResponse .PMP_PMAL_FIND_PROFILES do
    let profiles ← readContainer readUid
    return [.findProfilesResponseSignal profiles]

def OnAsyncRequest (mgr : Option CPMALComponentMgr) :
    List UInt8 → UInt32 → Received HandlerCall :=
  onAsyncRequest fun req =>
    match ePmpPmalMessages.ofCode req.type with
    | some .PMP_PMAL_PROFILE_DIED => processProfileDiedRequest mgr req
    | some .PMP_PMAL_INCOMMING_PROFILE => processIncomingProfileRequest mgr req
    | some .PMP_PMAL_GENERATE_PIUID => processGeneratePIUidResponse req
    | some .PMP_PMAL_GET_PROFILE_LIB_PATH => processGetProfileLibPathResponse req
    | some .PMP_PMAL_FIND_PROFILES => processFindProfilesResponse req
    -- "Unknown request" is logged.
    | _ => .calls []

end CIpcProtocol

end IviLink.PMAL.Ipc
