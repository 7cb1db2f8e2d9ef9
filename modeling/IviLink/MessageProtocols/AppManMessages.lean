import IviLink.Utils.Serialize

/-!
# The messages between an application and the application manager

`CAppManProtoClient` is the end in the application and `CAppManProtoServer` the one in the
application manager. A message has its size, its type and, but for some, a pid in front. The types
of the two directions are told apart by who reads them.

The responses are left out. So is what the handlers do: a call is only recorded.
-/

namespace IviLink.AppMan.Ipc

open IviLink.Lib IviLink.Serialize

/-- `Service::Uid` and `Service::SessionUid` -/
abbrev ServiceUid := List UInt8

abbrev DirectionID := Int32

/-- `pid_t` -/
abbrev Pid := Int32

/-- The bytes of a `pid_t`. -/
def pidBytes (pid : Pid) : List UInt8 := le32 pid.toUInt32

def readPid (pPayload : List UInt8) (pos : UInt32) : Option Pid :=
  (readUInt32 pPayload pos).map UInt32.toInt32

/-! ## To the application manager -/

def C_PROTO_INIT_APP : UInt8 := 0
def C_PROTO_USE_SERV : UInt8 := 1
def C_PROTO_REG_SERV : UInt8 := 2
def C_PROTO_IS_LINK_ALIVE : UInt8 := 0x1D

namespace CAppManProtoClient

def initApplication (pid : Pid) (listOfSupportedServices : List ServiceUid) :
    Option (List UInt8) :=
  let count := UInt32.ofNat listOfSupportedServices.length
  let size := listOfSupportedServices.foldl (fun size it => size + stringInBufSize it)
    (4 + 1 + 4 + 4)
  message size (.value (le32 size) :: .value [C_PROTO_INIT_APP] :: .value (pidBytes pid) ::
    .value (le32 count) :: listOfSupportedServices.map .string)

/-- The size has no term for the type. -/
def useService (pid : Pid) (service : ServiceUid) (use : Bool) : Option (List UInt8) :=
  let size := 4 + 4 + stringInBufSize service + 1
  message size [.value (le32 size), .value [C_PROTO_USE_SERV], .value (pidBytes pid),
    .string service, .value [if use then 1 else 0]]

/-- The size has no term for the type. -/
def registerService (pid : Pid) (service : ServiceUid) : Option (List UInt8) :=
  let size := 4 + 4 + stringInBufSize service
  message size [.value (le32 size), .value [C_PROTO_REG_SERV], .value (pidBytes pid),
    .string service]

end CAppManProtoClient

/-- The calls of `IAppManProto`, and of the getter of the state of the link. -/
inductive ServerCall
  | isLinkAlive
  | initApplication (pid : Pid) (list : List ServiceUid)
  | useService (pid : Pid) (service : ServiceUid) (use : Bool)
  | registerService (pid : Pid) (service : ServiceUid)
  deriving DecidableEq, Repr

structure CAppManProtoServer where
  mpServer : Bool
  mClients : Pid → Option DirectionID

namespace CAppManProtoServer

/-- The loop over the services: `pos` goes behind each. -/
def readList (pPayload : List UInt8) (pos : UInt32) : Nat → Option (List ServiceUid)
  | 0 => return []
  | n + 1 => do
    let service ← bufferToString pPayload pos
    let list ← readList pPayload (pos + stringInBufSize service) n
    return service :: list

/-- The direction of a pid that is not there yet is kept. -/
def insertClient (s : CAppManProtoServer) (pid : Pid) (dirId : DirectionID) : CAppManProtoServer :=
  { s with mClients := fun p => if p = pid then (s.mClients p).or (some dirId) else s.mClients p }

/-- What is behind the pid. -/
def readCall (type : UInt8) (pid : Pid) (pPayload : List UInt8) (pos : UInt32) :
    Option (List ServerCall) :=
  if type = C_PROTO_INIT_APP then do
    let count ← readUInt32 pPayload pos
    let list ← readList pPayload (pos + 4) count.toNat
    return [.initApplication pid list]
  else if type = C_PROTO_USE_SERV then do
    let service ← bufferToString pPayload pos
    let use ← readUInt8 pPayload (pos + stringInBufSize service)
    return [.useService pid service (use ≠ 0)]
  else if type = C_PROTO_REG_SERV then do
    let service ← bufferToString pPayload pos
    return [.registerService pid service]
  else return []

def OnRequest (s : CAppManProtoServer) (pPayload : List UInt8) (dirId : DirectionID) :
    Option (CAppManProtoServer × List ServerCall) :=
  if s.mpServer then do
    let _size ← readUInt32 pPayload 0
    let type ← readUInt8 pPayload 4
    if type = C_PROTO_IS_LINK_ALIVE then return (s, [.isLinkAlive])
    else do
      let pid ← readPid pPayload 5
      let calls ← readCall type pid pPayload 9
      return (s.insertClient pid dirId, calls)
  else return (s, [])

end CAppManProtoServer

/-! ## To the application -/

def C_PROTO_SES_REQ : UInt8 := 0
def C_PROTO_APP_LAN : UInt8 := 1
def C_PROTO_CHK_CON : UInt8 := 2
def C_PROTO_WAIT_SERV_REQ : UInt8 := 3
def C_PROTO_LINK_UP_NOTIFY : UInt8 := 0x1E
def C_PROTO_LINK_DOWN_NOTIFY : UInt8 := 0x1F

namespace CAppManProtoServer

/-- Nothing is sent to a pid that is not known. -/
def sessionRequest (s : CAppManProtoServer) (pid : Pid) (session service : ServiceUid) :
    Option (Option (List UInt8)) :=
  match s.mClients pid with
  | none => some none
  | some _ =>
    let size := 4 + 4 + 1 + stringInBufSize session + stringInBufSize service
    (message size [.value (le32 size), .value [C_PROTO_SES_REQ], .value (pidBytes pid),
      .string session, .string service]).map some

/-- The pid is not in the message. -/
def waitingServiceRequest (s : CAppManProtoServer) (pid : Pid) (service : ServiceUid) :
    Option (Option (List UInt8)) :=
  match s.mClients pid with
  | none => some none
  | some _ =>
    let size := 4 + 1 + stringInBufSize service
    (message size [.value (le32 size), .value [C_PROTO_WAIT_SERV_REQ], .string service]).map some

end CAppManProtoServer

/-- The calls of `IAppManProtoAmpToApp`. -/
inductive ClientCall
  | sessionRequest (pid : Pid) (session service : ServiceUid)
  | waitingServiceRequest (pid : Pid) (service : ServiceUid)
  | getAppLaunchInfo (pid : Pid)
  | onLinkUpNotify
  | onLinkDownNotify
  deriving DecidableEq, Repr

structure CAppManProtoClient where
  mpHandler : Bool
  mAppInited : Bool
  /-- `tSessionRequestInfo` -/
  mSessionReqsList : List (Pid × ServiceUid × ServiceUid)
  deriving DecidableEq, Repr

namespace CAppManProtoClient

/-- A request for a session waits until the application is there. -/
def receiveSessionRequest (c : CAppManProtoClient) (pid : Pid) (session service : ServiceUid) :
    CAppManProtoClient × List ClientCall :=
  if c.mAppInited then (c, [.sessionRequest pid session service])
  else ({ c with mSessionReqsList := c.mSessionReqsList ++ [(pid, session, service)] }, [])

def OnRequest (c : CAppManProtoClient) (pPayload : List UInt8) :
    Option (CAppManProtoClient × List ClientCall) :=
  if c.mpHandler then do
    let _size ← readUInt32 pPayload 0
    let type ← readUInt8 pPayload 4
    let pid ← readPid pPayload 5
    let pos : UInt32 := 9
    if type = C_PROTO_SES_REQ then do
      let session ← bufferToString pPayload pos
      let pos := pos + stringInBufSize session
      let service ← bufferToString pPayload pos
      return c.receiveSessionRequest pid session service
    else if type = C_PROTO_APP_LAN then return (c, [.getAppLaunchInfo pid])
    -- Only the response is more than without a branch: it has the pid.
    else if type = C_PROTO_CHK_CON then return (c, [])
    else return (c, [])
  else return (c, [])

/-- There is no question whether there is a handler. -/
def OnAsyncRequest (pPayload : List UInt8) : Option (List ClientCall) := do
  let _size ← readUInt32 pPayload 0
  let type ← readUInt8 pPayload 4
  if type = C_PROTO_LINK_UP_NOTIFY then return [.onLinkUpNotify]
  else if type = C_PROTO_LINK_DOWN_NOTIFY then return [.onLinkDownNotify]
  else if type = C_PROTO_WAIT_SERV_REQ then do
    let service ← bufferToString pPayload 5
    return [.waitingServiceRequest 0 service]
  else return []

end CAppManProtoClient

end IviLink.AppMan.Ipc
