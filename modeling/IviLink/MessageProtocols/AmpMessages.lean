import IviLink.Utils.Serialize

/-!
# The messages between the application manager and the profile manager

`CAppManPmpIpcServer` is the end in the application manager and `AmpClient` the one in the profile
manager. A message has no type that is looked at: what it is follows from its direction, and from
whether it has a response. Requests have a response, for which both callers allocate one byte and
leave the variable with its size as it is.
-/

namespace IviLink.AppMan.Ipc

open IviLink.Lib IviLink.Serialize

/-- `Service::Uid` and `Service::SessionUid` -/
abbrev Uid := List UInt8

def INT_MAX : Nat := 2147483647

/-- The calls of `IAmpHandler`, and those of `IPmpRequest`. -/
inductive AmpCall
  | onWaitingServicesRequest (services : List Uid)
  | onAmpAppRequestError (session : Uid)
  | applicationRequest (session service : Uid)
  | waitingServiceReqeust (service : Uid)
  deriving DecidableEq, Repr

/-- The calls that `OnRequest` makes, and what is in the response; `none` if the buffer for it is
left as it is. -/
abbrev Answered := List AmpCall × Option (List UInt8)

/-! ## The application manager -/

namespace CAppManPmpIpcServer

def OnRequest (mpRequest : Bool) (pPayload : List UInt8) : Option Answered :=
  if mpRequest then do
    let _size ← readUInt32 pPayload 0
    let pos : UInt32 := 4
    let type ← readUInt32 pPayload pos
    let pos := pos + 4
    let session ← bufferToString pPayload pos
    let pos := pos + stringInBufSize session
    let service ← bufferToString pPayload pos
    return ([.applicationRequest session service], some (le32 type))
  else return ([], none)

def OnAsyncRequest (mpRequest : Bool) (pPayload : List UInt8) : Option (List AmpCall) :=
  if mpRequest then do
    let service ← bufferToString pPayload 0
    return [.waitingServiceReqeust service]
  else return []

def appRequestError (session : Uid) : Option (List UInt8) :=
  let type : UInt32 := 0
  let size := 4 + 4 + stringInBufSize session
  message size [.value (le32 size), .value (le32 type), .string session]

def waitingServicesRequest (services : List Uid) : Option (List UInt8) :=
  let count := UInt32.ofNat services.length
  let size := services.foldl (fun size it => size + stringInBufSize it) 4
  message size (.value (le32 count) :: services.map .string)

end CAppManPmpIpcServer

/-! ## The profile manager -/

namespace AmpClient

def OnRequest (mHandler : Bool) (pPayload : List UInt8) : Option Answered :=
  if mHandler then do
    let _size ← readUInt32 pPayload 0
    let pos : UInt32 := 4
    let type ← readUInt32 pPayload pos
    let pos := pos + 4
    let session ← bufferToString pPayload pos
    return ([.onAmpAppRequestError session], some (le32 type))
  else return ([], none)

/-- The loop over the services, which does not move `pos`. -/
def readServices (pPayload : List UInt8) (pos : UInt32) : Nat → Option (List Uid)
  | 0 => return []
  | n + 1 => do
    let service ← bufferToString pPayload pos
    let services ← readServices pPayload pos n
    return service :: services

/-- The counter of the loop is an `int`. -/
def OnAsyncRequest (mHandler : Bool) (pPayload : List UInt8) : Option (List AmpCall) :=
  if mHandler then do
    let count ← readUInt32 pPayload 0
    let services ← (if count.toNat ≤ INT_MAX then readServices pPayload 4 count.toNat else none)
    return [.onWaitingServicesRequest services]
  else return []

def applicationRequest (session service : Uid) : Option (List UInt8) :=
  let type : UInt32 := 0
  let size := 4 + 4 + stringInBufSize session + stringInBufSize service
  message size [.value (le32 size), .value (le32 type), .string session, .string service]

/-- Nothing is sent for the empty uid. -/
def waitingServiceLoadRequest (service : Uid) : Option (Option (List UInt8)) :=
  if service = [] then some none
  else (message (stringInBufSize service) [.string service]).map some

end AmpClient

/-! ## Responses -/

/-- `resp` in both callers is `new UInt8[1]`. -/
def respSize : Nat := 1

/-- What becomes of a response. -/
inductive Response
  /-- It is longer than the buffer is said to be, and the request times out. -/
  | unknown
  | stored (bytes : List UInt8)
  /-- It is written beyond the end of the buffer. -/
  | beyond
  deriving DecidableEq, Repr

/-- `CIpcSocket`, where a response has come for a request with a buffer of `allocated` bytes that
is said to have `bufferSize`. -/
def receiveResponse (allocated : Nat) (bufferSize : UInt32) (response : List UInt8) : Response :=
  if bufferSize.toNat < response.length then .unknown
  else if response.length ≤ allocated then .stored response
  else .beyond

end IviLink.AppMan.Ipc
