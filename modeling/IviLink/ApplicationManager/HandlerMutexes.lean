import IviLink.ApplicationManager.CRequestHandler
import IviLink.Lib.Mutexes

/-!
# The request handler and its mutexes

The methods of `CRequestHandler` once more, one mutex operation after the other. Each map has a
mutex, and the iterators of a map are used where its mutex is named. The database is any that has
the interface; what the other threads are asked for is only noted. The pointers to the other
components are set, or are not, before there are any calls.
-/

namespace IviLink.AMP

open IviLink.Lib

structure IDatabase (D : Type) where
  getApps : D → Uid → List Int
  hasService : D → Int → Uid → Bool
  addService : D → Int → Uid → D
  getId : D → String → Int
  addApp : D → String → D

namespace Handler

inductive Mutex
  | mpAppMutex
  | mpSessionMutex
  | mpSessionServicesMutex
  deriving DecidableEq, Repr

/-- What the other threads and components are asked for. -/
inductive Call
  | addRequest (session : SessionUid)
  | addSessionRequest (pid : Pid) (session : SessionUid) (service : Uid)
  | addWaitingServiceRequest (pid : Pid) (service : Uid)
  | addAppLaunchInfoRequest (pid : Pid)
  | launchApp (session : SessionUid) (id : Int)
  | waitingServicesRequest (services : List Uid)
  deriving DecidableEq, Repr

structure State (D : Type) where
  mApps : AppsMap
  mSessions : Std.TreeMap SessionUid CRunApp
  mSessionServices : Std.TreeMap SessionUid Uid
  database : D
  /-- Whether the pointers are set. -/
  mpDatabase : Bool
  mpPmp : Bool
  mpLaunchThread : Bool
  mpAppComThread : Bool
  /-- What `front()` of an empty list reads. -/
  front : Int
  calls : List Call

inductive EInitResult
  | STARTED_BY_APPMAN
  | STARTED_BY_USER
  | ERROR_AMP
  deriving DecidableEq, Repr

/-- What a method returns; the errors are all `BaseError::NoError`, with their texts. -/
inductive Result
  | nothing
  | initResult (r : EInitResult)
  | noError (moduleName description : String)
  deriving DecidableEq, Repr

/-- The places at which a read decides whether the mutexes are left as they were found. -/
inductive Place
  | plain
  /-- `mpAppComThread` is called. -/
  | appComThread
  | initApplication (pid : Pid)
  | registerService (pid : Pid)
  | setSessionPid (session : SessionUid) (pid : Pid)
  | findService (session : SessionUid)
  deriving DecidableEq, Repr

inductive Method
  | initApplication (pid : Pid) (listOfSupportedServices : List Uid)
  | useService (pid : Pid) (service : Uid) (use : Bool)
  | registerService (pid : Pid) (service : Uid)
  | applicationRequest (session : SessionUid) (service : Uid)
  | waitingServiceReqeust (service : Uid)
  | setSessionPid (session : SessionUid) (pid : Pid)
  | setProcAppLanchInfo (pid : Pid) (launchInfo : String)
  | onConnectionLost (pid : Pid)
  | onProfileManagerConnection
  | printState
  deriving DecidableEq, Repr

variable {D : Type}

namespace State

/-- `mApps[pid]` -/
def app (s : State D) (pid : Pid) : CRunApp := s.mApps[pid]?.getD {}

def setApp (s : State D) (pid : Pid) (app : CRunApp) : State D :=
  { s with mApps := s.mApps.insert pid app }

/-- `mSessions[session]` -/
def sessionApp (s : State D) (session : SessionUid) : CRunApp := s.mSessions[session]?.getD {}

def setSessionApp (s : State D) (session : SessionUid) (app : CRunApp) : State D :=
  { s with mSessions := s.mSessions.insert session app }

/-- The first running application that has the service. -/
def findApp (s : State D) (service : Uid) : Option (Pid × CRunApp) :=
  s.mApps.toList.find? (·.2.hasService service)

def call (s : State D) (c : Call) : State D := { s with calls := s.calls ++ [c] }

/-- The service is added for the application unless it has it. -/
def addService (db : IDatabase D) (s : State D) (id : Int) (service : Uid) : State D :=
  if db.hasService s.database id service then s
  else { s with database := db.addService s.database id service }

/-- The application is added unless it is there. -/
def addApp (db : IDatabase D) (s : State D) (launchInfo : String) : State D :=
  if db.getId s.database launchInfo = -1 then
    { s with database := db.addApp s.database launchInfo }
  else s

end State

abbrev Method.Code (D : Type) := Lib.Code Mutex (State D) Place Result

open Lib.Code Mutex

/-- Nothing is changed, and the reads decide. -/
def read (guards : List Mutex) (next : State D → Method.Code D) : Method.Code D :=
  act guards .plain id next

def change (guards : List Mutex) (f : State D → State D) (next : Method.Code D) : Method.Code D :=
  act guards .plain f fun _ => next

/-- A call of `mpAppComThread`. -/
def callAppComThread (c : Call) (next : Method.Code D) : Method.Code D :=
  act [] .appComThread (·.call c) fun s => if s.mpAppComThread then next else undefined

def printState (next : Method.Code D) : Method.Code D :=
  lock mpAppMutex <| change [mpAppMutex] id <| unlock mpAppMutex <|
  lock mpSessionMutex <| change [mpSessionMutex] id <| unlock mpSessionMutex <|
  lock mpSessionServicesMutex <| change [mpSessionServicesMutex] id <|
  unlock mpSessionServicesMutex next

/-- The loop over the services of an application. -/
def addServices (db : IDatabase D) (id : Int) : List Uid → Method.Code D → Method.Code D
  | [], next => next
  | service :: services, next =>
    change [] (·.addService db id service) <| addServices db id services next

/-- What `initApplication` does at last. -/
def finishInit (db : IDatabase D) (pid : Pid) (services : List Uid) (id : Int)
    (r : EInitResult) : Method.Code D :=
  let rest := printState <| ret (.initResult r)
  if id ≠ -1 then addServices db id services rest
  else callAppComThread (.addAppLaunchInfoRequest pid) rest

/-- What `initApplication` does for an application that needs a session request. -/
def requestSession (pid : Pid) (session : SessionUid) (next : Method.Code D) : Method.Code D :=
  lock mpSessionServicesMutex <|
  read [mpSessionServicesMutex] fun s =>
  match s.mSessionServices[session]? with
  -- `end()` is erased
  | none => undefined
  | some service =>
    -- the iterator of `mApps` is read
    read [mpAppMutex, mpSessionServicesMutex] fun s =>
    callAppComThread (.addSessionRequest (s.app pid).mPid (s.app pid).mSession service) <|
    change [mpSessionServicesMutex]
      (fun s => { s with mSessionServices := s.mSessionServices.erase session }) <|
    unlock mpSessionServicesMutex <|
    lock mpAppMutex <|
    change [mpAppMutex]
      (fun s =>
        match s.mApps[pid]? with
        | none => s
        | some app => s.setApp pid { app with mNeedsSessionRequest := false }) <|
    unlock mpAppMutex next

def initApplication (db : IDatabase D) (pid : Pid) (listOfSupportedServices : List Uid) :
    Method.Code D :=
  read [] fun s =>
  if !s.mpDatabase || !s.mpAppComThread then ret (.initResult .ERROR_AMP)
  else
    lock mpAppMutex <|
    change [mpAppMutex] (fun s => s.setApp pid { s.app pid with mPid := pid }) <|
    act [mpAppMutex] (.initApplication pid)
      (fun s =>
        match s.mApps[pid]? with
        | none => s
        | some app => s.setApp pid
            { listOfSupportedServices.foldl (·.useService · true) app with mRegistred := true })
      fun s =>
    match s.mApps[pid]? with
    | none => unlock mpAppMutex <| printState <| ret (.initResult .ERROR_AMP)
    | some app =>
      let id := app.mAppId
      let session := app.mSession
      if app.mNeedsSessionRequest then
        unlock mpAppMutex <|
        requestSession pid session <|
        finishInit db pid listOfSupportedServices id .STARTED_BY_APPMAN
      else
        unlock mpAppMutex <|
        finishInit db pid listOfSupportedServices id .STARTED_BY_USER

def useService (db : IDatabase D) (pid : Pid) (service : Uid) (use : Bool) : Method.Code D :=
  lock mpAppMutex <|
  change [mpAppMutex] (fun s => s.setApp pid (s.app pid)) <|
  act [mpAppMutex] .plain (fun s => s.setApp pid ((s.app pid).useService service use)) fun s =>
  match s.mApps[pid]? with
  | none => unlock mpAppMutex <| ret (.noError "" "")
  | some app =>
    unlock mpAppMutex <|
    change []
      (fun s => if app.mAppId ≠ -1 ∧ s.mpDatabase then s.addService db app.mAppId service else s) <|
    ret (.noError "" "")

def registerService (db : IDatabase D) (pid : Pid) (service : Uid) : Method.Code D :=
  read [] fun s =>
  if !s.mpDatabase then ret (.noError "AppMan" "registerService No Database")
  else
    lock mpAppMutex <|
    act [mpAppMutex] (.registerService pid) id fun s =>
    match s.mApps[pid]? with
    | none => ret (.noError "AppMan" "Unknown PID")
    | some app =>
      unlock mpAppMutex <|
      change [] (fun s => { s with database := db.addService s.database app.mAppId service }) <|
      ret (.noError "AppMan" "registerService OK")

/-- What `applicationRequest` does at last for an application that is to be started. -/
def launch (session : SessionUid) (service : Uid) (id : Int) : Method.Code D :=
  change [mpSessionMutex]
    (fun s => s.setSessionApp session { s.sessionApp session with mAppId := id }) <|
  unlock mpSessionMutex <|
  lock mpSessionServicesMutex <|
  change [mpSessionServicesMutex]
    (fun s => { s with mSessionServices := s.mSessionServices.insert session service }) <|
  unlock mpSessionServicesMutex <|
  change [] (·.call (.launchApp session id)) <|
  ret (.noError "" "")

def applicationRequest (db : IDatabase D) (session : SessionUid) (service : Uid) :
    Method.Code D :=
  read [] fun s =>
  if !s.mpDatabase || !s.mpPmp || !s.mpLaunchThread then ret (.noError "" "")
  else
    lock mpAppMutex <|
    act [mpAppMutex] .plain
      (fun s =>
        match s.findApp service with
        | none => s
        | some (pid, app) => s.setApp pid { app with mSession := session })
      fun s =>
    match s.findApp service with
    | some (tempPid, _) =>
      unlock mpAppMutex <|
      callAppComThread (.addSessionRequest tempPid session service) <|
      ret (.noError "" "No error")
    | none =>
      unlock mpAppMutex <|
      lock mpSessionMutex <|
      change [mpSessionMutex] (fun s => s.setSessionApp session (s.sessionApp session)) <|
      read [mpSessionMutex] fun s =>
      match s.mSessions[session]? with
      | none => unlock mpSessionMutex <| printState <| ret (.noError "" "")
      | some _ =>
        change [mpSessionMutex]
          (fun s => s.setSessionApp session { s.sessionApp session with
            mNeedsSessionRequest := true, mSession := session }) <|
        read [] fun s =>
        let list := db.getApps s.database service
        let rest := launch session service (list.headD s.front)
        if list = [] then callAppComThread (.addRequest session) rest else rest

def waitingServiceReqeust (service : Uid) : Method.Code D :=
  read [] fun s =>
  if !s.mpDatabase || !s.mpPmp || !s.mpLaunchThread then ret .nothing
  else
    lock mpAppMutex <|
    read [mpAppMutex] fun s =>
    match s.findApp service with
    | some (tempPid, _) =>
      unlock mpAppMutex <|
      callAppComThread (.addWaitingServiceRequest tempPid service) <|
      ret .nothing
    | none => unlock mpAppMutex <| ret .nothing

def setSessionPid (session : SessionUid) (pid : Pid) : Method.Code D :=
  lock mpSessionMutex <|
  act [mpSessionMutex] (.setSessionPid session pid) id fun s =>
  match s.mSessions[session]? with
  | none => unlock mpSessionMutex <| ret .nothing
  | some app =>
    if pid = -1 then
      change [mpSessionMutex] (fun s => { s with mSessions := s.mSessions.erase session }) <|
      unlock mpSessionMutex <|
      lock mpSessionServicesMutex <|
      change [mpSessionServicesMutex]
        (fun s => { s with mSessionServices := s.mSessionServices.erase session }) <|
      unlock mpSessionServicesMutex <|
      ret .nothing
    else if !s.mpAppComThread then printState <| ret .nothing
    else
      change [mpSessionMutex] (fun s => { s with mSessions := s.mSessions.erase session }) <|
      unlock mpSessionMutex <|
      lock mpAppMutex <|
      change [mpAppMutex]
        (fun s => s.setApp pid { s.app pid with
          mPid := pid
          mAppId := app.mAppId
          mNeedsSessionRequest := app.mNeedsSessionRequest
          mSession := app.mSession }) <|
      unlock mpAppMutex <|
      lock mpSessionServicesMutex <|
      act [mpSessionServicesMutex] (.findService session) id fun s =>
      match s.mSessionServices[session]? with
      | none => printState <| ret .nothing
      | some service =>
        unlock mpSessionServicesMutex <|
        callAppComThread (.addSessionRequest pid session service) <|
        printState <| ret .nothing

def setProcAppLanchInfo (db : IDatabase D) (pid : Pid) (launchInfo : String) : Method.Code D :=
  read [] fun s =>
  if !s.mpDatabase then ret .nothing
  else
    change [] (·.addApp db launchInfo) <|
    read [] fun s =>
    let id := db.getId s.database launchInfo
    lock mpAppMutex <|
    act [mpAppMutex] .plain
      (fun s =>
        match s.mApps[pid]? with
        | none => s
        | some app => s.setApp pid { app with mAppId := id })
      fun s =>
    match s.mApps[pid]? with
    | none => unlock mpAppMutex <| ret .nothing
    | some app =>
      unlock mpAppMutex <|
      if id ≠ -1 then addServices db id app.mServices <| ret .nothing else ret .nothing

def onConnectionLost (pid : Pid) : Method.Code D :=
  lock mpAppMutex <|
  change [mpAppMutex] (fun s => { s with mApps := s.mApps.erase pid }) <|
  unlock mpAppMutex <|
  ret .nothing

def onProfileManagerConnection : Method.Code D :=
  lock mpAppMutex <|
  read [mpAppMutex] fun s =>
  unlock mpAppMutex <|
  change [] (·.call (.waitingServicesRequest (s.mApps.toList.flatMap (·.2.mServices)))) <|
  ret .nothing

def Method.body (db : IDatabase D) : Method → Method.Code D
  | .initApplication pid services => Handler.initApplication db pid services
  | .useService pid service use => Handler.useService db pid service use
  | .registerService pid service => Handler.registerService db pid service
  | .applicationRequest session service => Handler.applicationRequest db session service
  | .waitingServiceReqeust service => Handler.waitingServiceReqeust service
  | .setSessionPid session pid => Handler.setSessionPid session pid
  | .setProcAppLanchInfo pid launchInfo => Handler.setProcAppLanchInfo db pid launchInfo
  | .onConnectionLost pid => Handler.onConnectionLost pid
  | .onProfileManagerConnection => Handler.onProfileManagerConnection
  | .printState => Handler.printState <| ret .nothing

/-- The read finds what the code expects at the place. -/
def Expected : Place → State D → Prop
  | .plain, _ => True
  | .appComThread, s => s.mpAppComThread = true
  | .initApplication pid, s => ∀ app ∈ s.mApps[pid]?, app.mNeedsSessionRequest = false
  | .registerService pid, s => pid ∈ s.mApps
  | .setSessionPid session pid, s => session ∈ s.mSessions → pid ≠ -1 → s.mpAppComThread = true
  | .findService session, s => session ∈ s.mSessionServices

instance : ∀ (place : Place) (s : State D), Decidable (Expected place s)
  | .plain, _ => .isTrue trivial
  | .appComThread, _ => inferInstanceAs (Decidable (_ = _))
  | .initApplication _, _ => inferInstanceAs (Decidable (∀ app ∈ _, _))
  | .registerService _, _ | .findService _, _ => inferInstanceAs (Decidable (_ ∈ _))
  | .setSessionPid _ _, _ => inferInstanceAs (Decidable (_ → _ → _))

end Handler

end IviLink.AMP
