import IviLink.Lib.Run
import Mathlib.Logic.Function.Basic
import Std.Data.TreeMap

/-!
# Sessions in the application manager

`CRequestHandler` with its `CLaunchThread` and its `CAppComThread`. A session that the
profile manager requests goes to a running application that has the service, or else
through the launch thread to an application that is started for it.

A step is one critical section, or one call of another thread's method that is one. The
threads are that of the profile manager's connection, which calls `applicationRequest`
and `waitingServiceReqeust`; the launch thread; the one that the launcher delivers its
results on, one after the other (in both ports it is the launch thread); the thread that
sends requests to applications; and the one that receives what they send, and notices
when they are lost. A result may come for any launch at any time. What the database
answers comes with the call, as it changes with what applications tell; what is written
to it is left out. `mClients` is that of `CAppManProtoServer`.
-/

namespace IviLink.AMP

open IviLink.Lib

/-- `Service::Uid` and `Service::SessionUid` are `BaseUid`s. -/
abbrev Uid := String

abbrev SessionUid := String

/-- `pid_t` -/
abbrev Pid := Int

structure CRunApp where
  mAppId : Int := -1
  mPid : Pid := -1
  mRegistred : Bool := false
  mNeedsSessionRequest : Bool := false
  mSession : SessionUid := ""
  mServices : List Uid := []
  deriving DecidableEq, Repr

namespace CRunApp

def hasService (app : CRunApp) (service : Uid) : Bool := service ∈ app.mServices

def useService (app : CRunApp) (service : Uid) (use : Bool) : CRunApp :=
  { app with mServices :=
      if use then app.mServices.insert service else app.mServices.filter (· ≠ service) }

/-- It has been started for its session, and has not registered. -/
def waits (app : CRunApp) : Bool := app.mNeedsSessionRequest && !app.mRegistred

end CRunApp

abbrev AppsMap := Std.TreeMap Pid CRunApp

structure CLaunchThread where
  mRequests : List (SessionUid × Int)
  /-- The sessions that wait for the result of a launch, by launch info. -/
  mSessions : String → Option SessionUid

namespace CLaunchThread

def launchApp (l : CLaunchThread) (session : SessionUid) (dbId : Int) : CLaunchThread :=
  { l with mRequests := l.mRequests ++ [(session, dbId)] }

end CLaunchThread

structure CAppComThread where
  mRequests : List SessionUid
  mSessionRequests : Std.TreeMap Pid (SessionUid × Uid)
  mAppLaunchRequests : List Pid

namespace CAppComThread

def addRequest (c : CAppComThread) (session : SessionUid) : CAppComThread :=
  { c with mRequests := c.mRequests ++ [session] }

def addSessionRequest (c : CAppComThread) (pid : Pid) (session : SessionUid) (service : Uid) :
    CAppComThread :=
  { c with mSessionRequests := c.mSessionRequests.insert pid (session, service) }

def addWaitingServiceRequest (c : CAppComThread) (pid : Pid) (service : Uid) : CAppComThread :=
  c.addSessionRequest pid "" service

def addAppLaunchInfoRequest (c : CAppComThread) (pid : Pid) : CAppComThread :=
  { c with mAppLaunchRequests := c.mAppLaunchRequests ++ [pid] }

end CAppComThread

/-- Where the thread of the profile manager's connection is. -/
inductive Request
  | idle
  /-- `applicationRequest` has found a running application. -/
  | found (pid : Pid) (session : SessionUid) (service : Uid)
  /-- It has found none. -/
  | absent (session : SessionUid) (service : Uid)
  /-- The session is in `mSessions`. -/
  | entered (session : SessionUid) (service : Uid) (dbId : Int)
  /-- And in `mSessionServices`. -/
  | named (session : SessionUid) (dbId : Int)
  /-- `waitingServiceReqeust` has found a running application. -/
  | waiting (pid : Pid) (service : Uid)
  deriving DecidableEq, Repr

/-- Where the launcher's thread is in `setSessionPid`. -/
inductive Result
  | idle
  | setSessionPid (session : SessionUid) (pid : Pid)
  /-- The session is no longer in `mSessions`, and the launch has failed. -/
  | failed (session : SessionUid)
  /-- Or has not. -/
  | taken (session : SessionUid) (app : CRunApp) (pid : Pid)
  /-- The application is in `mApps`. -/
  | placed (session : SessionUid) (pid : Pid)
  /-- The service of the session is known. -/
  | served (session : SessionUid) (pid : Pid) (service : Uid)
  /-- It waits for a mutex that it has locked itself. -/
  | blocked
  deriving DecidableEq, Repr

/-- Where the thread that receives what applications send is in `initApplication`. -/
inductive Init
  | idle
  /-- The application needs a session request. -/
  | needed (pid : Pid) (session : SessionUid) (id : Int)
  | requested (pid : Pid) (id : Int)
  deriving DecidableEq, Repr

inductive Outcome
  | sessionRequest (pid : Pid) (service : Uid)
  | appRequestError
  deriving DecidableEq, Repr

structure State where
  mApps : AppsMap
  mSessions : SessionUid → Option CRunApp
  mSessionServices : SessionUid → Option Uid
  /-- `mpSessionServicesMutex` has been left locked. -/
  servicesLocked : Bool
  mClients : Pid → Bool
  launchThread : CLaunchThread
  appComThread : CAppComThread
  request : Request
  /-- The launch that the launch thread has taken from its queue. -/
  launch : Option (SessionUid × String)
  result : Result
  registering : Init
  /-- The request that the thread has taken from `mSessionRequests`. -/
  sending : Option (Pid × SessionUid × Uid)
  /-- The sessions that have been requested, with their services. -/
  sessions : SessionUid → Option Uid
  /-- No application supported the service of the session. -/
  unsupported : SessionUid → Bool
  outcomes : SessionUid → List Outcome
  /-- `front()` of an empty list was read, or `end()` erased, or an erased `CRunApp` read. -/
  undefinedBehaviour : Bool

namespace State

def init : State where
  mApps := ∅
  mSessions := fun _ => none
  mSessionServices := fun _ => none
  servicesLocked := false
  mClients := fun _ => false
  launchThread := ⟨[], fun _ => none⟩
  appComThread := ⟨[], ∅, []⟩
  request := .idle
  launch := none
  result := .idle
  registering := .idle
  sending := none
  sessions := fun _ => none
  unsupported := fun _ => false
  outcomes := fun _ => []
  undefinedBehaviour := false

/-- `mApps[pid]` -/
def app (s : State) (pid : Pid) : CRunApp := s.mApps[pid]?.getD {}

def setApp (s : State) (pid : Pid) (app : CRunApp) : State :=
  { s with mApps := s.mApps.insert pid app }

/-- The first running application that has the service. -/
def findApp (s : State) (service : Uid) : Option (Pid × CRunApp) :=
  s.mApps.toList.find? (·.2.hasService service)

def addOutcome (s : State) (session : SessionUid) (o : Outcome) : State :=
  { s with outcomes := Function.update s.outcomes session (s.outcomes session ++ [o]) }

/-- What `initApplication` does when the session, if any, is dealt with. -/
def finishInit (s : State) (pid : Pid) (id : Int) : State :=
  if id = -1 then { s with appComThread := s.appComThread.addAppLaunchInfoRequest pid } else s

end State

inductive Event
  | applicationRequest (session : SessionUid) (service : Uid)
  /-- The application that was found gets the session. -/
  | addSessionRequest
  /-- The session is put in `mSessions`; `apps` is what `getApps` gives, and `front` is what is
  read if that is nothing. -/
  | enterSession (apps : List Int) (front : Int)
  | nameService
  | launchApp
  | waitingServiceReqeust (service : Uid)
  | addWaitingServiceRequest
  /-- `CLaunchThread::handleRequest` takes a request; `launchInfo` is what the database gives. -/
  | handleLaunch (launchInfo : String)
  | launchApplication
  | launchedApp (launchInfo : String) (pid : Pid)
  | launchError (launchInfo : String)
  /-- The sections of `setSessionPid`. -/
  | takeSession
  | eraseService
  | placeApp
  | findService
  | addLaunchedSession
  /-- A request of an application whose process is not among the clients. -/
  | connect (pid : Pid)
  /-- The sections of `initApplication`. -/
  | initApplication (pid : Pid) (services : List Uid)
  | requestSession
  | sessionRequested
  | useService (pid : Pid) (service : Uid) (use : Bool)
  | onConnectionLost (pid : Pid)
  /-- The parts of `CAppComThread::handleRequest`. -/
  | appRequestError
  | takeSessionRequest
  | sessionRequest
  | setProcAppLanchInfo (id : Int)
  deriving DecidableEq, Repr

open Function (update)

/-- The steps of the profile manager's connection. -/
def nextRequest (s : State) : Event → Option State
  | .applicationRequest session service =>
    if s.request = .idle then
      match s.findApp service with
      | some (pid, app) =>
        some { s.setApp pid { app with mSession := session } with
          sessions := update s.sessions session (some service)
          request := .found pid session service }
      | none =>
        some { s with
          sessions := update s.sessions session (some service)
          request := .absent session service }
    else none
  | .addSessionRequest =>
    match s.request with
    | .found pid session service =>
      some { s with
        appComThread := s.appComThread.addSessionRequest pid session service
        request := .idle }
    | _ => none
  | .enterSession apps front =>
    match s.request with
    | .absent session service =>
      some { s with
        mSessions := update s.mSessions session (some { (s.mSessions session).getD {} with
          mNeedsSessionRequest := true
          mSession := session
          mAppId := apps.headD front })
        -- the error is reported, and the rest goes on
        appComThread := if apps = [] then s.appComThread.addRequest session else s.appComThread
        unsupported := update s.unsupported session (decide (apps = []))
        undefinedBehaviour := s.undefinedBehaviour || decide (apps = [])
        request := .entered session service (apps.headD front) }
    | _ => none
  | .nameService =>
    match s.request with
    | .entered session service dbId =>
      if s.servicesLocked then none
      else some { s with
        mSessionServices := update s.mSessionServices session (some service)
        request := .named session dbId }
    | _ => none
  | .launchApp =>
    match s.request with
    | .named session dbId =>
      some { s with launchThread := s.launchThread.launchApp session dbId, request := .idle }
    | _ => none
  | .waitingServiceReqeust service =>
    if s.request = .idle then
      match s.findApp service with
      | some (pid, _) => some { s with request := .waiting pid service }
      | none => some s
    else none
  | .addWaitingServiceRequest =>
    match s.request with
    | .waiting pid service =>
      some { s with
        appComThread := s.appComThread.addWaitingServiceRequest pid service
        request := .idle }
    | _ => none
  | _ => none

/-- The steps of the launch thread, and of the launcher's. -/
def nextLaunch (s : State) : Event → Option State
  | .handleLaunch launchInfo =>
    match s.launch, s.launchThread.mRequests with
    | none, (session, _) :: requests =>
      some { s with
        launchThread := { s.launchThread with mRequests := requests }
        launch := if launchInfo = "" then none else some (session, launchInfo) }
    | _, _ => none
  | .launchApplication =>
    match s.launch with
    | some (session, launchInfo) =>
      some { s with
        launchThread := { s.launchThread with
          mSessions := update s.launchThread.mSessions launchInfo (some session) }
        launch := none }
    | none => none
  | .launchedApp launchInfo pid => launched launchInfo pid
  | .launchError launchInfo => launched launchInfo (-1)
  | .takeSession =>
    match s.result with
    | .setSessionPid session pid =>
      match s.mSessions session with
      | none => some { s with result := .idle }
      | some app =>
        some { s with
          mSessions := update s.mSessions session none
          result := if pid = -1 then .failed session else .taken session app pid }
    | _ => none
  | .eraseService =>
    match s.result with
    | .failed session =>
      if s.servicesLocked then none
      else some { s with
        mSessionServices := update s.mSessionServices session none, result := .idle }
    | _ => none
  | .placeApp =>
    match s.result with
    | .taken session app pid =>
      some { s.setApp pid { s.app pid with
          mPid := pid
          mAppId := app.mAppId
          mNeedsSessionRequest := app.mNeedsSessionRequest
          mSession := app.mSession } with
        result := .placed session pid }
    | _ => none
  | .findService =>
    match s.result with
    | .placed session pid =>
      if s.servicesLocked then none
      else
        match s.mSessionServices session with
        | none => some { s with servicesLocked := true, result := .blocked }
        | some service => some { s with result := .served session pid service }
    | _ => none
  | .addLaunchedSession =>
    match s.result with
    | .served session pid service =>
      some { s with
        appComThread := s.appComThread.addSessionRequest pid session service
        result := .idle }
    | _ => none
  | _ => none
where
  /-- `launchedApp` and `launchError` -/
  launched (launchInfo : String) (pid : Pid) : Option State :=
    if s.result = .idle then
      match s.launchThread.mSessions launchInfo with
      | none => some s
      | some session =>
        some { s with
          launchThread := { s.launchThread with
            mSessions := update s.launchThread.mSessions launchInfo none }
          result := .setSessionPid session pid }
    else none

/-- The steps of the thread that receives what applications send. -/
def nextApp (s : State) : Event → Option State
  | .connect pid =>
    if s.registering = .idle then some { s with mClients := update s.mClients pid true } else none
  | .initApplication pid services =>
    if s.registering = .idle ∧ s.mClients pid = true then
      let app := services.foldl (·.useService · true) { s.app pid with mPid := pid }
      let s := s.setApp pid { app with mRegistred := true }
      some (if app.mNeedsSessionRequest then
          { s with registering := .needed pid app.mSession app.mAppId }
        else s.finishInit pid app.mAppId)
    else none
  | .requestSession =>
    match s.registering with
    | .needed pid session id =>
      if s.servicesLocked then none
      else
        match s.mSessionServices session, s.mApps[pid]? with
        | some service, some app =>
          some { s with
            appComThread := s.appComThread.addSessionRequest app.mPid app.mSession service
            mSessionServices := update s.mSessionServices session none
            registering := .requested pid id }
        | _, _ => some { s with undefinedBehaviour := true, registering := .requested pid id }
    | _ => none
  | .sessionRequested =>
    match s.registering with
    | .requested pid id =>
      let s := match s.mApps[pid]? with
        | some app => s.setApp pid { app with mNeedsSessionRequest := false }
        | none => s
      some ({ s with registering := .idle }.finishInit pid id)
    | _ => none
  | .useService pid service use =>
    if s.registering = .idle ∧ s.mClients pid = true then
      some (s.setApp pid ((s.app pid).useService service use))
    else none
  | .onConnectionLost pid =>
    if s.registering = .idle ∧ s.mClients pid = true then
      some { s with mApps := s.mApps.erase pid, mClients := update s.mClients pid false }
    else none
  | _ => none

/-- The steps of `CAppComThread`. -/
def nextCom (s : State) : Event → Option State
  | .appRequestError =>
    match s.sending, s.appComThread.mRequests with
    | none, session :: requests =>
      let s := { s with appComThread := { s.appComThread with mRequests := requests } }
      some (if session = "" then s else s.addOutcome session .appRequestError)
    | _, _ => none
  | .takeSessionRequest =>
    match s.sending, s.appComThread.mSessionRequests.toList.head? with
    | none, some (pid, session, service) =>
      some { s with
        appComThread := { s.appComThread with
          mSessionRequests := s.appComThread.mSessionRequests.erase pid }
        sending := some (pid, session, service) }
    | _, _ => none
  | .sessionRequest =>
    match s.sending with
    | some (pid, session, service) =>
      -- the error for a process that is no client is not looked at
      some (if session ≠ "" ∧ s.mClients pid = true then
        { s with sending := none }.addOutcome session (.sessionRequest pid service)
      else { s with sending := none })
    | none => none
  | .setProcAppLanchInfo id =>
    match s.sending, s.appComThread.mAppLaunchRequests with
    | none, pid :: requests =>
      let s := { s with appComThread := { s.appComThread with mAppLaunchRequests := requests } }
      some (match s.mApps[pid]? with
        | some app => s.setApp pid { app with mAppId := id }
        | none => s)
    | _, _ => none
  | _ => none

def next (s : State) (e : Event) : Option State :=
  nextRequest s e <|> nextLaunch s e <|> nextApp s e <|> nextCom s e

/-! ## Where a session is -/

/-- The session that `applicationRequest` has not yet passed on to the launch thread. -/
def Request.session : Request → Option SessionUid
  | .absent session _ | .entered session _ _ | .named session _ => some session
  | .idle | .found _ _ _ | .waiting _ _ => none

/-- The session of a launch whose application is not yet known. -/
def Result.session : Result → Option SessionUid
  | .setSessionPid session _ | .failed session | .taken session _ _ => some session
  | .idle | .placed _ _ | .served _ _ _ | .blocked => none

/-- The session is with the application of the process: a request of it waits to be sent, is about
to be queued, or will be when the application registers. -/
def With (s : State) (session : SessionUid) (pid : Pid) : Prop :=
  (∃ service, s.request = .found pid session service) ∨
    s.result = .placed session pid ∨ (∃ service, s.result = .served session pid service) ∨
    (∃ app, s.mApps[pid]? = some app ∧ app.waits = true ∧ app.mSession = session) ∨
    (∃ id, s.registering = .needed pid session id) ∨
    session ≠ "" ∧ ((∃ service, s.appComThread.mSessionRequests[pid]? = some (session, service)) ∨
      ∃ service, s.sending = some (pid, session, service))

inductive Place
  | request
  | launchQueue
  | launching
  | launched (launchInfo : String)
  | result
  | application (pid : Pid)
  | error
  deriving DecidableEq, Repr

def At (s : State) (session : SessionUid) : Place → Prop
  | .request => s.request.session = some session
  | .launchQueue => session ∈ s.launchThread.mRequests.map Prod.fst
  | .launching => ∃ launchInfo, s.launch = some (session, launchInfo)
  | .launched launchInfo => s.launchThread.mSessions launchInfo = some session
  | .result => s.result.session = some session
  | .application pid => With s session pid
  | .error => session ∈ s.appComThread.mRequests

/-- The session has not been requested with another service. -/
def Outcome.Right (service : Uid) : Outcome → Prop
  | .sessionRequest _ service' => service' = service
  | .appRequestError => True

/-- A session that has been requested is pending, in one place and once, or has had one outcome;
and nothing is launched or left behind for one that no application supports. -/
structure Kept (s : State) : Prop where
  once : (s.launchThread.mRequests.map Prod.fst).Nodup ∧ s.appComThread.mRequests.Nodup
  kept : ∀ session service, s.sessions session = some service →
    (∃ place, ∀ q, At s session q ↔ q = place) ∧ s.outcomes session = [] ∨
      (∀ q, ¬ At s session q) ∧ ∃ o : Outcome, s.outcomes session = [o] ∧ o.Right service
  unsupported : ∀ session, s.unsupported session = true →
    s.mSessions session = none ∧ s.mSessionServices session = none ∧
      (∀ q, At s session q → q = .error) ∧
      ∀ pid service, .sessionRequest pid service ∉ s.outcomes session

/-- No session is with the application. -/
def Free (s : State) (pid : Pid) : Prop := ∀ session, ¬ With s session pid

/-- Sessions do not meet: each is new, has an application that can be started and is, and finds the
application it comes to without another session; and an application registers and is lost when
its session, if any, is not in between. -/
def Smooth (s : State) : Event → Prop
  | .applicationRequest session service => session ≠ "" ∧ s.sessions session = none ∧
      ∀ pid app, s.findApp service = some (pid, app) → Free s pid
  | .enterSession apps _ => apps ≠ []
  | .addWaitingServiceRequest => ∀ pid service, s.request = .waiting pid service →
      ∀ session service', s.appComThread.mSessionRequests[pid]? = some (session, service') →
        session = ""
  | .handleLaunch launchInfo => launchInfo ≠ ""
  | .launchApplication => ∀ session launchInfo, s.launch = some (session, launchInfo) →
      s.launchThread.mSessions launchInfo = none
  | .launchedApp launchInfo pid => pid = -1 → s.launchThread.mSessions launchInfo = none
  | .launchError launchInfo => s.launchThread.mSessions launchInfo = none
  | .placeApp => ∀ session app pid, s.result = .taken session app pid → Free s pid
  | .initApplication pid _ => (∀ session, s.result ≠ .placed session pid) ∧
      ((s.app pid).mNeedsSessionRequest = true → (s.app pid).mRegistred = false)
  | .onConnectionLost pid => Free s pid
  | .sessionRequest => ∀ pid session service, s.sending = some (pid, session, service) →
      session ≠ "" → (s.mClients pid = true ↔ ¬ With { s with sending := none } session pid)
  | _ => True

/-! ## What single steps do -/

section Steps

variable {s s' : State} {pid : Pid}

theorem of_nameService (hs : nextRequest s .nameService = some s') :
    ∃ session service dbId, s.request = .entered session service dbId ∧ s' = { s with
      mSessionServices := update s.mSessionServices session (some service)
      request := .named session dbId } := by
  simp only [nextRequest] at hs
  split at hs
  · rename_i session service dbId hrequest
    split at hs
    · cases hs
    · exact ⟨session, service, dbId, hrequest, (Option.some.inj hs).symm⟩
  · cases hs

theorem of_eraseService (hs : nextLaunch s .eraseService = some s') :
    ∃ session, s.result = .failed session ∧ s' = { s with
      mSessionServices := update s.mSessionServices session none
      result := .idle } := by
  simp only [nextLaunch] at hs
  split at hs
  · rename_i session hresult
    split at hs
    · cases hs
    · exact ⟨session, hresult, (Option.some.inj hs).symm⟩
  · cases hs

theorem of_connect (hs : nextApp s (.connect pid) = some s') :
    s' = { s with mClients := update s.mClients pid true } := by
  simp only [nextApp] at hs
  split at hs
  · exact (Option.some.inj hs).symm
  · cases hs

theorem of_takeSessionRequest (hs : nextCom s .takeSessionRequest = some s') :
    ∃ pid session service, s.sending = none ∧
      s.appComThread.mSessionRequests[pid]? = some (session, service) ∧ s' = { s with
        appComThread := { s.appComThread with
          mSessionRequests := s.appComThread.mSessionRequests.erase pid }
        sending := some (pid, session, service) } := by
  simp only [nextCom] at hs
  split at hs
  · rename_i pid session service hsending hhead
    have hget : s.appComThread.mSessionRequests[pid]? = some (session, service) :=
      Std.TreeMap.mem_toList_iff_getElem?_eq_some.mp (List.mem_of_mem_head? hhead)
    exact ⟨pid, session, service, hsending, hget, (Option.some.inj hs).symm⟩
  · cases hs

end Steps

end IviLink.AMP
