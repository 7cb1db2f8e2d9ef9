import IviLink.ApplicationManager.CRequestHandler

/-!
# The thread that sends requests

`CAppComThread`: three queues that other threads fill, and `handleRequest`, which takes the first
request from each of them in turn. The handlers of the profile manager and of the applications are
set; that of the launch information may be set later.

A step is one critical section of a thread, or one call of a handler. Requests are added between
the sections of `handleRequest` too.
-/

namespace IviLink.AMP

/-- What a handler is called with. -/
inductive ComRequest
  | appRequestError (session : SessionUid)
  | sessionRequest (pid : Pid) (session : SessionUid) (service : Uid)
  | waitingServiceRequest (pid : Pid) (service : Uid)
  | getAppLaunchInfo (pid : Pid)
  deriving DecidableEq, Repr

namespace CAppComThread

/-- The call that adds a request. -/
def add (c : CAppComThread) : ComRequest → CAppComThread
  | .appRequestError session => c.addRequest session
  | .sessionRequest pid session service => c.addSessionRequest pid session service
  | .waitingServiceRequest pid service => c.addWaitingServiceRequest pid service
  | .getAppLaunchInfo pid => c.addAppLaunchInfoRequest pid

def hasRequests (c : CAppComThread) : Bool :=
  !c.mRequests.isEmpty || !c.mSessionRequests.isEmpty || !c.mAppLaunchRequests.isEmpty

/-- The request that an entry of `mSessionRequests` stands for. -/
def request (it : Pid × SessionUid × Uid) : ComRequest :=
  if it.2.1 = "" then .waitingServiceRequest it.1 it.2.2
  else .sessionRequest it.1 it.2.1 it.2.2

def queued (c : CAppComThread) : List ComRequest :=
  c.mRequests.map .appRequestError ++ c.mSessionRequests.toList.map request ++
    c.mAppLaunchRequests.map .getAppLaunchInfo

end CAppComThread

/-- Where the thread is in `handleRequest`. -/
inductive Part
  | idle
  /-- `appRequestError` is to be called. -/
  | appRequestError (session : SessionUid)
  /-- The session requests come next. -/
  | sessionRequests
  | sessionRequest (it : Pid × SessionUid × Uid)
  | appLaunchRequests
  | getAppLaunchInfo (pid : Pid)
  deriving DecidableEq, Repr

/-- The request that the thread has taken from a queue and not handed on yet. -/
def Part.taken : Part → List ComRequest
  | .appRequestError session => [.appRequestError session]
  | .sessionRequest it => [CAppComThread.request it]
  | .getAppLaunchInfo pid => [.getAppLaunchInfo pid]
  | _ => []

structure ComThread where
  queues : CAppComThread
  /-- Whether it is set. -/
  mpHandlerForAppCom : Bool
  part : Part
  /-- Ghost: the requests that have been added. -/
  added : List ComRequest
  /-- Ghost: the requests that a handler has been called with. -/
  handed : List ComRequest

inductive ComStep
  | add (r : ComRequest)
  | initAppComHandler
  /-- The next part of `handleRequest`. -/
  | handleRequest
  deriving DecidableEq, Repr

namespace ComThread

def init : ComThread := ⟨⟨[], ∅, []⟩, false, .idle, [], []⟩

/-- A handler is called. -/
def hand (w : ComThread) (r : ComRequest) (next : Part) : ComThread :=
  { w with part := next, handed := r :: w.handed }

def handleRequest (w : ComThread) : ComThread :=
  match w.part with
  | .idle =>
    match w.queues.mRequests with
    | [] => { w with part := .sessionRequests }
    | session :: mRequests =>
      let w := { w with queues := { w.queues with mRequests } }
      if session ≠ "" then { w with part := .appRequestError session }
      else { w with part := .sessionRequests }
  | .appRequestError session => w.hand (.appRequestError session) .sessionRequests
  | .sessionRequests =>
    match w.queues.mSessionRequests.toList.head? with
    | none => { w with part := .appLaunchRequests }
    | some it =>
      { w with
        queues := { w.queues with mSessionRequests := w.queues.mSessionRequests.erase it.1 }
        part := .sessionRequest it }
  | .sessionRequest it =>
    if it.2.1 = "" then w.hand (.waitingServiceRequest it.1 it.2.2) .appLaunchRequests
    else w.hand (.sessionRequest it.1 it.2.1 it.2.2) .appLaunchRequests
  | .appLaunchRequests =>
    match w.queues.mAppLaunchRequests with
    | [] => { w with part := .idle }
    | pid :: mAppLaunchRequests =>
      if w.mpHandlerForAppCom then
        { w with
          queues := { w.queues with mAppLaunchRequests }
          part := .getAppLaunchInfo pid }
      else { w with part := .idle }
  | .getAppLaunchInfo pid => w.hand (.getAppLaunchInfo pid) .idle

def step (w : ComThread) : ComStep → Option ComThread
  | .add r => some { w with queues := w.queues.add r, added := r :: w.added }
  | .initAppComHandler => some { w with mpHandlerForAppCom := true }
  | .handleRequest => some w.handleRequest

/-- Every request that has been added is still there, or has been handed on once. -/
def Kept (w : ComThread) : Prop :=
  w.added.Perm (w.handed ++ w.part.taken ++ w.queues.queued)

/-- No request is put in the place of another one, or is for the session `""`. -/
def Spares (w : ComThread) : ComStep → Prop
  | .add (.sessionRequest pid session _) => session ≠ "" ∧ pid ∉ w.queues.mSessionRequests
  | .add (.waitingServiceRequest pid _) => pid ∉ w.queues.mSessionRequests
  | .handleRequest => w.part = .idle → w.queues.mRequests.head? ≠ some ""
  | _ => True

instance (w : ComThread) : ∀ a, Decidable (w.Spares a)
  | .add (.sessionRequest ..) => inferInstanceAs (Decidable (_ ∧ _))
  | .add (.waitingServiceRequest ..) => inferInstanceAs (Decidable (_ ∉ _))
  | .handleRequest => inferInstanceAs (Decidable (_ → _))
  | .add (.appRequestError _) | .add (.getAppLaunchInfo _) | .initAppComHandler => .isTrue trivial

end ComThread

end IviLink.AMP
