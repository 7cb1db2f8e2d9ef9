import IviLink.ProfileManager.Registrations

/-!
# Requests for applications

`PmpPim` asks the application manager for an application when it knows none for a service. What
`applicationRequest` returns is only logged, and that the request has failed later does nothing.
-/

namespace IviLink.ProfileManager.PIM

def PmpPim.appRequestError (s : PmpPim) (_session : SessionUid) : PmpPim := s

/-- The session of a request to the application manager. -/
def Notice.requests : Notice → Option SessionUid
  | .applicationRequest session _ => some session
  | _ => none

def Effect.requests (x : Effect) : List SessionUid := x.told.filterMap Notice.requests

/-- The session that a client is ready for. -/
def PimEvent.answers : PimEvent → Option SessionUid
  | .PimIpcReadyToServe sesUid _ => some sesUid
  | _ => none

def Incident.answers : Incident → Option SessionUid
  | .handleEvent event => event.answers
  | _ => none

namespace PmpPim

/-- The sessions that a client is waited for in. -/
def sessions (s : PmpPim) : List SessionUid := s.mPendingServiceMap.map (·.1)

/-- Whether the application manager is asked for an application. -/
def asks (s : PmpPim) : PimEvent → Bool
  | .PimProtocolCreateProfile _ _ sid =>
    s.mPendingServiceMap.isEmpty && !(s.mRegistry.findAppBySid sid).isOk
  | _ => false

end PmpPim

structure AppRequests where
  process : PmpProcess
  /-- Ghost: the sessions of the requests that have been accepted and neither been answered nor
  been reported as failed. -/
  outstanding : List SessionUid

inductive Occurrence
  /-- `accepted` is what `applicationRequest` returns if it is called. -/
  | incident (a : Incident) (accepted : Bool)
  | appRequestError (session : SessionUid)
  deriving DecidableEq, Repr

namespace AppRequests

def init (libs : List LibInfo) : AppRequests := ⟨.init libs, []⟩

def step (w : AppRequests) : Occurrence → Option AppRequests
  | .incident a accepted =>
    if w.process.Admits a then
      match w.process.handle a with
      | .done x gCounter =>
        some ⟨⟨x.pim, gCounter⟩, (if accepted then x.requests else []) ++
          w.outstanding.filter (a.answers ≠ some ·)⟩
      | _ => none
    else none
  | .appRequestError session =>
    some ⟨{ w.process with pim := w.process.pim.appRequestError session },
      w.outstanding.filter (· ≠ session)⟩

/-- The sessions that are waited for are those that have a request outstanding, and a creation is
put back only while there is one. -/
structure Exact (w : AppRequests) : Prop where
  pending : ∀ session, session ∈ w.process.pim.sessions ↔ session ∈ w.outstanding
  deferred : ∀ sesUid x, (w.process.pim.onCreateProfile sesUid x).2 = false → w.outstanding ≠ []

/-- A request is accepted, and it does not fail later. -/
def Succeeds (w : AppRequests) : Occurrence → Prop
  | .incident (.handleEvent event) accepted => w.process.pim.asks event = true → accepted = true
  | .incident _ _ => True
  | .appRequestError session => session ∉ w.process.pim.sessions

instance (w : AppRequests) : ∀ a, Decidable (w.Succeeds a)
  | .incident (.handleEvent _) _ => inferInstanceAs (Decidable (_ → _))
  | .appRequestError _ => inferInstanceAs (Decidable (_ ∉ _))
  | .incident (.onConnectionLost _) _ | .incident (.unloadInstances _) _
  | .incident .generateUid _ => .isTrue trivial

end AppRequests

end IviLink.ProfileManager.PIM
