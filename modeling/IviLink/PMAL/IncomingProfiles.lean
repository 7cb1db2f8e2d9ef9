import IviLink.PMAL.LoadProfile
import IviLink.Lib.Run

/-!
# Profiles that the other side has announced

The jobs of the one thread of the pool, `incomingProfileInternal`, and the loads. The client
answers an announcement with a load in its `incomingProfile`, or does not; other loads come from
anywhere. A load is one step, since only `generatePIUID` comes to the map of the incoming profiles.
-/

namespace IviLink.PMAL.PIM

open IviLink.Lib

structure Announcement where
  profileUid : Uid
  papiUid : Uid
  piuid : IUid
  serviceUID : Uid
  deriving DecidableEq, Repr

namespace Announcement

def key (a : Announcement) : IncomingPrfUID := (a.serviceUID, a.profileUid)

end Announcement

/-- Where the thread of the pool is. -/
inductive Job
  | idle
  /-- `clb->incomingProfile` is under way, and the client has not answered yet. -/
  | called (a : Announcement)
  /-- It has, with a load that did or did not come as far as `generatePIUID`. -/
  | answered (a : Announcement) (generated : Bool)
  deriving DecidableEq, Repr

/-- A load that has a piuid, with the announcement that it answers. -/
structure Use where
  answers : Option Announcement
  piuid : IUid
  deriving DecidableEq, Repr

structure Incoming where
  pim : CPIM
  job : Job
  /-- Ghost: the piuids that have been announced. -/
  announced : List IUid
  /-- Ghost: the loads that have got a piuid. -/
  uses : List Use

inductive Event
  /-- A job, with whether `serviceRequestCallback` accepts the service. -/
  | incomingProfileInternal (a : Announcement) (accepted : Bool)
  /-- The client loads the announced profile. -/
  | answer (answers : Answers)
  /-- `clb->incomingProfile` returns. -/
  | returned
  | loadProfile (profileUid sid : Uid) (answers : Answers)
  | unregisterProfile (pInstance : Instance)

namespace Incoming

def init : Incoming := ⟨⟨⟨∅, ∅⟩, []⟩, .idle, [], []⟩

/-- A load is over. -/
def after (s : Incoming) (a : Option Announcement) (load : Load) : Incoming :=
  { s with pim := load.pim, uses := s.uses ++ load.piuid.toList.map fun piuid => ⟨a, piuid⟩ }

def step (s : Incoming) : Event → Option Incoming
  | .incomingProfileInternal a accepted =>
    match s.job with
    | .idle =>
      if accepted then
        some { s with
          pim := { s.pim with mIncomingPrfMap := s.pim.mIncomingPrfMap ++ [(a.key, a.piuid)] }
          job := .called a
          announced := a.piuid :: s.announced }
      else some { s with announced := a.piuid :: s.announced }
    | _ => none
  | .answer answers =>
    match s.job with
    | .called a =>
      some { s.after (some a) (s.pim.loadProfile a.profileUid a.serviceUID answers) with
        job := .answered a (answers.preparing = .NoPMALError) }
    | _ => none
  | .returned =>
    match s.job with
    | .idle => none
    | _ => some { s with job := .idle }
  | .loadProfile profileUid sid answers =>
    some (s.after none (s.pim.loadProfile profileUid sid answers))
  | .unregisterProfile pInstance =>
    match s.pim.mInstanceMap.unregisterProfile pInstance with
    | none => some s
    | some mInstanceMap => some { s with pim := { s.pim with mInstanceMap := mInstanceMap } }

/-- Each load uses the piuid of the announcement that it answers, and none that has been announced
if it answers none; each announced piuid is used once at most; and where no job is under way, no
announcement is left. -/
structure Exact (s : Incoming) : Prop where
  own : ∀ use ∈ s.uses, ∀ a, use.answers = some a → use.piuid = a.piuid
  foreign : ∀ use ∈ s.uses, use.answers = none → use.piuid ∉ s.announced
  once : ∀ piuid ∈ s.announced, s.uses.countP (·.piuid = piuid) ≤ 1
  left : s.job = .idle → s.pim.mIncomingPrfMap = []

/-- The key of the announcement that waits for its load. -/
def pending (s : Incoming) : Option IncomingPrfUID :=
  match s.job with
  | .called a | .answered a false => some a.key
  | .idle | .answered _ true => none

/-- What is announced has not been given to another load, and is answered once, by a load that
comes as far as `generatePIUID`; no other load that comes there is of the service and the profile
that are announced, and what it is given has not been announced. -/
def Proper (s : Incoming) : Event → Prop
  | .incomingProfileInternal a _ => ∀ use ∈ s.uses, use.answers = none → use.piuid ≠ a.piuid
  | .answer answers => answers.preparing = .NoPMALError →
    ∀ a, s.job = .called a → ∀ use ∈ s.uses, use.piuid ≠ a.piuid
  | .returned => s.pending = none
  | .loadProfile profileUid sid answers => answers.preparing = .NoPMALError →
    s.pending ≠ some (sid, profileUid) ∧ ∀ piuid ∈ answers.getPIUID, piuid ∉ s.announced
  | .unregisterProfile _ => True

end Incoming

end IviLink.PMAL.PIM
