import IviLink.ApplicationManager.CRequestHandler
import IviLink.Lib.FirstEntries
import IviLink.Lib.Run
import IviLink.Lib.Semaphore

/-!
# The thread that launches applications

`CLaunchThread` takes the requests of the request handler one after the other, asks the database
how the application is launched, and has the launcher launch it. The launcher answers with what it
was given, before its call returns or later from a thread of its own, or never; `mSessions` tells
for which session that was.

A step of a thread is one critical section, one look at a variable, one operation on the semaphore
or one call of the launcher, the database or the request handler. Where a null pointer is used
there is no next step.
-/

namespace IviLink.AMP.Launching

open IviLink.Lib

/-- The session that an application is launched for, and its id in the database. -/
abbrev LaunchRequest := SessionUid × Int

namespace CLaunchThread

/-- Where `threadFunc` is. -/
inductive Place
  | testBe
  | testLauncher
  | testDatabase
  | testReqHandler
  | hasRequests
  | waiting
  | handleRequest
  | appLaunchInfo (request : LaunchRequest)
  /-- `mSessions[launchInfo]` is to be set. -/
  | setSession (launchInfo : String) (session : SessionUid)
  | launchApplication (launchInfo : String) (session : SessionUid)
  | ended
  deriving DecidableEq

/-- The launch that the launcher has not been told of yet. -/
def Place.found : Place → List (String × SessionUid)
  | setSession launchInfo session | launchApplication launchInfo session => [(launchInfo, session)]
  | _ => []

/-- The launch that is in `mSessions`, and that the launcher has not been told of yet. -/
def Place.set : Place → List (String × SessionUid)
  | launchApplication launchInfo session => [(launchInfo, session)]
  | _ => []

end CLaunchThread

structure CLaunchThread where
  mRequests : List LaunchRequest
  mSessions : Std.TreeMap String SessionUid
  /-- Whether the pointer is set. -/
  mpLauncher : Bool
  mpDatabase : Bool
  mpReqHandler : Bool
  mBe : Bool
  mpSignalSemaphore : Semaphore
  place : CLaunchThread.Place
  /-- Where the launcher's thread is: what it will call `setSessionPid` with. -/
  answering : Option (SessionUid × Pid)
  /-- Ghost: the requests that were made, and those that were taken. -/
  made : List LaunchRequest
  taken : List LaunchRequest
  /-- Ghost: the launches that the database knew how to do, and those that the launcher was told
  of. -/
  known : List (String × SessionUid)
  told : List (String × SessionUid)
  /-- Ghost: the launches that the launcher has yet to answer. -/
  pending : List (String × SessionUid)
  /-- Ghost: the calls of `setSessionPid`, and those that the answers are for. -/
  pids : List (SessionUid × Pid)
  due : List (SessionUid × Pid)

namespace CLaunchThread

def init : CLaunchThread where
  mRequests := []
  mSessions := ∅
  mpLauncher := false
  mpDatabase := false
  mpReqHandler := false
  mBe := true
  mpSignalSemaphore := .init
  place := .testBe
  answering := none
  made := []
  taken := []
  known := []
  told := []
  pending := []
  pids := []
  due := []

/-- The next step of the thread; the database answers with `launchInfo`. -/
def threadFunc (w : CLaunchThread) (launchInfo : String) : Option CLaunchThread :=
  match w.place with
  | .testBe => some { w with place := if w.mBe then .testLauncher else .ended }
  | .testLauncher => some { w with place := if w.mpLauncher then .testDatabase else .waiting }
  | .testDatabase => some { w with place := if w.mpDatabase then .testReqHandler else .waiting }
  | .testReqHandler => some { w with place := if w.mpReqHandler then .hasRequests else .waiting }
  | .hasRequests =>
    some { w with place := if w.mRequests = [] then .waiting else .handleRequest }
  | .waiting =>
    match w.mpSignalSemaphore.wait with
    | none => none
    | some mpSignalSemaphore => some { w with mpSignalSemaphore, place := .testBe }
  | .handleRequest =>
    match w.mRequests with
    | [] => some { w with place := .testBe }
    | request :: mRequests =>
      some { w with
        mRequests
        place := .appLaunchInfo request
        taken := w.taken ++ [request] }
  | .appLaunchInfo request =>
    if w.mpDatabase then
      if launchInfo = "" then some { w with place := .testBe }
      else
        some { w with
          place := .setSession launchInfo request.1
          known := w.known ++ [(launchInfo, request.1)] }
    else none
  | .setSession launchInfo session =>
    some { w with
      mSessions := w.mSessions.insert launchInfo session
      place := .launchApplication launchInfo session }
  | .launchApplication launchInfo session =>
    if w.mpLauncher then
      some { w with
        place := .testBe
        told := w.told ++ [(launchInfo, session)]
        pending := w.pending ++ [(launchInfo, session)] }
    else none
  | .ended => none

/-- `launchedApp`, and `launchError` with the pid -1, are called for a launch that is pending. -/
def launchedApp (w : CLaunchThread) (launch : String × SessionUid) (pid : Pid) :
    Option CLaunchThread :=
  if launch ∈ w.pending ∧ w.answering = none then
    let w := { w with
      pending := w.pending.erase launch
      due := w.due ++ [(launch.2, pid)] }
    match w.mSessions[launch.1]? with
    | none => some w
    | some session =>
      some { w with
        mSessions := w.mSessions.erase launch.1
        answering := some (session, pid) }
  else none

/-- And call this in the end. -/
def setSessionPid (w : CLaunchThread) : Option CLaunchThread :=
  match w.answering with
  | none => none
  | some answer =>
    if w.mpReqHandler then some { w with answering := none, pids := w.pids ++ [answer] }
    else none

inductive Action
  | launchApp (request : LaunchRequest)
  | initLauncher (isSet : Bool)
  | initDb (isSet : Bool)
  | initRequestHandler (isSet : Bool)
  | stopLaunching
  /-- One of those who have done one of these signals. -/
  | signal
  | launchedApp (launch : String × SessionUid) (pid : Pid)
  | setSessionPid
  | threadFunc (launchInfo : String)
  deriving DecidableEq

/-- Something is done, which will be signalled. -/
def announce (w : CLaunchThread) : CLaunchThread :=
  { w with mpSignalSemaphore := w.mpSignalSemaphore.announce }

def step (w : CLaunchThread) : Action → Option CLaunchThread
  | .launchApp request =>
    some ({ w with
      mRequests := w.mRequests ++ [request]
      made := w.made ++ [request] }).announce
  | .initLauncher isSet => some ({ w with mpLauncher := isSet }).announce
  | .initDb isSet => some ({ w with mpDatabase := isSet }).announce
  | .initRequestHandler isSet => some ({ w with mpReqHandler := isSet }).announce
  | .stopLaunching => some ({ w with mBe := false }).announce
  | .signal =>
    match w.mpSignalSemaphore.post with
    | none => none
    | some mpSignalSemaphore => some { w with mpSignalSemaphore }
  | .launchedApp launch pid => w.launchedApp launch pid
  | .setSessionPid => w.setSessionPid
  | .threadFunc launchInfo => w.threadFunc launchInfo

/-! ## What the thread is for -/

/-- The thread has something to do. -/
def Ready (w : CLaunchThread) : Prop :=
  w.mBe = false ∨
    w.mpLauncher = true ∧ w.mpDatabase = true ∧ w.mpReqHandler = true ∧ w.mRequests ≠ []

/-- No request is lost, made twice or overtaken, and the thread does not sleep over one. -/
structure Serves (w : CLaunchThread) : Prop where
  requests : w.made = w.taken ++ w.mRequests
  launches : w.known = w.told ++ w.place.found
  awake : w.place = .waiting → w.Ready → 0 < w.mpSignalSemaphore.tokens

/-- Every launch that has not been answered is in `mSessions`, for its own session, and every
answer so far is for the session whose launch it answers. -/
structure Settled (w : CLaunchThread) : Prop where
  sessions : w.mSessions.toList.Perm (w.pending ++ w.place.set)
  answers : w.due = w.pids ++ w.answering.toList

/-- No application is launched while a launch of it is pending. -/
def Spares (w : CLaunchThread) : Action → Prop
  | .threadFunc _ =>
    ∀ launchInfo session, w.place = .setSession launchInfo session → launchInfo ∉ w.mSessions
  | _ => True

/-! ## The requests -/

section serves

variable {w w' : CLaunchThread}

/-- What the thread has found out since it last waited is still so as long as nobody has
signalled. -/
def Seen (w : CLaunchThread) : Prop :=
  match w.place with
  | .testLauncher | .testDatabase | .testReqHandler | .hasRequests => w.mBe = true
  | .waiting => ¬ w.Ready
  | _ => True

structure ServesInv (w : CLaunchThread) : Prop where
  requests : w.made = w.taken ++ w.mRequests
  launches : w.known = w.told ++ w.place.found
  seen : w.mpSignalSemaphore.tokens = 0 → w.Seen

theorem ServesInv.serves (h : w.ServesInv) : w.Serves := by
  refine ⟨h.requests, h.launches, fun hplace hready => ?_⟩
  refine Nat.pos_of_ne_zero fun htokens => ?_
  have hseen := h.seen htokens
  rw [Seen, hplace] at hseen
  exact hseen hready

theorem servesInv_init : init.ServesInv := ⟨rfl, rfl, fun _ => trivial⟩

/-- Who has changed something will signal, so the thread need not have seen it. -/
theorem ServesInv.announce (hrequests : w.made = w.taken ++ w.mRequests)
    (hlaunches : w.known = w.told ++ w.place.found) : w.announce.ServesInv :=
  ⟨hrequests, hlaunches, fun htokens => absurd htokens (Nat.succ_ne_zero _)⟩

/-- A pointer that is not set, or an empty queue, sends the thread to sleep. -/
theorem not_ready (hbe : w.mBe = true)
    (h : w.mpLauncher = false ∨ w.mpDatabase = false ∨ w.mpReqHandler = false ∨
      w.mRequests = []) : ¬ w.Ready := by
  intro hready
  rcases hready with hready | ⟨hlauncher, hdatabase, hhandler, hrequests⟩
  · rw [hbe] at hready
    cases hready
  rcases h with h | h | h | h
  · rw [h] at hlauncher
    cases hlauncher
  · rw [h] at hdatabase
    cases hdatabase
  · rw [h] at hhandler
    cases hhandler
  · exact hrequests h

/-- A look at one of the conditions of the loop. -/
theorem ServesInv.look (go : Bool) {place : Place} (hi : w.ServesInv) (hseen : w.mBe = true ∨
      w.mpSignalSemaphore.tokens ≠ 0) (hfound : w.place.found = []) (hplace : place.found = [])
    (hgo : w.mBe = true → ({ w with place } : CLaunchThread).Seen)
    (hstay : w.mBe = true → go = false → ¬ w.Ready) :
    ({ w with place := if go then place else .waiting } : CLaunchThread).ServesInv := by
  have hlaunches : w.known = w.told := by
    rw [hi.launches, hfound, List.append_nil]
  cases go with
  | true =>
    refine ⟨hi.requests, ?_, fun htokens => ?_⟩
    · simp [hplace, hlaunches]
    · exact hgo (hseen.resolve_right fun h => h htokens)
  | false =>
    refine ⟨hi.requests, by simp [Place.found, hlaunches], fun htokens => ?_⟩
    exact hstay (hseen.resolve_right fun h => h htokens) rfl

theorem ServesInv.mBe (hi : w.ServesInv) (h : w.Seen → w.mBe = true) :
    w.mBe = true ∨ w.mpSignalSemaphore.tokens ≠ 0 := by
  by_cases htokens : w.mpSignalSemaphore.tokens = 0
  · exact Or.inl (h (hi.seen htokens))
  · exact Or.inr htokens

theorem servesInv_threadFunc {launchInfo : String} (hi : w.ServesInv)
    (h : w.threadFunc launchInfo = some w') : w'.ServesInv := by
  rw [threadFunc] at h
  cases hplace : w.place with
  | testBe =>
    simp only [hplace] at h
    obtain rfl := Option.some.inj h
    have hlaunches := hi.launches
    rw [hplace] at hlaunches
    split
    · next hbe => exact ⟨hi.requests, hlaunches, fun _ => hbe⟩
    · exact ⟨hi.requests, hlaunches, fun _ => trivial⟩
  | testLauncher =>
    simp only [hplace] at h
    obtain rfl := Option.some.inj h
    refine hi.look _ (hi.mBe fun hseen => ?_) (by rw [hplace]; rfl) rfl id ?_
    · rwa [Seen, hplace] at hseen
    · exact fun hbe hgo => not_ready hbe (Or.inl hgo)
  | testDatabase =>
    simp only [hplace] at h
    obtain rfl := Option.some.inj h
    refine hi.look _ (hi.mBe fun hseen => ?_) (by rw [hplace]; rfl) rfl id ?_
    · rwa [Seen, hplace] at hseen
    · exact fun hbe hgo => not_ready hbe (Or.inr (Or.inl hgo))
  | testReqHandler =>
    simp only [hplace] at h
    obtain rfl := Option.some.inj h
    refine hi.look _ (hi.mBe fun hseen => ?_) (by rw [hplace]; rfl) rfl id ?_
    · rwa [Seen, hplace] at hseen
    · exact fun hbe hgo => not_ready hbe (Or.inr (Or.inr (Or.inl hgo)))
  | hasRequests =>
    simp only [hplace] at h
    obtain rfl := Option.some.inj h
    have hseen : w.Seen → w.mBe = true := fun hseen => by rwa [Seen, hplace] at hseen
    have hlook : ({ w with place := if !w.mRequests.isEmpty then .handleRequest else .waiting } :
        CLaunchThread).ServesInv :=
      hi.look _ (hi.mBe hseen) (by rw [hplace]; rfl) rfl (fun _ => trivial) fun hbe hgo =>
        not_ready hbe (Or.inr (Or.inr (Or.inr (by simpa using hgo))))
    cases hrequests : w.mRequests <;> simpa [hrequests] using hlook
  | waiting =>
    simp only [hplace] at h
    split at h
    · cases h
    · obtain rfl := Option.some.inj h
      have hlaunches := hi.launches
      rw [hplace] at hlaunches
      exact ⟨hi.requests, hlaunches, fun _ => trivial⟩
  | handleRequest =>
    simp only [hplace] at h
    have hlaunches := hi.launches
    rw [hplace] at hlaunches
    split at h
    · obtain rfl := Option.some.inj h
      exact ⟨hi.requests, hlaunches, fun _ => trivial⟩
    · next request mRequests hrequests =>
      obtain rfl := Option.some.inj h
      refine ⟨?_, hlaunches, fun _ => trivial⟩
      rw [hi.requests, hrequests, List.append_assoc, List.singleton_append]
  | appLaunchInfo request =>
    simp only [hplace] at h
    have hlaunches := hi.launches
    rw [hplace] at hlaunches
    split at h
    · split at h
      · obtain rfl := Option.some.inj h
        exact ⟨hi.requests, hlaunches, fun _ => trivial⟩
      · obtain rfl := Option.some.inj h
        refine ⟨hi.requests, ?_, fun _ => trivial⟩
        rw [hlaunches]
        exact congrArg (· ++ [(launchInfo, request.1)]) (List.append_nil w.told)
    · cases h
  | setSession launchInfo' session =>
    simp only [hplace] at h
    obtain rfl := Option.some.inj h
    refine ⟨hi.requests, ?_, fun _ => trivial⟩
    rw [hi.launches, hplace]
    rfl
  | launchApplication launchInfo' session =>
    simp only [hplace] at h
    split at h
    · obtain rfl := Option.some.inj h
      refine ⟨hi.requests, ?_, fun _ => trivial⟩
      rw [hi.launches, hplace]
      exact (List.append_nil _).symm
    · cases h
  | ended =>
    simp only [hplace] at h
    cases h

theorem servesInv_launchedApp {launch : String × SessionUid} {pid : Pid} (hi : w.ServesInv)
    (h : w.launchedApp launch pid = some w') : w'.ServesInv := by
  rw [launchedApp] at h
  split at h
  · simp only at h
    split at h
    · obtain rfl := Option.some.inj h
      exact ⟨hi.requests, hi.launches, hi.seen⟩
    · obtain rfl := Option.some.inj h
      exact ⟨hi.requests, hi.launches, hi.seen⟩
  · cases h

theorem servesInv_setSessionPid (hi : w.ServesInv) (h : w.setSessionPid = some w') :
    w'.ServesInv := by
  rw [setSessionPid] at h
  split at h
  · cases h
  split at h
  · obtain rfl := Option.some.inj h
    exact ⟨hi.requests, hi.launches, hi.seen⟩
  · cases h

theorem servesInv_step {a : Action} (hi : w.ServesInv) (h : step w a = some w') :
    w'.ServesInv := by
  cases a with
  | launchApp request =>
    obtain rfl := Option.some.inj h
    refine ServesInv.announce ?_ hi.launches
    rw [hi.requests, List.append_assoc]
  | initLauncher isSet =>
    obtain rfl := Option.some.inj h
    exact ServesInv.announce hi.requests hi.launches
  | initDb isSet =>
    obtain rfl := Option.some.inj h
    exact ServesInv.announce hi.requests hi.launches
  | initRequestHandler isSet =>
    obtain rfl := Option.some.inj h
    exact ServesInv.announce hi.requests hi.launches
  | stopLaunching =>
    obtain rfl := Option.some.inj h
    exact ServesInv.announce hi.requests hi.launches
  | signal =>
    rw [step] at h
    split at h
    · cases h
    · next mpSignalSemaphore hpost =>
      obtain rfl := Option.some.inj h
      refine ⟨hi.requests, hi.launches, fun htokens => hi.seen ?_⟩
      rwa [← Semaphore.tokens_post hpost]
  | launchedApp launch pid => exact servesInv_launchedApp hi h
  | setSessionPid => exact servesInv_setSessionPid hi h
  | threadFunc launchInfo => exact servesInv_threadFunc hi h

/-- **No request is lost.** Requests are taken in the order in which they were made, the launcher is
told of each one that the database knows how to launch, and a thread that sleeps while it has
something to do is about to be woken. -/
theorem requests_served : Always step init as Serves := by
  intro bs cs w _ hr
  exact (run_invariant (P := fun _ _ => True) (fun _ _ _ hi _ h => servesInv_step hi h)
    servesInv_init (along_of_mem fun _ _ _ => trivial) hr).serves

end serves

/-! ## The sessions -/

section settled

variable {w w' : CLaunchThread}

theorem settled_init : init.Settled := ⟨List.Perm.nil, rfl⟩

/-- A pending launch is found in `mSessions`, and is the one that is taken from there. -/
theorem Settled.launchedApp {launch : String × SessionUid} {pid : Pid} (hi : w.Settled)
    (h : w.launchedApp launch pid = some w') : w'.Settled := by
  rw [CLaunchThread.launchedApp] at h
  split at h
  · next hpending =>
    obtain ⟨hpending, hanswering⟩ := hpending
    have hmem : (launch.1, launch.2) ∈ w.mSessions.toList :=
      hi.sessions.symm.subset (List.mem_append_left _ hpending)
    have hsession := Std.TreeMap.mem_toList_iff_getElem?_eq_some.mp hmem
    simp only [hsession] at h
    obtain rfl := Option.some.inj h
    refine ⟨?_, ?_⟩
    · have hpending := (List.perm_cons_erase hpending).append_right w.place.set
      exact ((toList_perm_erase hsession).symm.trans (hi.sessions.trans hpending)).cons_inv
    · have hanswers := hi.answers
      rw [hanswering, Option.toList_none, List.append_nil] at hanswers
      rw [hanswers]
      rfl
  · cases h

theorem Settled.setSessionPid (hi : w.Settled) (h : w.setSessionPid = some w') : w'.Settled := by
  rw [CLaunchThread.setSessionPid] at h
  split at h
  · cases h
  split at h
  · next answer hanswering _ =>
    obtain rfl := Option.some.inj h
    refine ⟨hi.sessions, ?_⟩
    rw [hi.answers, hanswering]
    exact (List.append_nil _).symm
  · cases h

/-- A launch comes to those in `mSessions` if none of the same application is there. -/
theorem settled_setSession {launchInfo : String} {session : SessionUid} (hi : w.Settled)
    (hplace : w.place = .setSession launchInfo session) :
    ({ w with
      mSessions := w.mSessions.insert launchInfo session
      place := .launchApplication launchInfo session } : CLaunchThread).Settled ↔
      launchInfo ∉ w.mSessions := by
  have hsessions : w.mSessions.toList.Perm w.pending := by
    have hsessions := hi.sessions
    rwa [hplace, Place.set, List.append_nil] at hsessions
    all_goals exact fun _ _ h => nomatch h
  constructor
  · -- the map would not have grown
    intro hi' hmem
    have hlength := hi'.sessions.length_eq
    have hsame := length_toList_insert (v := session) hmem
    simp only [Place.set, List.length_append, List.length_singleton, ← hsessions.length_eq,
      hsame] at hlength
    omega
  · intro hmem
    refine ⟨?_, hi.answers⟩
    exact (toList_insert_perm hmem).trans
      ((hsessions.cons _).trans (List.perm_append_singleton _ _).symm)

/-- The other steps of the thread keep the sessions, those that are in its hands included. -/
theorem Settled.threadFunc {launchInfo : String} (hi : w.Settled)
    (hplace : ∀ launchInfo' session, w.place ≠ .setSession launchInfo' session)
    (h : w.threadFunc launchInfo = some w') : w'.Settled := by
  rw [CLaunchThread.threadFunc] at h
  have hsessions := hi.sessions
  cases hw : w.place with
  | testBe | testLauncher | testDatabase | testReqHandler | hasRequests =>
    simp only [hw] at h
    obtain rfl := Option.some.inj h
    rw [hw] at hsessions
    refine ⟨?_, hi.answers⟩
    simp only
    split <;> exact hsessions
  | waiting | handleRequest =>
    simp only [hw] at h
    rw [hw] at hsessions
    split at h <;> cases h
    all_goals exact ⟨hsessions, hi.answers⟩
  | appLaunchInfo request =>
    simp only [hw] at h
    rw [hw] at hsessions
    split at h
    · split at h
      all_goals
        obtain rfl := Option.some.inj h
        exact ⟨hsessions, hi.answers⟩
    · cases h
  | setSession launchInfo' session => exact absurd hw (hplace launchInfo' session)
  | launchApplication launchInfo' session =>
    simp only [hw] at h
    rw [hw] at hsessions
    split at h
    · obtain rfl := Option.some.inj h
      refine ⟨?_, hi.answers⟩
      exact hsessions.trans (List.Perm.of_eq (List.append_nil _).symm)
    · cases h
  | ended =>
    simp only [hw] at h
    cases h

theorem settled_iff_spares {a : Action} (hi : w.Settled) :
    (∀ w', step w a = some w' → w'.Settled) ↔ w.Spares a := by
  cases a with
  | launchApp request | initLauncher isSet | initDb isSet | initRequestHandler isSet
  | stopLaunching =>
    refine ⟨fun _ => trivial, fun _ w' h => ?_⟩
    obtain rfl := Option.some.inj h
    exact ⟨hi.sessions, hi.answers⟩
  | signal =>
    refine ⟨fun _ => trivial, fun _ w' h => ?_⟩
    rw [step] at h
    split at h
    · cases h
    · obtain rfl := Option.some.inj h
      exact ⟨hi.sessions, hi.answers⟩
  | launchedApp launch pid => exact ⟨fun _ => trivial, fun _ _ h => hi.launchedApp h⟩
  | setSessionPid => exact ⟨fun _ => trivial, fun _ _ h => hi.setSessionPid h⟩
  | threadFunc launchInfo =>
    by_cases hplace : ∃ launchInfo' session, w.place = .setSession launchInfo' session
    · obtain ⟨launchInfo', session, hplace⟩ := hplace
      have hstep : step w (.threadFunc launchInfo) = some { w with
          mSessions := w.mSessions.insert launchInfo' session
          place := .launchApplication launchInfo' session } := by
        rw [step, CLaunchThread.threadFunc]
        simp only [hplace]
      constructor
      · intro hsettled launchInfo'' session' hplace'
        obtain ⟨rfl, rfl⟩ := Place.setSession.inj (hplace.symm.trans hplace')
        exact (settled_setSession hi hplace).mp (hsettled _ hstep)
      · intro hspares w' h
        obtain rfl := Option.some.inj (hstep.symm.trans h)
        exact (settled_setSession hi hplace).mpr (hspares launchInfo' session hplace)
    · have hnot : ∀ launchInfo' session, w.place ≠ .setSession launchInfo' session :=
        fun launchInfo' session hw => hplace ⟨launchInfo', session, hw⟩
      refine ⟨fun _ => ?_, fun _ w' h => hi.threadFunc hnot h⟩
      exact fun launchInfo' session hw => absurd hw (hnot launchInfo' session)

/-- **Every answer is for its own session** exactly in the runs in which no application is launched
while a launch of it is pending. -/
theorem always_settled_iff (as : List Action) :
    Always step init as Settled ↔ Along step Spares init as :=
  always_iff_of_enabled (fun _ hi => hi) (fun _ _ hi => settled_iff_spares hi)
    (fun _ _ _ hi hspares h => (settled_iff_spares hi).mpr hspares _ h) settled_init

end settled

end CLaunchThread

end IviLink.AMP.Launching
