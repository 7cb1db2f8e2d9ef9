import IviLink.ApplicationManager.HandlerMutexes
import IviLink.ServiceManager.ServiceMutexes

/-!
# Methods that leave their mutexes as they found them

Each method is gone through once for every state that it may read, which makes it disciplined, and
once for the state that it leaves itself, which says exactly when a call that nothing disturbs goes
well. Where it does not, a mutex is still locked when the method returns, or `printState` is called
with a mutex locked that it locks, or an iterator is used after the mutex was unlocked.
-/

namespace IviLink.AMP.Handler

open IviLink.Lib
open Lib.Code Mutex

variable {D : Type} {db : IDatabase D} {next : Method.Code D} {s : State D}

theorem disciplined_printState (h : next.Disciplined Expected []) :
    (printState next).Disciplined Expected [] := by
  simp [printState, change, Code.Disciplined, h]

theorem disciplined_addServices {id : Int} {services : List Uid} {held : List Mutex}
    (h : next.Disciplined Expected held) :
    (addServices db id services next).Disciplined Expected held := by
  induction services with
  | nil => exact h
  | cons service services ih => exact ⟨by simp, fun _ _ => ih⟩

theorem disciplined_callAppComThread {c : Call} {held : List Mutex}
    (h : next.Disciplined Expected held) :
    (callAppComThread c next).Disciplined Expected held := by
  refine ⟨by simp, fun s hs => ?_⟩
  have hset : s.mpAppComThread = true := hs
  dsimp only
  rw [if_pos hset]
  exact h

theorem disciplined_finishInit {pid : Pid} {services : List Uid} {id : Int} {r : EInitResult} :
    (finishInit db pid services id r).Disciplined Expected [] := by
  have hrest : (printState <| ret (.initResult r) : Method.Code D).Disciplined Expected [] :=
    disciplined_printState rfl
  rw [finishInit]
  split
  · exact disciplined_addServices hrest
  · exact disciplined_callAppComThread hrest

theorem disciplined_initApplication (pid : Pid) (services : List Uid) :
    (initApplication db pid services).Disciplined Expected [] := by
  refine ⟨by simp, fun s _ => ?_⟩
  dsimp only
  split
  · rfl
  · refine ⟨by simp, by simp, fun _ _ => ⟨by simp, fun s hs => ?_⟩⟩
    dsimp only
    split
    · exact ⟨by simp, disciplined_printState rfl⟩
    · rename_i app happ
      rw [if_neg (by simp [hs app happ])]
      exact ⟨by simp, disciplined_finishInit⟩

theorem disciplined_useService (pid : Pid) (service : Uid) (use : Bool) :
    (useService db pid service use).Disciplined Expected [] := by
  refine ⟨by simp, by simp, fun _ _ => ⟨by simp, fun s _ => ?_⟩⟩
  dsimp only
  split
  · exact ⟨by simp, rfl⟩
  · exact ⟨by simp, by simp, fun _ _ => rfl⟩

theorem disciplined_registerService (pid : Pid) (service : Uid) :
    (registerService db pid service).Disciplined Expected [] := by
  refine ⟨by simp, fun s _ => ?_⟩
  dsimp only
  split
  · rfl
  · refine ⟨by simp, by simp, fun s hs => ?_⟩
    dsimp only
    split
    · rename_i hnone
      exact absurd hnone (by simpa using Std.TreeMap.mem_iff_isSome_getElem?.mp hs)
    · exact ⟨by simp, by simp, fun _ _ => rfl⟩

theorem disciplined_launch (session : SessionUid) (service : Uid) (id : Int) :
    (launch session service id : Method.Code D).Disciplined Expected [mpSessionMutex] := by
  simp [launch, change, Code.Disciplined]

theorem disciplined_applicationRequest (session : SessionUid) (service : Uid) :
    (applicationRequest db session service).Disciplined Expected [] := by
  refine ⟨by simp, fun s _ => ?_⟩
  dsimp only
  split
  · rfl
  · refine ⟨by simp, by simp, fun s _ => ?_⟩
    dsimp only
    split
    · exact ⟨by simp, disciplined_callAppComThread rfl⟩
    · refine ⟨by simp, by simp, by simp, fun _ _ => ⟨by simp, fun s _ => ?_⟩⟩
      dsimp only
      split
      · exact ⟨by simp, disciplined_printState rfl⟩
      · refine ⟨by simp, fun _ _ => ⟨by simp, fun s _ => ?_⟩⟩
        dsimp only
        split
        · exact disciplined_callAppComThread (disciplined_launch _ _ _)
        · exact disciplined_launch _ _ _

theorem disciplined_waitingServiceReqeust (service : Uid) :
    (waitingServiceReqeust service : Method.Code D).Disciplined Expected [] := by
  refine ⟨by simp, fun s _ => ?_⟩
  dsimp only
  split
  · rfl
  · refine ⟨by simp, by simp, fun s _ => ?_⟩
    dsimp only
    split
    · exact ⟨by simp, disciplined_callAppComThread rfl⟩
    · exact ⟨by simp, rfl⟩

theorem disciplined_setSessionPid (session : SessionUid) (pid : Pid) :
    (setSessionPid session pid : Method.Code D).Disciplined Expected [] := by
  refine ⟨by simp, by simp, fun s hs => ?_⟩
  dsimp only
  split
  · exact ⟨by simp, rfl⟩
  · rename_i app happ
    split
    · simp [change, Code.Disciplined]
    · rename_i hpid
      have hmem : session ∈ s.mSessions :=
        Std.TreeMap.mem_iff_isSome_getElem?.mpr (by rw [happ]; rfl)
      rw [if_neg (by simp [hs hmem hpid])]
      refine ⟨by simp, fun _ _ => ⟨by simp, by simp, by simp, fun _ _ => ?_⟩⟩
      refine ⟨by simp, by simp, by simp, fun s hs => ?_⟩
      dsimp only
      split
      · rename_i hnone
        exact absurd hnone (by simpa using Std.TreeMap.mem_iff_isSome_getElem?.mp hs)
      · exact ⟨by simp, disciplined_callAppComThread (disciplined_printState rfl)⟩

theorem disciplined_setProcAppLanchInfo (pid : Pid) (launchInfo : String) :
    (setProcAppLanchInfo db pid launchInfo).Disciplined Expected [] := by
  refine ⟨by simp, fun s _ => ?_⟩
  dsimp only
  split
  · rfl
  · refine ⟨by simp, fun _ _ => ⟨by simp, fun s _ => ⟨by simp, by simp, fun s _ => ?_⟩⟩⟩
    dsimp only
    split
    · exact ⟨by simp, rfl⟩
    · refine ⟨by simp, ?_⟩
      split
      · exact disciplined_addServices rfl
      · rfl

/-- Every method is disciplined where it finds what it expects. -/
theorem disciplined_body (m : Method) : (m.body db).Disciplined Expected [] := by
  cases m with
  | initApplication pid services => exact disciplined_initApplication pid services
  | useService pid service use => exact disciplined_useService pid service use
  | registerService pid service => exact disciplined_registerService pid service
  | applicationRequest session service => exact disciplined_applicationRequest session service
  | waitingServiceReqeust service => exact disciplined_waitingServiceReqeust service
  | setSessionPid session pid => exact disciplined_setSessionPid session pid
  | setProcAppLanchInfo pid launchInfo => exact disciplined_setProcAppLanchInfo pid launchInfo
  | onConnectionLost pid => simp [Method.body, onConnectionLost, change, Code.Disciplined]
  | onProfileManagerConnection =>
    simp [Method.body, onProfileManagerConnection, read, change, Code.Disciplined]
  | printState => exact disciplined_printState rfl

/-! ## One call -/

/-- What a call expects that nothing disturbs. -/
def Method.Fits (db : IDatabase D) (s : State D) : Method → Prop
  | .initApplication pid _ =>
    s.mpDatabase = true → s.mpAppComThread = true → (s.app pid).mNeedsSessionRequest = false
  | .registerService pid _ => s.mpDatabase = true → pid ∈ s.mApps
  | .applicationRequest _ service =>
    s.mpDatabase = true → s.mpPmp = true → s.mpLaunchThread = true →
      s.findApp service ≠ none ∨ db.getApps s.database service = [] → s.mpAppComThread = true
  | .waitingServiceReqeust service =>
    s.mpDatabase = true → s.mpPmp = true → s.mpLaunchThread = true →
      s.findApp service ≠ none → s.mpAppComThread = true
  | .setSessionPid session pid =>
    session ∈ s.mSessions → pid ≠ -1 → s.mpAppComThread = true ∧ session ∈ s.mSessionServices
  | _ => True

section Keeps

variable {guards held : List Mutex} {k : State D → Method.Code D}

theorem keeps_read :
    (read guards k).Keeps held s ↔ (∀ m ∈ guards, m ∈ held) ∧ (k s).Keeps held s := Iff.rfl

theorem keeps_change {f : State D → State D} :
    (change guards f next).Keeps held s ↔ (∀ m ∈ guards, m ∈ held) ∧ next.Keeps held (f s) :=
  Iff.rfl

theorem keeps_callAppComThread {c : Call} :
    (callAppComThread c next).Keeps held s ↔
      s.mpAppComThread = true ∧ next.Keeps held (s.call c) := by
  rw [callAppComThread, keeps_act]
  by_cases hset : s.mpAppComThread = true
  · simp [hset]
  · simp [hset]

theorem keeps_printState : (printState next).Keeps [] s ↔ next.Keeps [] s := by
  simp [printState, keeps_change]

/-- A mutex that is held already is locked once more. -/
theorem not_keeps_printState {m : Mutex} : ¬ (printState next).Keeps [m] s := by
  cases m <;> simp [printState, keeps_change]

theorem keeps_addServices {id : Int} {services : List Uid} (h : ∀ s, next.Keeps held s)
    (s : State D) : (addServices db id services next).Keeps held s := by
  induction services generalizing s with
  | nil => exact h s
  | cons service services ih => exact ⟨by simp, ih _⟩

theorem keeps_finishInit {pid : Pid} {services : List Uid} {id : Int} {r : EInitResult}
    (h : s.mpAppComThread = true) : (finishInit db pid services id r).Keeps [] s := by
  have hrest : ∀ s, (printState <| ret (.initResult r) : Method.Code D).Keeps [] s :=
    fun s => keeps_printState.mpr rfl
  rw [finishInit]
  split
  · exact keeps_addServices hrest s
  · exact keeps_callAppComThread.mpr ⟨h, hrest _⟩

/-- The iterator of `mApps` is used without the mutex. -/
theorem not_keeps_requestSession {pid : Pid} {session : SessionUid} :
    ¬ (requestSession pid session next).Keeps [] s := by
  rw [requestSession, keeps_lock, keeps_read]
  intro ⟨_, _, h⟩
  split at h
  · exact h
  · exact absurd (h.1 mpAppMutex (by simp)) (by simp)

end Keeps

@[simp] theorem mApps_setApp {pid : Pid} {app : CRunApp} :
    (s.setApp pid app).mApps[pid]? = some app := by
  simp [State.setApp]

@[simp] theorem mSessionServices_setApp {pid : Pid} {app : CRunApp} :
    (s.setApp pid app).mSessionServices = s.mSessionServices := rfl

@[simp] theorem mpAppComThread_setApp {pid : Pid} {app : CRunApp} :
    (s.setApp pid app).mpAppComThread = s.mpAppComThread := rfl

theorem keeps_initApplication {pid : Pid} {services : List Uid} :
    (initApplication db pid services).Keeps [] s ↔
      (Method.initApplication pid services).Fits db s := by
  rw [initApplication, keeps_read, Method.Fits]
  by_cases hset : s.mpDatabase = true ∧ s.mpAppComThread = true
  · obtain ⟨hdb, hcom⟩ := hset
    rw [if_neg (by simp [hdb, hcom])]
    simp only [keeps_lock, keeps_act, keeps_change, mApps_setApp]
    by_cases hneeds : (s.app pid).mNeedsSessionRequest = true
    · rw [if_pos hneeds, keeps_unlock]
      simp [not_keeps_requestSession, hdb, hcom, hneeds]
    · rw [if_neg hneeds, keeps_unlock]
      simp [keeps_finishInit, hdb, hcom, hneeds]
  · rw [if_pos (by simpa [or_iff_not_imp_left] using hset)]
    exact ⟨fun _ hdb hcom => absurd ⟨hdb, hcom⟩ hset, fun _ => ⟨by simp, rfl⟩⟩

theorem keeps_useService {pid : Pid} {service : Uid} {use : Bool} :
    (useService db pid service use).Keeps [] s := by
  simp [useService, keeps_change]

theorem keeps_registerService {pid : Pid} {service : Uid} :
    (registerService db pid service).Keeps [] s ↔ (Method.registerService pid service).Fits db s := by
  rw [registerService, keeps_read, Method.Fits, Std.TreeMap.mem_iff_isSome_getElem?]
  cases hdb : s.mpDatabase with
  | false => simp
  | true =>
    cases happ : s.mApps[pid]? with
    | none => simp [happ]
    | some app => simp [keeps_change, happ]

theorem keeps_waitingServiceReqeust {service : Uid} :
    (waitingServiceReqeust service : Method.Code D).Keeps [] s ↔
      (Method.waitingServiceReqeust service).Fits db s := by
  rw [waitingServiceReqeust, keeps_read, Method.Fits]
  by_cases hset : s.mpDatabase = true ∧ s.mpPmp = true ∧ s.mpLaunchThread = true
  · obtain ⟨hdb, hpmp, hlaunch⟩ := hset
    cases happ : s.findApp service with
    | none => simp [keeps_read, happ, hdb, hpmp, hlaunch]
    | some it =>
      simp [keeps_read, keeps_callAppComThread, happ, hdb, hpmp, hlaunch]
  · rw [if_pos (by simpa [or_iff_not_imp_left, or_assoc] using hset)]
    exact ⟨fun _ hdb hpmp hlaunch => absurd ⟨hdb, hpmp, hlaunch⟩ hset, fun _ => ⟨by simp, rfl⟩⟩

theorem keeps_launch {session : SessionUid} {service : Uid} {id : Int} :
    (launch session service id : Method.Code D).Keeps [mpSessionMutex] s := by
  simp [launch, keeps_change]

@[simp] theorem database_setSessionApp {session : SessionUid} {app : CRunApp} :
    (s.setSessionApp session app).database = s.database := rfl

@[simp] theorem mpAppComThread_setSessionApp {session : SessionUid} {app : CRunApp} :
    (s.setSessionApp session app).mpAppComThread = s.mpAppComThread := rfl

@[simp] theorem mSessions_setSessionApp {session : SessionUid} {app : CRunApp} :
    (s.setSessionApp session app).mSessions[session]? = some app := by
  simp [State.setSessionApp]

theorem keeps_applicationRequest {session : SessionUid} {service : Uid} :
    (applicationRequest db session service).Keeps [] s ↔
      (Method.applicationRequest session service).Fits db s := by
  rw [applicationRequest, keeps_read, Method.Fits]
  by_cases hset : s.mpDatabase = true ∧ s.mpPmp = true ∧ s.mpLaunchThread = true
  · obtain ⟨hdb, hpmp, hlaunch⟩ := hset
    rw [if_neg (by simp [hdb, hpmp, hlaunch]), keeps_lock, keeps_act]
    cases happ : s.findApp service with
    | some it => simp [keeps_callAppComThread, hdb, hpmp, hlaunch]
    | none =>
      simp only [keeps_lock, keeps_unlock, keeps_change, keeps_read, mSessions_setSessionApp,
        database_setSessionApp]
      by_cases hlist : db.getApps s.database service = []
      · simp [keeps_callAppComThread, keeps_launch, hlist, hdb, hpmp, hlaunch]
      · simp [keeps_launch, hlist]
  · rw [if_pos (by simpa [or_iff_not_imp_left, or_assoc] using hset)]
    exact ⟨fun _ hdb hpmp hlaunch => absurd ⟨hdb, hpmp, hlaunch⟩ hset, fun _ => ⟨by simp, rfl⟩⟩

theorem keeps_setSessionPid {session : SessionUid} {pid : Pid} :
    (setSessionPid session pid : Method.Code D).Keeps [] s ↔
      (Method.setSessionPid session pid).Fits db s := by
  rw [setSessionPid, Method.Fits, Std.TreeMap.mem_iff_isSome_getElem?,
    Std.TreeMap.mem_iff_isSome_getElem?]
  simp only [keeps_lock, keeps_act, id]
  cases happ : s.mSessions[session]? with
  | none => simp
  | some app =>
    by_cases hpid : pid = -1
    · simp [keeps_change, hpid]
    · cases hcom : s.mpAppComThread with
      | false => simp [not_keeps_printState, hpid]
      | true =>
        cases hservice : s.mSessionServices[session]? with
        | none => simp [keeps_change, not_keeps_printState, hpid, hservice]
        | some service =>
          simp [keeps_change, keeps_callAppComThread, keeps_printState, hpid, hcom,
            hservice]

theorem keeps_setProcAppLanchInfo {pid : Pid} {launchInfo : String} :
    (setProcAppLanchInfo db pid launchInfo).Keeps [] s := by
  have hret : ∀ s, (ret .nothing : Method.Code D).Keeps [] s := fun _ => rfl
  have hnext : ∀ (id : Int) (services : List Uid) (s : State D),
      (if id ≠ -1 then addServices db id services <| ret .nothing
        else ret .nothing : Method.Code D).Keeps [] s := by
    intro id services s
    split
    · exact keeps_addServices hret s
    · exact hret s
  rw [setProcAppLanchInfo, keeps_read]
  refine ⟨by simp, ?_⟩
  split
  · exact hret s
  · rw [keeps_change, keeps_read, keeps_lock, keeps_act]
    refine ⟨by simp, by simp, by simp, by simp, ?_⟩
    cases (s.addApp db launchInfo).mApps[pid]? with
    | none => exact ⟨by simp, hret _⟩
    | some app => exact ⟨by simp, hnext _ _ _⟩

/-- **Exactly when one call leaves the mutexes as it found them**, if nothing disturbs it. -/
theorem keeps_iff (m : Method) : (m.body db).Keeps [] s ↔ m.Fits db s := by
  cases m with
  | initApplication pid services => exact keeps_initApplication
  | useService pid service use => exact iff_of_true keeps_useService trivial
  | registerService pid service => exact keeps_registerService
  | applicationRequest session service => exact keeps_applicationRequest
  | waitingServiceReqeust service => exact keeps_waitingServiceReqeust
  | setSessionPid session pid => exact keeps_setSessionPid
  | setProcAppLanchInfo pid launchInfo => exact iff_of_true keeps_setProcAppLanchInfo trivial
  | onConnectionLost pid =>
    simp [Method.body, Method.Fits, onConnectionLost, keeps_change]
  | onProfileManagerConnection =>
    simp [Method.body, Method.Fits, onProfileManagerConnection, keeps_read, keeps_change]
  | printState => exact iff_of_true (keeps_printState.mpr rfl) trivial

end IviLink.AMP.Handler

namespace IviLink.ServiceManager.Profiles

open IviLink.Lib
open Lib.Code Mutex

theorem disciplined_body (m : Method) : m.body.Disciplined Expected [] := by
  cases m with
  | profileDied t piuid =>
    refine ⟨by simp, by simp, fun s hs => ?_⟩
    dsimp only
    split
    · exact ⟨by simp, rfl⟩
    · rename_i api hnull
      obtain ⟨holder, hholder, -⟩ := hs _ hnull
      cases hholder
    · rename_i api holder hfound
      obtain ⟨holder', heq, hfree⟩ := hs _ hfound
      cases heq
      rw [if_neg (by simp [hfree])]
      simp [change, Code.Disciplined]
  | other f => simp [Method.body, change, Code.Disciplined]

theorem keeps_profileDied {s : CService} {t : ThreadId} {piuid : Uid} :
    (profileDied t piuid).Keeps [] s ↔ Expected (.profileDied piuid) s := by
  rw [profileDied, keeps_lock, keeps_act, Expected]
  cases hfound : s.searchProfile piuid with
  | none => simp
  | some it =>
    obtain ⟨api, holder⟩ := it
    cases holder with
    | none => simp
    | some holder =>
      cases hlocked : holder.isLocked with
      | false => simp [change, hlocked]
      | true => simp [change, hlocked]

end IviLink.ServiceManager.Profiles

namespace IviLink

open Lib AMP ServiceManager

/-- **Exactly when the mutexes are left as they were found.** A call that nothing disturbs locks
no mutex twice, uses no iterator without its mutex and returns with all of them unlocked if and
only if it finds what it expects. Any number of threads do so in every run in which they find that
at each read. -/
theorem mutexes_left_as_found {D : Type} (db : IDatabase D) (s : Handler.State D)
    (m : Handler.Method) (c : CService) (t : ThreadId) (piuid : ServiceManager.Uid) :
    ((m.body db).Keeps [] s ↔ m.Fits db s) ∧
    ((Profiles.profileDied t piuid).Keeps [] c ↔ Profiles.Expected (.profileDied piuid) c) ∧
    Threads.RunsOrderly (Handler.Method.body db) Handler.Expected .nothing ∧
    Threads.RunsOrderly Profiles.Method.body Profiles.Expected () :=
  ⟨Handler.keeps_iff m, Profiles.keeps_profileDied,
    Threads.runsOrderly Handler.disciplined_body _,
    Threads.runsOrderly Profiles.disciplined_body _⟩

namespace AMP.Handler

/-- A database that knows one application. -/
def oneApp : IDatabase Unit where
  getApps _ _ := [1]
  hasService _ _ _ := true
  addService _ _ _ := ()
  getId _ _ := 1
  addApp _ _ := ()

def started : State Unit := ⟨∅, ∅, ∅, (), true, true, true, true, 0, []⟩

/-- One application registers between the sections in which another one is requested. -/
def twoThreads : List (Move Bool Method) :=
  [.call true (.applicationRequest "1" "a"), .call false (.initApplication 5 ["b"])] ++
    List.replicate 4 (.go true) ++ List.replicate 15 (.go false) ++ List.replicate 11 (.go true)

theorem mutexes_left_as_found_twoThreads : ∃ w : Threads Bool Mutex (State Unit) Place Result,
    run (Threads.step (Method.body oneApp)) (Threads.init started .nothing) twoThreads = some w ∧
      w.Orderly := by
  have hends : (run (Threads.step (Method.body oneApp))
      (Threads.init started .nothing : Threads Bool Mutex (State Unit) Place Result)
      twoThreads).isSome = true := by
    decide +kernel
  obtain ⟨w, hw⟩ := Option.isSome_iff_exists.mp hends
  have hfound := mutexes_left_as_found oneApp started .printState (.new "") 0 ""
  exact ⟨w, hw, hfound.2.2.1 Bool started twoThreads w (by decide +kernel) hw⟩

/-- An application that is not known registers a service, and the mutex stays locked. -/
theorem left_locked : ∃ w : Threads Unit Mutex (State Unit) Place Result,
    run (Threads.step (Method.body oneApp)) (Threads.init started .nothing)
      [.call () (.registerService 5 "a"), .go (), .go (), .go ()] = some w ∧ ¬ w.Orderly := by
  refine ⟨_, rfl, fun h => ?_⟩
  exact h.returned () _ rfl .mpAppMutex rfl

end AMP.Handler

end IviLink
