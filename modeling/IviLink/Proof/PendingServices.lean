import IviLink.ProfileManager.AppRequests
import IviLink.Lib.Run

/-!
# Sessions that are waited for

What a method does to `mPendingServiceMap` is read off `Turns`: the session that a client is ready
for is gone, and the session of a request is new. Only a creation makes a request, and only when
no session is waited for. So the sessions stay those of the outstanding requests as long as every
request is accepted and none is reported as failed, and not one step longer.
-/

namespace IviLink.ProfileManager.PIM

open IviLink.Lib

namespace PmpPim

variable {s : PmpPim} {x : Effect}

/-- The method neither changes the sessions nor makes a request. -/
def Keeps (s : PmpPim) (x : Effect) : Prop :=
  x.pim.mPendingServiceMap = s.mPendingServiceMap ∧ x.requests = []

theorem createProfile_keeps {profileUid : Uid} {piuid : IUid} {sid : ServiceUid}
    {dirId : DirectionID} (h : s.createProfile profileUid piuid sid dirId = some x) :
    s.Keeps x := by
  rw [createProfile] at h
  split at h
  · obtain rfl := Option.some.inj h
    exact ⟨rfl, rfl⟩
  · dsimp only at h
    split at h
    · cases h
    · obtain rfl := Option.some.inj h
      exact ⟨rfl, rfl⟩
    · split at h
      · obtain rfl := Option.some.inj h
        exact ⟨rfl, rfl⟩
      · split at h <;> obtain rfl := Option.some.inj h <;> exact ⟨rfl, rfl⟩

theorem profileDied_keeps {piuid : IUid} (h : s.profileDied piuid = some x) : s.Keeps x := by
  rw [profileDied] at h
  split at h
  · obtain rfl := Option.some.inj h
    exact ⟨rfl, rfl⟩
  · split at h
    · cases h
    · obtain rfl := Option.some.inj h
      exact ⟨rfl, rfl⟩
    · obtain rfl := Option.some.inj h
      exact ⟨rfl, rfl⟩

theorem onConnection_keeps {appId : Uid} {dirId : DirectionID}
    (h : s.onConnection appId dirId = some x) : s.Keeps x := by
  rw [onConnection] at h
  split at h
  · obtain rfl := Option.some.inj h
    exact ⟨rfl, rfl⟩
  · cases h

theorem onProfileDied_keeps {piuid : IUid} (h : s.onProfileDied piuid = some x) : s.Keeps x := by
  rw [onProfileDied] at h
  split at h
  · obtain rfl := Option.some.inj h
    exact ⟨rfl, rfl⟩
  · split at h
    · cases h
    · obtain rfl := Option.some.inj h
      exact ⟨rfl, rfl⟩
    · dsimp only at h
      split at h <;> obtain rfl := Option.some.inj h <;> exact ⟨rfl, rfl⟩

theorem processIncomingProfile_keeps {appId profileUid : Uid} {piuid : IUid} {sid : ServiceUid} :
    s.Keeps (s.processIncomingProfile appId profileUid piuid sid) := by
  rw [processIncomingProfile]
  split
  · exact ⟨rfl, rfl⟩
  · split
    · exact ⟨rfl, rfl⟩
    · split <;> exact ⟨rfl, rfl⟩

theorem profilesDied_keeps {piuids : List IUid} (h : s.profilesDied piuids = some x) :
    s.Keeps x := by
  induction piuids generalizing s x with
  | nil =>
    obtain rfl := Option.some.inj h
    exact ⟨rfl, rfl⟩
  | cons piuid rest ih =>
    rw [profilesDied] at h
    split at h
    · cases h
    · rename_i y hy
      obtain ⟨z, hz, rfl⟩ := Option.map_eq_some_iff.mp h
      obtain ⟨hmap, hrequests⟩ := ih hz
      exact ⟨hmap.trans (profileDied_keeps hy).1, hrequests⟩

theorem onConnectionLost_keeps {dirId : DirectionID} (h : s.onConnectionLost dirId = some x) :
    s.Keeps x := by
  rw [onConnectionLost] at h
  split at h
  · cases h
  · split at h
    · cases h
    · rename_i y hy
      have hkeeps := profilesDied_keeps hy
      split at h
      · cases h
      · obtain rfl := Option.some.inj h
        exact hkeeps
      · obtain rfl := Option.some.inj h
        exact hkeeps

theorem toldUnloaded_requests (r : ClientAppRegistry) (data : ProfileInstanceData) :
    (toldUnloaded r data).filterMap Notice.requests = [] := by
  rw [toldUnloaded]
  split
  · rfl
  · split <;> rfl

theorem unloadEach_keeps {profiles : List ProfileInstanceData}
    (h : s.unloadEach profiles = some x) : s.Keeps x := by
  induction profiles generalizing s x with
  | nil =>
    obtain rfl := Option.some.inj h
    exact ⟨rfl, rfl⟩
  | cons data rest ih =>
    rw [unloadEach] at h
    split at h
    · cases h
    · rename_i r hr
      obtain ⟨y, hy, rfl⟩ := Option.map_eq_some_iff.mp h
      obtain ⟨hmap, hrequests⟩ := ih hy
      refine ⟨hmap.trans ?_, ?_⟩
      · cases r with
        | error e => rfl
        | ok mRegistry => rfl
      · rw [Effect.requests, List.filterMap_append, toldUnloaded_requests]
        exact hrequests

/-- What a method does to the sessions. -/
structure Turns (s : PmpPim) (x : Effect) (answered : Option SessionUid) (asks : Bool) : Prop where
  sessions : x.pim.sessions = x.requests ++ s.sessions.filter (answered ≠ some ·)
  requests : x.requests = [] ↔ asks = false
  /-- No session is waited for when a request is made. -/
  alone : asks = true → s.sessions = []

theorem Keeps.turns (h : s.Keeps x) : s.Turns x none false where
  sessions := by
    rw [h.2, sessions, h.1, List.nil_append]
    exact (List.filter_eq_self.mpr (by simp)).symm
  requests := ⟨fun _ => rfl, fun _ => h.2⟩
  alone h := by cases h

theorem readyToServe_turns (sesUid : SessionUid) (dirId : DirectionID) :
    s.Turns (s.readyToServe sesUid dirId) (some sesUid) false := by
  have hout : s.sessions.filter (fun session => some sesUid ≠ some session) =
      (s.mPendingServiceMap.filter (·.1 ≠ sesUid)).map (·.1) := by
    rw [sessions, List.filter_map]
    congr 1
    refine List.filter_congr fun it _ => ?_
    simp [eq_comm]
  refine ⟨?_, ⟨fun _ => rfl, fun _ => ?_⟩, fun h => by cases h⟩
  · rw [hout, readyToServe]
    split
    · rename_i hnone
      have hall : s.mPendingServiceMap.filter (·.1 ≠ sesUid) = s.mPendingServiceMap :=
        List.filter_eq_self.mpr (by simpa using hnone)
      rw [hall]
      rfl
    · dsimp only
      split
      · rfl
      · split <;> rfl
  · rw [readyToServe]
    split
    · rfl
    · dsimp only
      split
      · rfl
      · split <;> rfl

theorem onCreateProfile_turns (sesUid : SessionUid) (x : PendingService) :
    s.Turns (s.onCreateProfile sesUid x).1 none
      (s.asks (.PimProtocolCreateProfile x.profileUid x.piuid x.sid)) := by
  rw [onCreateProfile, asks]
  by_cases hpending : s.mPendingServiceMap = []
  · rw [if_neg (not_not.mpr hpending), hpending]
    cases happ : s.mRegistry.findAppBySid x.sid with
    | ok appId => exact Keeps.turns ⟨rfl, rfl⟩
    | error e =>
      have hnone : s.sessions = [] := by rw [sessions, hpending, List.map_nil]
      refine ⟨?_, ?_, fun _ => hnone⟩
      · rw [hnone]
        rfl
      · constructor
        · intro h
          cases h
        · intro h
          cases h
  · rw [if_pos hpending, List.isEmpty_eq_false_iff.mpr hpending]
    exact Keeps.turns ⟨rfl, rfl⟩

theorem handleEvent_turns {uid : Uid} {event : PimEvent} (h : s.handleEvent uid event = some x) :
    s.Turns x event.answers (s.asks event) := by
  cases event with
  | PimIpcOnConnection dirId => exact (onConnection_keeps h).turns
  | PimIpcCreateProfile profileUid piuid sid dirId => exact (createProfile_keeps h).turns
  | PimIpcProfileDied piuid dirId => exact (profileDied_keeps h).turns
  | PimIpcReadyToServe sesUid dirId =>
    obtain rfl := Option.some.inj h
    exact readyToServe_turns sesUid dirId
  | PimProtocolCreateProfile profileUid piuid sid =>
    have hturns := onCreateProfile_turns (s := s) uid ⟨profileUid, piuid, sid⟩
    obtain rfl := Option.some.inj h
    dsimp only
    split
    · exact hturns
    · exact ⟨hturns.sessions, hturns.requests, hturns.alone⟩
  | PimProtocolProfileDied piuid sid => exact (onProfileDied_keeps h).turns
  | InternalPimProcessIncomingProfile appId profileUid piuid sid =>
    obtain rfl := Option.some.inj h
    exact processIncomingProfile_keeps.turns

end PmpPim

namespace PmpProcess

variable {p : PmpProcess} {a : Incident} {x : Effect} {gCounter : Nat}

theorem eq_some_of_finish {y : Option Effect} {n : Nat} (h : finish y n = .done x gCounter) :
    y = some x := by
  cases y with
  | none => cases h
  | some y =>
    obtain ⟨rfl, -⟩ := Outcome.done.inj h
    rfl

theorem eq_some_of_withUid {f : Uid → Option Effect} (h : p.withUid f = .done x gCounter) :
    ∃ uid, f uid = some x := by
  rw [withUid] at h
  split at h
  · cases h
  · exact ⟨_, eq_some_of_finish h⟩

/-- Whether the application manager is asked for an application. -/
def asks (p : PmpProcess) : Incident → Bool
  | .handleEvent event => p.pim.asks event
  | _ => false

theorem handle_turns (h : p.handle a = .done x gCounter) :
    p.pim.Turns x a.answers (p.asks a) := by
  cases a with
  | handleEvent event =>
    rw [handle] at h
    split at h
    · obtain ⟨uid, huid⟩ := eq_some_of_withUid h
      exact PmpPim.handleEvent_turns huid
    · exact PmpPim.handleEvent_turns (eq_some_of_finish h)
  | onConnectionLost dirId => exact (PmpPim.onConnectionLost_keeps (eq_some_of_finish h)).turns
  | unloadInstances profileId => exact (PmpPim.unloadEach_keeps (eq_some_of_finish h)).turns
  | generateUid =>
    obtain ⟨uid, huid⟩ := eq_some_of_withUid h
    obtain rfl := Option.some.inj huid
    exact PmpPim.Keeps.turns ⟨rfl, rfl⟩

end PmpProcess

namespace AppRequests

variable {w w' : AppRequests} {o : Occurrence}

/-- A creation is put back while some session is waited for. -/
theorem exact_of_pending
    (h : ∀ session, session ∈ w.process.pim.sessions ↔ session ∈ w.outstanding) : w.Exact where
  pending := h
  deferred sesUid x hx := by
    rw [PmpPim.onCreateProfile] at hx
    split at hx
    · rename_i hne
      obtain ⟨it, rest, hmap⟩ := List.exists_cons_of_ne_nil hne
      have hmem : it.1 ∈ w.outstanding := (h it.1).mp (by rw [PmpPim.sessions, hmap]; simp)
      exact List.ne_nil_of_mem hmem
    · split at hx <;> cases hx

theorem exact_init (libs : List LibInfo) : (init libs).Exact := exact_of_pending fun _ => Iff.rfl

theorem succeeds_incident {a : Incident} {accepted : Bool} :
    w.Succeeds (.incident a accepted) ↔ (w.process.asks a = true → accepted = true) := by
  cases a with
  | handleEvent event => exact Iff.rfl
  | onConnectionLost dirId => exact ⟨fun _ h => absurd h Bool.false_ne_true, fun _ => trivial⟩
  | unloadInstances profileId => exact ⟨fun _ h => absurd h Bool.false_ne_true, fun _ => trivial⟩
  | generateUid => exact ⟨fun _ h => absurd h Bool.false_ne_true, fun _ => trivial⟩

/-- **One step**: the sessions are still exact if and only if what is asked for is accepted and
does not fail. -/
theorem Exact.step_iff (h : w.Exact) (hs : w.step o = some w') : w'.Exact ↔ w.Succeeds o := by
  cases o with
  | appRequestError session =>
    obtain rfl := Option.some.inj hs
    constructor
    · intro hexact hmem
      have hout := (hexact.pending session).mp hmem
      simp at hout
    · intro hnot
      refine exact_of_pending fun other => ?_
      have hiff := h.pending other
      simp only [List.mem_filter, decide_eq_true_eq]
      constructor
      · intro hother
        refine ⟨hiff.mp hother, ?_⟩
        rintro rfl
        exact hnot hother
      · intro hother
        exact hiff.mpr hother.1
  | incident a accepted =>
    rw [succeeds_incident]
    rw [step] at hs
    split at hs
    · split at hs
      · rename_i x gCounter hx
        obtain rfl := Option.some.inj hs
        have hturns := PmpProcess.handle_turns hx
        have hrest : ∀ session, session ∈ w.process.pim.sessions.filter (a.answers ≠ some ·) ↔
            session ∈ w.outstanding.filter (a.answers ≠ some ·) := by
          intro session
          simp only [List.mem_filter, h.pending session]
        constructor
        · intro hexact hasks
          by_contra haccepted
          have hne : x.requests ≠ [] := by
            rw [Ne, hturns.requests, hasks]
            simp
          obtain ⟨session, rest, hcons⟩ := List.exists_cons_of_ne_nil hne
          have hmem := (hexact.pending session).mp (by rw [hturns.sessions, hcons]; simp)
          rw [if_neg haccepted, List.nil_append, ← hrest, hturns.alone hasks] at hmem
          exact absurd hmem List.not_mem_nil
        · intro haccepted
          refine exact_of_pending fun session => ?_
          rw [hturns.sessions, List.mem_append, List.mem_append, hrest]
          cases hasks : w.process.asks a with
          | true => rw [if_pos (haccepted hasks)]
          | false =>
            rw [hturns.requests.mpr hasks]
            simp
      · cases hs
    · cases hs

/-- **Exactly when a failed start does not block later creations**: the sessions that are waited
for are those of the outstanding requests all along a run if and only if every request is accepted
and none is reported as failed. -/
theorem pending_exact_iff {libs : List LibInfo} {os : List Occurrence}
    (hr : run step (init libs) os = some w) :
    Always step (init libs) os Exact ↔ Along step Succeeds (init libs) os :=
  always_iff_of_step (fun _ h => h) (fun _ _ _ hv hs => hv.step_iff hs)
    (fun _ _ _ hv hsucceeds hs => (hv.step_iff hs).mpr hsucceeds) (exact_init libs) hr

/-- A creation for the other side, of a service that no client has. -/
def creation (piuid : IUid) (accepted : Bool) : Occurrence :=
  .incident (.handleEvent (.PimProtocolCreateProfile ['p'] piuid ['s'])) accepted

/-- The application is started and is ready to serve. An answer in a session that is unknown
comes before. -/
def starts : List Occurrence :=
  [.incident (.handleEvent (.PimIpcOnConnection 1)) false, creation ['1'] true,
   .incident (.handleEvent (.PimIpcReadyToServe ['7'] 1)) false, creation ['3'] false,
   .incident (.handleEvent (.PimIpcReadyToServe ['2'] 1)) false, .appRequestError ['2'],
   creation ['3'] false]

theorem pending_exact_iff_starts :
    ∃ w, run step (init []) starts = some w ∧ Always step (init []) starts Exact := by
  have hends : (run step (init []) starts).isSome = true := by decide +kernel
  obtain ⟨w, hw⟩ := Option.isSome_iff_exists.mp hends
  exact ⟨w, hw, (pending_exact_iff hw).mpr (by decide +kernel)⟩

/-- Nothing is outstanding, and the next creation is put back. -/
def Blocks (w : AppRequests) : Prop :=
  w.outstanding = [] ∧ (w.process.pim.onCreateProfile ['2'] ⟨['q'], ['2'], ['t']⟩).2 = false

instance (w : AppRequests) : Decidable w.Blocks := inferInstanceAs (Decidable (_ ∧ _))

theorem Blocks.not_exact (h : w.Blocks) : ¬ w.Exact := fun hexact => hexact.deferred _ _ h.2 h.1

/-- A request that is not accepted, and one that is reported as failed later. -/
theorem leftover_session :
    (∃ w, run step (init []) [creation ['1'] false] = some w ∧ w.Blocks ∧ ¬ w.Exact) ∧
      ∃ w, run step (init []) [creation ['1'] true, .appRequestError ['1']] = some w ∧
        w.Blocks ∧ ¬ w.Exact := by
  have hrefused : (run step (init []) [creation ['1'] false]).map (fun w => decide w.Blocks) =
      some true := by
    decide +kernel
  have hfailed : (run step (init []) [creation ['1'] true, .appRequestError ['1']]).map
      (fun w => decide w.Blocks) = some true := by
    decide +kernel
  obtain ⟨v, hv, hblocks⟩ := Option.map_eq_some_iff.mp hrefused
  obtain ⟨w, hw, hblocks'⟩ := Option.map_eq_some_iff.mp hfailed
  exact ⟨⟨v, hv, of_decide_eq_true hblocks, (of_decide_eq_true hblocks).not_exact⟩,
    w, hw, of_decide_eq_true hblocks', (of_decide_eq_true hblocks').not_exact⟩

end AppRequests

end IviLink.ProfileManager.PIM
