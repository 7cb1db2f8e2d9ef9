import IviLink.Lib.FirstEntries
import IviLink.Proof.ActiveServices
import IviLink.ServiceManager.CServiceManager

/-!
# What the client is told of the death of profiles

`CServiceManager` once more, with `mCorrect` of its services and with what `profileDied` tells the
client. A service that is destroyed takes its `mCorrect` along, and a new one has it set.
-/

namespace IviLink.ServiceManager

open IviLink.Lib

structure WatchedManager where
  manager : CServiceManager
  /-- The services whose `mCorrect` is not set. -/
  incorrect : List Uid

namespace WatchedManager

def init (mSystemServices : List Uid) : WatchedManager := ⟨.init mSystemServices, []⟩

def correctState (w : WatchedManager) (service : Uid) : Bool := service ∉ w.incorrect

/-- The services that `profileDied` reports to the client, if there is one. -/
def serviceDropped (w : WatchedManager) (mpClient : Bool) (service : Uid) : List Uid :=
  match w.manager.findForDeath service with
  | none => []
  | some (key, s) =>
    if w.correctState key && mpClient then
      [if service ∈ w.manager.mActiveServices then service else s.mUid]
    else []

/-- Whose `mCorrect` is not set after a call: it is cleared where the instance is found. -/
def incorrectAfter (w : WatchedManager) : Call → List Uid
  | .profileDied service piuid =>
    match w.manager.findForDeath service with
    | none => w.incorrect
    | some (key, s) =>
      match s.searchProfile piuid with
      | some (_, some _) => w.incorrect.insert key
      | _ => w.incorrect
  | _ => w.incorrect

section Manifests

variable (manifests : Uid → Option Manifest)

def call (w : WatchedManager) (t : ThreadId) (call : Call) : Except Fault WatchedManager :=
  match w.manager.call manifests t call with
  | .error fault => .error fault
  | .ok m => .ok ⟨m, (w.incorrectAfter call).filter (· ∈ m.mActiveServices)⟩

/-- A call that returns. -/
def step (w : WatchedManager) (call : ThreadId × Call) : Option WatchedManager :=
  match w.call manifests call.1 call.2 with
  | .error _ => none
  | .ok w => some w

/-- The profile with the api `api` of the service `key` is the instance `piuid`. -/
def Holds (w : WatchedManager) (key api piuid : Uid) : Prop :=
  ∃ holder, (w.manager.profiles key)[api]? = some (some holder) ∧ holder.getProfileID = piuid

/-- Of all profiles the notice of a death takes just this one away, of all services it reports just
this one, unless that has been done before, and it is not done again as long as the service is
active. -/
def Reached (w : WatchedManager) (mpClient : Bool) (t : ThreadId) (service piuid key api : Uid) :
    Prop :=
  ∃ w', w.call manifests t (.profileDied service piuid) = .ok w' ∧
    (∀ key' api', (w'.manager.profiles key')[api']? =
      if key' = key ∧ api' = api then none else (w.manager.profiles key')[api']?) ∧
    w.serviceDropped mpClient service =
      (if w.correctState key && mpClient then [key] else []) ∧
    ∀ calls v, run (step manifests) w' calls = some v →
      Always (step manifests) w' calls (fun u => key ∈ u.manager.mActiveServices) →
      ∀ mpClient service, key ∉ v.serviceDropped mpClient service

end Manifests

/-- The notice names the service; or it names no active service, but the pair of this one, which
comes before all others that have it as their pair. -/
def Named (w : WatchedManager) (service key : Uid) : Prop :=
  service = key ∨
    (service ∉ w.manager.mActiveServices ∧
      (∃ s, w.manager.mActiveServices[key]? = some s ∧ s.mPairUid = service) ∧
      ∀ key' s, w.manager.mActiveServices[key']? = some s → compare key' key = .lt →
        s.mPairUid ≠ service)

/-- Before the profile none is missing or the same instance, and no thread has it locked. -/
def Clear (w : WatchedManager) (key api piuid : Uid) : Prop :=
  (∀ api' value, (w.manager.profiles key)[api']? = some value → compare api' api = .lt →
    ∃ holder, value = some holder ∧ holder.getProfileID ≠ piuid) ∧
  ∀ holder, (w.manager.profiles key)[api]? = some (some holder) → holder.isLocked = false

end WatchedManager

end IviLink.ServiceManager

/-!
## The death of a profile

The notice names the service by which the profile was loaded: the service itself, or its pair. The
search takes the first service of that name, or the first one with that pair, and does not look
whether it has the instance.

The services of a manager keep the uid that they are listed under (`Keyed`).
-/

namespace IviLink.ServiceManager

open IviLink.Lib

variable {manifests : Uid → Option Manifest} {m m' : CServiceManager} {s s' : CService}
variable {t : ThreadId} {service key api piuid : Uid}

/-! ## Uids of services -/

theorem exists_of_map_ok {α β : Type} {x : Except Fault α} {f : α → β} {b : β}
    (h : x.map f = .ok b) : ∃ a, x = .ok a ∧ f a = b := by
  cases x with
  | error fault => cases h
  | ok a =>
    cases h
    exact ⟨a, rfl, rfl⟩

theorem mUid_unloadRounds (its : List (Uid × Option ProfileHolder)) {x y : CService × List Uid}
    (h : its.foldlM (CService.unloadRound t) x = .ok y) : y.1.mUid = x.1.mUid := by
  induction its generalizing x with
  | nil =>
    cases h
    rfl
  | cons it its ih =>
    obtain ⟨key, value⟩ := it
    cases value with
    | none => cases h
    | some holder =>
      rw [List.foldlM_cons] at h
      by_cases hlocked : holder.isLocked = true
      · have hround : CService.unloadRound t x (key, some holder) = .ok _ := if_pos hlocked
        rw [hround] at h
        exact (ih h).trans rfl
      · have hround : CService.unloadRound t x (key, some holder) = .ok _ := if_neg hlocked
        rw [hround] at h
        exact (ih h).trans rfl

theorem mUid_unload (h : s.unload t = .ok s') : s'.mUid = s.mUid := by
  unfold CService.unload at h
  split at h
  · cases h
  · rename_i hrounds
    cases h
    exact mUid_unloadRounds _ hrounds

theorem mUid_loadProfiles (cbMap : CallbacksMap) (pim : Nat → PimResult) (profiles : List Uid)
    (n : Nat) (s : CService) :
    (CService.loadProfiles cbMap pim n profiles s).1.mUid = s.mUid := by
  induction profiles generalizing n s with
  | nil => rfl
  | cons api profiles ih =>
    unfold CService.loadProfiles
    split
    · rfl
    · split
      · rfl
      · rfl
      · split
        · rfl
        · split
          · rfl
          · exact ih _ _

theorem mUid_load (manifest : Option Manifest) (cbMap : CallbacksMap) (pim : Nat → PimResult) :
    (s.load manifest cbMap pim).1.mUid = s.mUid := by
  cases manifest with
  | none => rfl
  | some doc => exact mUid_loadProfiles _ _ _ _ _

theorem mUid_expectProfiles (cbMap : CallbacksMap) (profiles : List Uid) (s : CService) :
    (CService.expectProfiles cbMap profiles s).1.mUid = s.mUid := by
  induction profiles generalizing s with
  | nil => rfl
  | cons api profiles ih =>
    unfold CService.expectProfiles
    split
    · rfl
    · dsimp only
      split
      · rfl
      · rfl
      · exact ih _

theorem mUid_incomingLoad (manifest : Option Manifest) (cbMap : CallbacksMap) :
    (s.incomingLoad manifest cbMap).1.mUid = s.mUid := by
  cases manifest with
  | none => rfl
  | some doc => exact mUid_expectProfiles _ _ _

theorem mUid_incomingProfileRequest (manifest : Option Manifest) (papiUid : Uid)
    (pim : PimResult) : (s.incomingProfileRequest manifest papiUid pim).1.mUid = s.mUid := by
  cases manifest with
  | none => rfl
  | some doc =>
    unfold CService.incomingProfileRequest
    dsimp only
    split <;> split <;> rfl

theorem mUid_getProfile : (s.getProfile t api).1.mUid = s.mUid := by
  unfold CService.getProfile
  split
  · rfl
  · rfl

theorem mUid_releaseProfile : (s.releaseProfile t api).mUid = s.mUid := by
  unfold CService.releaseProfile
  split
  · split
    · rfl
    · rfl
  · rfl

theorem mUid_profileDied {b : Bool} (h : s.profileDied t piuid = .ok (s', b)) :
    s'.mUid = s.mUid := by
  rcases profileDied_cases s t piuid with ⟨-, hdied⟩ | ⟨_, -, hdied⟩ | ⟨_, _, -, -, hdied⟩ |
    ⟨_, _, -, -, hdied⟩ <;>
  · rw [hdied] at h
    cases h <;> rfl

/-- Every active service has the uid that it is listed under. -/
def Keyed (m : CServiceManager) : Prop :=
  ∀ (key : Uid) (s : CService), m.mActiveServices[key]? = some s → s.mUid = key

theorem Keyed.setActive (h : Keyed m) (hs : s.mUid = service) : Keyed (m.setActive service s) := by
  intro key s' hs'
  rw [CServiceManager.setActive, Std.TreeMap.getElem?_insert] at hs'
  split at hs'
  · rename_i heq
    rw [← Option.some.inj hs', hs]
    exact Std.LawfulEqCmp.eq_of_compare heq
  · exact h key s' hs'

theorem Keyed.remove (h : Keyed m) (hm : m.remove t service s = .ok m') : Keyed m' := by
  obtain ⟨_, -, rfl⟩ := exists_of_map_ok hm
  intro key s' hs'
  rw [Std.TreeMap.getElem?_erase] at hs'
  split at hs'
  · cases hs'
  · exact h key s' hs'

theorem Keyed.unloadFound (h : Keyed m) (hs : s.mUid = service)
    (hm : m.unloadFound t service s = .ok m') : Keyed m' := by
  unfold CServiceManager.unloadFound at hm
  split at hm
  · cases hm
  · rename_i s' hs'
    split at hm
    · cases hm
      exact h.setActive ((mUid_unload hs').trans hs)
    · exact h.remove hm

theorem Keyed.unload (h : Keyed m) {b : Bool} (hm : m.unload t service = .ok (m', b)) :
    Keyed m' := by
  unfold CServiceManager.unload at hm
  split at hm
  · cases hm
    exact h
  · rename_i s hs
    obtain ⟨m₁, hm₁, heq⟩ := exists_of_map_ok hm
    cases heq
    exact h.unloadFound (h _ _ hs) hm₁

/-- Where the search for the service ends, its uid is the key. -/
theorem Keyed.findForDeath (h : Keyed m) (hfound : m.findForDeath service = some (key, s)) :
    m.mActiveServices[key]? = some s ∧ s.mUid = key := by
  have hs : m.mActiveServices[key]? = some s := by
    unfold CServiceManager.findForDeath at hfound
    split at hfound
    · rename_i hs
      cases hfound
      exact hs
    · exact Std.TreeMap.mem_toList_iff_getElem?_eq_some.mp (List.mem_of_find?_eq_some hfound)
  exact ⟨hs, h key s hs⟩

theorem Keyed.profileDied (h : Keyed m) (hm : m.profileDied t service piuid = .ok m') :
    Keyed m' := by
  unfold CServiceManager.profileDied at hm
  split at hm
  · cases hm
    exact h
  · rename_i key s hfound
    have huid := (h.findForDeath hfound).2
    split at hm
    · cases hm
    · cases hm
    · rename_i s' hs'
      split at hm
      · exact h.remove hm
      · cases hm
        exact h.setActive ((mUid_profileDied hs').trans huid)

/-- **Every call** keeps the uids. -/
theorem Keyed.call {c : Call} (h : Keyed m) (hm : m.call manifests t c = .ok m') : Keyed m' := by
  cases c with
  | registerProfileCallbacks profileApi pCallbacks =>
    cases hm
    exact h
  | load service pim =>
    obtain ⟨⟨m₁, error⟩, hload, rfl⟩ := exists_of_map_ok hm
    unfold CServiceManager.load at hload
    split at hload
    · cases hload
      exact h
    split at hload
    · cases hload
      exact h
    dsimp only at hload
    split at hload
    · obtain ⟨_, -, heq⟩ := exists_of_map_ok hload
      cases heq
      exact h
    · cases hload
      exact h.setActive (mUid_load _ _ _)
  | incomingLoad service =>
    obtain ⟨⟨m₁, ok⟩, hload, rfl⟩ := exists_of_map_ok hm
    unfold CServiceManager.incomingLoad at hload
    split at hload
    · cases hload
      exact h
    split at hload
    · cases hload
      exact h
    dsimp only at hload
    split at hload
    · cases hload
      exact h.setActive (mUid_incomingLoad _ _)
    · obtain ⟨_, -, heq⟩ := exists_of_map_ok hload
      cases heq
      exact h
  | incomingProfile service api pim =>
    obtain ⟨⟨m₁, ok⟩, hincoming, rfl⟩ := exists_of_map_ok hm
    unfold CServiceManager.incomingProfile at hincoming
    split at hincoming
    · cases hincoming
      exact h
    · rename_i s hs
      have hkeyed := h.setActive ((mUid_incomingProfileRequest (manifests s.mUid) api pim).trans
        (h service s hs))
      dsimp only at hincoming
      split at hincoming
      · cases hincoming
        exact hkeyed
      · obtain ⟨⟨m₂, _⟩, hunload, heq⟩ := exists_of_map_ok hincoming
        cases heq
        exact hkeyed.unload hunload
  | getProfile service profileApi =>
    cases hm
    unfold CServiceManager.getProfile
    split
    · exact h
    · rename_i s hs
      exact h.setActive (mUid_getProfile.trans (h service s hs))
  | releaseProfile service profileApi =>
    have hrelease : m.releaseProfile t service profileApi = .ok m' := hm
    unfold CServiceManager.releaseProfile at hrelease
    split at hrelease
    · cases hrelease
      exact h
    · rename_i s hs
      have huid : (s.releaseProfile t profileApi).mUid = service :=
        mUid_releaseProfile.trans (h service s hs)
      dsimp only at hrelease
      split at hrelease
      · exact h.unloadFound huid hrelease
      · cases hrelease
        exact h.setActive huid
  | unload service =>
    obtain ⟨⟨m₁, ok⟩, hunload, rfl⟩ := exists_of_map_ok hm
    exact h.unload hunload
  | profileDied service piuid => exact h.profileDied hm

/-! ## Where the searches end -/

theorem findForDeath_eq_iff : m.findForDeath service = some (key, s) ↔
    m.mActiveServices[key]? = some s ∧ (service = key ∨ (service ∉ m.mActiveServices ∧
      s.mPairUid = service ∧ ∀ (key' : Uid) (s' : CService), m.mActiveServices[key']? = some s' →
        compare key' key = .lt → s'.mPairUid ≠ service)) := by
  unfold CServiceManager.findForDeath
  split
  · rename_i s₁ hs₁
    have hactive : service ∈ m.mActiveServices :=
      Std.TreeMap.mem_iff_isSome_getElem?.mpr (by rw [hs₁]; rfl)
    constructor
    · intro heq
      cases heq
      exact ⟨hs₁, Or.inl rfl⟩
    · intro ⟨hs, hnamed⟩
      rcases hnamed with rfl | ⟨hnot, -⟩
      · rw [Option.some.inj (hs₁.symm.trans hs)]
      · exact absurd hactive hnot
  · rename_i hnone
    have hnot : service ∉ m.mActiveServices := by
      rw [Std.TreeMap.mem_iff_isSome_getElem?, hnone]
      exact Bool.false_ne_true
    rw [find?_toList_iff]
    constructor
    · intro ⟨hs, hpair, hfirst⟩
      refine ⟨hs, Or.inr ⟨hnot, of_decide_eq_true hpair, ?_⟩⟩
      intro key' s' hs' hlt
      exact of_decide_eq_false (hfirst key' s' hs' hlt)
    · intro ⟨hs, hnamed⟩
      rcases hnamed with rfl | ⟨-, hpair, hfirst⟩
      · rw [hnone] at hs
        cases hs
      · refine ⟨hs, decide_eq_true hpair, ?_⟩
        intro key' s' hs' hlt
        exact decide_eq_false (hfirst key' s' hs' hlt)

theorem searchProfile_eq_iff {holder : ProfileHolder} :
    s.searchProfile piuid = some (api, some holder) ↔
      s.mProfilesMap[api]? = some (some holder) ∧ holder.getProfileID = piuid ∧
        ∀ (api' : Uid) (value : Option ProfileHolder), s.mProfilesMap[api']? = some value →
          compare api' api = .lt → ∃ h, value = some h ∧ h.getProfileID ≠ piuid := by
  rw [CService.searchProfile, find?_toList_iff]
  refine and_congr_right fun _ => and_congr ⟨of_decide_eq_true, decide_eq_true⟩ ?_
  refine forall₂_congr fun api' value => imp_congr_right fun _ => imp_congr_right fun _ => ?_
  cases value with
  | none => simp
  | some h => simp

/-! ## A notice -/

theorem profiles_of_active (h : m.mActiveServices[key]? = some s) :
    m.profiles key = s.mProfilesMap := by
  rw [CServiceManager.profiles, h]

/-- A service is put back, or removed where it has no profile left. -/
theorem exists_put_back (s : CService) (hs : m.mActiveServices[key]? = some s') :
    ∃ m' : CServiceManager,
      (if s.allDied then m.remove t key s else .ok (m.setActive key s)) = .ok m' ∧
      ∀ key' api' : Uid, (m'.profiles key')[api']? =
        if key' = key then s.mProfilesMap[api']? else (m.profiles key')[api']? := by
  by_cases hdied : s.mProfilesMap.isEmpty = true
  · refine ⟨{ m with mActiveServices := m.mActiveServices.erase key }, ?_, ?_⟩
    · rw [CService.allDied, if_pos hdied, CServiceManager.remove, delete_empty hdied]
      rfl
    · intro key' api'
      unfold CServiceManager.profiles
      rw [Std.TreeMap.getElem?_erase]
      by_cases hkey : key' = key
      · subst hkey
        rw [if_pos Std.ReflCmp.compare_self, if_pos rfl]
        have hnone : s.mProfilesMap[api']? = none :=
          Std.TreeMap.getElem?_eq_none (Std.TreeMap.isEmpty_iff_forall_not_mem.mp hdied api')
        rw [hnone]
        exact Std.TreeMap.getElem?_emptyc
      · rw [if_neg fun heq => hkey (Std.LawfulEqCmp.eq_of_compare heq).symm, if_neg hkey]
  · refine ⟨m.setActive key s, ?_, ?_⟩
    · rw [CService.allDied, if_neg hdied]
    · intro key' api'
      unfold CServiceManager.profiles CServiceManager.setActive
      rw [Std.TreeMap.getElem?_insert]
      by_cases hkey : key' = key
      · subst hkey
        rw [if_pos Std.ReflCmp.compare_self, if_pos rfl]
      · rw [if_neg fun heq => hkey (Std.LawfulEqCmp.eq_of_compare heq).symm, if_neg hkey]

/-- **What a notice does** where the search for the instance ends at a profile that is not
locked. -/
theorem profileDied_found {holder : ProfileHolder} (hfound : m.findForDeath service = some (key, s))
    (hsearch : s.searchProfile piuid = some (api, some holder)) (hfree : holder.isLocked = false) :
    ∃ m', m.profileDied t service piuid = .ok m' ∧
      ∀ key' api' : Uid, (m'.profiles key')[api']? =
        if key' = key ∧ api' = api then none else (m.profiles key')[api']? := by
  have hs := (findForDeath_eq_iff.mp hfound).1
  obtain ⟨m', hm', hprofiles⟩ := exists_put_back (t := t)
    { s with mProfilesMap := s.mProfilesMap.erase api } hs
  refine ⟨m', ?_, ?_⟩
  · rw [CServiceManager.profileDied, hfound]
    dsimp only
    have hdied : s.profileDied t piuid =
        .ok ({ s with mProfilesMap := s.mProfilesMap.erase api }, false) := by
      rw [CService.profileDied, hsearch]
      exact if_neg (Bool.eq_false_iff.mp hfree)
    rw [hdied]
    exact hm'
  · intro key' api'
    rw [hprofiles]
    by_cases hkey : key' = key
    · subst hkey
      rw [if_pos rfl, Std.TreeMap.getElem?_erase, profiles_of_active hs]
      by_cases hapi : api' = api
      · subst hapi
        rw [if_pos Std.ReflCmp.compare_self, if_pos ⟨rfl, rfl⟩]
      · rw [if_neg fun heq => hapi (Std.LawfulEqCmp.eq_of_compare heq).symm,
          if_neg fun h => hapi h.2]
    · rw [if_neg hkey, if_neg fun h => hkey h.1]

/-- A notice that returns and takes away something has found it. -/
theorem exists_of_profileDied (hm : m.profileDied t service piuid = .ok m')
    (hgone : (m'.profiles key)[api]? ≠ (m.profiles key)[api]?) :
    ∃ s holder, m.findForDeath service = some (key, s) ∧
      s.searchProfile piuid = some (api, some holder) ∧ holder.isLocked = false := by
  cases hfound : m.findForDeath service with
  | none =>
    rw [CServiceManager.profileDied, hfound] at hm
    cases hm
    exact absurd rfl hgone
  | some found =>
    obtain ⟨key₁, s⟩ := found
    have hs := (findForDeath_eq_iff.mp hfound).1
    rw [CServiceManager.profileDied, hfound] at hm
    dsimp only at hm
    rcases profileDied_cases s t piuid with ⟨-, hdied⟩ | ⟨_, -, hdied⟩ | ⟨_, _, -, -, hdied⟩ |
      ⟨api₁, holder, hsearch, hfree, -⟩
    · rw [hdied] at hm
      obtain ⟨m₁, hm₁, hprofiles⟩ := exists_put_back (t := t) s hs
      cases hm₁.symm.trans hm
      refine absurd ?_ hgone
      rw [hprofiles]
      split
      · rename_i hkey
        rw [hkey, profiles_of_active hs]
      · rfl
    · rw [hdied] at hm
      cases hm
    · -- it returns with the mutex of the map
      rw [hdied] at hm
      cases hm
    · obtain ⟨m₁, hm₁, hprofiles⟩ := profileDied_found (t := t) hfound hsearch hfree
      rw [CServiceManager.profileDied, hfound] at hm₁
      cases hm₁.symm.trans hm
      rw [hprofiles] at hgone
      split at hgone
      · rename_i hsame
        obtain ⟨rfl, rfl⟩ := hsame
        exact ⟨s, holder, rfl, hsearch, hfree⟩
      · exact absurd rfl hgone

/-! ## What is reported -/

namespace WatchedManager

variable {w v : WatchedManager} {mpClient : Bool}

theorem step_some {c : ThreadId × Call} (h : w.step manifests c = some v) :
    ∃ m', w.manager.call manifests c.1 c.2 = .ok m' ∧
      v = ⟨m', (w.incorrectAfter c.2).filter (· ∈ m'.mActiveServices)⟩ := by
  unfold step call at h
  split at h
  · cases h
  · rename_i u hu
    split at hu
    · cases hu
    · rename_i m' hm'
      cases hu
      cases h
      exact ⟨m', hm', rfl⟩

theorem mem_incorrectAfter (h : key ∈ w.incorrect) (c : Call) : key ∈ w.incorrectAfter c := by
  cases c with
  | profileDied service piuid =>
    unfold incorrectAfter
    dsimp only
    split
    · exact h
    · split
      · exact List.mem_insert_of_mem h
      · exact h
  | _ => exact h

theorem keyed_of_run {calls : List (ThreadId × Call)} (h : Keyed w.manager)
    (hr : run (step manifests) w calls = some v) : Keyed v.manager := by
  refine run_invariant (I := fun w => Keyed w.manager) ?_ h (along_of_run hr) hr
  intro u c v hu _ hs
  obtain ⟨m', hm', rfl⟩ := step_some hs
  exact hu.call hm'

/-- `mCorrect` is not set again as long as the service is active. -/
theorem incorrect_of_run {calls : List (ThreadId × Call)} (h : key ∈ w.incorrect)
    (hr : run (step manifests) w calls = some v)
    (hactive : Always (step manifests) w calls (fun u => key ∈ u.manager.mActiveServices)) :
    key ∈ v.incorrect := by
  refine run_invariant (I := fun w => key ∈ w.incorrect) ?_ h (always_iff_along.mp hactive).2 hr
  intro u c v hu hstays hs
  have hkey := hstays v hs
  obtain ⟨m', -, rfl⟩ := step_some hs
  exact List.mem_filter.mpr ⟨mem_incorrectAfter hu c.2, decide_eq_true hkey⟩

theorem serviceDropped_found (h : Keyed w.manager)
    (hfound : w.manager.findForDeath service = some (key, s)) :
    w.serviceDropped mpClient service = if w.correctState key && mpClient then [key] else [] := by
  have huid := (h.findForDeath hfound).2
  have hname : (if service ∈ w.manager.mActiveServices then service else s.mUid) = key := by
    rw [huid]
    split
    · rename_i hactive
      rcases (findForDeath_eq_iff.mp hfound).2 with hsame | ⟨hnot, -⟩
      · exact hsame
      · exact absurd hactive hnot
    · rfl
  rw [serviceDropped, hfound]
  dsimp only
  rw [hname]

theorem not_mem_serviceDropped (h : Keyed w.manager) (hkey : key ∈ w.incorrect) :
    key ∉ w.serviceDropped mpClient service := by
  intro hmem
  cases hfound : w.manager.findForDeath service with
  | none =>
    rw [serviceDropped, hfound] at hmem
    exact List.not_mem_nil hmem
  | some found =>
    obtain ⟨key', s⟩ := found
    rw [serviceDropped_found h hfound] at hmem
    split at hmem
    · rename_i hcorrect
      rw [← List.mem_singleton.mp hmem, Bool.and_eq_true] at hcorrect
      exact of_decide_eq_true hcorrect.1 hkey
    · exact List.not_mem_nil hmem

/-- What the code needs of the notice, by where its searches end. -/
theorem named_and_clear_iff (h : w.Holds key api piuid) :
    w.Named service key ∧ w.Clear key api piuid ↔
      ∃ s holder, w.manager.findForDeath service = some (key, s) ∧
        s.searchProfile piuid = some (api, some holder) ∧ holder.isLocked = false := by
  obtain ⟨holder, hholder, hid⟩ := h
  have hactive : ∃ s, w.manager.mActiveServices[key]? = some s := by
    cases hs : w.manager.mActiveServices[key]? with
    | none =>
      rw [CServiceManager.profiles, hs, Std.TreeMap.getElem?_emptyc] at hholder
      cases hholder
    | some s => exact ⟨s, rfl⟩
  obtain ⟨s, hs⟩ := hactive
  rw [Clear, profiles_of_active hs] at *
  constructor
  · intro ⟨hnamed, hfirst, hfree⟩
    refine ⟨s, holder, findForDeath_eq_iff.mpr ⟨hs, hnamed.imp_right ?_⟩,
      searchProfile_eq_iff.mpr ⟨hholder, hid, hfirst⟩, hfree holder hholder⟩
    intro ⟨hnot, ⟨s', hs', hpair⟩, hbefore⟩
    cases hs.symm.trans hs'
    exact ⟨hnot, hpair, hbefore⟩
  · intro ⟨s', holder', hfound, hsearch, hfree⟩
    obtain ⟨hs', hnamed⟩ := findForDeath_eq_iff.mp hfound
    cases hs.symm.trans hs'
    obtain ⟨hholder', -, hfirst⟩ := searchProfile_eq_iff.mp hsearch
    refine ⟨hnamed.imp_right ?_, hfirst, ?_⟩
    · intro ⟨hnot, hpair, hbefore⟩
      exact ⟨hnot, ⟨s, hs, hpair⟩, hbefore⟩
    · intro h hh
      cases hh.symm.trans hholder'
      exact hfree

/-- **Exactly when a death reaches its service**: in any state that calls can lead to, and for any
profile of any active service, the notice takes away just this profile and reports just this
service, once, if and only if the search by name ends at the service, and the one by instance at
the profile. -/
theorem death_reaches_iff (manifests : Uid → Option Manifest) (mSystemServices : List Uid)
    (calls : List (ThreadId × Call)) (w : WatchedManager)
    (hr : run (step manifests) (init mSystemServices) calls = some w) (mpClient : Bool)
    (t : ThreadId) (service piuid key api : Uid) (h : w.Holds key api piuid) :
    w.Reached manifests mpClient t service piuid key api ↔
      w.Named service key ∧ w.Clear key api piuid := by
  have hkeyed : Keyed w.manager := by
    refine keyed_of_run ?_ hr
    intro key s hs
    simp [init, CServiceManager.init] at hs
  rw [named_and_clear_iff h]
  obtain ⟨holder, hholder, hid⟩ := h
  constructor
  · rintro ⟨w', hcall, hprofiles, -⟩
    unfold call at hcall
    split at hcall
    · cases hcall
    · rename_i m' hm'
      cases hcall
      refine exists_of_profileDied hm' ?_
      rw [hprofiles, if_pos ⟨rfl, rfl⟩, hholder]
      exact (Option.some_ne_none _).symm
  · rintro ⟨s, holder', hfound, hsearch, hfree⟩
    obtain ⟨m', hm', hprofiles⟩ := profileDied_found (t := t) hfound hsearch hfree
    have hcall : w.manager.call manifests t (.profileDied service piuid) = .ok m' := hm'
    have hincorrect : key ∈ w.incorrectAfter (.profileDied service piuid) := by
      unfold incorrectAfter
      dsimp only
      rw [hfound]
      dsimp only
      rw [hsearch]
      exact List.mem_insert_self
    refine ⟨_, by rw [call, hcall], hprofiles, serviceDropped_found hkeyed hfound, ?_⟩
    intro calls v hr' hactive mpClient service
    have hnow := (always_iff_along.mp hactive).1
    refine not_mem_serviceDropped (keyed_of_run (hkeyed.call hcall) hr')
      (incorrect_of_run ?_ hr' hactive)
    exact List.mem_filter.mpr ⟨hincorrect, decide_eq_true hnow⟩

/-- Two services that are each other's pair. -/
def mutualPairs : Uid → Option Manifest
  | "a" => some ⟨"b", ["x"]⟩
  | "b" => some ⟨"a", ["y"]⟩
  | _ => none

/-- Each of the services is loaded here, so that its profile is loaded for its pair. -/
def bothLoaded : List (ThreadId × Call) :=
  [(0, .registerProfileCallbacks "x" (some 0)), (0, .registerProfileCallbacks "y" (some 0)),
   (0, .load "a" fun _ => .loaded "p" "x"), (0, .load "b" fun _ => .loaded "q" "y")]

theorem death_reaches_iff_named : ∃ w,
    run (step mutualPairs) (init ["a", "b"]) bothLoaded = some w ∧
      w.Reached mutualPairs true 0 "a" "p" "a" "x" := by
  refine ⟨_, rfl, (death_reaches_iff mutualPairs ["a", "b"] bothLoaded _ rfl true 0 "a" "p" "a" "x"
    ⟨⟨"p", "x", []⟩, rfl, rfl⟩).mpr ⟨Or.inl rfl, ?_, ?_⟩⟩
  · intro api' value hvalue hlt
    have hmem := mem_toList.mpr hvalue
    cases List.mem_singleton.mp hmem
    cases hlt
  · intro holder hholder
    cases hholder
    rfl

/-- The notice for the profile of `a`, which was loaded for `b`, reaches `b`, which is reported. -/
theorem death_reaches_pair : ∃ w,
    run (step mutualPairs) (init ["a", "b"]) bothLoaded = some w ∧ w.Holds "a" "x" "p" ∧
      w.serviceDropped true "b" = ["b"] ∧
      ¬ w.Reached mutualPairs true 0 "b" "p" "a" "x" := by
  refine ⟨_, rfl, ⟨⟨"p", "x", []⟩, rfl, rfl⟩, rfl, ?_⟩
  intro ⟨_, _, _, hdropped, _⟩
  have hsame : ["b"] = ["a"] := hdropped
  exact absurd hsame (by decide)

end WatchedManager

end IviLink.ServiceManager
