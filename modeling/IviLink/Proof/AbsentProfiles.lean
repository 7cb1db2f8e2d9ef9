import IviLink.Proof.DroppedServices
import IviLink.ServiceManager.CServiceManager

/-!
# One service and the profiles that have not arrived

The calls of a `CService` in any order. After one that returns with the mutex of the map locked, the
others never come to the profiles.
-/

namespace IviLink.ServiceManager

open IviLink.Lib

def CService.allLoaded (s : CService) : Bool := s.mProfilesMap.toList.all (·.2.isSome)

/-- A call of a service, with what the files and the other components give in it. -/
inductive ServiceCall
  | incomingLoad (manifest : Option Manifest) (cbMap : CallbacksMap)
  | incomingProfileRequest (manifest : Option Manifest) (papiUid : Uid) (pim : PimResult)
  | getProfile (t : ThreadId) (profileApi : Uid)
  | releaseProfile (t : ThreadId) (profileApi : Uid)
  | unload (t : ThreadId)
  | profileDied (t : ThreadId) (piuid : Uid)
  | delete (t : ThreadId)

inductive ServiceState
  | alive (s : CService)
  /-- `mpProfilesMapMutex` stays locked. -/
  | blocked
  | deleted

namespace ServiceState

/-- A call of a service that is alive, and whether it reports success. -/
def perform (s : CService) : ServiceCall → Except Fault (ServiceState × Bool)
  | .incomingLoad manifest cbMap =>
    .ok (.alive (s.incomingLoad manifest cbMap).1, (s.incomingLoad manifest cbMap).2)
  | .incomingProfileRequest manifest papiUid pim =>
    .ok (.alive (s.incomingProfileRequest manifest papiUid pim).1,
      (s.incomingProfileRequest manifest papiUid pim).2)
  | .getProfile t profileApi =>
    .ok (.alive (s.getProfile t profileApi).1, (s.getProfile t profileApi).2.isSome)
  | .releaseProfile t profileApi => .ok (.alive (s.releaseProfile t profileApi), true)
  | .unload t => (s.unload t).map fun s => (.alive s, true)
  | .profileDied t piuid =>
    (s.profileDied t piuid).map fun it => (if it.2 then .blocked else .alive it.1, true)
  | .delete t => (s.delete t).map fun _ => (.deleted, true)

/-- A call that returns. -/
def step : ServiceState → ServiceCall → Option ServiceState
  | .alive s, call =>
    match perform s call with
    | .error _ => none
    | .ok (x, _) => some x
  | .blocked, _ => some .blocked
  | .deleted, _ => none

/-- A call follows no null holder, and where a profile cannot be loaded it reports an error and
has no more profiles loaded than before. -/
def Sane : ServiceState → ServiceCall → Prop
  | .alive s, call =>
    perform s call ≠ .error .nullDereferenced ∧
      ∀ manifest papiUid pim, call = .incomingProfileRequest manifest papiUid pim →
        pim.profile = none → ∃ s', perform s call = .ok (.alive s', false) ∧
          ∀ (api : Uid) holder, s'.mProfilesMap[api]? = some (some holder) →
            s.mProfilesMap[api]? = some (some holder)
  | .blocked, _ => True
  | .deleted, _ => True

/-- A service is unloaded or destroyed only with all its profiles loaded; of a profile that dies
the instance comes before each one that is missing; and a profile is loaded that can be, or none
is loaded. -/
def Careful : ServiceState → ServiceCall → Prop
  | .alive s, .unload _ => s.allLoaded = true
  | .alive s, .delete _ => s.allLoaded = true
  | .alive s, .profileDied _ piuid =>
    ∀ api : Uid, s.mProfilesMap[api]? = some none → ∃ (api' : Uid) (holder : ProfileHolder),
      s.mProfilesMap[api']? = some (some holder) ∧ holder.getProfileID = piuid ∧
        compare api' api = .lt
  | .alive s, .incomingProfileRequest manifest papiUid pim =>
    pim.profile = none → manifest = none ∨ s.mCbMap[papiUid]? = none
  | _, _ => True

end ServiceState

end IviLink.ServiceManager

/-!
## Profiles that have not arrived

`getProfile` and `releaseProfile` look whether there is a holder; the loops of `unload`, which the
destructor calls too, and of `profileDied` do not.
-/

namespace IviLink.ServiceManager

open IviLink.Lib

variable {s : CService} {t : ThreadId} {piuid papiUid : Uid} {manifest : Option Manifest}
  {pim : PimResult}

theorem allLoaded_iff : s.allLoaded = true ↔ ∀ it ∈ s.mProfilesMap.toList, it.2 ≠ none := by
  rw [CService.allLoaded, List.all_eq_true]
  exact forall₂_congr fun it _ => Option.isSome_iff_ne_none

theorem unload_null_iff : s.unload t = .error .nullDereferenced ↔ s.allLoaded = false := by
  rw [← Bool.not_eq_true, allLoaded_iff]
  constructor
  · intro hnull hall
    obtain ⟨s', hs', -⟩ := unload_ok (t := t) hall
    rw [hs'] at hnull
    cases hnull
  · intro hnot
    refine unload_error ?_
    simpa only [not_forall, not_not, exists_prop] using hnot

theorem map_null_iff {α β : Type} {x : Except Fault α} {f : α → β} :
    x.map f = .error .nullDereferenced ↔ x = .error .nullDereferenced := by
  cases x with
  | error fault => exact Iff.of_eq (by simp [Except.map])
  | ok a => exact Iff.of_eq (by simp [Except.map])

/-- The search for the instance comes to a missing profile exactly if no entry before that is the
instance. -/
theorem profileDied_null_iff : s.profileDied t piuid = .error .nullDereferenced ↔
    ∃ api : Uid, s.mProfilesMap[api]? = some none ∧ ∀ (api' : Uid) (holder : ProfileHolder),
      s.mProfilesMap[api']? = some (some holder) → holder.getProfileID = piuid →
        compare api' api ≠ .lt := by
  -- where the instance is found, a missing one would be before it, which no missing one is
  have hbefore : ∀ {api holder}, s.searchProfile piuid = some (api, some holder) →
      ¬ ∃ api : Uid, s.mProfilesMap[api]? = some none ∧ ∀ (api' : Uid) (holder : ProfileHolder),
        s.mProfilesMap[api']? = some (some holder) → holder.getProfileID = piuid →
          compare api' api ≠ .lt := by
    rintro api holder hsearch ⟨null, hnull, hnone⟩
    obtain ⟨hholder, hid, hfirst⟩ := searchProfile_eq_iff.mp hsearch
    cases hcmp : compare null api with
    | lt =>
      obtain ⟨_, heq, _⟩ := hfirst null none hnull hcmp
      cases heq
    | eq =>
      obtain rfl := Std.LawfulEqCmp.eq_of_compare hcmp
      cases hnull.symm.trans hholder
    | gt => exact absurd (Std.OrientedCmp.lt_of_gt hcmp) (hnone api holder hholder hid)
  rcases profileDied_cases s t piuid with ⟨hsearch, hdied⟩ | ⟨api, hsearch, hdied⟩ |
    ⟨_, _, hsearch, -, hdied⟩ | ⟨_, _, hsearch, -, hdied⟩
  · rw [hdied]
    refine iff_of_false (fun h => by cases h) ?_
    rintro ⟨api, hapi, -⟩
    exact absurd (List.find?_eq_none.mp hsearch _ (mem_toList.mpr hapi)) (by simp)
  · obtain ⟨hapi, -, hfirst⟩ := find?_toList_iff.mp hsearch
    refine iff_of_true hdied ⟨api, hapi, ?_⟩
    intro api' holder hholder hid hlt
    exact of_decide_eq_false (hfirst api' (some holder) hholder hlt) hid
  · rw [hdied]
    exact iff_of_false (fun h => by cases h) (hbefore hsearch)
  · rw [hdied]
    exact iff_of_false (fun h => by cases h) (hbefore hsearch)

theorem incomingProfileRequest_false_iff :
    (s.incomingProfileRequest manifest papiUid pim).2 = false ↔
      manifest = none ∨ s.mCbMap[papiUid]? = none := by
  cases manifest with
  | none => exact iff_of_true rfl (Or.inl rfl)
  | some doc =>
    have hcb : (if s.mPairUid = "" then { s with mPairUid := doc.pair } else s).mCbMap =
        s.mCbMap := by
      split
      · rfl
      · rfl
    rw [CService.incomingProfileRequest, hcb, or_iff_right (by simp)]
    cases s.mCbMap[papiUid]? with
    | none => exact iff_of_true rfl rfl
    | some callback => exact iff_of_false (by simp) (by simp)

/-- A profile that is not loaded does not come to the loaded ones. -/
theorem incomingProfileRequest_loaded (hpim : pim.profile = none) {api : Uid}
    {holder : ProfileHolder}
    (h : (s.incomingProfileRequest manifest papiUid pim).1.mProfilesMap[api]? =
      some (some holder)) : s.mProfilesMap[api]? = some (some holder) := by
  cases manifest with
  | none => exact h
  | some doc =>
    have hmap : (if s.mPairUid = "" then { s with mPairUid := doc.pair } else s).mProfilesMap =
        s.mProfilesMap := by
      split
      · rfl
      · rfl
    rw [CService.incomingProfileRequest] at h
    split at h
    · rw [Std.TreeMap.getElem?_insert, hmap, hpim] at h
      by_cases hsame : compare (if papiUid ∈ doc.profiles then papiUid else "") api = .eq
      · rw [if_pos hsame] at h
        cases Option.some.inj h
      · rwa [if_neg hsame] at h
    · rwa [hmap] at h

namespace ServiceState

theorem sane_iff_of_ne {call : ServiceCall}
    (hcall : ∀ manifest papiUid pim, call ≠ .incomingProfileRequest manifest papiUid pim) :
    Sane (.alive s) call ↔ perform s call ≠ .error .nullDereferenced := by
  refine and_iff_left ?_
  intro manifest papiUid pim heq
  exact absurd heq (hcall manifest papiUid pim)

/-- **One call** follows no null holder and reports what fails, exactly if it is careful. -/
theorem sane_iff (x : ServiceState) (call : ServiceCall) : x.Sane call ↔ x.Careful call := by
  cases x with
  | blocked => exact iff_of_true trivial (by cases call <;> trivial)
  | deleted => exact iff_of_true trivial (by cases call <;> trivial)
  | alive s =>
    cases call with
    | incomingLoad manifest cbMap =>
      rw [sane_iff_of_ne (by simp)]
      exact iff_of_true (by simp [perform]) trivial
    | getProfile t profileApi =>
      rw [sane_iff_of_ne (by simp)]
      exact iff_of_true (by simp [perform]) trivial
    | releaseProfile t profileApi =>
      rw [sane_iff_of_ne (by simp)]
      exact iff_of_true (by simp [perform]) trivial
    | unload t =>
      rw [sane_iff_of_ne (by simp), perform, Ne, map_null_iff, unload_null_iff, Bool.not_eq_false]
      rfl
    | delete t =>
      rw [sane_iff_of_ne (by simp), perform, CService.delete, Ne, map_null_iff, map_null_iff,
        unload_null_iff, Bool.not_eq_false]
      rfl
    | profileDied t piuid =>
      rw [sane_iff_of_ne (by simp), perform, Ne, map_null_iff, profileDied_null_iff]
      simp only [Careful, not_exists, not_and, not_forall, not_not, exists_prop]
    | incomingProfileRequest manifest papiUid pim =>
      constructor
      · rintro ⟨-, hfails⟩ hpim
        obtain ⟨s', hs', -⟩ := hfails manifest papiUid pim rfl hpim
        have hpair := Except.ok.inj hs'
        exact incomingProfileRequest_false_iff.mp (congrArg Prod.snd hpair)
      · intro hcareful
        refine ⟨by simp [perform], ?_⟩
        intro manifest' papiUid' pim' hsame hpim
        cases hsame
        refine ⟨(s.incomingProfileRequest manifest papiUid pim).1, ?_, ?_⟩
        · rw [perform, incomingProfileRequest_false_iff.mpr (hcareful hpim)]
        · intro api holder hholder
          exact incomingProfileRequest_loaded hpim hholder

/-- **Exactly when a missing profile does no harm**: along any calls of a service, no call follows
a null holder and each load that fails is reported, if and only if every call is careful. -/
theorem absent_profiles_iff (s : CService) (calls : List ServiceCall) :
    Along step Sane (.alive s) calls ↔ Along step Careful (.alive s) calls :=
  along_iff (I := fun _ => True) (fun x call _ => sane_iff x call) (fun _ _ _ _ _ => trivial)
    trivial

/-- A service is expected, and unloaded before its profile has come; and one is asked for a profile
that cannot be loaded. -/
theorem null_holder_followed :
    ¬ Along step Sane (.alive (.new "service"))
        [.incomingLoad (some ⟨"pair", ["api"]⟩) (({} : CallbacksMap).insert "api" (some 0)),
          .unload 0] ∧
      ¬ Along step Sane (.alive (.new "service"))
        [.incomingLoad (some ⟨"pair", ["api"]⟩) (({} : CallbacksMap).insert "api" (some 0)),
          .incomingProfileRequest (some ⟨"pair", ["api"]⟩) "api" .loadFailed] := by
  constructor
  · intro h
    exact (h.2 _ rfl).1.1 rfl
  · intro h
    obtain ⟨s', hs', -⟩ := (h.2 _ rfl).1.2 _ _ _ rfl rfl
    cases congrArg Prod.snd (Except.ok.inj hs')

end ServiceState

end IviLink.ServiceManager
