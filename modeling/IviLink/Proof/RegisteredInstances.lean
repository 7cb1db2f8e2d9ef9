import IviLink.ProfileManager.Registrations
import IviLink.Lib.Run

/-!
# The containers of the registry agree

Everything goes through the piuids of an application, which `getProfilesOfApp` reads: an operation
is seen there as one piuid more at the end, or one less. `Consistent` says which application an
instance is filed under, that it is filed once, and that the connected applications are the same
in all the containers. The uid that an application is given is new, since the counter of the
process has only been smaller before.

The loss of a connection goes over a copy of the piuids, and each of them takes itself out of the
application, so that the application has none when it is taken out itself.
-/

namespace IviLink.ProfileManager.PIM

open IviLink.Utils (generateUid generateUid_eq_some toDigits_injective)

namespace ClientAppRegistry

/-- The containers fit together; the applications have uids that a counter below `n` gave. -/
structure Consistent (r : ClientAppRegistry) (n : Nat) : Prop where
  filed : ∀ (piuid : IUid) (appId : Uid),
    r.mProfileToApp[piuid]? = some appId ↔ piuid ∈ r.getProfilesOfApp appId
  distinct : ∀ appId, (r.getProfilesOfApp appId).Nodup
  profiled : ∀ appId, appId ∈ r.mAppDatas ↔ appId ∈ r.mAppProfiles
  connected : ∀ appId, appId ∈ r.mAppDatas ↔ r.Serves appId
  once : ∀ (dirId dirId' : DirectionID) (appId : Uid), r.mDirIdAppMap[dirId]? = some appId →
    r.mDirIdAppMap[dirId']? = some appId → dirId = dirId'
  given : ∀ appId ∈ r.mAppDatas, ∃ m < n, appId = Nat.toDigits 10 m

variable {r r' : ClientAppRegistry} {n : Nat} {piuid : IUid} {appId : Uid} {dirId : DirectionID}

theorem consistent_init : init.Consistent n where
  filed piuid appId := by simp [init, getProfilesOfApp]
  distinct appId := by simp [init, getProfilesOfApp]
  profiled appId := by simp [init]
  connected appId := by simp [init, Serves]
  once dirId dirId' appId h := absurd h (by simp [init])
  given appId h := absurd h (by simp [init])

theorem getProfilesOfApp_of_some {ds : ProfileDataSet} (h : r.mAppProfiles[appId]? = some ds) :
    r.getProfilesOfApp appId = ds.map (·.piuid) := by
  rw [getProfilesOfApp, h]

theorem getProfilesOfApp_insert {profiles : Std.TreeMap IUid Uid} {ds : ProfileDataSet}
    (other : Uid) :
    getProfilesOfApp { r with
      mProfileToApp := profiles
      mAppProfiles := r.mAppProfiles.insert appId ds } other =
        if appId = other then ds.map (·.piuid) else r.getProfilesOfApp other := by
  simp only [getProfilesOfApp, Std.TreeMap.getElem?_insert, Std.LawfulEqCmp.compare_eq_iff_eq]
  by_cases heq : appId = other
  · rw [if_pos heq, if_pos heq]
  · rw [if_neg heq, if_neg heq]

theorem entries_eq : r.entries appId piuid = (r.getProfilesOfApp appId).count piuid := by
  rw [entries, getProfilesOfApp]
  cases r.mAppProfiles[appId]? with
  | none => rfl
  | some ds =>
    simp only [List.count, List.countP_map]
    exact List.countP_congr (by simp)

namespace Consistent

theorem mono (h : r.Consistent n) {m : Nat} (hm : n ≤ m) : r.Consistent m where
  filed := h.filed
  distinct := h.distinct
  profiled := h.profiled
  connected := h.connected
  once := h.once
  given appId happ := by
    obtain ⟨k, hk, heq⟩ := h.given appId happ
    exact ⟨k, by omega, heq⟩

theorem agrees (h : r.Consistent n) : r.Agrees where
  owner piuid appId := by
    simp only [entries_eq]
    constructor
    · intro happ
      have hmem := (h.filed piuid appId).mp happ
      refine ⟨List.count_eq_one_of_mem (h.distinct appId) hmem, fun other hne => ?_⟩
      rw [List.count_eq_zero]
      intro hother
      have heq := (h.filed piuid other).mpr hother
      exact hne (Option.some.inj (heq.symm.trans happ))
    · rintro ⟨hone, -⟩
      exact (h.filed piuid appId).mpr (List.count_pos_iff.mp (by omega))
  connected := h.connected
  once := h.once
  profiled := h.profiled

theorem sound (h : r.Consistent n) : r.Sound where
  served appId := (h.connected appId).mp
  profiled appId hserves := by
    have happ := (h.connected appId).mpr hserves
    obtain ⟨m, -, rfl⟩ := h.given appId happ
    exact ⟨Nat.toDigits_ne_nil, (h.profiled _).mp happ⟩
  filed piuid appId happ := by
    have hmem := (h.filed piuid appId).mp happ
    rw [getProfilesOfApp] at hmem
    split at hmem
    · exact absurd hmem List.not_mem_nil
    · rename_i ds hds
      refine ⟨(h.connected appId).mp ((h.profiled appId).mpr ?_), ds, hds, List.mem_map.mp hmem⟩
      exact Std.TreeMap.mem_iff_isSome_getElem?.mpr (by rw [hds]; rfl)

/-- A uid that the counter gives now is not in use. -/
theorem fresh (h : r.Consistent n) : Nat.toDigits 10 n ∉ r.mAppDatas := by
  intro hmem
  obtain ⟨m, hm, heq⟩ := h.given _ hmem
  have := toDigits_injective heq
  omega

theorem registerApp (h : r.Consistent n) (hdir : dirId ∉ r.mDirIdAppMap) :
    ∃ r', r.registerApp (Nat.toDigits 10 n) dirId = some (.ok r') ∧ r'.Consistent (n + 1) := by
  have hnew := h.fresh
  have hnone : Nat.toDigits 10 n ∉ r.mAppProfiles := fun hmem => hnew ((h.profiled _).mpr hmem)
  refine ⟨_, by rw [ClientAppRegistry.registerApp, if_neg hnew, if_neg hdir], ?_⟩
  generalize hdigits : Nat.toDigits 10 n = appId at hnew hnone
  -- the set of the new application is empty, as if there were none
  have hsame : ∀ other, getProfilesOfApp { r with
      mAppDatas := r.mAppDatas.insert appId ⟨[]⟩
      mAppProfiles := r.mAppProfiles.insertIfNew appId []
      mDirIdAppMap := r.mDirIdAppMap.insert dirId appId } other = r.getProfilesOfApp other := by
    intro other
    simp only [getProfilesOfApp, Std.TreeMap.getElem?_insertIfNew,
      Std.LawfulEqCmp.compare_eq_iff_eq]
    by_cases heq : appId = other
    · subst heq
      rw [if_pos ⟨rfl, hnone⟩, Std.TreeMap.getElem?_eq_none hnone]
      rfl
    · rw [if_neg fun h => heq h.1]
  have hgone : ∀ other, r.mDirIdAppMap[dirId]? = some other → False := by
    intro other hother
    rw [Std.TreeMap.getElem?_eq_none hdir] at hother
    cases hother
  have hserves : ∀ other, r.Serves other → other ≠ appId := by
    rintro other hother rfl
    exact hnew ((h.connected _).mpr hother)
  refine ⟨?_, ?_, ?_, ?_, ?_, ?_⟩
  · intro piuid other
    rw [hsame]
    exact h.filed piuid other
  · intro other
    rw [hsame]
    exact h.distinct other
  · intro other
    simp [h.profiled other]
  · intro other
    simp only [Std.TreeMap.mem_insert, Std.LawfulEqCmp.compare_eq_iff_eq, Serves,
      Std.TreeMap.getElem?_insert]
    constructor
    · rintro (rfl | hother)
      · exact ⟨dirId, by simp⟩
      · obtain ⟨d, hd⟩ := (h.connected other).mp hother
        have hne : dirId ≠ d := by
          rintro rfl
          exact hgone other hd
        exact ⟨d, by rw [if_neg hne]; exact hd⟩
    · rintro ⟨d, hd⟩
      split at hd
      · exact .inl (Option.some.inj hd)
      · exact .inr ((h.connected other).mpr ⟨d, hd⟩)
  · intro d d' other hd hd'
    simp only [Std.TreeMap.getElem?_insert, Std.LawfulEqCmp.compare_eq_iff_eq] at hd hd'
    split at hd <;> split at hd'
    · rename_i h₁ h₂
      exact h₁.symm.trans h₂
    · exact absurd (Option.some.inj hd).symm (hserves other ⟨d', hd'⟩)
    · exact absurd (Option.some.inj hd').symm (hserves other ⟨d, hd⟩)
    · exact h.once d d' other hd hd'
  · intro other hother
    rcases Std.TreeMap.mem_insert.mp hother with heq | hother
    · exact ⟨n, by omega, by rw [hdigits, Std.LawfulEqCmp.compare_eq_iff_eq.mp heq]⟩
    · obtain ⟨m, hm, heq⟩ := h.given other hother
      exact ⟨m, by omega, heq⟩

/-- What is left to show when only the instances of one application change. -/
theorem refile (h : r.Consistent n) (happ : appId ∈ r.mAppProfiles)
    {profiles : Std.TreeMap IUid Uid} {ds : ProfileDataSet}
    (hdistinct : (ds.map (·.piuid)).Nodup)
    (hfiled : ∀ (piuid : IUid) (other : Uid), profiles[piuid]? = some other ↔
      if appId = other then piuid ∈ ds.map (·.piuid) else r.mProfileToApp[piuid]? = some other) :
    Consistent { r with
      mProfileToApp := profiles
      mAppProfiles := r.mAppProfiles.insert appId ds } n := by
  refine ⟨?_, ?_, ?_, h.connected, h.once, h.given⟩
  · intro piuid other
    rw [getProfilesOfApp_insert, hfiled]
    split
    · rfl
    · exact h.filed piuid other
  · intro other
    rw [getProfilesOfApp_insert]
    split
    · exact hdistinct
    · exact h.distinct other
  · intro other
    rw [Std.TreeMap.mem_insert, Std.LawfulEqCmp.compare_eq_iff_eq, h.profiled other]
    constructor
    · exact .inr
    · rintro (rfl | hother)
      · exact happ
      · exact hother

theorem registerProfile (h : r.Consistent n) (data : ProfileData) (happ : appId ∈ r.mAppProfiles) :
    ∃ x, r.registerProfile appId data = some x ∧ ∀ r', x = .ok r' → r'.Consistent n := by
  obtain ⟨ds, hds⟩ := Option.isSome_iff_exists.mp (Std.TreeMap.mem_iff_isSome_getElem?.mp happ)
  rw [ClientAppRegistry.registerProfile]
  split
  · exact ⟨_, rfl, fun r' hr' => by cases hr'⟩
  · rename_i hnew
    rw [hds]
    refine ⟨_, rfl, ?_⟩
    intro r' hr'
    obtain rfl := Except.ok.inj hr'
    have hnone : r.mProfileToApp[data.piuid]? = none := Std.TreeMap.getElem?_eq_none hnew
    have hnot : data.piuid ∉ ds.map (·.piuid) := by
      intro hmem
      rw [← getProfilesOfApp_of_some hds, ← h.filed, hnone] at hmem
      cases hmem
    have hnodup : (ds.map (·.piuid)).Nodup := getProfilesOfApp_of_some hds ▸ h.distinct appId
    refine h.refile happ ?_ ?_
    · rw [List.map_append, List.nodup_append]
      refine ⟨hnodup, by simp, ?_⟩
      intro p hp q hq heq
      obtain rfl : q = data.piuid := by simpa using hq
      exact hnot (heq ▸ hp)
    · intro piuid other
      simp only [Std.TreeMap.getElem?_insert, Std.LawfulEqCmp.compare_eq_iff_eq, List.map_append,
        List.mem_append, List.map_cons, List.map_nil, List.mem_singleton]
      by_cases hpiuid : data.piuid = piuid
      · subst hpiuid
        by_cases heq : appId = other
        · simp [heq]
        · simp [heq, hnone]
      · rw [if_neg hpiuid, h.filed]
        by_cases heq : appId = other
        · subst heq
          rw [if_pos rfl, getProfilesOfApp_of_some hds]
          simp [Ne.symm hpiuid]
        · rw [if_neg heq]

/-- An instance is taken out of the piuids of its application. -/
theorem unregisterProfile (h : r.Consistent n) (piuid : IUid) :
    ∃ x, r.unregisterProfile piuid = some x ∧ ∀ r', x = .ok r' → r'.Consistent n ∧
      ∀ appId, r'.getProfilesOfApp appId = (r.getProfilesOfApp appId).erase piuid := by
  rw [ClientAppRegistry.unregisterProfile]
  cases happ : r.mProfileToApp[piuid]? with
  | none =>
    refine ⟨_, rfl, ?_⟩
    intro r' hr'
    cases hr'
  | some appId =>
    have hmem := (h.filed piuid appId).mp happ
    cases hds : r.mAppProfiles[appId]? with
    | none =>
      rw [getProfilesOfApp, hds] at hmem
      exact absurd hmem List.not_mem_nil
    | some ds =>
      dsimp only
      rw [hds]
      refine ⟨_, rfl, ?_⟩
      intro r' hr'
      obtain rfl := Except.ok.inj hr'
      have herase : (ds.eraseP (·.piuid = piuid)).map (·.piuid) =
          (r.getProfilesOfApp appId).erase piuid := by
        have hpred : (fun x : ProfileData => decide (x.piuid = piuid)) =
            (fun x => x == piuid) ∘ fun x => x.piuid := by
          funext x
          exact Bool.eq_iff_iff.mpr (by simp)
        rw [getProfilesOfApp_of_some hds, List.erase_eq_eraseP', List.eraseP_map, hpred]
      have hnodup := h.distinct appId
      constructor
      · refine h.refile ?_ ?_ ?_
        · exact Std.TreeMap.mem_iff_isSome_getElem?.mpr (by rw [hds]; rfl)
        · rw [herase]
          exact hnodup.erase piuid
        · intro p other
          simp only [herase, hnodup.mem_erase_iff, Std.TreeMap.getElem?_erase,
            Std.LawfulEqCmp.compare_eq_iff_eq]
          by_cases heq : appId = other
          · subst heq
            rw [if_pos rfl, ← h.filed]
            by_cases hp : piuid = p
            · simp [hp]
            · simp [hp, Ne.symm hp]
          · rw [if_neg heq]
            by_cases hp : piuid = p
            · subst hp
              simp [happ, heq]
            · rw [if_neg hp]
      · intro other
        rw [getProfilesOfApp_insert, herase]
        split
        · rename_i heq
          rw [heq]
        · rename_i hne
          refine (List.erase_of_not_mem ?_).symm
          intro hother
          have hcontra := (h.filed piuid other).mpr hother
          exact hne (Option.some.inj (happ.symm.trans hcontra))

theorem addServiceToApp (h : r.Consistent n) (appId : Uid) (sid : ServiceUid) :
    (r.addServiceToApp appId sid).Consistent n := by
  rw [ClientAppRegistry.addServiceToApp]
  split
  · exact h
  · rename_i app happ
    have hmem : appId ∈ r.mAppDatas := Std.TreeMap.mem_iff_isSome_getElem?.mpr (by rw [happ]; rfl)
    have hkeys : ∀ other, other ∈ r.mAppDatas.insert appId (app.addService sid) ↔
        other ∈ r.mAppDatas := by
      intro other
      rw [Std.TreeMap.mem_insert, Std.LawfulEqCmp.compare_eq_iff_eq]
      constructor
      · rintro (rfl | hother)
        · exact hmem
        · exact hother
      · exact .inr
    exact ⟨h.filed, h.distinct, fun other => (hkeys other).trans (h.profiled other),
      fun other => (hkeys other).trans (h.connected other), h.once,
      fun other hother => h.given other ((hkeys other).mp hother)⟩

/-- An application without instances is taken out, with the direction that it is connected over. -/
theorem unregisterApp (h : r.Consistent n) (hnil : r.getProfilesOfApp appId = []) :
    ∃ x, r.unregisterApp appId = some x ∧ ∀ r', x = .ok r' → r'.Consistent n := by
  rw [ClientAppRegistry.unregisterApp]
  by_cases happ : appId ∈ r.mAppDatas
  · obtain ⟨d, hd⟩ := (h.connected appId).mp happ
    rw [if_pos happ]
    cases hfind : r.mDirIdAppMap.toList.find? (·.2 = appId) with
    | none =>
      have hmem := Std.TreeMap.mem_toList_iff_getElem?_eq_some.mpr hd
      exact absurd (List.find?_eq_none.mp hfind _ hmem) (by simp)
    | some it =>
      refine ⟨_, rfl, ?_⟩
      intro r' hr'
      obtain rfl := Except.ok.inj hr'
      have hit : r.mDirIdAppMap[it.1]? = some appId := by
        obtain rfl : it.2 = appId := by simpa using List.find?_some hfind
        exact Std.TreeMap.mem_toList_iff_getElem?_eq_some.mp (List.mem_of_find?_eq_some hfind)
      have hsame : ∀ other, getProfilesOfApp { r with
          mAppDatas := r.mAppDatas.erase appId
          mAppProfiles := r.mAppProfiles.erase appId
          mDirIdAppMap := r.mDirIdAppMap.erase it.1 } other = r.getProfilesOfApp other := by
        intro other
        by_cases heq : appId = other
        · subst heq
          rw [hnil]
          simp [getProfilesOfApp]
        · simp [getProfilesOfApp, Std.TreeMap.getElem?_erase, heq]
      have hdirs : ∀ (d : DirectionID) (other : Uid), (r.mDirIdAppMap.erase it.1)[d]? = some other ↔
          appId ≠ other ∧ r.mDirIdAppMap[d]? = some other := by
        intro d other
        simp only [Std.TreeMap.getElem?_erase, Std.LawfulEqCmp.compare_eq_iff_eq]
        by_cases heq : it.1 = d
        · subst heq
          simp [hit]
        · rw [if_neg heq]
          refine ⟨fun hother => ⟨?_, hother⟩, And.right⟩
          rintro rfl
          exact heq (h.once _ _ _ hit hother)
      refine ⟨?_, ?_, ?_, ?_, ?_, ?_⟩
      · intro piuid other
        rw [hsame]
        exact h.filed piuid other
      · intro other
        rw [hsame]
        exact h.distinct other
      · intro other
        simp [Std.TreeMap.mem_erase, h.profiled other]
      · intro other
        simp only [Std.TreeMap.mem_erase, Std.LawfulEqCmp.compare_eq_iff_eq, ne_eq, Serves, hdirs,
          h.connected other]
        simp
      · intro d d' other hd hd'
        exact h.once d d' other ((hdirs d other).mp hd).2 ((hdirs d' other).mp hd').2
      · intro other hother
        exact h.given other (Std.TreeMap.mem_erase.mp hother).2
  · rw [if_neg happ]
    refine ⟨_, rfl, ?_⟩
    intro r' hr'
    cases hr'

end Consistent

end ClientAppRegistry

/-! ## The methods -/

namespace PmpPim

variable {s : PmpPim} {n : Nat}

/-- No assertion fails, and the containers fit together afterwards. -/
def Leaves (n : Nat) (x : Option Effect) : Prop :=
  ∃ y, x = some y ∧ y.pim.mRegistry.Consistent n

theorem Leaves.of_some {y : Effect} (h : y.pim.mRegistry.Consistent n) : Leaves n (some y) :=
  ⟨y, rfl, h⟩

theorem leaves_createProfile (h : s.mRegistry.Consistent n) (profileUid : Uid) (piuid : IUid)
    (sid : ServiceUid) (dirId : DirectionID) :
    Leaves n (s.createProfile profileUid piuid sid dirId) := by
  rw [createProfile]
  split
  · exact .of_some h
  · rename_i appId hfind
    have hserves : s.mRegistry.Serves appId := ⟨dirId, ClientAppRegistry.findAppByDirId_eq.mp hfind⟩
    have happ := (h.profiled appId).mp ((h.connected appId).mpr hserves)
    obtain ⟨x, hx, hkeep⟩ := h.registerProfile ⟨piuid, sid, profileUid⟩ happ
    dsimp only
    rw [hx]
    cases x with
    | error e => exact .of_some h
    | ok r =>
      dsimp only
      split
      · exact .of_some (hkeep r rfl)
      · split <;> exact .of_some (hkeep r rfl)

/-- What has died is not there any more, and nothing else is gone. -/
theorem profileDied_erases (h : s.mRegistry.Consistent n) (piuid : IUid) :
    ∃ y, s.profileDied piuid = some y ∧ y.pim.mRegistry.Consistent n ∧ ∀ appId,
      y.pim.mRegistry.getProfilesOfApp appId =
        (s.mRegistry.getProfilesOfApp appId).erase piuid := by
  by_cases hregistered : s.mRegistry.registered piuid = true
  · obtain ⟨sid, hsid⟩ := h.sound.findSidByPIUID hregistered
    obtain ⟨r, hr, -⟩ := h.sound.unregisterProfile hregistered
    obtain ⟨x, hx, hkeep⟩ := h.unregisterProfile piuid
    obtain rfl := Option.some.inj (hr.symm.trans hx)
    rw [profileDied, hsid]
    dsimp only
    rw [hr]
    exact ⟨_, rfl, hkeep r rfl⟩
  · have hnone := ClientAppRegistry.registered_eq_false.mp (Bool.eq_false_iff.mpr hregistered)
    rw [profileDied,
      ClientAppRegistry.findSidByPIUID_unknown (Bool.eq_false_iff.mpr hregistered)]
    refine ⟨_, rfl, h, ?_⟩
    intro appId
    refine (List.erase_of_not_mem fun hmem => ?_).symm
    rw [← h.filed, hnone] at hmem
    cases hmem

/-- The copy that the loop goes over has all the instances of the application. -/
theorem profilesDied_empties {appId : Uid} {piuids : List IUid} (h : s.mRegistry.Consistent n)
    (hall : s.mRegistry.getProfilesOfApp appId = piuids) :
    ∃ y, s.profilesDied piuids = some y ∧ y.pim.mRegistry.Consistent n ∧
      y.pim.mRegistry.getProfilesOfApp appId = [] := by
  induction piuids generalizing s with
  | nil => exact ⟨_, rfl, h, hall⟩
  | cons piuid rest ih =>
    obtain ⟨x, hx, hconsistent, herase⟩ := profileDied_erases h piuid
    have hrest : x.pim.mRegistry.getProfilesOfApp appId = rest := by
      rw [herase, hall, List.erase_cons_head]
    obtain ⟨y, hy, hleft⟩ := ih hconsistent hrest
    rw [profilesDied, hx]
    dsimp only
    rw [hy]
    exact ⟨_, rfl, hleft⟩

theorem leaves_onConnectionLost (h : s.mRegistry.Consistent n) {dirId : DirectionID}
    (hdir : dirId ∈ s.mRegistry.mDirIdAppMap) : Leaves n (s.onConnectionLost dirId) := by
  obtain ⟨appId, happ⟩ := Option.isSome_iff_exists.mp (Std.TreeMap.mem_iff_isSome_getElem?.mp hdir)
  obtain ⟨y, hy, hconsistent, hnil⟩ := profilesDied_empties h
    (rfl : s.mRegistry.getProfilesOfApp appId = _)
  obtain ⟨x, hx, hkeep⟩ := hconsistent.unregisterApp hnil
  rw [onConnectionLost, ClientAppRegistry.findAppByDirId_eq.mpr happ]
  dsimp only
  rw [hy]
  dsimp only
  rw [hx]
  cases x with
  | error e => exact .of_some hconsistent
  | ok r => exact .of_some (hkeep r rfl)

theorem leaves_unloadEach {profiles : List ProfileInstanceData} (h : s.mRegistry.Consistent n) :
    Leaves n (s.unloadEach profiles) := by
  induction profiles generalizing s with
  | nil => exact .of_some h
  | cons data rest ih =>
    obtain ⟨x, hx, hkeep⟩ := h.unregisterProfile data.piuid
    rw [unloadEach, hx]
    cases x with
    | error e =>
      obtain ⟨y, hy, hleft⟩ := ih h
      dsimp only
      rw [hy]
      exact ⟨_, rfl, hleft⟩
    | ok r =>
      obtain ⟨y, hy, hleft⟩ := @ih { s with mRegistry := r } (hkeep r rfl).1
      dsimp only
      rw [hy]
      exact ⟨_, rfl, hleft⟩

theorem leaves_onProfileDied (h : s.mRegistry.Consistent n) (piuid : IUid) :
    Leaves n (s.onProfileDied piuid) := by
  obtain ⟨x, hx, hkeep⟩ := h.unregisterProfile piuid
  rw [onProfileDied]
  split
  · exact .of_some h
  · dsimp only
    rw [hx]
    cases x with
    | error e => exact .of_some h
    | ok r =>
      dsimp only
      split <;> exact .of_some (hkeep r rfl).1

theorem consistent_readyToServe (h : s.mRegistry.Consistent n) (sesUid : SessionUid)
    (dirId : DirectionID) : (s.readyToServe sesUid dirId).pim.mRegistry.Consistent n := by
  rw [readyToServe]
  split
  · exact h
  · dsimp only
    split
    · exact h
    · split <;> exact h.addServiceToApp _ _

/-- An event other than a new connection. -/
theorem leaves_handleEvent (h : s.mRegistry.Consistent n) (uid : Uid) {event : PimEvent}
    (hevent : ∀ dirId, event ≠ .PimIpcOnConnection dirId) : Leaves n (s.handleEvent uid event) := by
  cases event with
  | PimIpcOnConnection dirId => exact absurd rfl (hevent dirId)
  | PimIpcCreateProfile profileUid piuid sid dirId => exact leaves_createProfile h _ _ _ _
  | PimIpcProfileDied piuid dirId =>
    obtain ⟨y, hy, hconsistent, -⟩ := profileDied_erases h piuid
    exact ⟨y, hy, hconsistent⟩
  | PimIpcReadyToServe sesUid dirId => exact .of_some (consistent_readyToServe h _ _)
  | PimProtocolCreateProfile profileUid piuid sid =>
    refine .of_some ?_
    rw [onCreateProfile]
    split
    · exact h
    · split <;> exact h
  | PimProtocolProfileDied piuid sid => exact leaves_onProfileDied h piuid
  | InternalPimProcessIncomingProfile appId profileUid piuid sid =>
    refine .of_some ?_
    rw [processIncomingProfile]
    split
    · exact h
    · split
      · exact h
      · split <;> exact h

end PmpPim

namespace PmpProcess

variable {p p' : PmpProcess} {a : Incident}

/-- The uids of the registered applications are numbers that the counter has had. -/
def Inv (p : PmpProcess) : Prop := p.pim.mRegistry.Consistent p.gCounter

theorem inv_init (libs : List LibInfo) : (init libs).Inv := ClientAppRegistry.consistent_init

/-- No assertion fails, and the invariant holds if the method comes to its end. -/
def Safe : Outcome → Prop
  | .done x gCounter => Inv ⟨x.pim, gCounter⟩
  | .assertion => False
  | .overflow => True

theorem safe_finish {x : Option Effect} {n : Nat} (h : PmpPim.Leaves n x) : Safe (finish x n) := by
  obtain ⟨y, rfl, hconsistent⟩ := h
  exact hconsistent

theorem safe_withUid {f : Uid → Option Effect}
    (h : PmpPim.Leaves (p.gCounter + 1) (f (Nat.toDigits 10 p.gCounter))) : Safe (p.withUid f) := by
  rw [withUid]
  split
  · trivial
  · rename_i uid gCounter huid
    obtain ⟨rfl, rfl⟩ := generateUid_eq_some huid
    exact safe_finish h

theorem Inv.handle (h : p.Inv) (ha : p.Admits a) : Safe (p.handle a) := by
  have hnext : p.pim.mRegistry.Consistent (p.gCounter + 1) := h.mono (Nat.le_succ _)
  cases a with
  | handleEvent event =>
    rw [PmpProcess.handle]
    by_cases hevent : ∃ dirId, event = .PimIpcOnConnection dirId
    · obtain ⟨dirId, rfl⟩ := hevent
      obtain ⟨r, hr, hconsistent⟩ := ClientAppRegistry.Consistent.registerApp h ha
      refine safe_withUid ?_
      rw [PmpPim.handleEvent, PmpPim.onConnection, hr]
      exact .of_some hconsistent
    · have hother : ∀ dirId, event ≠ .PimIpcOnConnection dirId := fun dirId heq => hevent ⟨dirId, heq⟩
      split
      · exact safe_withUid (PmpPim.leaves_handleEvent hnext _ hother)
      · exact safe_finish (PmpPim.leaves_handleEvent h _ hother)
  | onConnectionLost dirId => exact safe_finish (PmpPim.leaves_onConnectionLost h ha)
  | unloadInstances profileId => exact safe_finish (PmpPim.leaves_unloadEach h)
  | generateUid => exact safe_withUid (.of_some hnext)

theorem Inv.step (h : p.Inv) (hs : p.step a = some p') : p'.Inv := by
  rw [PmpProcess.step] at hs
  split at hs
  · rename_i ha
    have hsafe := h.handle ha
    split at hs
    · rename_i x gCounter hx
      obtain rfl := Option.some.inj hs
      rw [hx] at hsafe
      exact hsafe
    · cases hs
  · cases hs

theorem inv_of_run {libs : List LibInfo} {es : List Incident}
    (hr : Lib.run step (init libs) es = some p) : p.Inv :=
  Lib.run_invariant (P := fun _ _ => True) (fun _ _ _ h _ hs => h.step hs) (inv_init libs)
    (Lib.along_of_mem fun _ _ _ => trivial) hr

/-- **The registry stays consistent**: after every run its containers agree, and no assertion
fails in what can happen next. -/
theorem registrations_agree {libs : List LibInfo} {es : List Incident}
    (hr : Lib.run step (init libs) es = some p) :
    p.pim.mRegistry.Agrees ∧ ∀ a, p.Admits a → p.handle a ≠ .assertion := by
  have hinv := inv_of_run hr
  refine ⟨ClientAppRegistry.Consistent.agrees hinv, ?_⟩
  intro a ha heq
  have hsafe := hinv.handle ha
  rw [heq] at hsafe
  exact hsafe

/-- A client has two instances of a profile and one of another profile; the first one is created
again without success, and the instances of the profile are unloaded. Another client comes, and
the first one is lost. -/
def comesAndGoes : List Incident :=
  [.handleEvent (.PimIpcOnConnection 1), .handleEvent (.PimIpcCreateProfile ['p'] ['1'] ['s'] 1),
   .handleEvent (.PimIpcCreateProfile ['p'] ['2'] ['s'] 1),
   .handleEvent (.PimIpcCreateProfile ['q'] ['3'] ['s'] 1),
   .handleEvent (.PimIpcCreateProfile ['q'] ['1'] ['t'] 1), .generateUid,
   .unloadInstances ['p'], .handleEvent (.PimIpcOnConnection 2), .onConnectionLost 1,
   .handleEvent (.PimIpcOnConnection 1)]

theorem registrations_agree_comesAndGoes : ∃ p,
    Lib.run step (init []) comesAndGoes = some p ∧ p.pim.mRegistry.Agrees ∧
      p.handle (.onConnectionLost 2) ≠ .assertion := by
  have hends : (Lib.run step (init []) comesAndGoes).map
      (fun p => decide (p.Admits (.onConnectionLost 2))) = some true := by
    decide +kernel
  obtain ⟨p, hp, hadmits⟩ := Option.map_eq_some_iff.mp hends
  obtain ⟨hagrees, hsafe⟩ := registrations_agree hp
  exact ⟨p, hp, hagrees, hsafe _ (of_decide_eq_true hadmits)⟩

end PmpProcess

end IviLink.ProfileManager.PIM
