import IviLink.ProfileManager.PmpCore
import Std.Data.TreeMap

/-!
# The registry of applications

`ClientAppRegistry`: the applications that are connected to the profile manager, by the
direction they are connected over, their services, and the profile instances that they have.
An application is known by the uid it is given when it connects.

A result is an error with its text, or what has been found or changed; where an assertion of
the code fails there is none.
-/

namespace IviLink.ProfileManager.PIM

/-- `Profile::IUid`, `Service::Uid` and `Service::SessionUid` are `BaseUid`s. -/
abbrev IUid := Uid

abbrev ServiceUid := Uid

abbrev SessionUid := Uid

abbrev DirectionID := Int

structure ProfileData where
  piuid : IUid
  sid : ServiceUid
  profileUid : Uid
  deriving DecidableEq, Repr

/-- `std::set`, in the order of insertion: the elements of a set have different piuids, so that
one is less than the other or the other way round. -/
abbrev ProfileDataSet := List ProfileData

structure AppData where
  mServices : List ServiceUid
  deriving DecidableEq, Repr

namespace AppData

def hasService (app : AppData) (sid : ServiceUid) : Bool := sid ∈ app.mServices

def addService (app : AppData) (sid : ServiceUid) : AppData := ⟨app.mServices.insert sid⟩

end AppData

structure ClientAppRegistry where
  mProfileToApp : Std.TreeMap IUid Uid
  mAppProfiles : Std.TreeMap Uid ProfileDataSet
  mAppDatas : Std.TreeMap Uid AppData
  mDirIdAppMap : Std.TreeMap DirectionID Uid

namespace ClientAppRegistry

def init : ClientAppRegistry := ⟨∅, ∅, ∅, ∅⟩

/-- What is returned with a `BaseError`. -/
abbrev Result (α : Type) := Except String α

def registerApp (r : ClientAppRegistry) (appId : Uid) (dirId : DirectionID) :
    Option (Result ClientAppRegistry) :=
  if appId ∈ r.mAppDatas then some (.error "appId already known")
  else if dirId ∈ r.mDirIdAppMap then none
  else some (.ok { r with
    mAppDatas := r.mAppDatas.insert appId ⟨[]⟩
    mAppProfiles := r.mAppProfiles.insertIfNew appId []
    mDirIdAppMap := r.mDirIdAppMap.insert dirId appId })

def registerProfile (r : ClientAppRegistry) (appId : Uid) (data : ProfileData) :
    Option (Result ClientAppRegistry) :=
  if data.piuid ∈ r.mProfileToApp then some (.error "piuid already known")
  else
    match r.mAppProfiles[appId]? with
    | none => none
    | some ds =>
      some (.ok { r with
        mProfileToApp := r.mProfileToApp.insert data.piuid appId
        mAppProfiles := r.mAppProfiles.insert appId (ds ++ [data]) })

def unregisterProfile (r : ClientAppRegistry) (piuid : IUid) :
    Option (Result ClientAppRegistry) :=
  match r.mProfileToApp[piuid]? with
  | none => some (.error "piuid is unknown")
  | some appId =>
    match r.mAppProfiles[appId]? with
    | none => none
    | some ds =>
      some (.ok { r with
        mProfileToApp := r.mProfileToApp.erase piuid
        mAppProfiles := r.mAppProfiles.insert appId (ds.eraseP (·.piuid = piuid)) })

def findAppByDirId (r : ClientAppRegistry) (dirId : DirectionID) : Result Uid :=
  match r.mDirIdAppMap[dirId]? with
  | none => .error "given dirId is unknown"
  | some appId => .ok appId

/-- The first direction of the application. -/
def findDirIdByApp (r : ClientAppRegistry) (appId : Uid) : Result DirectionID :=
  match r.mDirIdAppMap.toList.find? (·.2 = appId) with
  | none => .error "given appId is unknown"
  | some it => .ok it.1

def findAppByPIUID (r : ClientAppRegistry) (piuid : IUid) : Result Uid :=
  match r.mProfileToApp[piuid]? with
  | none => .error "piuid is unknown"
  | some appId => .ok appId

def findSidByPIUID (r : ClientAppRegistry) (piuid : IUid) : Result ServiceUid :=
  match r.findAppByPIUID piuid with
  | .error err => .error err
  | .ok appId =>
    match r.mAppProfiles[appId]? with
    | none => .error "app for this piuid is unknown"
    | some ds =>
      match ds.find? (·.piuid = piuid) with
      | none => .error "piuid is unknown"
      | some data => .ok data.sid

/-- Does nothing for an application that is unknown. -/
def addServiceToApp (r : ClientAppRegistry) (appId : Uid) (sid : ServiceUid) :
    ClientAppRegistry :=
  match r.mAppDatas[appId]? with
  | none => r
  | some app => { r with mAppDatas := r.mAppDatas.insert appId (app.addService sid) }

/-- The first application that has the service. -/
def findAppBySid (r : ClientAppRegistry) (sid : ServiceUid) : Result Uid :=
  match r.mAppDatas.toList.find? (·.2.hasService sid) with
  | none => .error "app for this sid is unknown"
  | some it => .ok it.1

/-- Whether there is an instance of this uid. -/
def registered (r : ClientAppRegistry) (piuid : IUid) : Bool := r.mProfileToApp.contains piuid

/-- The application is connected. -/
def Serves (r : ClientAppRegistry) (appId : Uid) : Prop :=
  ∃ dirId : DirectionID, r.mDirIdAppMap[dirId]? = some appId

/-- The containers fit together. -/
structure Sound (r : ClientAppRegistry) : Prop where
  /-- Every application that has services is connected. -/
  served : ∀ appId ∈ r.mAppDatas, r.Serves appId
  /-- Every application that is connected has a uid and a set of instances. -/
  profiled : ∀ appId, r.Serves appId → appId ≠ [] ∧ appId ∈ r.mAppProfiles
  /-- Every instance is in the set of its application. -/
  filed : ∀ piuid appId : Uid, r.mProfileToApp[piuid]? = some appId → r.Serves appId ∧
    ∃ ds, r.mAppProfiles[appId]? = some ds ∧ ∃ data ∈ ds, data.piuid = piuid

theorem sound_init : init.Sound where
  served appId happ := absurd happ (by simp [init])
  profiled appId hserves := by
    obtain ⟨dirId, hdir⟩ := hserves
    exact absurd hdir (by simp [init])
  filed piuid appId happ := absurd happ (by simp [init])

variable {r r' : ClientAppRegistry} {piuid : IUid} {appId : Uid} {dirId : DirectionID}

theorem registered_iff : r.registered piuid = true ↔ ∃ appId, r.mProfileToApp[piuid]? = some appId := by
  rw [registered, ← Std.TreeMap.isSome_getElem?_eq_contains, Option.isSome_iff_exists]

theorem registered_eq_false : r.registered piuid = false ↔ r.mProfileToApp[piuid]? = none := by
  rw [registered, ← Std.TreeMap.isSome_getElem?_eq_contains, Option.isSome_eq_false_iff,
    Option.isNone_iff_eq_none]

theorem findAppByDirId_eq : r.findAppByDirId dirId = .ok appId ↔ r.mDirIdAppMap[dirId]? = some appId := by
  rw [findAppByDirId]
  split
  · rename_i hdir
    simp [hdir]
  · rename_i hdir
    simp [hdir]

theorem serves_of_findDirIdByApp (h : r.findDirIdByApp appId = .ok dirId) :
    r.mDirIdAppMap[dirId]? = some appId := by
  rw [findDirIdByApp] at h
  split at h
  · exact absurd h (by simp)
  · rename_i it hit
    obtain rfl : it.1 = dirId := by simpa using h
    obtain rfl : it.2 = appId := by simpa using List.find?_some hit
    exact Std.TreeMap.mem_toList_iff_getElem?_eq_some.mp (List.mem_of_find?_eq_some hit)

/-- The direction of an application that is connected is found. -/
theorem Serves.findDirIdByApp (h : r.Serves appId) : ∃ dirId, r.findDirIdByApp appId = .ok dirId := by
  obtain ⟨dirId, hdir⟩ := h
  rw [ClientAppRegistry.findDirIdByApp]
  split
  · rename_i hnone
    have hmem := Std.TreeMap.mem_toList_iff_getElem?_eq_some.mpr hdir
    exact absurd (List.find?_eq_none.mp hnone _ hmem) (by simp)
  · exact ⟨_, rfl⟩

theorem findAppByPIUID_eq : r.findAppByPIUID piuid = .ok appId ↔ r.mProfileToApp[piuid]? = some appId := by
  rw [findAppByPIUID]
  split
  · rename_i happ
    simp [happ]
  · rename_i happ
    simp [happ]

/-- An instance that is not registered is not found. -/
theorem findAppByPIUID_unknown (h : r.registered piuid = false) :
    r.findAppByPIUID piuid = .error "piuid is unknown" := by
  rw [findAppByPIUID, registered_eq_false.mp h]

theorem findSidByPIUID_unknown (h : r.registered piuid = false) :
    r.findSidByPIUID piuid = .error "piuid is unknown" := by
  rw [findSidByPIUID, findAppByPIUID_unknown h]

namespace Sound

/-- The service of an instance that is registered is found. -/
theorem findSidByPIUID (hr : r.Sound) (h : r.registered piuid = true) :
    ∃ sid, r.findSidByPIUID piuid = .ok sid := by
  obtain ⟨appId, happ⟩ := registered_iff.mp h
  obtain ⟨-, ds, hds, data, hdata, hpiuid⟩ := hr.filed piuid appId happ
  rw [ClientAppRegistry.findSidByPIUID, findAppByPIUID_eq.mpr happ]
  dsimp only
  rw [hds]
  dsimp only
  split
  · rename_i hnone
    exact absurd (List.find?_eq_none.mp hnone data hdata) (by simpa using hpiuid)
  · exact ⟨_, rfl⟩

theorem serves_of_findAppBySid (hr : r.Sound) {sid : ServiceUid}
    (h : r.findAppBySid sid = .ok appId) : r.Serves appId := by
  rw [findAppBySid] at h
  split at h
  · exact absurd h (by simp)
  · rename_i it hit
    obtain rfl : it.1 = appId := by simpa using h
    have hmem := Std.TreeMap.mem_toList_iff_getElem?_eq_some.mp (List.mem_of_find?_eq_some hit)
    exact hr.served it.1 (Std.TreeMap.mem_iff_isSome_getElem?.mpr (by rw [hmem]; rfl))

end Sound

/-! ## What an operation changes -/

/-- An application is registered under a new uid. -/
theorem Sound.registerApp (hr : r.Sound) (hne : appId ≠ [])
    (h : r.registerApp appId dirId = some (.ok r')) :
    r'.Sound ∧ r'.mProfileToApp = r.mProfileToApp ∧
      r'.mDirIdAppMap = r.mDirIdAppMap.insert dirId appId ∧ dirId ∉ r.mDirIdAppMap := by
  rw [ClientAppRegistry.registerApp] at h
  split at h
  · exact absurd h (by simp)
  · rename_i hnew
    split at h
    · exact absurd h (by simp)
    · rename_i hdir
      obtain rfl := Except.ok.inj (Option.some.inj h)
      have hkeep : ∀ a, r.Serves a →
          Serves { r with
            mAppDatas := r.mAppDatas.insert appId ⟨[]⟩
            mAppProfiles := r.mAppProfiles.insertIfNew appId []
            mDirIdAppMap := r.mDirIdAppMap.insert dirId appId } a := by
        rintro a ⟨d, hd⟩
        refine ⟨d, ?_⟩
        have hne : dirId ≠ d := by
          rintro rfl
          exact hdir (Std.TreeMap.mem_iff_isSome_getElem?.mpr (by rw [hd]; rfl))
        simp only [Std.TreeMap.getElem?_insert, Std.LawfulEqCmp.compare_eq_iff_eq, hne, if_false]
        exact hd
      refine ⟨⟨?_, ?_, ?_⟩, rfl, rfl, hdir⟩
      · intro a ha
        rcases Std.TreeMap.mem_insert.mp ha with ha | ha
        · obtain rfl := Std.LawfulEqCmp.compare_eq_iff_eq.mp ha
          exact ⟨dirId, by simp⟩
        · exact hkeep a (hr.served a ha)
      · rintro a ⟨d, hd⟩
        simp only [Std.TreeMap.getElem?_insert, Std.LawfulEqCmp.compare_eq_iff_eq] at hd
        split at hd
        · obtain rfl := Option.some.inj hd
          exact ⟨hne, by simp⟩
        · obtain ⟨hne, hmem⟩ := hr.profiled a ⟨d, hd⟩
          exact ⟨hne, by simp [hmem]⟩
      · intro p a hp
        obtain ⟨hserves, ds, hds, hdata⟩ := hr.filed p a hp
        refine ⟨hkeep a hserves, ds, ?_, hdata⟩
        have hmem : a ∈ r.mAppProfiles := Std.TreeMap.mem_iff_isSome_getElem?.mpr (by rw [hds]; rfl)
        simp only [Std.TreeMap.getElem?_insertIfNew]
        rw [if_neg, hds]
        rintro ⟨heq, hnot⟩
        obtain rfl := Std.LawfulEqCmp.compare_eq_iff_eq.mp heq
        exact hnot hmem

/-- The applications stay where they are, and these are the instances. -/
structure Becomes (r r' : ClientAppRegistry) (instances : IUid → Bool) : Prop where
  sound : r'.Sound
  registered : ∀ piuid, r'.registered piuid = instances piuid
  directions : r'.mDirIdAppMap = r.mDirIdAppMap

/-- What is left of the registry's invariant when instances come or go. -/
theorem Sound.refile (hr : r.Sound) {profiles : Std.TreeMap IUid Uid}
    {sets : Std.TreeMap Uid ProfileDataSet} (hsets : ∀ a, a ∈ r.mAppProfiles → a ∈ sets)
    (hfiled : ∀ piuid appId : Uid, profiles[piuid]? = some appId → r.Serves appId ∧
      ∃ ds, sets[appId]? = some ds ∧ ∃ data ∈ ds, data.piuid = piuid) :
    Sound { r with mProfileToApp := profiles, mAppProfiles := sets } where
  served := hr.served
  profiled a ha := ⟨(hr.profiled a ha).1, hsets a (hr.profiled a ha).2⟩
  filed := hfiled

/-- An instance that is new is registered for an application that is connected. -/
theorem Sound.registerProfile (hr : r.Sound) (data : ProfileData) (hserves : r.Serves appId)
    (hnew : r.registered data.piuid = false) :
    ∃ r', r.registerProfile appId data = some (.ok r') ∧
      r.Becomes r' fun p => p == data.piuid || r.registered p := by
  obtain ⟨-, hmem⟩ := hr.profiled appId hserves
  obtain ⟨ds, hds⟩ := Option.isSome_iff_exists.mp (Std.TreeMap.mem_iff_isSome_getElem?.mp hmem)
  have hnot : data.piuid ∉ r.mProfileToApp := by
    rw [← Std.TreeMap.contains_iff_mem]
    exact Bool.not_eq_true _ ▸ hnew
  have heq : r.registerProfile appId data = some (.ok { r with
      mProfileToApp := r.mProfileToApp.insert data.piuid appId
      mAppProfiles := r.mAppProfiles.insert appId (ds ++ [data]) }) := by
    rw [ClientAppRegistry.registerProfile, if_neg hnot, hds]
  refine ⟨_, heq, hr.refile ?_ ?_, ?_, rfl⟩
  · intro a ha
    exact Std.TreeMap.mem_insert.mpr (.inr ha)
  · intro p a hp
    simp only [Std.TreeMap.getElem?_insert, Std.LawfulEqCmp.compare_eq_iff_eq] at hp ⊢
    split at hp
    · rename_i heq
      obtain rfl := Option.some.inj hp
      exact ⟨hserves, ds ++ [data], by simp, data, by simp, heq⟩
    · obtain ⟨hserves, ds', hds', x, hx, hpiuid⟩ := hr.filed p a hp
      refine ⟨hserves, ?_⟩
      by_cases happ : appId = a
      · subst happ
        obtain rfl := Option.some.inj (hds.symm.trans hds')
        exact ⟨ds ++ [data], by simp, x, List.mem_append_left _ hx, hpiuid⟩
      · exact ⟨ds', by rw [if_neg happ]; exact hds', x, hx, hpiuid⟩
  · intro p
    simp only [registered, Std.TreeMap.contains_insert, Std.compare_beq_eq_beq]
    rw [Bool.beq_comm]

theorem registerProfile_known {data : ProfileData} (h : r.registered data.piuid = true) :
    r.registerProfile appId data = some (.error "piuid already known") := by
  rw [ClientAppRegistry.registerProfile, if_pos (Std.TreeMap.contains_iff_mem.mp h)]

/-- An instance that is registered is taken out. -/
theorem Sound.unregisterProfile (hr : r.Sound) (h : r.registered piuid = true) :
    ∃ r', r.unregisterProfile piuid = some (.ok r') ∧
      r.Becomes r' fun p => p != piuid && r.registered p := by
  obtain ⟨appId, happ⟩ := registered_iff.mp h
  obtain ⟨-, ds, hds, -⟩ := hr.filed piuid appId happ
  have heq : r.unregisterProfile piuid = some (.ok { r with
      mProfileToApp := r.mProfileToApp.erase piuid
      mAppProfiles := r.mAppProfiles.insert appId (ds.eraseP (·.piuid = piuid)) }) := by
    rw [ClientAppRegistry.unregisterProfile, happ]
    dsimp only
    rw [hds]
  refine ⟨_, heq, hr.refile ?_ ?_, ?_, rfl⟩
  · intro a ha
    exact Std.TreeMap.mem_insert.mpr (.inr ha)
  · intro p a hp
    simp only [Std.TreeMap.getElem?_erase, Std.LawfulEqCmp.compare_eq_iff_eq] at hp
    split at hp
    · exact absurd hp (by simp)
    · rename_i hne
      obtain ⟨hserves, ds', hds', x, hx, hpiuid⟩ := hr.filed p a hp
      refine ⟨hserves, ?_⟩
      simp only [Std.TreeMap.getElem?_insert, Std.LawfulEqCmp.compare_eq_iff_eq]
      by_cases heq : appId = a
      · subst heq
        obtain rfl := Option.some.inj (hds.symm.trans hds')
        -- the one that is erased is another one
        have hkeep : x ∈ ds.eraseP (·.piuid = piuid) := by
          refine (List.mem_eraseP_of_neg ?_).mpr hx
          intro hx
          exact hne ((of_decide_eq_true hx).symm.trans hpiuid)
        exact ⟨ds.eraseP (·.piuid = piuid), by simp, x, hkeep, hpiuid⟩
      · exact ⟨ds', by rw [if_neg heq]; exact hds', x, hx, hpiuid⟩
  · intro p
    simp only [registered, Std.TreeMap.contains_erase, bne, Std.compare_beq_eq_beq]
    rw [Bool.beq_comm]

theorem Sound.addServiceToApp (hr : r.Sound) (sid : ServiceUid) :
    r.Becomes (r.addServiceToApp appId sid) r.registered := by
  rw [ClientAppRegistry.addServiceToApp]
  split
  · exact ⟨hr, fun _ => rfl, rfl⟩
  · rename_i app happ
    refine ⟨⟨?_, hr.profiled, hr.filed⟩, fun _ => rfl, rfl⟩
    intro a ha
    rcases Std.TreeMap.mem_insert.mp ha with ha | ha
    · obtain rfl := Std.LawfulEqCmp.compare_eq_iff_eq.mp ha
      exact hr.served _ (Std.TreeMap.mem_iff_isSome_getElem?.mpr (by rw [happ]; rfl))
    · exact hr.served a ha

end ClientAppRegistry

end IviLink.ProfileManager.PIM
