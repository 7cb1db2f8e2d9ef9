import IviLink.ApplicationManager.CDatabase
import IviLink.Lib.Run

/-!
# The database as a map

A method adds an application with an id beyond all others, puts another list of services in the
place of an application's, or takes applications out. The first keeps the launch information apart
if none of the applications has it, which `addApp` has seen in an earlier section; the last two
always do. A list of services says what has been added to it, until one of them that is in it
twice is removed.
-/

namespace IviLink.AMP

open IviLink.Lib
open Utils (INT_MAX)

namespace CApplication

variable {app : CApplication} {service other : Uid} {services : List Uid} {launchInfo : String}

theorem mem_destutter' : service ∈ services.destutter' (· ≠ ·) other ↔
    service = other ∨ service ∈ services := by
  induction services generalizing other with
  | nil => rw [List.destutter'_nil, List.mem_singleton, or_iff_left List.not_mem_nil]
  | cons next services ih =>
    rw [List.destutter'_cons]
    split
    · rw [List.mem_cons, ih, List.mem_cons]
    · rename_i heq
      rw [ih, List.mem_cons, ← not_not.mp heq, or_self_left]

theorem mem_ofServices : service ∈ (ofServices launchInfo services).mServices ↔
    service ∈ services := by
  cases services with
  | nil => exact Iff.rfl
  | cons first services =>
    rw [ofServices, List.destutter_cons', mem_destutter', List.mem_cons]

theorem hasService_iff : app.hasService service = true ↔ service ∈ app.mServices :=
  decide_eq_true_iff

@[simp] theorem launchInfo_addService :
    (app.addService service).2.mLaunchInfo = app.mLaunchInfo := by
  rw [addService]
  split <;> rfl

theorem mem_addService : other ∈ (app.addService service).2.mServices ↔
    other ∈ app.mServices ∨ other = service := by
  rw [addService]
  split
  · rename_i hhas
    constructor
    · exact Or.inl
    · intro h
      rcases h with h | rfl
      · exact h
      · exact hasService_iff.mp hhas
  · rw [List.mem_append, List.mem_singleton]

@[simp] theorem launchInfo_addServices :
    (app.addServices services).mLaunchInfo = app.mLaunchInfo := by
  induction services generalizing app with
  | nil => rfl
  | cons service services ih =>
    rw [addServices, List.foldl_cons, ← addServices, ih, launchInfo_addService]

theorem mem_addServices : other ∈ (app.addServices services).mServices ↔
    other ∈ app.mServices ∨ other ∈ services := by
  induction services generalizing app with
  | nil => exact (or_iff_left List.not_mem_nil).symm
  | cons service services ih =>
    rw [addServices, List.foldl_cons, ← addServices, ih, mem_addService, List.mem_cons, or_assoc]

@[simp] theorem launchInfo_removeService :
    (app.removeService service).2.mLaunchInfo = app.mLaunchInfo := by
  rw [removeService]
  split <;> rfl

theorem mem_removeService_of_ne (h : other ≠ service) :
    other ∈ (app.removeService service).2.mServices ↔ other ∈ app.mServices := by
  rw [removeService]
  split
  · exact List.mem_erase_of_ne h
  · exact Iff.rfl

/-- It is still there if it was there more than once. -/
theorem mem_removeService_self : service ∈ (app.removeService service).2.mServices ↔
    1 < app.mServices.count service := by
  rw [removeService]
  split
  · rw [← List.count_pos_iff, List.count_erase_self]
    omega
  · rename_i hmem
    rw [List.count_eq_zero.mpr hmem]
    exact iff_of_false hmem (by omega)

end CApplication

namespace CDatabase

variable {trimLaunchInfo : String → String} {d d' : CDatabase} {id : Int} {service : Uid}
  {app app' : CApplication} {services : List Uid} {launchInfo : String} {it : Int × CApplication}
  {key : AppKey} {valid : String → Bool}

/-! ## What the methods read -/

theorem hasService_iff : d.hasService id service = true ↔
    ∃ app, d.mApplications[id]? = some app ∧ service ∈ app.mServices := by
  rw [hasService]
  cases h : d.mApplications[id]? with
  | none => simp
  | some app => simp [CApplication.hasService_iff]

theorem mem_getApps : id ∈ d.getApps service ↔ d.hasService id service = true := by
  rw [hasService_iff, getApps, List.mem_map]
  constructor
  · intro h
    obtain ⟨it, hmem, rfl⟩ := h
    obtain ⟨hmem, hhas⟩ := List.mem_filter.mp hmem
    exact ⟨it.2, Std.TreeMap.mem_toList_iff_getElem?_eq_some.mp hmem,
      CApplication.hasService_iff.mp hhas⟩
  · intro h
    obtain ⟨app, happ, hmem⟩ := h
    exact ⟨(id, app), List.mem_filter.mpr ⟨Std.TreeMap.mem_toList_iff_getElem?_eq_some.mpr happ,
      CApplication.hasService_iff.mpr hmem⟩, rfl⟩

theorem findInfo_eq_none : d.findInfo launchInfo = none ↔
    ∀ (id : Int) (app : CApplication), d.mApplications[id]? = some app →
      app.mLaunchInfo ≠ launchInfo := by
  rw [findInfo, List.find?_eq_none]
  constructor
  · intro h id app happ
    simpa using h (id, app) (Std.TreeMap.mem_toList_iff_getElem?_eq_some.mpr happ)
  · intro h it hit
    simpa using h it.1 it.2 (Std.TreeMap.mem_toList_iff_getElem?_eq_some.mp hit)

/-- What has been trimmed is found in the same way when it is trimmed again. -/
theorem findInfo_of_hasApp (htrim : ∀ s, trimLaunchInfo (trimLaunchInfo s) = trimLaunchInfo s)
    (h : d.hasApp trimLaunchInfo (trimLaunchInfo launchInfo) = false) :
    d.findInfo (trimLaunchInfo launchInfo) = none := by
  rw [hasApp, htrim] at h
  simpa using h

theorem getElem?_of_findInfo (h : d.findInfo launchInfo = some it) :
    d.mApplications[it.1]? = some it.2 :=
  Std.TreeMap.mem_toList_iff_getElem?_eq_some.mp (List.mem_of_find?_eq_some h)

theorem getElem?_of_find (h : d.find trimLaunchInfo key = some it) :
    d.mApplications[it.1]? = some it.2 := by
  cases key with
  | id id =>
    obtain ⟨app, happ, rfl⟩ := Option.map_eq_some_iff.mp h
    exact happ
  | launchInfo launchInfo => exact getElem?_of_findInfo h

theorem getElem?_insert {m : Std.TreeMap Int CApplication} {j : Int} :
    (m.insert id app)[j]? = if id = j then some app else m[j]? := by
  simp only [Std.TreeMap.getElem?_insert, Std.LawfulEqCmp.compare_eq_iff_eq]

/-! ## Applications that are kept apart -/

/-- No two applications have the same launch information, and the ids are counted from one. -/
structure Apart (d : CDatabase) : Prop where
  distinct : ∀ (i j : Int) (a b : CApplication), d.mApplications[i]? = some a →
    d.mApplications[j]? = some b → a.mLaunchInfo = b.mLaunchInfo → i = j
  ids : ∀ (id : Int) (app : CApplication), d.mApplications[id]? = some app →
    0 < id ∧ id ≤ d.mIdCounter
  counter : 0 ≤ d.mIdCounter ∧ d.mIdCounter ≤ INT_MAX

theorem apart_empty : Apart empty where
  distinct i j a b ha := absurd ha (by simp [empty])
  ids id app h := absurd h (by simp [empty])
  counter := by decide

/-- An application with launch information that no other one has gets the next id. -/
theorem Apart.addNew (h : Apart d) (hfree : d.Free app.mLaunchInfo) {given : List Int}
    {added : Finset (Int × Uid)} :
    Apart ⟨d.mApplications.insert (d.mIdCounter + 1) app, d.mIdCounter + 1, given, added⟩ where
  distinct := by
    have hother := findInfo_eq_none.mp hfree.1
    intro i j a b ha hb hab
    dsimp only at ha hb
    rw [getElem?_insert] at ha hb
    split at ha <;> split at hb
    · omega
    · obtain rfl := Option.some.inj ha
      exact absurd hab.symm (hother j b hb)
    · obtain rfl := Option.some.inj hb
      exact absurd hab (hother i a ha)
    · exact h.distinct i j a b ha hb hab
  ids := by
    have := h.counter
    intro j a ha
    dsimp only at ha ⊢
    rw [getElem?_insert] at ha
    split at ha
    · omega
    · have := h.ids j a ha
      omega
  counter := by
    have := h.counter
    have := hfree.2
    dsimp only
    omega

/-- An application is replaced by one with the same launch information. -/
theorem Apart.setServices (h : Apart d) (happ : d.mApplications[id]? = some app)
    (hinfo : app'.mLaunchInfo = app.mLaunchInfo) {added : Finset (Int × Uid)} :
    Apart { d with mApplications := d.mApplications.insert id app', added := added } := by
  have hsame : ∀ (j : Int) (a : CApplication),
      (d.mApplications.insert id app')[j]? = some a →
        ∃ b, d.mApplications[j]? = some b ∧ b.mLaunchInfo = a.mLaunchInfo := by
    intro j a ha
    rw [getElem?_insert] at ha
    split at ha
    · rename_i hj
      obtain rfl := Option.some.inj ha
      exact ⟨app, hj ▸ happ, hinfo.symm⟩
    · exact ⟨a, ha, rfl⟩
  refine ⟨?_, ?_, h.counter⟩
  · intro i j a b ha hb hab
    obtain ⟨a', ha', haa'⟩ := hsame i a ha
    obtain ⟨b', hb', hbb'⟩ := hsame j b hb
    exact h.distinct i j a' b' ha' hb' (by rw [haa', hbb', hab])
  · intro j a ha
    obtain ⟨b, hb, -⟩ := hsame j a ha
    exact h.ids j b hb

theorem Apart.keepOnly (h : Apart d) {mApplications : Std.TreeMap Int CApplication}
    {added : Finset (Int × Uid)}
    (hkeep : ∀ (j : Int) (a : CApplication), mApplications[j]? = some a →
      d.mApplications[j]? = some a) :
    Apart { d with mApplications := mApplications, added := added } where
  distinct i j a b ha hb := h.distinct i j a b (hkeep i a ha) (hkeep j b hb)
  ids j a ha := h.ids j a (hkeep j a ha)
  counter := h.counter

/-- The next id is not that of an application. -/
theorem Apart.unused (h : Apart d) : d.mApplications[d.mIdCounter + 1]? = none := by
  refine Option.eq_none_iff_forall_ne_some.mpr fun a ha => ?_
  have := h.ids _ a ha
  omega

/-! ## What every section keeps -/

/-- The ids that have been given are no greater than the counter. -/
structure Inv (d : CDatabase) : Prop extends Agrees d where
  apart : Apart d
  givenLe : ∀ id ∈ d.given, id ≤ d.mIdCounter

/-- The entries say what has been added. -/
theorem Agrees.holds (h : Agrees d) :
    (∃ app, d.mApplications[id]? = some app ∧ service ∈ app.mServices) ↔
      (id, service) ∈ d.added := by
  rw [← hasService_iff]
  exact h.hasService id service

theorem Agrees.mem_services (h : Agrees d) (happ : d.mApplications[id]? = some app) :
    service ∈ app.mServices ↔ (id, service) ∈ d.added := by
  rw [← h.holds, happ]
  simp

theorem agrees_of_holds (hdistinct : ∀ (i j : Int) (a b : CApplication),
      d.mApplications[i]? = some a → d.mApplications[j]? = some b →
        a.mLaunchInfo = b.mLaunchInfo → i = j)
    (hgiven : d.given.Nodup)
    (hholds : ∀ id service, (∃ app, d.mApplications[id]? = some app ∧ service ∈ app.mServices) ↔
      (id, service) ∈ d.added) : Agrees d where
  distinct := hdistinct
  given := hgiven
  hasService id service := hasService_iff.trans (hholds id service)
  getApps id service := (mem_getApps.trans hasService_iff).trans (hholds id service)

theorem inv_empty : Inv empty where
  toAgrees := by
    refine agrees_of_holds apart_empty.distinct List.nodup_nil ?_
    intro id service
    simp [empty]
  apart := apart_empty
  givenLe id h := absurd h List.not_mem_nil

/-- Another list of services is in the place of an application's. -/
theorem Inv.setServices (h : Inv d) (happ : d.mApplications[id]? = some app)
    (hinfo : app'.mLaunchInfo = app.mLaunchInfo) {added : Finset (Int × Uid)}
    (hself : ∀ s, s ∈ app'.mServices ↔ (id, s) ∈ added)
    (hothers : ∀ j s, j ≠ id → ((j, s) ∈ added ↔ (j, s) ∈ d.added)) :
    Inv { d with mApplications := d.mApplications.insert id app', added := added } where
  toAgrees := by
    refine agrees_of_holds (@Apart.setServices d id app app' h.apart happ hinfo added).distinct h.given ?_
    intro j s
    rw [getElem?_insert]
    split
    · rename_i hj
      simpa [← hj] using hself s
    · rename_i hj
      rw [hothers j s (Ne.symm hj)]
      exact h.holds
  apart := h.apart.setServices happ hinfo
  givenLe := h.givenLe

/-- Applications are taken out, with what has been added to them. -/
theorem Inv.keepOnly (h : Inv d) {mApplications : Std.TreeMap Int CApplication}
    {added : Finset (Int × Uid)} {keep : Int → Prop}
    (hkeep : ∀ (j : Int) (a : CApplication), mApplications[j]? = some a ↔
      d.mApplications[j]? = some a ∧ keep j)
    (hadded : ∀ j s, (j, s) ∈ added ↔ (j, s) ∈ d.added ∧ keep j) :
    Inv { d with mApplications := mApplications, added := added } := by
  have hapart : Apart { d with mApplications := mApplications, added := added } :=
    h.apart.keepOnly fun j a ha => ((hkeep j a).mp ha).1
  refine ⟨agrees_of_holds hapart.distinct h.given ?_, hapart, h.givenLe⟩
  intro j s
  dsimp only
  rw [hadded, ← h.holds]
  constructor
  · intro ⟨a, ha, hs⟩
    obtain ⟨ha, hj⟩ := (hkeep j a).mp ha
    exact ⟨⟨a, ha, hs⟩, hj⟩
  · intro ⟨⟨a, ha, hs⟩, hj⟩
    exact ⟨a, (hkeep j a).mpr ⟨ha, hj⟩, hs⟩

theorem mem_named {j : Int} :
    (j, service) ∈ (services.map (id, ·)).toFinset ↔ j = id ∧ service ∈ services := by
  rw [List.mem_toFinset, List.mem_map]
  constructor
  · intro h
    obtain ⟨s, hs, heq⟩ := h
    obtain ⟨rfl, rfl⟩ := Prod.mk.inj heq
    exact ⟨rfl, hs⟩
  · intro h
    exact ⟨service, h.2, by rw [h.1]⟩

/-- An application with an id that is new, and launch information that no other one has. -/
theorem Inv.addNew (h : Inv d) (hfree : d.Free app.mLaunchInfo)
    (hservices : ∀ s, s ∈ app.mServices ↔ s ∈ services) :
    ∃ it, d.addNew app services = some it ∧ Inv it.2 ∧
      it.2.mApplications[it.1]? = some app := by
  have hunused := h.apart.unused
  refine ⟨_, if_pos hfree.2, ⟨?_, h.apart.addNew hfree, ?_⟩, ?_⟩
  · refine agrees_of_holds (@Apart.addNew d app h.apart hfree [] ∅).distinct ?_ ?_
    · refine List.nodup_cons.mpr ⟨?_, h.given⟩
      intro hmem
      have := h.givenLe _ hmem
      omega
    · intro j s
      dsimp only
      rw [getElem?_insert, Finset.mem_union, ← h.holds, mem_named]
      split
      · rename_i hj
        subst hj
        rw [hunused]
        simp [hservices]
      · rename_i hj
        exact (or_iff_left fun hand => hj hand.1.symm).symm
  · intro j hj
    dsimp only at hj ⊢
    rcases List.mem_cons.mp hj with rfl | hj
    · exact Int.le_refl _
    · have := h.givenLe j hj
      omega
  · dsimp only
    rw [getElem?_insert, if_pos rfl]

/-! ## Launch information that two applications have -/

def infoAt (d : CDatabase) (id : Int) : Option String := d.mApplications[id]?.map (·.mLaunchInfo)

theorem Agrees.infoAt_inj (h : Agrees d) {i j : Int} (hi : d.infoAt i = some launchInfo)
    (hj : d.infoAt j = some launchInfo) : i = j := by
  obtain ⟨a, ha, rfl⟩ := Option.map_eq_some_iff.mp hi
  obtain ⟨b, hb, hab⟩ := Option.map_eq_some_iff.mp hj
  exact h.distinct i j a b ha hb hab.symm

theorem infoAt_addServices (h : d.addServices launchInfo services = some d') (j : Int) :
    d'.infoAt j = d.infoAt j := by
  rw [addServices] at h
  split at h
  · split at h
    · rw [Option.some.inj h]
    · cases h
  · rename_i it hit
    obtain rfl := Option.some.inj h
    rw [infoAt, getElem?_insert]
    split
    · rename_i hj
      rw [infoAt, ← hj, getElem?_of_findInfo hit, Option.map_some, Option.map_some,
        CApplication.launchInfo_addServices]
    · rfl

/-- If an application that is new is the only one with its launch information, none has had it. -/
theorem Inv.free_of_addNew {new : Int × CDatabase} (h : Inv d)
    (hnew : d.addNew app services = some new)
    (hinj : ∀ i j, new.2.infoAt i = some app.mLaunchInfo →
      new.2.infoAt j = some app.mLaunchInfo → i = j) : d.Free app.mLaunchInfo := by
  rw [CDatabase.addNew] at hnew
  split at hnew
  · rename_i hmax
    obtain rfl := Option.some.inj hnew
    refine ⟨findInfo_eq_none.mpr ?_, hmax⟩
    intro j a ha hinfo
    have hle := h.apart.ids j a ha
    have hne : d.mIdCounter + 1 ≠ j := by omega
    refine hne (hinj _ j ?_ ?_)
    · rw [infoAt, getElem?_insert, if_pos rfl]
      rfl
    · rw [infoAt, getElem?_insert, if_neg hne, ha, ← hinfo]
      rfl
  · cases hnew

/-! ## The sections -/

/-- A section keeps the database as it has to be exactly under the condition. -/
structure Exact (r : Option CDatabase) (cond : Prop) : Prop where
  inv : cond → ∃ d, r = some d ∧ Inv d
  only : ∀ d, r = some d → Agrees d → cond

theorem Inv.exact {cond : Prop} (h : Inv d) (hcond : cond) : Exact (some d) cond where
  inv _ := ⟨d, rfl, h⟩
  only _ _ _ := hcond

theorem Inv.exact_addNew (h : Inv d) (hservices : ∀ s, s ∈ app.mServices ↔ s ∈ services) :
    Exact ((d.addNew app services).map (·.2)) (d.Free app.mLaunchInfo) where
  inv hfree := by
    obtain ⟨it, hit, hinv, -⟩ := h.addNew hfree hservices
    exact ⟨it.2, by rw [hit, Option.map_some], hinv⟩
  only d' hr hagrees := by
    obtain ⟨it, hit, rfl⟩ := Option.map_eq_some_iff.mp hr
    exact h.free_of_addNew hit fun i j => hagrees.infoAt_inj

theorem Inv.exact_insertApp (h : Inv d) (new : NewApp) :
    Exact ((d.insertApp new).map (·.2)) (d.Free new.trimmedLaunchInfo) := by
  have hinfo : new.app.mLaunchInfo = new.trimmedLaunchInfo := by
    rw [NewApp.app]
    split <;> rfl
  rw [← hinfo]
  refine h.exact_addNew fun s => ?_
  rw [NewApp.app]
  split
  · rename_i hnone
    rw [hnone, Option.getD_none]
  · rename_i services hsome
    rw [hsome, Option.getD_some, CApplication.mem_ofServices]

theorem Inv.exact_loadApp (h : Inv d) (node : AppNode) :
    Exact (d.loadApp trimLaunchInfo valid node)
      (node.name = "app" → d.hasApp trimLaunchInfo (trimLaunchInfo node.launchInfo) = false →
        valid (trimLaunchInfo node.launchInfo) = true →
          d.Free (trimLaunchInfo node.launchInfo)) := by
  rw [loadApp]
  split
  · rename_i hname
    exact h.exact fun hname' => absurd hname' hname
  · rename_i hname
    split
    · rename_i hhas
      refine h.exact fun _ hnot => ?_
      rw [hhas] at hnot
      cases hnot
    · rename_i hhas
      split
      · rename_i hvalid
        refine h.exact fun _ _ hvalid' => ?_
        rw [hvalid'] at hvalid
        cases hvalid
      · rename_i hvalid
        have hnew := @Inv.exact_addNew d
          (CApplication.addServices ⟨trimLaunchInfo node.launchInfo, []⟩ node.uids) node.uids h
          fun s => CApplication.mem_addServices.trans (or_iff_right List.not_mem_nil)
        rw [CApplication.launchInfo_addServices] at hnew
        refine ⟨fun hcond => hnew.inv (hcond (not_not.mp hname) (by simpa using hhas)
          (by simpa using hvalid)), fun d' hr hagrees _ _ _ => hnew.only d' hr hagrees⟩

theorem Inv.exact_addServices (h : Inv d) (launchInfo : String) (services : List Uid) :
    Exact (d.addServices launchInfo services) (services ≠ [] → d.findInfo launchInfo ≠ none) := by
  rw [addServices]
  split
  · rename_i hnone
    split
    · rename_i hnil
      exact h.exact fun hne => absurd hnil hne
    · rename_i hne
      exact ⟨fun hcond => absurd hnone (hcond hne), fun d' hr => by cases hr⟩
  · rename_i it hit
    have happ := getElem?_of_findInfo hit
    refine (h.setServices happ CApplication.launchInfo_addServices ?_ ?_).exact fun _ hnone => ?_
    · intro s
      rw [CApplication.mem_addServices, Finset.mem_union, mem_named, h.mem_services happ,
        and_iff_right rfl]
    · intro j s hj
      rw [Finset.mem_union, mem_named]
      exact or_iff_left fun hand => hj hand.1
    · rw [hit] at hnone
      cases hnone

theorem Inv.exact_addApplicationAndServices (h : Inv d) (launchInfo : String)
    (services : List Uid) :
    Exact (d.addApplicationAndServices trimLaunchInfo valid launchInfo services)
      (valid (trimLaunchInfo launchInfo) = true →
        if d.hasApp trimLaunchInfo (trimLaunchInfo launchInfo) then
          services ≠ [] → d.findInfo (trimLaunchInfo launchInfo) ≠ none
        else d.Free (trimLaunchInfo launchInfo)) := by
  rw [addApplicationAndServices]
  split
  · rename_i hvalid
    refine h.exact fun hvalid' => ?_
    rw [hvalid'] at hvalid
    cases hvalid
  · rename_i hvalid
    have hvalid' : valid (trimLaunchInfo launchInfo) = true := by simpa using hvalid
    split
    · have hadd := h.exact_addServices (trimLaunchInfo launchInfo) services
      exact ⟨fun hcond => hadd.inv (hcond hvalid'), fun d' hr hagrees _ =>
        hadd.only d' hr hagrees⟩
    · constructor
      · intro hcond
        obtain ⟨new, hnew, hinv, hat⟩ := @Inv.addNew d ⟨trimLaunchInfo launchInfo, []⟩ [] h
          (hcond hvalid') fun _ => Iff.rfl
        rw [hnew]
        -- the loop finds the application that is new
        refine (hinv.exact_addServices (trimLaunchInfo launchInfo) services).inv fun _ hnone => ?_
        exact findInfo_eq_none.mp hnone new.1 _ hat rfl
      · intro d' hr hagrees _
        split at hr
        · cases hr
        · rename_i new hnew
          refine h.free_of_addNew hnew fun i j hi hj => ?_
          rw [← infoAt_addServices hr] at hi hj
          exact hagrees.infoAt_inj hi hj

theorem Inv.removeApp (h : Inv d) (key : AppKey) : Inv (d.removeApp trimLaunchInfo key).2 := by
  rw [CDatabase.removeApp]
  split
  · exact h
  · rename_i it hit
    refine @Inv.keepOnly d h _ _ (· ≠ it.1) ?_ ?_
    · intro j a
      simp only [Std.TreeMap.getElem?_erase, Std.LawfulEqCmp.compare_eq_iff_eq]
      split
      · rename_i hj
        exact iff_of_false (by simp) fun hand => hand.2 hj.symm
      · rename_i hj
        exact (and_iff_left (Ne.symm hj)).symm
    · intro j s
      rw [Finset.mem_filter]

theorem Inv.addService (h : Inv d) (key : AppKey) (service : Uid) :
    Inv (d.addService trimLaunchInfo key service).2 := by
  rw [CDatabase.addService]
  split
  · exact h
  · rename_i it hit
    have happ := getElem?_of_find hit
    refine h.setServices happ CApplication.launchInfo_addService ?_ ?_
    · intro s
      rw [CApplication.mem_addService, Finset.mem_insert, ← h.mem_services happ, or_comm,
        Prod.mk.injEq, and_iff_right rfl]
    · intro j s hj
      rw [Finset.mem_insert, Prod.mk.injEq]
      exact or_iff_right fun hand => hj hand.1

theorem Inv.exact_removeService (h : Inv d) (key : AppKey) (service : Uid) :
    Exact (some (d.removeService trimLaunchInfo key service).2)
      (∀ it ∈ d.find trimLaunchInfo key, it.2.mServices.count service ≤ 1) := by
  rw [CDatabase.removeService]
  split
  · rename_i hnone
    refine h.exact ?_
    intro it hit
    rw [hnone] at hit
    cases hit
  · rename_i it hit
    have happ := getElem?_of_find hit
    constructor
    · intro hcond
      have hcount := hcond it hit
      refine ⟨_, rfl, h.setServices happ CApplication.launchInfo_removeService ?_ ?_⟩
      · intro s
        rw [Finset.mem_erase, Ne, Prod.mk.injEq, and_iff_right rfl]
        by_cases hs : s = service
        · subst hs
          rw [CApplication.mem_removeService_self]
          exact iff_of_false (by omega) fun hand => hand.1 rfl
        · rw [CApplication.mem_removeService_of_ne hs, and_iff_right hs, h.mem_services happ]
      · intro j s hj
        rw [Finset.mem_erase, Ne, Prod.mk.injEq]
        exact and_iff_right fun hand => hj hand.1
    · intro d' hr hagrees it' hit'
      obtain rfl := Option.some.inj (hit.symm.trans hit')
      obtain rfl := Option.some.inj hr
      by_contra hcount
      have hstill := CApplication.mem_removeService_self.mpr (not_le.mp hcount)
      have hmem := (hagrees.mem_services (by rw [getElem?_insert, if_pos rfl])).mp hstill
      exact Finset.notMem_erase _ _ hmem

theorem Inv.deleteByPartialLaunchInfo (h : Inv d) (valid : String → Bool) (launchInfo : String) :
    Inv (d.deleteByPartialLaunchInfo valid launchInfo) := by
  rw [CDatabase.deleteByPartialLaunchInfo]
  refine @Inv.keepOnly d h _ _
    (fun j => ∀ app ∈ d.mApplications[j]?, deletes valid launchInfo app = false) ?_ ?_
  · intro j a
    rw [Std.TreeMap.getElem?_filter', Option.filter_eq_some_iff]
    refine and_congr_right fun ha => ?_
    simp [ha]
  · intro j s
    rw [Finset.mem_filter]

end CDatabase

namespace Applications

variable {trimLaunchInfo : String → String} {w : Applications}

open CDatabase

/-- **One step** keeps the database as it has to be exactly if it is proper. -/
theorem exact_step (h : w.database.Inv) (a : AppsStep) :
    Exact ((w.step trimLaunchInfo a).map (·.database)) (w.Proper trimLaunchInfo a) := by
  cases a with
  | load valid node =>
    rw [step, Option.map_map, Function.comp_def, Option.map_id']
    exact h.exact_loadApp node
  | addApp launchInfo services =>
    rw [step]
    split <;> exact h.exact trivial
  | insertApp n =>
    rw [step, Proper]
    split
    · rename_i hnone
      refine h.exact ?_
      intro new hnew
      rw [hnone] at hnew
      cases hnew
    · rename_i new hnew
      have hinsert := h.exact_insertApp new
      rw [Option.map_map, Function.comp_def]
      refine ⟨fun hcond => hinsert.inv (hcond new hnew), fun d hr hagrees new' hnew' => ?_⟩
      obtain rfl := Option.some.inj (hnew.symm.trans hnew')
      exact hinsert.only d hr hagrees
  | addApplicationAndServices valid launchInfo services =>
    rw [step, Option.map_map, Function.comp_def, Option.map_id']
    exact h.exact_addApplicationAndServices launchInfo services
  | removeApp key => exact (h.removeApp key).exact trivial
  | addService key service => exact (h.addService key service).exact trivial
  | removeService key service => exact h.exact_removeService key service
  | deleteByPartialLaunchInfo valid launchInfo =>
    exact (h.deleteByPartialLaunchInfo valid launchInfo).exact trivial

/-- **Exactly when the database is the map that the calls ask for**: all along a run the launch
information keeps the applications apart, the ids are new and the services are those that have
been added and not removed, if and only if no application is added beside one with its launch
information, and no service is removed that is in the list more than once. -/
theorem database_agrees_iff (trimLaunchInfo : String → String) (as : List AppsStep) :
    (∃ w, run (step trimLaunchInfo) init as = some w) ∧
        Always (step trimLaunchInfo) init as (fun w => w.database.Agrees) ↔
      Along (step trimLaunchInfo) (Proper trimLaunchInfo) init as := by
  refine run_and_always_iff (I := fun w => w.database.Inv) (fun _ h => h.toAgrees) ?_ ?_ inv_empty
  · intro v a hv
    have hexact : Exact ((v.step trimLaunchInfo a).map (·.database)) (v.Proper trimLaunchInfo a) :=
      exact_step hv a
    constructor
    · intro h
      obtain ⟨v', hs, hagrees⟩ := h
      exact hexact.only v'.database (by rw [hs, Option.map_some]) hagrees
    · intro hproper
      obtain ⟨d, hd, hinv⟩ := hexact.inv hproper
      obtain ⟨v', hs, rfl⟩ := Option.map_eq_some_iff.mp hd
      exact ⟨v', hs, hinv.toAgrees⟩
  · intro v a v' hv hproper hs
    obtain ⟨d, hd, hinv⟩ := (exact_step hv a).inv hproper
    rw [hs] at hd
    obtain rfl := Option.some.inj hd
    exact hinv

/-- The nodes of a document are loaded by one step each. -/
theorem run_load (valid : String → Bool) (nodes : List AppNode) :
    run (step trimLaunchInfo) w (nodes.map (.load valid)) =
      (w.database.loadParsedDatabase trimLaunchInfo valid nodes).map
        fun d => { w with database := d } := by
  induction nodes generalizing w with
  | nil => rfl
  | cons node nodes ih =>
    rw [List.map_cons, run, step, loadParsedDatabase]
    cases w.database.loadApp trimLaunchInfo valid node with
    | none => rfl
    | some d => exact ih

/-- What looks for the application and adds it in one section is proper as long as there are ids,
if to trim twice is to trim once. -/
theorem proper_of_trim (htrim : ∀ s, trimLaunchInfo (trimLaunchInfo s) = trimLaunchInfo s)
    (hmax : w.database.mIdCounter < INT_MAX) (valid : String → Bool) :
    (∀ node, w.Proper trimLaunchInfo (.load valid node)) ∧
      ∀ launchInfo services,
        w.Proper trimLaunchInfo (.addApplicationAndServices valid launchInfo services) := by
  constructor
  · intro node _ hhas _
    exact ⟨findInfo_of_hasApp htrim hhas, hmax⟩
  · intro launchInfo services _
    split
    · rename_i hhas
      intro _ hnone
      rw [hasApp, htrim, hnone] at hhas
      cases hhas
    · rename_i hhas
      exact ⟨findInfo_of_hasApp htrim (Bool.eq_false_iff.mpr hhas), hmax⟩

/-- Two calls of `addApp` for one application, the second one before the first has added it. -/
def twoCalls : List AppsStep :=
  [.addApp "a" none, .addApp "a" none, .insertApp 0, .insertApp 0]

/-- A list with a service that is in it twice, and not next to itself. -/
def repeatedService : List AppsStep :=
  [.addApp "a" (some ["s", "t", "s"]), .insertApp 0, .removeService (.launchInfo "a") "s"]

/-- The application is there twice; and a service that has been removed is still there. -/
theorem two_of_one_launchInfo :
    (∃ w, run (step UbuntuLaunchInfoProcessor.trimLaunchInfo) init twoCalls = some w ∧
        w.database.mApplications[(1 : Int)]? = some (CApplication.mk "a" []) ∧
        w.database.mApplications[(2 : Int)]? = some (CApplication.mk "a" []) ∧
        ¬ w.database.Agrees) ∧
      ∃ w, run (step UbuntuLaunchInfoProcessor.trimLaunchInfo) init repeatedService = some w ∧
        (1, "s") ∉ w.database.added ∧ w.database.hasService 1 "s" = true ∧
        w.database.getApps "s" = [1] ∧ ¬ w.database.Agrees := by
  have htwo : (run (step UbuntuLaunchInfoProcessor.trimLaunchInfo) init twoCalls).map (fun w =>
      decide (w.database.mApplications[(1 : Int)]? = some (CApplication.mk "a" []) ∧
        w.database.mApplications[(2 : Int)]? = some (CApplication.mk "a" []))) = some true := by
    decide +kernel
  have hrepeated : (run (step UbuntuLaunchInfoProcessor.trimLaunchInfo) init repeatedService).map
      (fun w => decide ((1, "s") ∉ w.database.added ∧ w.database.hasService 1 "s" = true ∧
        w.database.getApps "s" = [1])) = some true := by
    decide +kernel
  obtain ⟨v, hv, hv'⟩ := Option.map_eq_some_iff.mp htwo
  obtain ⟨hfirst, hsecond⟩ := of_decide_eq_true hv'
  obtain ⟨w, hw, hw'⟩ := Option.map_eq_some_iff.mp hrepeated
  obtain ⟨hadded, hhas, happs⟩ := of_decide_eq_true hw'
  refine ⟨⟨v, hv, hfirst, hsecond, fun h => ?_⟩, w, hw, hadded, hhas, happs, fun h => ?_⟩
  · exact absurd (h.distinct 1 2 _ _ hfirst hsecond rfl) (by decide)
  · exact hadded ((h.hasService 1 "s").mp hhas)

end Applications

end IviLink.AMP
