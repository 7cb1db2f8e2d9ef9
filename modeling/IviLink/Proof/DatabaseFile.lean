import IviLink.ApplicationManager.CDatabase
import IviLink.Lib.FirstEntries
import IviLink.Proof.ApplicationDatabase
import Mathlib.Data.Int.Interval

/-!
# The file of the application database

What `saveWithNoLocks` writes, and which methods of `CDatabase` call it. A database that is made
loads the file that the last one has left, and saves what it has loaded. A document is written and
read by `pugi`, of which it is only known that it reads what it has written, and every file can
be written. Calls come one after the other, and whether launch information is valid does not
change.
-/

namespace IviLink.AMP

namespace CApplication

/-- The element of the document for the application. -/
def node (app : CApplication) : AppNode :=
  ⟨"app", app.mLaunchInfo, app.mServices.map ("service", ·)⟩

/-- `needSave` after the loop over the services. -/
def needSave (needed : Bool) (app : CApplication) (services : List Uid) : Bool :=
  (services.foldl (fun it service =>
    ((it.2.addService service).1 || it.1, (it.2.addService service).2)) (needed, app)).1

end CApplication

namespace CDatabase

def applications (d : CDatabase) : List CApplication := d.mApplications.toList.map (·.2)

/-- The elements of `applications` in the document. -/
def document (d : CDatabase) : List AppNode := d.applications.map (·.node)

variable (trimLaunchInfo : String → String) (valid : String → Bool)

/-- Whether `addApplicationAndServices` saves. -/
def additionNeedsSave (d : CDatabase) (launchInfo : String) (services : List Uid) : Bool :=
  if !valid (trimLaunchInfo launchInfo) then false
  else if d.hasApp trimLaunchInfo (trimLaunchInfo launchInfo) then
    match d.findInfo (trimLaunchInfo launchInfo) with
    | none => false
    | some it => it.2.needSave false services
  else CApplication.needSave true ⟨trimLaunchInfo launchInfo, []⟩ services

/-- Whether `deleteByPartialLaunchInfo` saves. -/
def deletionNeedsSave (d : CDatabase) (launchInfo : String) : Bool :=
  d.applications.any (deletes valid launchInfo)

end CDatabase

/-- How documents are written to files and read from them. -/
structure XmlFiles (File : Type) where
  /-- `none` if the file is not there or cannot be parsed. -/
  load_file : File → Option (List AppNode)
  save_file : List AppNode → File
  /-- What has been written can be read. -/
  faithful : ∀ document, load_file (save_file document) = some document

/-- A database, and what is in its file. -/
structure SavedDatabase (File : Type) where
  database : CDatabase
  file : File

/-- A call from outside. -/
inductive DatabaseCall
  | addApp (launchInfo : String) (services : Option (List Uid))
  | addApplicationAndServices (launchInfo : String) (services : List Uid)
  | removeApp (key : AppKey)
  | addService (key : AppKey) (service : Uid)
  | removeService (key : AppKey) (service : Uid)
  | deleteByPartialLaunchInfo (launchInfo : String)
  | save
  deriving DecidableEq, Repr

namespace SavedDatabase

variable {File : Type} (xml : XmlFiles File) (trimLaunchInfo : String → String)
  (valid : String → Bool)

def saveWithNoLocks (d : CDatabase) : SavedDatabase File := ⟨d, xml.save_file d.document⟩

/-- `saveWithNoLocks` is called if it is needed. -/
def saveIf (file : File) (needSave : Bool) (d : CDatabase) : SavedDatabase File :=
  if needSave then saveWithNoLocks xml d else ⟨d, file⟩

/-- The constructor loads the file. -/
def load (file : File) : Option (SavedDatabase File) :=
  match xml.load_file file with
  | none => some ⟨.empty, file⟩
  | some document =>
    (CDatabase.empty.loadParsedDatabase trimLaunchInfo valid document).map (saveWithNoLocks xml)

/-- `none` where the language does not define what happens. -/
def step (s : SavedDatabase File) : DatabaseCall → Option (SavedDatabase File)
  | .addApp launchInfo services =>
    match s.database.addApp trimLaunchInfo launchInfo services with
    | none => some s
    | some new => (s.database.insertApp new).map fun it => saveWithNoLocks xml it.2
  | .addApplicationAndServices launchInfo services =>
    (s.database.addApplicationAndServices trimLaunchInfo valid launchInfo services).map
      (saveIf xml s.file (s.database.additionNeedsSave trimLaunchInfo valid launchInfo services))
  | .removeApp key =>
    let r := s.database.removeApp trimLaunchInfo key
    some (saveIf xml s.file r.1 r.2)
  | .addService key service =>
    let r := s.database.addService trimLaunchInfo key service
    some (saveIf xml s.file r.1 r.2)
  | .removeService key service =>
    let r := s.database.removeService trimLaunchInfo key service
    some (saveIf xml s.file r.1 r.2)
  | .deleteByPartialLaunchInfo launchInfo =>
    some (saveIf xml s.file (s.database.deletionNeedsSave valid launchInfo)
      (s.database.deleteByPartialLaunchInfo valid launchInfo))
  | .save => some (saveWithNoLocks xml s.database)

/-- A database that is made of the file has the applications whose launch information is valid,
with their services, and another one that is made after it is the same. -/
def Survives (s : SavedDatabase File) : Prop :=
  ∃ s', load xml trimLaunchInfo valid s.file = some s' ∧
    s'.database.applications = s.database.applications.filter (valid ·.mLaunchInfo) ∧
    load xml trimLaunchInfo valid s'.file = some s'

/-- The list that comes with an application has each service once, when those that are next to
each other are taken together. -/
def Proper (s : SavedDatabase File) : DatabaseCall → Prop
  | .addApp launchInfo (some services) =>
    s.database.hasApp trimLaunchInfo (trimLaunchInfo launchInfo) = false →
      valid (trimLaunchInfo launchInfo) = true → (services.destutter (· ≠ ·)).Nodup
  | _ => True

end SavedDatabase

end IviLink.AMP

/-!
## The database after a restart

The file has the applications that are in memory, as every method that changes them saves. To load
it goes through them again: one whose launch information is valid is added, as it has been trimmed
and no other one has it, and its services are added one after the other. So what comes back is the
list of services without the repetitions, which is the list itself exactly if it has none.
-/

namespace IviLink.AMP

open IviLink.Lib
open Utils (INT_MAX)

namespace CApplication

variable {app : CApplication} {services : List Uid} {service : Uid}

theorem addService_of_false (h : (app.addService service).1 = false) :
    (app.addService service).2 = app := by
  rw [addService] at h ⊢
  split
  · rfl
  · rename_i hhas
    rw [if_neg hhas] at h
    cases h

theorem removeService_of_false (h : (app.removeService service).1 = false) :
    (app.removeService service).2 = app := by
  rw [removeService] at h ⊢
  split
  · rename_i hmem
    rw [if_pos hmem] at h
    cases h
  · rfl

/-- Nothing is saved only if nothing has changed. -/
theorem addServices_of_needSave {needed : Bool} (h : app.needSave needed services = false) :
    needed = false ∧ app.addServices services = app := by
  induction services generalizing needed app with
  | nil => exact ⟨h, rfl⟩
  | cons service services ih =>
    obtain ⟨hor, hrest⟩ := ih h
    obtain ⟨hadd, hneeded⟩ := Bool.or_eq_false_iff.mp hor
    have hsame := addService_of_false hadd
    rw [hsame] at hrest
    exact ⟨hneeded, by rw [addServices, List.foldl_cons, ← addServices, hsame, hrest]⟩

theorem nodup_addService (h : app.mServices.Nodup) : (app.addService service).2.mServices.Nodup := by
  rw [addService]
  split
  · exact h
  · rename_i hhas
    refine List.nodup_append.mpr ⟨h, List.nodup_singleton _, ?_⟩
    intro a ha b hb heq
    obtain rfl := List.mem_singleton.mp hb
    exact hhas (hasService_iff.mpr (heq ▸ ha))

theorem nodup_addServices (h : app.mServices.Nodup) :
    (app.addServices services).mServices.Nodup := by
  induction services generalizing app with
  | nil => exact h
  | cons service services ih => exact ih (nodup_addService h)

theorem nodup_removeService (h : app.mServices.Nodup) :
    (app.removeService service).2.mServices.Nodup := by
  rw [removeService]
  split
  · exact h.erase service
  · exact h

/-- Services that are not there yet are added behind the others. -/
theorem addServices_of_nodup (h : (app.mServices ++ services).Nodup) :
    app.addServices services = { app with mServices := app.mServices ++ services } := by
  induction services generalizing app with
  | nil => rw [List.append_nil]; rfl
  | cons service services ih =>
    have hnew : ¬ app.hasService service = true := by
      rw [hasService_iff]
      intro hmem
      exact (List.nodup_append.mp h).2.2 _ hmem _ List.mem_cons_self rfl
    rw [addServices, List.foldl_cons, ← addServices, addService, if_neg hnew, ih]
    · rw [List.append_assoc, List.singleton_append]
    · rw [List.append_assoc, List.singleton_append]
      exact h

theorem name_node : ¬ app.node.name ≠ "app" := not_not.mpr rfl

theorem uids_node : app.node.uids = app.mServices := by
  rw [AppNode.uids, node, List.filter_eq_self.mpr, List.map_map, Function.comp_def, List.map_id']
  intro e he
  obtain ⟨service, -, rfl⟩ := List.mem_map.mp he
  rfl

end CApplication

namespace CDatabase

variable {trimLaunchInfo : String → String} {valid : String → Bool} {d d' : CDatabase} {id : Int}
  {app app' : CApplication} {services : List Uid} {it : Int × CApplication} {launchInfo : String}
  {added : Finset (Int × Uid)}

/-! ## The applications as a list -/

theorem mem_applications : app ∈ d.applications ↔ ∃ id : Int, d.mApplications[id]? = some app := by
  rw [applications, List.mem_map]
  constructor
  · intro h
    obtain ⟨it, hit, rfl⟩ := h
    exact ⟨it.1, Std.TreeMap.mem_toList_iff_getElem?_eq_some.mp hit⟩
  · intro h
    obtain ⟨id, hid⟩ := h
    exact ⟨(id, app), Std.TreeMap.mem_toList_iff_getElem?_eq_some.mpr hid, rfl⟩

theorem Apart.applications_addNew (h : Apart d) {given : List Int} :
    (CDatabase.mk (d.mApplications.insert (d.mIdCounter + 1) app) (d.mIdCounter + 1) given
      added).applications = d.applications ++ [app] := by
  rw [applications, toList_insert_last, List.map_append]
  · rfl
  · intro e he
    have := h.ids e.1 e.2 (Std.TreeMap.mem_toList_iff_getElem?_eq_some.mp he)
    rw [Int.compare_eq_lt]
    omega

theorem applications_insert_same (h : d.mApplications[id]? = some app) :
    CDatabase.applications { d with
      mApplications := d.mApplications.insert id app
      added := added } = d.applications := by
  rw [applications, toList_insert_same h, applications]

/-- There are no more applications than ids. -/
theorem Apart.length_applications (h : Apart d) : d.applications.length ≤ INT_MAX := by
  have hsub : d.mApplications.keys.toFinset ⊆ Finset.Icc (1 : Int) INT_MAX := by
    intro id hid
    have hmem := Std.TreeMap.mem_keys.mp (List.mem_toFinset.mp hid)
    obtain ⟨app, happ⟩ :=
      Option.isSome_iff_exists.mp (Std.TreeMap.isSome_getElem?_iff_mem.mpr hmem)
    have := h.ids id app happ
    have := h.counter
    rw [Finset.mem_Icc]
    omega
  have hcard := Finset.card_le_card hsub
  rw [List.toFinset_card_of_nodup Std.TreeMap.nodup_keys, Std.TreeMap.length_keys,
    Int.card_Icc] at hcard
  rw [applications, List.length_map, Std.TreeMap.length_toList]
  omega

/-! ## Loading -/

/-- What is loaded: applications with valid launch information that has been trimmed, and without
a service that is repeated. -/
structure Loaded (trimLaunchInfo : String → String) (valid : String → Bool) (d : CDatabase) :
    Prop where
  apart : Apart d
  apps : ∀ app ∈ d.applications, trimLaunchInfo app.mLaunchInfo = app.mLaunchInfo ∧
    valid app.mLaunchInfo = true ∧ app.mServices.Nodup

theorem addNew_eq {new : Int × CDatabase} (h : d.addNew app services = some new) :
    d.mIdCounter < INT_MAX ∧ new.2 =
      ⟨d.mApplications.insert (d.mIdCounter + 1) app, d.mIdCounter + 1,
        (d.mIdCounter + 1) :: d.given, d.added ∪ (services.map (d.mIdCounter + 1, ·)).toFinset⟩ := by
  rw [addNew] at h
  split at h
  · rename_i hmax
    exact ⟨hmax, by rw [← Option.some.inj h]⟩
  · cases h

theorem Apart.applications_of_addNew (h : Apart d) {new : Int × CDatabase}
    (hnew : d.addNew app services = some new) : new.2.applications = d.applications ++ [app] := by
  rw [(addNew_eq hnew).2]
  exact h.applications_addNew

theorem Loaded.loadApp (htrim : ∀ s, trimLaunchInfo (trimLaunchInfo s) = trimLaunchInfo s)
    (h : Loaded trimLaunchInfo valid d) {node : AppNode}
    (hs : d.loadApp trimLaunchInfo valid node = some d') : Loaded trimLaunchInfo valid d' := by
  rw [CDatabase.loadApp] at hs
  split at hs
  · exact Option.some.inj hs ▸ h
  · split at hs
    · exact Option.some.inj hs ▸ h
    · rename_i hhas
      split at hs
      · exact Option.some.inj hs ▸ h
      · rename_i hvalid
        obtain ⟨new, hnew, rfl⟩ := Option.map_eq_some_iff.mp hs
        obtain ⟨hmax, heq⟩ := addNew_eq hnew
        rw [heq]
        refine ⟨h.apart.addNew ⟨?_, hmax⟩, ?_⟩
        · rw [CApplication.launchInfo_addServices]
          exact findInfo_of_hasApp htrim (Bool.eq_false_iff.mpr hhas)
        · intro app happ
          rw [h.apart.applications_addNew, List.mem_append, List.mem_singleton] at happ
          rcases happ with happ | rfl
          · exact h.apps app happ
          · rw [CApplication.launchInfo_addServices]
            exact ⟨htrim _, by simpa using hvalid,
              CApplication.nodup_addServices List.nodup_nil⟩

theorem Loaded.loadParsedDatabase
    (htrim : ∀ s, trimLaunchInfo (trimLaunchInfo s) = trimLaunchInfo s) {nodes : List AppNode}
    (h : Loaded trimLaunchInfo valid d)
    (hs : d.loadParsedDatabase trimLaunchInfo valid nodes = some d') :
    Loaded trimLaunchInfo valid d' := by
  induction nodes generalizing d with
  | nil => exact Option.some.inj hs ▸ h
  | cons node nodes ih =>
    rw [CDatabase.loadParsedDatabase] at hs
    split at hs
    · cases hs
    · rename_i d₁ hd₁
      exact ih (h.loadApp htrim hd₁) hs

theorem loaded_empty : Loaded trimLaunchInfo valid empty :=
  ⟨apart_empty, fun app happ => by simp [applications, empty] at happ⟩

/-- An application whose launch information is not valid is skipped. -/
theorem loadApp_of_not_valid (htrimmed : trimLaunchInfo app.mLaunchInfo = app.mLaunchInfo)
    (h : valid app.mLaunchInfo = false) :
    d.loadApp trimLaunchInfo valid app.node = some d := by
  rw [loadApp, if_neg CApplication.name_node]
  simp only [CApplication.node, htrimmed, h]
  split <;> rfl

/-- One whose launch information is valid, and which is not there yet, is added as it is. -/
theorem loadApp_of_valid (h : Apart d)
    (htrimmed : trimLaunchInfo app.mLaunchInfo = app.mLaunchInfo)
    (hvalid : valid app.mLaunchInfo = true) (hnodup : app.mServices.Nodup)
    (hfree : d.Free app.mLaunchInfo) :
    ∃ d', d.loadApp trimLaunchInfo valid app.node = some d' ∧ Apart d' ∧
      d'.mIdCounter = d.mIdCounter + 1 ∧ d'.applications = d.applications ++ [app] := by
  have hsame : (⟨app.mLaunchInfo, []⟩ : CApplication).addServices app.mServices = app := by
    rw [CApplication.addServices_of_nodup (by simpa using hnodup), List.nil_append]
  have hhas : d.hasApp trimLaunchInfo app.mLaunchInfo = false := by
    rw [hasApp, htrimmed, hfree.1]
    rfl
  have hnew : d.addNew app app.mServices = some (d.mIdCounter + 1,
      ⟨d.mApplications.insert (d.mIdCounter + 1) app, d.mIdCounter + 1,
        (d.mIdCounter + 1) :: d.given,
        d.added ∪ (app.mServices.map (d.mIdCounter + 1, ·)).toFinset⟩) := if_pos hfree.2
  have hload : d.loadApp trimLaunchInfo valid app.node =
      (d.addNew app app.mServices).map (·.2) := by
    rw [loadApp, if_neg CApplication.name_node, CApplication.uids_node]
    simp only [CApplication.node, htrimmed, hhas, hvalid, hsame]
    rfl
  rw [hnew] at hload
  exact ⟨_, hload, h.addNew hfree, rfl, h.applications_addNew⟩

/-- What is not valid does not matter. -/
theorem loadParsedDatabase_filter {apps : List CApplication}
    (htrimmed : ∀ app ∈ apps, trimLaunchInfo app.mLaunchInfo = app.mLaunchInfo) :
    d.loadParsedDatabase trimLaunchInfo valid ((apps.filter (valid ·.mLaunchInfo)).map (·.node)) =
      d.loadParsedDatabase trimLaunchInfo valid (apps.map (·.node)) := by
  induction apps generalizing d with
  | nil => rfl
  | cons app apps ih =>
    have hrest := List.forall_mem_cons.mp htrimmed
    cases hvalid : valid app.mLaunchInfo with
    | false =>
      rw [List.filter_cons_of_neg (by simp [hvalid]), ih hrest.2, List.map_cons,
        loadParsedDatabase, loadApp_of_not_valid hrest.1 hvalid]
    | true =>
      rw [List.filter_cons, if_pos hvalid, List.map_cons, List.map_cons, loadParsedDatabase,
        loadParsedDatabase]
      split
      · rfl
      · exact ih hrest.2

/-- **To load what has been saved** gives the applications that are valid. -/
theorem load_applications {apps : List CApplication} (h : Apart d)
    (htrimmed : ∀ app ∈ apps, trimLaunchInfo app.mLaunchInfo = app.mLaunchInfo)
    (hnodup : ∀ app ∈ apps, valid app.mLaunchInfo = true → app.mServices.Nodup)
    (hdistinct : (apps.map (·.mLaunchInfo)).Nodup)
    (hnew : ∀ app ∈ apps, ∀ app' ∈ d.applications, app'.mLaunchInfo ≠ app.mLaunchInfo)
    (hmax : d.mIdCounter + apps.length ≤ INT_MAX) :
    ∃ d', d.loadParsedDatabase trimLaunchInfo valid (apps.map (·.node)) = some d' ∧
      d'.applications = d.applications ++ apps.filter (valid ·.mLaunchInfo) := by
  induction apps generalizing d with
  | nil => exact ⟨d, rfl, (List.append_nil _).symm⟩
  | cons app apps ih =>
    obtain ⟨htrim, htrimmed⟩ := List.forall_mem_cons.mp htrimmed
    obtain ⟨hservices, hnodup⟩ := List.forall_mem_cons.mp hnodup
    obtain ⟨happ, hdistinct⟩ := List.nodup_cons.mp hdistinct
    obtain ⟨hother, hnew⟩ := List.forall_mem_cons.mp hnew
    rw [List.length_cons] at hmax
    rw [List.map_cons, loadParsedDatabase]
    cases hvalid : valid app.mLaunchInfo with
    | false =>
      rw [loadApp_of_not_valid htrim hvalid, List.filter_cons_of_neg (by simp [hvalid])]
      exact ih h htrimmed hnodup hdistinct hnew (by omega)
    | true =>
      have hfree : d.Free app.mLaunchInfo := by
        refine ⟨findInfo_eq_none.mpr fun id a ha => ?_, by omega⟩
        exact hother a (mem_applications.mpr ⟨id, ha⟩)
      obtain ⟨d₁, hd₁, hapart, hcounter, happs⟩ :=
        loadApp_of_valid h htrim hvalid (hservices hvalid) hfree
      rw [hd₁, List.filter_cons, if_pos hvalid]
      have hnew₁ : ∀ a ∈ apps, ∀ a' ∈ d₁.applications, a'.mLaunchInfo ≠ a.mLaunchInfo := by
        intro a ha a' ha'
        rw [happs, List.mem_append, List.mem_singleton] at ha'
        rcases ha' with ha' | rfl
        · exact hnew a ha a' ha'
        · exact fun heq => happ (List.mem_map.mpr ⟨a, ha, heq.symm⟩)
      obtain ⟨d', hd', happs'⟩ := ih hapart htrimmed hnodup hdistinct hnew₁ (by omega)
      exact ⟨d', hd', by rw [happs', happs, List.append_assoc, List.singleton_append]⟩

/-! ## The changes -/

/-- The launch information has been trimmed, and where it is valid, no service is repeated. -/
structure Tidy (trimLaunchInfo : String → String) (valid : String → Bool) (d : CDatabase) :
    Prop where
  apart : Apart d
  trimmed : ∀ app ∈ d.applications, trimLaunchInfo app.mLaunchInfo = app.mLaunchInfo
  services : ∀ app ∈ d.applications, valid app.mLaunchInfo = true → app.mServices.Nodup

theorem Loaded.tidy (h : Loaded trimLaunchInfo valid d) : Tidy trimLaunchInfo valid d where
  apart := h.apart
  trimmed app happ := (h.apps app happ).1
  services app happ _ := (h.apps app happ).2.2

theorem Loaded.filter (h : Loaded trimLaunchInfo valid d) :
    d.applications.filter (valid ·.mLaunchInfo) = d.applications :=
  List.filter_eq_self.mpr fun app happ => (h.apps app happ).2.1

/-- Each launch information is in the list once. -/
theorem Apart.nodup_infos (h : Apart d) : (d.applications.map (·.mLaunchInfo)).Nodup := by
  rw [applications, List.map_map, List.Nodup, List.pairwise_map]
  refine Std.TreeMap.distinct_keys_toList.imp_of_mem ?_
  intro e e' he he' hne heq
  have hsame := h.distinct e.1 e'.1 e.2 e'.2
    (Std.TreeMap.mem_toList_iff_getElem?_eq_some.mp he)
    (Std.TreeMap.mem_toList_iff_getElem?_eq_some.mp he') heq
  exact hne (hsame ▸ Std.ReflCmp.compare_self)

theorem Tidy.addNew (h : Tidy trimLaunchInfo valid d) {new : Int × CDatabase}
    (hnew : d.addNew app services = some new) (hfree : d.findInfo app.mLaunchInfo = none)
    (htrimmed : trimLaunchInfo app.mLaunchInfo = app.mLaunchInfo)
    (hnodup : valid app.mLaunchInfo = true → app.mServices.Nodup) :
    Tidy trimLaunchInfo valid new.2 := by
  obtain ⟨hmax, heq⟩ := addNew_eq hnew
  have happs := h.apart.applications_of_addNew hnew
  refine ⟨heq ▸ h.apart.addNew ⟨hfree, hmax⟩, ?_, ?_⟩
  · rw [happs]
    intro a ha
    rcases List.mem_append.mp ha with ha | ha
    · exact h.trimmed a ha
    · exact List.mem_singleton.mp ha ▸ htrimmed
  · rw [happs]
    intro a ha
    rcases List.mem_append.mp ha with ha | ha
    · exact h.services a ha
    · exact List.mem_singleton.mp ha ▸ hnodup

theorem Tidy.setServices (h : Tidy trimLaunchInfo valid d)
    (happ : d.mApplications[id]? = some app) (hinfo : app'.mLaunchInfo = app.mLaunchInfo)
    (hnodup : app.mServices.Nodup → app'.mServices.Nodup) :
    Tidy trimLaunchInfo valid { d with
      mApplications := d.mApplications.insert id app'
      added := added } := by
  have hmem : ∀ a ∈ CDatabase.applications { d with
      mApplications := d.mApplications.insert id app'
      added := added }, a = app' ∨ a ∈ d.applications := by
    intro a ha
    obtain ⟨j, hj⟩ := mem_applications.mp ha
    dsimp only at hj
    rw [getElem?_insert] at hj
    split at hj
    · exact Or.inl (Option.some.inj hj).symm
    · exact Or.inr (mem_applications.mpr ⟨j, hj⟩)
  have hold := mem_applications.mpr ⟨id, happ⟩
  refine ⟨h.apart.setServices happ hinfo, ?_, ?_⟩
  · intro a ha
    rcases hmem a ha with rfl | ha
    · rw [hinfo]
      exact h.trimmed app hold
    · exact h.trimmed a ha
  · intro a ha hvalid
    rcases hmem a ha with rfl | ha
    · rw [hinfo] at hvalid
      exact hnodup (h.services app hold hvalid)
    · exact h.services a ha hvalid

theorem Tidy.keepOnly (h : Tidy trimLaunchInfo valid d)
    {mApplications : Std.TreeMap Int CApplication}
    (hkeep : ∀ (j : Int) (a : CApplication), mApplications[j]? = some a →
      d.mApplications[j]? = some a) :
    Tidy trimLaunchInfo valid { d with mApplications := mApplications, added := added } := by
  have hmem : ∀ a ∈ CDatabase.applications { d with
      mApplications := mApplications
      added := added }, a ∈ d.applications := by
    intro a ha
    obtain ⟨j, hj⟩ := mem_applications.mp ha
    exact mem_applications.mpr ⟨j, hkeep j a hj⟩
  exact ⟨h.apart.keepOnly hkeep, fun a ha => h.trimmed a (hmem a ha),
    fun a ha => h.services a (hmem a ha)⟩

theorem Tidy.addServices (h : Tidy trimLaunchInfo valid d)
    (hs : d.addServices launchInfo services = some d') : Tidy trimLaunchInfo valid d' := by
  rw [CDatabase.addServices] at hs
  split at hs
  · split at hs
    · exact Option.some.inj hs ▸ h
    · cases hs
  · rename_i it hit
    obtain rfl := Option.some.inj hs
    exact h.setServices (getElem?_of_findInfo hit) CApplication.launchInfo_addServices
      CApplication.nodup_addServices

/-- What changes the applications is saved. -/
theorem Tidy.addApplicationAndServices
    (htrim : ∀ s, trimLaunchInfo (trimLaunchInfo s) = trimLaunchInfo s)
    (h : Tidy trimLaunchInfo valid d)
    (hs : d.addApplicationAndServices trimLaunchInfo valid launchInfo services = some d') :
    Tidy trimLaunchInfo valid d' ∧
      (d.additionNeedsSave trimLaunchInfo valid launchInfo services = false →
        d'.applications = d.applications) := by
  rw [CDatabase.addApplicationAndServices] at hs
  rw [additionNeedsSave]
  split at hs
  · obtain rfl := Option.some.inj hs
    exact ⟨h, fun _ => rfl⟩
  · rename_i hvalid
    rw [if_neg hvalid]
    split at hs
    · rename_i hhas
      rw [if_pos hhas]
      refine ⟨h.addServices hs, ?_⟩
      intro hneed
      rw [CDatabase.addServices] at hs
      split at hs
      · split at hs
        · rw [← Option.some.inj hs]
        · cases hs
      · rename_i it hit
        simp only [hit] at hneed
        rw [← Option.some.inj hs, (CApplication.addServices_of_needSave hneed).2,
          applications_insert_same (getElem?_of_findInfo hit)]
    · rename_i hhas
      rw [if_neg hhas]
      split at hs
      · cases hs
      · rename_i new hnew
        have hnone := findInfo_of_hasApp htrim (Bool.eq_false_iff.mpr hhas)
        refine ⟨(h.addNew hnew hnone (htrim _) fun _ => List.nodup_nil).addServices hs, ?_⟩
        intro hneed
        exact absurd (CApplication.addServices_of_needSave hneed).1 (by decide)

theorem Tidy.removeApp (h : Tidy trimLaunchInfo valid d) (key : AppKey) :
    Tidy trimLaunchInfo valid (d.removeApp trimLaunchInfo key).2 ∧
      ((d.removeApp trimLaunchInfo key).1 = false →
        (d.removeApp trimLaunchInfo key).2.applications = d.applications) := by
  rw [CDatabase.removeApp]
  split
  · exact ⟨h, fun _ => rfl⟩
  · refine ⟨h.keepOnly fun j a ha => ?_, fun hfalse => by cases hfalse⟩
    rw [Std.TreeMap.getElem?_erase] at ha
    split at ha
    · cases ha
    · exact ha

theorem Tidy.addService (h : Tidy trimLaunchInfo valid d) (key : AppKey) (service : Uid) :
    Tidy trimLaunchInfo valid (d.addService trimLaunchInfo key service).2 ∧
      ((d.addService trimLaunchInfo key service).1 = false →
        (d.addService trimLaunchInfo key service).2.applications = d.applications) := by
  rw [CDatabase.addService]
  split
  · exact ⟨h, fun _ => rfl⟩
  · rename_i it hit
    have happ := getElem?_of_find hit
    refine ⟨h.setServices happ CApplication.launchInfo_addService
      CApplication.nodup_addService, fun hfalse => ?_⟩
    dsimp only
    rw [CApplication.addService_of_false hfalse, applications_insert_same happ]

theorem Tidy.removeService (h : Tidy trimLaunchInfo valid d) (key : AppKey) (service : Uid) :
    Tidy trimLaunchInfo valid (d.removeService trimLaunchInfo key service).2 ∧
      ((d.removeService trimLaunchInfo key service).1 = false →
        (d.removeService trimLaunchInfo key service).2.applications = d.applications) := by
  rw [CDatabase.removeService]
  split
  · exact ⟨h, fun _ => rfl⟩
  · rename_i it hit
    have happ := getElem?_of_find hit
    refine ⟨h.setServices happ CApplication.launchInfo_removeService
      CApplication.nodup_removeService, fun hfalse => ?_⟩
    dsimp only
    rw [CApplication.removeService_of_false hfalse, applications_insert_same happ]

theorem Tidy.deleteByPartialLaunchInfo (h : Tidy trimLaunchInfo valid d) (launchInfo : String) :
    Tidy trimLaunchInfo valid (d.deleteByPartialLaunchInfo valid launchInfo) ∧
      (d.deletionNeedsSave valid launchInfo = false →
        (d.deleteByPartialLaunchInfo valid launchInfo).applications = d.applications) := by
  rw [CDatabase.deleteByPartialLaunchInfo]
  refine ⟨h.keepOnly fun j a ha => ?_, fun hfalse => ?_⟩
  · rw [Std.TreeMap.getElem?_filter'] at ha
    exact (Option.filter_eq_some_iff.mp ha).1
  · have hnone := List.any_eq_false.mp hfalse
    have hsame : ∀ j : Int, (d.mApplications.filter fun _ app =>
        !deletes valid launchInfo app)[j]? = d.mApplications[j]? := by
      intro j
      rw [Std.TreeMap.getElem?_filter']
      cases ha : d.mApplications[j]? with
      | none => rfl
      | some a =>
        have hkept := hnone a (mem_applications.mpr ⟨j, ha⟩)
        rw [Option.filter_some, if_pos (by simpa using hkept)]
    rw [applications, Std.TreeMap.Equiv.toList_eq (.of_forall_constGet?_eq hsame), applications]

/-- What is in memory comes back. -/
theorem Tidy.load (h : Tidy trimLaunchInfo valid d) :
    ∃ d', empty.loadParsedDatabase trimLaunchInfo valid d.document = some d' ∧
      d'.applications = d.applications.filter (valid ·.mLaunchInfo) := by
  refine load_applications apart_empty h.trimmed h.services h.apart.nodup_infos ?_ ?_
  · intro app _ app' happ'
    simp [applications, empty] at happ'
  · have := h.apart.length_applications
    simp only [empty]
    omega

end CDatabase

namespace SavedDatabase

open CDatabase

variable {File : Type} {xml : XmlFiles File} {trimLaunchInfo : String → String}
  {valid : String → Bool} {s s' : SavedDatabase File} {d : CDatabase} {file : File}
  {call : DatabaseCall}

/-- The file has what is in memory, or there is none and nothing is. -/
def Current (xml : XmlFiles File) (s : SavedDatabase File) : Prop :=
  xml.load_file s.file = some s.database.document ∨
    xml.load_file s.file = none ∧ s.database.applications = []

structure Kept (xml : XmlFiles File) (trimLaunchInfo : String → String) (valid : String → Bool)
    (s : SavedDatabase File) : Prop where
  tidy : Tidy trimLaunchInfo valid s.database
  current : Current xml s

theorem current_saveWithNoLocks : Current xml (saveWithNoLocks xml d) :=
  Or.inl (xml.faithful d.document)

theorem Current.saveIf (h : Current xml s) {needSave : Bool}
    (hsame : needSave = false → d.applications = s.database.applications) :
    Current xml (saveIf xml s.file needSave d) := by
  rw [SavedDatabase.saveIf]
  split
  · exact current_saveWithNoLocks
  · rename_i hneed
    have happs := hsame (Bool.eq_false_iff.mpr hneed)
    rw [Current, document, happs]
    exact h

theorem database_saveIf {needSave : Bool} : (saveIf xml file needSave d).database = d := by
  rw [saveIf]
  split <;> rfl

theorem kept_of_load (htrim : ∀ s, trimLaunchInfo (trimLaunchInfo s) = trimLaunchInfo s)
    (h : load xml trimLaunchInfo valid file = some s) : Kept xml trimLaunchInfo valid s := by
  rw [load] at h
  split at h
  · rename_i hnone
    obtain rfl := Option.some.inj h
    exact ⟨loaded_empty.tidy, Or.inr ⟨hnone, rfl⟩⟩
  · obtain ⟨d, hd, rfl⟩ := Option.map_eq_some_iff.mp h
    exact ⟨(loaded_empty.loadParsedDatabase htrim hd).tidy, current_saveWithNoLocks⟩

theorem Kept.survives (h : Kept xml trimLaunchInfo valid s) :
    Survives xml trimLaunchInfo valid s := by
  rcases h.current with hfile | ⟨hfile, hempty⟩
  · obtain ⟨d, hd, happs⟩ := h.tidy.load
    have hload : load xml trimLaunchInfo valid s.file = some (saveWithNoLocks xml d) := by
      rw [load, hfile]
      exact congrArg (Option.map (saveWithNoLocks xml)) hd
    refine ⟨_, hload, happs, ?_⟩
    rw [saveWithNoLocks, load, xml.faithful]
    dsimp only
    rw [document, happs, loadParsedDatabase_filter h.tidy.trimmed]
    rw [document] at hd
    rw [hd, Option.map_some, saveWithNoLocks, document, happs]
  · have hload : load xml trimLaunchInfo valid s.file = some ⟨.empty, s.file⟩ := by
      rw [load, hfile]
    exact ⟨_, hload, by rw [hempty]; rfl, hload⟩

/-- What comes back has no service that is repeated. -/
theorem Survives.services (htrim : ∀ s, trimLaunchInfo (trimLaunchInfo s) = trimLaunchInfo s)
    (h : Survives xml trimLaunchInfo valid s) {app : CApplication}
    (happ : app ∈ s.database.applications) (hvalid : valid app.mLaunchInfo = true) :
    app.mServices.Nodup := by
  obtain ⟨s', hload, happs, -⟩ := h
  have hmem : app ∈ s'.database.applications := by
    rw [happs]
    exact List.mem_filter.mpr ⟨happ, hvalid⟩
  exact (kept_of_load htrim hload).tidy.services app hmem hvalid

theorem Kept.saveIf (h : Kept xml trimLaunchInfo valid s) {needSave : Bool}
    (hd : Tidy trimLaunchInfo valid d ∧
      (needSave = false → d.applications = s.database.applications)) :
    Kept xml trimLaunchInfo valid (saveIf xml s.file needSave d) where
  tidy := database_saveIf.symm ▸ hd.1
  current := h.current.saveIf hd.2

/-- Where an application is added, the list of its services decides. -/
theorem Kept.addApp_iff (htrim : ∀ s, trimLaunchInfo (trimLaunchInfo s) = trimLaunchInfo s)
    (h : Kept xml trimLaunchInfo valid s) {launchInfo : String} {services : Option (List Uid)}
    (hs : s.step xml trimLaunchInfo valid (.addApp launchInfo services) = some s') :
    (Survives xml trimLaunchInfo valid s' → s.Proper trimLaunchInfo valid
        (.addApp launchInfo services)) ∧
      (s.Proper trimLaunchInfo valid (.addApp launchInfo services) →
        Kept xml trimLaunchInfo valid s') := by
  rw [step] at hs
  cases hnew : s.database.addApp trimLaunchInfo launchInfo services with
  | none =>
    rw [hnew] at hs
    obtain rfl := Option.some.inj hs
    rw [CDatabase.addApp] at hnew
    split at hnew
    · rename_i hhas
      refine ⟨fun _ => ?_, fun _ => h⟩
      cases services with
      | none => trivial
      | some services => exact fun hnot => absurd hhas (by rw [hnot]; decide)
    · cases hnew
  | some new =>
    rw [hnew] at hs
    obtain ⟨it, hit, rfl⟩ := Option.map_eq_some_iff.mp hs
    rw [CDatabase.addApp] at hnew
    split at hnew
    · cases hnew
    · rename_i hhas
      obtain rfl := Option.some.inj hnew
      have hhas' := Bool.eq_false_iff.mpr hhas
      have hinfo : (NewApp.mk (trimLaunchInfo launchInfo) services).app.mLaunchInfo =
          trimLaunchInfo launchInfo := by
        cases services <;> rfl
      have hadd := @Tidy.addNew trimLaunchInfo valid s.database _ _ h.tidy it hit
      rw [hinfo] at hadd
      have hadd' := hadd (findInfo_of_hasApp htrim hhas') (htrim _)
      cases services with
      | none =>
        exact ⟨fun _ => trivial, fun _ => ⟨hadd' fun _ => List.nodup_nil, current_saveWithNoLocks⟩⟩
      | some services =>
        constructor
        · intro hsurvives _ hvalid
          have hmem : CApplication.ofServices (trimLaunchInfo launchInfo) services ∈
              it.2.applications := by
            rw [h.tidy.apart.applications_of_addNew hit]
            exact List.mem_append_right _ (List.mem_singleton_self _)
          exact hsurvives.services htrim hmem hvalid
        · intro hproper
          exact ⟨hadd' (hproper hhas'), current_saveWithNoLocks⟩

/-- **One call**: the database still survives exactly if the call is proper. -/
theorem Kept.step_iff (htrim : ∀ s, trimLaunchInfo (trimLaunchInfo s) = trimLaunchInfo s)
    (h : Kept xml trimLaunchInfo valid s) (hs : s.step xml trimLaunchInfo valid call = some s') :
    (Survives xml trimLaunchInfo valid s' → s.Proper trimLaunchInfo valid call) ∧
      (s.Proper trimLaunchInfo valid call → Kept xml trimLaunchInfo valid s') := by
  cases call with
  | addApp launchInfo services => exact h.addApp_iff htrim hs
  | addApplicationAndServices launchInfo services =>
    obtain ⟨d, hd, rfl⟩ := Option.map_eq_some_iff.mp hs
    exact ⟨fun _ => trivial, fun _ => h.saveIf (h.tidy.addApplicationAndServices htrim hd)⟩
  | removeApp key =>
    obtain rfl := Option.some.inj hs
    exact ⟨fun _ => trivial, fun _ => h.saveIf (h.tidy.removeApp key)⟩
  | addService key service =>
    obtain rfl := Option.some.inj hs
    exact ⟨fun _ => trivial, fun _ => h.saveIf (h.tidy.addService key service)⟩
  | removeService key service =>
    obtain rfl := Option.some.inj hs
    exact ⟨fun _ => trivial, fun _ => h.saveIf (h.tidy.removeService key service)⟩
  | deleteByPartialLaunchInfo launchInfo =>
    obtain rfl := Option.some.inj hs
    exact ⟨fun _ => trivial, fun _ => h.saveIf (h.tidy.deleteByPartialLaunchInfo launchInfo)⟩
  | save =>
    obtain rfl := Option.some.inj hs
    exact ⟨fun _ => trivial, fun _ => ⟨h.tidy, current_saveWithNoLocks⟩⟩

/-- **Exactly when the database survives a restart**: all along a run, what a database loads that
is made of the file is what is in memory and valid, if and only if no application is added with
valid launch information and a list in which a service is repeated after another one. -/
theorem database_survives_iff (xml : XmlFiles File) (valid : String → Bool)
    (htrim : ∀ s, trimLaunchInfo (trimLaunchInfo s) = trimLaunchInfo s)
    {calls : List DatabaseCall} (hstart : load xml trimLaunchInfo valid file = some s)
    (hr : run (step xml trimLaunchInfo valid) s calls = some s') :
    Always (step xml trimLaunchInfo valid) s calls (Survives xml trimLaunchInfo valid) ↔
      Along (step xml trimLaunchInfo valid) (Proper trimLaunchInfo valid) s calls := by
  refine always_iff_of_step (I := Kept xml trimLaunchInfo valid) (fun _ h => h.survives) ?_ ?_
    (kept_of_load htrim hstart) hr
  · intro v call v' hv hs
    obtain ⟨honly, hkept⟩ := hv.step_iff htrim hs
    exact ⟨honly, fun hproper => (hkept hproper).survives⟩
  · intro v call v' hv hproper hs
    exact (hv.step_iff htrim hs).2 hproper

/-- Files that are the documents; one that is not there is `none`. -/
def plainFiles : XmlFiles (Option (List AppNode)) := ⟨id, some, fun _ => rfl⟩

/-- Everything but the launch information `"x"` is valid. -/
def notX (launchInfo : String) : Bool := launchInfo ≠ "x"

def noRepetition : List DatabaseCall :=
  [.addApp "a" (some ["s", "s", "t"]), .addApp "x" (some ["s", "t", "s"]),
   .addApplicationAndServices "b" ["t", "t"], .removeService (.launchInfo "x") "s",
   .addService (.id 1) "u", .removeApp (.launchInfo "b")]

instance (s : SavedDatabase File) : ∀ call, Decidable (s.Proper trimLaunchInfo valid call)
  | .addApp _ (some _) => inferInstanceAs (Decidable (_ → _ → _))
  | .addApp _ none | .addApplicationAndServices _ _ | .removeApp _ | .addService _ _
  | .removeService _ _ | .deleteByPartialLaunchInfo _ | .save => .isTrue trivial

theorem database_survives_iff_noRepetition :
    ∃ s s', load plainFiles UbuntuLaunchInfoProcessor.trimLaunchInfo notX none = some s ∧
      run (step plainFiles UbuntuLaunchInfoProcessor.trimLaunchInfo notX) s noRepetition =
        some s' ∧
      Always (step plainFiles UbuntuLaunchInfoProcessor.trimLaunchInfo notX) s noRepetition
        (Survives plainFiles UbuntuLaunchInfoProcessor.trimLaunchInfo notX) := by
  have hends : (run (step plainFiles UbuntuLaunchInfoProcessor.trimLaunchInfo notX)
      ⟨.empty, none⟩ noRepetition).isSome = true := by
    decide +kernel
  obtain ⟨s', hs'⟩ := Option.isSome_iff_exists.mp hends
  have htrim : ∀ s, UbuntuLaunchInfoProcessor.trimLaunchInfo
      (UbuntuLaunchInfoProcessor.trimLaunchInfo s) =
        UbuntuLaunchInfoProcessor.trimLaunchInfo s := fun _ => rfl
  have hstart : load plainFiles UbuntuLaunchInfoProcessor.trimLaunchInfo notX none =
      some ⟨.empty, none⟩ := rfl
  exact ⟨_, s', hstart, hs', (database_survives_iff plainFiles notX htrim hstart hs').mpr
    (by decide +kernel)⟩

/-- A service is repeated after another one. The list that comes back has it once. -/
theorem repetition_lost :
    ∃ s', run (step plainFiles UbuntuLaunchInfoProcessor.trimLaunchInfo notX) ⟨.empty, none⟩
        [.addApp "a" (some ["s", "t", "s"])] = some s' ∧
      s'.database.applications = [⟨"a", ["s", "t", "s"]⟩] ∧
      (load plainFiles UbuntuLaunchInfoProcessor.trimLaunchInfo notX s'.file).map
        (·.database.applications) = some [⟨"a", ["s", "t"]⟩] ∧
      ¬ Survives plainFiles UbuntuLaunchInfoProcessor.trimLaunchInfo notX s' := by
  have hends : (run (step plainFiles UbuntuLaunchInfoProcessor.trimLaunchInfo notX)
      ⟨.empty, none⟩ [.addApp "a" (some ["s", "t", "s"])]).map (fun s' => decide
        (s'.database.applications = [⟨"a", ["s", "t", "s"]⟩] ∧
          (load plainFiles UbuntuLaunchInfoProcessor.trimLaunchInfo notX s'.file).map
            (·.database.applications) = some [⟨"a", ["s", "t"]⟩])) = some true := by
    decide +kernel
  obtain ⟨s', hs', hboth⟩ := Option.map_eq_some_iff.mp hends
  obtain ⟨happs, hback⟩ := of_decide_eq_true hboth
  refine ⟨s', hs', happs, hback, fun h => ?_⟩
  have hnodup := h.services (fun _ => rfl) (by rw [happs]; exact List.mem_singleton_self _) rfl
  exact absurd hnodup (by decide)

end SavedDatabase

end IviLink.AMP
