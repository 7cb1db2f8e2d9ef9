import IviLink.ApplicationManager.CRequestHandler
import IviLink.Utils.CUid
import Mathlib.Data.Finset.Basic
import Mathlib.Data.List.Destutter

/-!
# The database of applications

`CDatabase`: the applications by their ids, each with its launch information and the list of its
services. An application is named by its id or by launch information, which
`ILaunchInfoProcessor` trims first. Whether launch information is valid depends on what is
installed at the time, so the answer comes with the call. What is written to the file is left out.

A step is one section under `mpMutex`, or the loading of one node of the document. The nodes are
loaded one after the other before anything else is called. `addApp` has two sections, and other
calls come between them.
-/

namespace IviLink.AMP

open IviLink.Utils (INT_MAX)

structure CApplication where
  mLaunchInfo : String
  mServices : List Uid := []
  deriving DecidableEq, Repr

namespace CApplication

/-- The constructor that takes the services. `unique` leaves one of the services that are next to
each other and equal. -/
def ofServices (launchInfo : String) (services : List Uid) : CApplication :=
  ⟨launchInfo, services.destutter (· ≠ ·)⟩

def hasService (app : CApplication) (service : Uid) : Bool := service ∈ app.mServices

def addService (app : CApplication) (service : Uid) : Bool × CApplication :=
  if app.hasService service then (false, app)
  else (true, { app with mServices := app.mServices ++ [service] })

/-- The first one is erased. -/
def removeService (app : CApplication) (service : Uid) : Bool × CApplication :=
  if service ∈ app.mServices then
    (true, { app with mServices := app.mServices.erase service })
  else (false, app)

/-- The services are added in turn. -/
def addServices (app : CApplication) (services : List Uid) : CApplication :=
  services.foldl (fun app service => (app.addService service).2) app

end CApplication

/-- What an application is named by. -/
inductive AppKey
  | id (id : Int)
  | launchInfo (launchInfo : String)
  deriving DecidableEq, Repr

/-- An element of `applications` in the document, with the names and uids of its services. -/
structure AppNode where
  name : String
  launchInfo : String
  services : List (String × String)

/-- The uids that are loaded. -/
def AppNode.uids (node : AppNode) : List Uid :=
  (node.services.filter (·.1 = "service")).map (·.2)

structure CDatabase where
  mApplications : Std.TreeMap Int CApplication
  mIdCounter : Int
  /-- Ghost: the ids that have been given, the last one first. -/
  given : List Int
  /-- Ghost: the services that have been added to an application and not removed since. -/
  added : Finset (Int × Uid)

/-- What a call of `addApp` adds, with the list if it takes one. -/
structure NewApp where
  trimmedLaunchInfo : String
  services : Option (List Uid)
  deriving DecidableEq, Repr

namespace NewApp

def app (new : NewApp) : CApplication :=
  match new.services with
  | none => ⟨new.trimmedLaunchInfo, []⟩
  | some services => .ofServices new.trimmedLaunchInfo services

end NewApp

namespace CDatabase

variable (trimLaunchInfo : String → String)

def empty : CDatabase := ⟨∅, 0, [], ∅⟩

/-- `int id = genId(); mApplications[id] = app;`, where `services` are what the caller has named.
An `int` has no value beyond `INT_MAX`. -/
def addNew (d : CDatabase) (app : CApplication) (services : List Uid) : Option (Int × CDatabase) :=
  if d.mIdCounter < INT_MAX then
    some (d.mIdCounter + 1,
      { mApplications := d.mApplications.insert (d.mIdCounter + 1) app
        mIdCounter := d.mIdCounter + 1
        given := (d.mIdCounter + 1) :: d.given
        added := d.added ∪ (services.map (d.mIdCounter + 1, ·)).toFinset })
  else none

/-- The first application whose launch information it is. -/
def findInfo (d : CDatabase) (trimmedLaunchInfo : String) : Option (Int × CApplication) :=
  d.mApplications.toList.find? (·.2.mLaunchInfo = trimmedLaunchInfo)

/-- The iterator that a method starts from; `none` is `end()`. -/
def find (d : CDatabase) : AppKey → Option (Int × CApplication)
  | .id id => d.mApplications[id]?.map (id, ·)
  | .launchInfo launchInfo => d.findInfo (trimLaunchInfo launchInfo)

def getId (d : CDatabase) (launchInfo : String) : Int :=
  match d.findInfo (trimLaunchInfo launchInfo) with
  | none => -1
  | some it => it.1

def hasApp (d : CDatabase) (launchInfo : String) : Bool :=
  (d.findInfo (trimLaunchInfo launchInfo)).isSome

def hasService (d : CDatabase) (id : Int) (service : Uid) : Bool :=
  match d.mApplications[id]? with
  | none => false
  | some app => app.hasService service

/-- The ids; the method that lists the launch information goes through the same applications. -/
def getApps (d : CDatabase) (service : Uid) : List Int :=
  (d.mApplications.toList.filter (·.2.hasService service)).map (·.1)

/-- The application of one node. -/
def loadApp (d : CDatabase) (valid : String → Bool) (node : AppNode) : Option CDatabase :=
  if node.name ≠ "app" then some d
  else if d.hasApp trimLaunchInfo (trimLaunchInfo node.launchInfo) then some d
  else if !valid (trimLaunchInfo node.launchInfo) then some d
  else (d.addNew ((⟨trimLaunchInfo node.launchInfo, []⟩ : CApplication).addServices node.uids)
    node.uids).map (·.2)

/-- The loop over the nodes; the constructor calls it for an empty database. -/
def loadParsedDatabase (d : CDatabase) (valid : String → Bool) :
    List AppNode → Option CDatabase
  | [] => some d
  | node :: nodes =>
    match d.loadApp trimLaunchInfo valid node with
    | none => none
    | some d' => d'.loadParsedDatabase valid nodes

/-- The first section of `addApp`, and what the second one is to add. -/
def addApp (d : CDatabase) (launchInfo : String) (services : Option (List Uid)) : Option NewApp :=
  if d.hasApp trimLaunchInfo (trimLaunchInfo launchInfo) then none
  else some ⟨trimLaunchInfo launchInfo, services⟩

/-- The second section. -/
def insertApp (d : CDatabase) (new : NewApp) : Option (Int × CDatabase) :=
  d.addNew new.app (new.services.getD [])

def removeApp (d : CDatabase) (key : AppKey) : Bool × CDatabase :=
  match d.find trimLaunchInfo key with
  | none => (false, d)
  | some it => (true, { d with
      mApplications := d.mApplications.erase it.1
      added := d.added.filter (·.1 ≠ it.1) })

def addService (d : CDatabase) (key : AppKey) (service : Uid) : Bool × CDatabase :=
  match d.find trimLaunchInfo key with
  | none => (false, d)
  | some it => ((it.2.addService service).1, { d with
      mApplications := d.mApplications.insert it.1 (it.2.addService service).2
      added := insert (it.1, service) d.added })

def removeService (d : CDatabase) (key : AppKey) (service : Uid) : Bool × CDatabase :=
  match d.find trimLaunchInfo key with
  | none => (false, d)
  | some it => ((it.2.removeService service).1, { d with
      mApplications := d.mApplications.insert it.1 (it.2.removeService service).2
      added := d.added.erase (it.1, service) })

/-- The loop over the services. For `end()` it is not defined, unless there are no services. -/
def addServices (d : CDatabase) (trimmedLaunchInfo : String) (services : List Uid) :
    Option CDatabase :=
  match d.findInfo trimmedLaunchInfo with
  | none => if services = [] then some d else none
  | some it => some { d with
      mApplications := d.mApplications.insert it.1 (it.2.addServices services)
      added := d.added ∪ (services.map (it.1, ·)).toFinset }

def addApplicationAndServices (d : CDatabase) (valid : String → Bool) (launchInfo : String)
    (services : List Uid) : Option CDatabase :=
  if !valid (trimLaunchInfo launchInfo) then some d
  else if d.hasApp trimLaunchInfo (trimLaunchInfo launchInfo) then
    d.addServices (trimLaunchInfo launchInfo) services
  else
    match d.addNew ⟨trimLaunchInfo launchInfo, []⟩ [] with
    | none => none
    | some it => it.2.addServices (trimLaunchInfo launchInfo) services

/-- Whether `deleteByPartialLaunchInfo` erases the application. -/
def deletes (valid : String → Bool) (launchInfo : String) (app : CApplication) : Bool :=
  launchInfo.toList <:+: app.mLaunchInfo.toList && !valid app.mLaunchInfo

def deleteByPartialLaunchInfo (d : CDatabase) (valid : String → Bool) (launchInfo : String) :
    CDatabase :=
  { d with
    mApplications := d.mApplications.filter fun _ app => !deletes valid launchInfo app
    added := d.added.filter fun entry =>
      ∀ app ∈ d.mApplications[entry.1]?, deletes valid launchInfo app = false }

/-- It is the map that the calls ask for. -/
structure Agrees (d : CDatabase) : Prop where
  /-- No launch information is that of two applications. -/
  distinct : ∀ (i j : Int) (a b : CApplication), d.mApplications[i]? = some a →
    d.mApplications[j]? = some b → a.mLaunchInfo = b.mLaunchInfo → i = j
  /-- No id is given twice. -/
  given : d.given.Nodup
  hasService : ∀ id service, d.hasService id service = true ↔ (id, service) ∈ d.added
  getApps : ∀ id service, id ∈ d.getApps service ↔ (id, service) ∈ d.added

/-- No application has the launch information, and there is an id for one that has. -/
def Free (d : CDatabase) (trimmedLaunchInfo : String) : Prop :=
  d.findInfo trimmedLaunchInfo = none ∧ d.mIdCounter < INT_MAX

end CDatabase

/-- The processor of the port for Ubuntu leaves launch information as it is. -/
def UbuntuLaunchInfoProcessor.trimLaunchInfo (launchInfo : String) : String := launchInfo

/-- The database, and the calls of `addApp` that are between their sections. -/
structure Applications where
  database : CDatabase
  adding : List NewApp

inductive AppsStep
  | load (valid : String → Bool) (node : AppNode)
  | addApp (launchInfo : String) (services : Option (List Uid))
  /-- The second section of one of the calls that have had the first. -/
  | insertApp (n : Nat)
  | addApplicationAndServices (valid : String → Bool) (launchInfo : String) (services : List Uid)
  | removeApp (key : AppKey)
  | addService (key : AppKey) (service : Uid)
  | removeService (key : AppKey) (service : Uid)
  | deleteByPartialLaunchInfo (valid : String → Bool) (launchInfo : String)

namespace Applications

variable (trimLaunchInfo : String → String)

def init : Applications := ⟨.empty, []⟩

/-- `none` where the language does not define what happens. -/
def step (w : Applications) : AppsStep → Option Applications
  | .load valid node =>
    (w.database.loadApp trimLaunchInfo valid node).map fun d => { w with database := d }
  | .addApp launchInfo services =>
    match w.database.addApp trimLaunchInfo launchInfo services with
    | none => some w
    | some new => some { w with adding := w.adding ++ [new] }
  | .insertApp n =>
    match w.adding[n]? with
    | none => some w
    | some new => (w.database.insertApp new).map fun it => ⟨it.2, w.adding.eraseIdx n⟩
  | .addApplicationAndServices valid launchInfo services =>
    (w.database.addApplicationAndServices trimLaunchInfo valid launchInfo services).map
      fun d => { w with database := d }
  | .removeApp key => some { w with database := (w.database.removeApp trimLaunchInfo key).2 }
  | .addService key service =>
    some { w with database := (w.database.addService trimLaunchInfo key service).2 }
  | .removeService key service =>
    some { w with database := (w.database.removeService trimLaunchInfo key service).2 }
  | .deleteByPartialLaunchInfo valid launchInfo =>
    some { w with database := w.database.deleteByPartialLaunchInfo valid launchInfo }

/-- An application that is added is the only one with its launch information, and a service that
is removed is in the list once. -/
def Proper (w : Applications) : AppsStep → Prop
  | .load valid node =>
    node.name = "app" → w.database.hasApp trimLaunchInfo (trimLaunchInfo node.launchInfo) = false →
      valid (trimLaunchInfo node.launchInfo) = true →
        w.database.Free (trimLaunchInfo node.launchInfo)
  | .insertApp n => ∀ new ∈ w.adding[n]?, w.database.Free new.trimmedLaunchInfo
  | .addApplicationAndServices valid launchInfo services =>
    valid (trimLaunchInfo launchInfo) = true →
      if w.database.hasApp trimLaunchInfo (trimLaunchInfo launchInfo) then
        services ≠ [] → w.database.findInfo (trimLaunchInfo launchInfo) ≠ none
      else w.database.Free (trimLaunchInfo launchInfo)
  | .removeService key service =>
    ∀ it ∈ w.database.find trimLaunchInfo key, it.2.mServices.count service ≤ 1
  | _ => True

end Applications

end IviLink.AMP
