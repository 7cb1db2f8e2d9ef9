import Mathlib.Data.List.Dedup

/-!
# The file of the trust list

`CFileStorage` keeps the trusted devices, the own uid and name, and the last connection in one
JSON document. Every operation reads the document, changes it, and opens the file once more, which
truncates it, to write the document back. JSON is written and read by a library, of which it is
only known that it reads what it has written.

Each of these steps may fail. Where a document cannot be read, an operation goes on with what has
been read of it.
-/

namespace IviLink.TrustList

/-- `BaseUid` -/
abbrev Uid := String

/-- `time_t` -/
abbrev Time := Int

/-- `tNameUid` -/
abbrev NameUid := Uid × String

/-- The member `our`. -/
structure Our where
  uid : Option Uid := none
  name : Option String := none
  deriving DecidableEq, Repr

/-- The member `last`. -/
structure Last where
  lasttime : Option Int := none
  uid : Option Uid := none
  deriving DecidableEq, Repr

/-- The document. A member that is missing or null has nothing in it. -/
structure Document where
  trusted : List NameUid := []
  our : Our := {}
  last : Last := {}
  deriving DecidableEq, Repr

/-- How documents are written to files and read from them. A file that cannot be read to its end
may give a part of a document. -/
structure JsonFiles (File : Type) where
  parse : File → Except Document Document
  write : Document → File
  /-- What has been written can be read. -/
  faithful : ∀ root, parse (write root) = .ok root

namespace JsonFiles

variable {File : Type} (json : JsonFiles File)

/-- What is read of a file. -/
def root (file : File) : Document :=
  match json.parse file with
  | .ok root => root
  | .error root => root

@[simp] theorem root_write (root : Document) : json.root (json.write root) = root := by
  rw [JsonFiles.root, json.faithful]

/-- The file has the document; or it has nothing, and the document is empty. -/
def Has (file : File) (root : Document) : Prop :=
  json.parse file = .ok root ∨ json.parse file = .error root ∧ root = {}

variable {json} {file : File} {root : Document}

theorem Has.root_eq (h : json.Has file root) : json.root file = root := by
  rcases h with h | ⟨h, -⟩
  · rw [JsonFiles.root, h]
  · rw [JsonFiles.root, h]

end JsonFiles

inductive CTrustListError
  | NoTLError
  | ERROR_STORAGE (description : String)
  | ERROR_UNKNOWN_UID (description : String)
  deriving DecidableEq, Repr

namespace CTrustListError

def isNoError (e : CTrustListError) : Bool := e = NoTLError

end CTrustListError

/-- The operations that change the document. -/
inductive Operation
  | insert (uid : Uid)
  | remove (uid : Uid)
  | clear
  | updateName (uid : Uid) (name : String)
  | setOurUid (uid : Uid)
  | setOurName (name : String)
  | setLastConnection (uid : Uid) (timestamp : Time)
  deriving DecidableEq, Repr

/-- What an operation makes of the document that it has read. -/
inductive Change
  | write (root : Document)
  | error (e : CTrustListError)
  /-- What happens is not defined. -/
  | undefined
  deriving DecidableEq, Repr

namespace Document

/-- The `std::set` that the elements of `trusted` are put in. Nothing depends on its order. -/
def uids (root : Document) : List NameUid := root.trusted.dedup

def insert (root : Document) (uid : Uid) : Document :=
  { root with trusted := root.uids.insert (uid, "") }

/-- The loop erases an element and goes on from its iterator. -/
def remove (root : Document) (uid : Uid) : Change :=
  if ∃ element ∈ root.uids, element.1 = uid then .undefined
  else .error (.ERROR_UNKNOWN_UID "unknown uid")

def clear (root : Document) : Document := { root with trusted := [] }

def updateName (root : Document) (uid : Uid) (name : String) : Document :=
  { root with trusted :=
      (root.trusted.map fun element => if element.1 = uid then (uid, name) else element).dedup }

def setOurUid (root : Document) (uid : Uid) : Document :=
  { root with our := { root.our with uid := some uid } }

def setOurName (root : Document) (name : String) : Document :=
  { root with our := { root.our with name := some name } }

/-- `static_cast<int>` of the time. -/
def setLastConnection (root : Document) (uid : Uid) (timestamp : Time) : Document :=
  { root with last := ⟨some (timestamp.bmod 4294967296), some uid⟩ }

end Document

def Operation.change (root : Document) : Operation → Change
  | .insert uid => .write (root.insert uid)
  | .remove uid => root.remove uid
  | .clear => .write root.clear
  | .updateName uid name => .write (root.updateName uid name)
  | .setOurUid uid => .write (root.setOurUid uid)
  | .setOurName name => .write (root.setOurName name)
  | .setLastConnection uid timestamp => .write (root.setLastConnection uid timestamp)

/-- What goes wrong with the file in one operation. -/
structure Failures (File : Type) where
  /-- It cannot be opened to be read. -/
  reopenIn : Bool := false
  /-- What has been read, if it cannot be read to its end. -/
  read : Option Document := none
  /-- It cannot be opened to be written, and is left as it is. -/
  reopenTrunc : Bool := false
  /-- What is in the file if it cannot be written. -/
  write : Option File := none

namespace CFileStorage

variable {File : Type} (json : JsonFiles File)

/-- What is in the document after `read`. -/
def readRoot (failures : Failures File) (file : File) : Document :=
  if failures.reopenIn then {}
  else failures.read.getD (json.root file)

/-- An operation, with what it returns and what is in the file then. -/
def perform (op : Operation) (failures : Failures File) (file : File) :
    Option (CTrustListError × File) :=
  match op.change (readRoot json failures file) with
  | .undefined => none
  | .error e => some (e, file)
  | .write root =>
    if failures.reopenTrunc then some (.ERROR_STORAGE "unable to reopen file", file)
    else
      match failures.write with
      | some left => some (.ERROR_STORAGE "unable to write file", left)
      | none => some (.NoTLError, json.write root)

/-- `none` where the document cannot be read. -/
def readAll (file : File) : Option (List NameUid) :=
  match json.parse file with
  | .ok root => some root.trusted
  | .error _ => none

end CFileStorage

/-! ## The trust list -/

/-- A call of `CTrustList`. -/
inductive Call
  | addUid (uid : Uid)
  | addNamedUid (uid : Uid) (name : String)
  | removeUid (uid : Uid)
  | clearList
  deriving DecidableEq, Repr

/-- The file of a `CTrustList`. -/
structure CTrustList (File : Type) where
  file : File
  /-- Ghost: the uids that have been added and not removed or cleared since, with the names that
  they have been given; a uid that has been given none has `""`. -/
  given : Uid → Option String

namespace CTrustList

variable {File : Type} (json : JsonFiles File)

/-! Files can be opened, read and written here. -/

def isKnownUid (t : CTrustList File) (uid : Uid) : Bool :=
  match CFileStorage.readAll json t.file with
  | none => false
  | some vec => vec.any (·.1 = uid)

def addUid (uid : Uid) (file : File) : Option (CTrustListError × File) :=
  CFileStorage.perform json (.insert uid) {} file

def addNamedUid (uid : Uid) (name : String) (file : File) : Option (CTrustListError × File) :=
  match CFileStorage.perform json (.insert uid) {} file with
  | none => none
  | some (err, file) =>
    if err.isNoError then CFileStorage.perform json (.updateName uid name) {} file
    else some (err, file)

def removeUid (uid : Uid) (file : File) : Option (CTrustListError × File) :=
  CFileStorage.perform json (.remove uid) {} file

def clearList (file : File) : Option (CTrustListError × File) :=
  CFileStorage.perform json .clear {} file

/-- What has been given after the call. -/
def givenAfter (given : Uid → Option String) : Call → Uid → Option String
  | .addUid uid, u => if u = uid then some ((given uid).getD "") else given u
  | .addNamedUid uid name, u => if u = uid then some name else given u
  | .removeUid uid, u => if u = uid then none else given u
  | .clearList, _ => none

def perform (file : File) : Call → Option (CTrustListError × File)
  | .addUid uid => addUid json uid file
  | .addNamedUid uid name => addNamedUid json uid name file
  | .removeUid uid => removeUid json uid file
  | .clearList => clearList json file

def step (t : CTrustList File) (call : Call) : Option (CTrustList File) :=
  (perform json t.file call).map fun it => ⟨it.2, givenAfter t.given call⟩

/-- The document in the file. -/
def root (t : CTrustList File) : Document := json.root t.file

/-- The trust list of a file. -/
def start (file : File) : CTrustList File :=
  ⟨file, fun uid => ((json.root file).trusted.find? (·.1 = uid)).map (·.2)⟩

/-- The list is the map of what has been given, and the rest is that of the document `first`. -/
structure Refines (first : Document) (t : CTrustList File) : Prop where
  has : json.Has t.file (root json t)
  known : ∀ uid, isKnownUid json t uid = true ↔ (t.given uid).isSome = true
  once : ((root json t).trusted.map (·.1)).Nodup
  names : ∀ element ∈ (root json t).trusted, t.given element.1 = some element.2
  our : (root json t).our = first.our
  last : (root json t).last = first.last

/-- No uid that has a name is added without one, and none is removed that is there. -/
def Proper (t : CTrustList File) : Call → Prop
  | .addUid uid => ∀ name ∈ t.given uid, name = ""
  | .removeUid uid => t.given uid = none
  | _ => True

instance (t : CTrustList File) : ∀ call, Decidable (t.Proper call)
  | .addUid _ => inferInstanceAs (Decidable (∀ name ∈ _, _))
  | .removeUid _ => inferInstanceAs (Decidable (_ = _))
  | .addNamedUid _ _ | .clearList => .isTrue trivial

end CTrustList

end IviLink.TrustList
