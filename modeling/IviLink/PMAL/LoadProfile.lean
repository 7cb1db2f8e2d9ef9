import Std.Data.TreeMap
import Mathlib.Tactic.Common

/-!
# Loading a profile instance

`CPIM::loadProfile`, from the questions to the core to the message to the profile manager. What the
other components give comes with the call, and what it releases and destroys is kept in the order
in which it does so.
-/

namespace IviLink.PMAL.PIM

/-- `Profile::Uid` and `Service::Uid` -/
abbrev Uid := String

abbrev IUid := String

/-- `ProfileInternal*` -/
abbrev Instance := Nat

/-- `tIncomingPrfUID`: a service and a profile. -/
abbrev IncomingPrfUID := Uid × Uid

inductive CPMALError
  | NoPMALError
  | ERROR_OTHER
  | ERROR_UNKNOWN_PROFILE_UID (description : String)
  | ERROR_PIM_INTERNAL (description : String)
  | ERROR_PROFILE_INIT (description : String)
  deriving DecidableEq, Repr

structure CProfileInstanceMap where
  mProfileMap : Std.TreeMap IUid Instance
  mUidMap : Std.TreeMap Instance IUid

namespace CProfileInstanceMap

/-- `none` is the error "uid exists". -/
def registerProfile (m : CProfileInstanceMap) (profileUid : IUid) (pInstance : Instance) :
    Option CProfileInstanceMap :=
  if profileUid ∈ m.mProfileMap then none
  else some ⟨m.mProfileMap.insert profileUid pInstance, m.mUidMap.insert pInstance profileUid⟩

/-- `none` is the error "profile not found". -/
def unregisterProfile (m : CProfileInstanceMap) (pInstance : Instance) :
    Option CProfileInstanceMap :=
  match m.mUidMap[pInstance]? with
  | none => none
  | some uid => some ⟨m.mProfileMap.erase uid, m.mUidMap.erase pInstance⟩

end CProfileInstanceMap

structure CPIM where
  mInstanceMap : CProfileInstanceMap
  /-- A multimap; entries with the same key are in the order in which they came. -/
  mIncomingPrfMap : List (IncomingPrfUID × IUid)

/-- What the other components give in a call of `loadProfile`. -/
structure Answers where
  /-- There is a component manager. -/
  componentMgr : Bool := true
  core : Bool := true
  /-- `none` is an error, here and below. -/
  isEnabledProfile : Option Bool := some true
  getProfileLibPath : Option String := some ""
  getPIUID : Option IUid := none
  createProfileImpl : Option Instance := none
  /-- The new object has no error. -/
  initialised : Bool := true
  /-- The profile manager takes the message. -/
  createProfile : Bool := true

/-- The end of a call of `loadProfile`. -/
structure Load where
  pim : CPIM
  error : CPMALError
  /-- The piuid that it has obtained. -/
  piuid : Option IUid := none
  /-- The object that it has created. -/
  created : Option Instance := none
  releasePIUID : List IUid := []
  destroy : List Instance := []
  pProfile : Option Instance := none

/-- The error of the first part, in which nothing is obtained. -/
def Answers.preparing (answers : Answers) : CPMALError :=
  if answers.componentMgr = false then
    .ERROR_PIM_INTERNAL "no instance of CPMALComponentMgr. Something is very wrong"
  else if answers.core = false then .ERROR_PIM_INTERNAL "no instance of PMAL Core"
  else
    match answers.isEnabledProfile with
    | none => .ERROR_PIM_INTERNAL "unable to get state of profile"
    | some false => .ERROR_UNKNOWN_PROFILE_UID "profile is disabled or unknown"
    | some true =>
      match answers.getProfileLibPath with
      | none => .ERROR_UNKNOWN_PROFILE_UID "no profile library path"
      | some _ => .NoPMALError

namespace CPIM

/-- The piuid is the first one that has been announced for the key, or a new one. -/
def generatePIUID (s : CPIM) (key : IncomingPrfUID) (getPIUID : Option IUid) :
    CPIM × Option IUid :=
  match s.mIncomingPrfMap.find? (·.1 = key) with
  | some it => ({ s with mIncomingPrfMap := s.mIncomingPrfMap.eraseP (·.1 = key) }, some it.2)
  | none => (s, getPIUID)

/-- `loadProfile` from where it has the piuid. -/
def create (s : CPIM) (piuid : IUid) (answers : Answers) : Load :=
  match answers.createProfileImpl with
  | none =>
    { pim := s
      error := .ERROR_PIM_INTERNAL "unable to create profile object"
      piuid := some piuid
      releasePIUID := [piuid] }
  | some pProfInt =>
    if answers.initialised = false then
      { pim := s
        error := .ERROR_PROFILE_INIT "profile implementation init error"
        piuid := some piuid
        created := some pProfInt
        releasePIUID := [piuid]
        destroy := [pProfInt] }
    else
      match s.mInstanceMap.registerProfile piuid pProfInt with
      | none =>
        { pim := s
          error := .ERROR_PIM_INTERNAL "unable to register profile object"
          piuid := some piuid
          created := some pProfInt
          destroy := [pProfInt] }
      | some mInstanceMap =>
        if answers.createProfile = false then
          { pim := { s with mInstanceMap := mInstanceMap }
            error := .ERROR_OTHER
            piuid := some piuid
            created := some pProfInt }
        else
          { pim := { s with mInstanceMap := mInstanceMap }
            error := .NoPMALError
            piuid := some piuid
            created := some pProfInt
            pProfile := some pProfInt }

def loadProfile (s : CPIM) (profileUid sid : Uid) (answers : Answers) : Load :=
  if answers.preparing ≠ .NoPMALError then { pim := s, error := answers.preparing }
  else
    match s.generatePIUID (sid, profileUid) answers.getPIUID with
    | (s, none) => { pim := s, error := .ERROR_PIM_INTERNAL "no piuid" }
    | (s, some piuid) => s.create piuid answers

end CPIM

/-- Nothing is left of a load but that it may have taken its piuid from the incoming profiles. -/
structure NoTrace (s : CPIM) (key : IncomingPrfUID) (load : Load) : Prop where
  instances : load.pim.mInstanceMap = s.mInstanceMap
  incoming : load.pim.mIncomingPrfMap = s.mIncomingPrfMap ∨
    ∃ piuid, load.piuid = some piuid ∧
      load.pim.mIncomingPrfMap = s.mIncomingPrfMap.erase (key, piuid)
  released : load.releasePIUID = load.piuid.toList
  destroyed : load.destroy = load.created.toList

/-- If a load creates an object without an error, no other instance has its piuid, and the profile
manager takes the message. -/
def Completed (s : CPIM) (key : IncomingPrfUID) (answers : Answers) : Prop :=
  answers.preparing = .NoPMALError → ∀ piuid,
    (s.generatePIUID key answers.getPIUID).2 = some piuid →
      answers.createProfileImpl.isSome = true → answers.initialised = true →
        piuid ∉ s.mInstanceMap.mProfileMap ∧ answers.createProfile = true

end IviLink.PMAL.PIM
