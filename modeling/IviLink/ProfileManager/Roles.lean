import IviLink.L0.Peers
import IviLink.Lib.Bytes
import IviLink.Lib.Duplex

/-!
# Which profile manager is the master

Each of two `PmpComponentManager`s draws a number when its initialisation ends and
sends it to the other one. The larger number makes the master; when the two are
equal both draw again. A number that comes before the own one is drawn is kept in
`mOtherRoleNumber` and looked at as soon as there is one.

A message is the data of the frame, the number in network order. What a manager
draws and what it compares with what is recorded; the services that wait for a
role do not change it and are left out.
-/

namespace IviLink.ProfileManager

open IviLink.L0 (Side)
open IviLink.Lib

inductive Role
  | PMP_ROLE_NONE
  | PMP_ROLE_MASTER
  | PMP_ROLE_SLAVE
  deriving DecidableEq, Repr

/-- `PmpSessionProtocol::sendNegotiateNumber`: the data of the frame. -/
def sendNegotiateNumber (number : UInt32) : List UInt8 := le32 (swap32 number)

/-- `PmpSessionProtocol::onGotNegotiateNuber` -/
def onGotNegotiateNuber (data : List UInt8) : UInt32 := swap32 (ofLE32 (data.take 4))

/-- What `genRandomNumber` gives. -/
structure RoleNumber where
  val : UInt32
  pos : 1 ≤ val.toNat
  bounded : val.toNat < 2 ^ 31

/-- What happens to role numbers at a manager. -/
inductive Note
  /-- `genRandomNumber` gave it. -/
  | drew (number : UInt32)
  /-- `mRoleNubmer` was compared with a number of the other side. -/
  | compared (mRoleNubmer number : UInt32)
  deriving DecidableEq, Repr

/-- The members that the negotiation is about; a number that is not there is -1. -/
structure PmpComponentManager where
  mInitializationDone : Bool
  mRole : Role
  mRoleNubmer : UInt32
  mOtherRoleNumber : UInt32
  deriving DecidableEq, Repr

namespace PmpComponentManager

abbrev Done := Reaction PmpComponentManager (List UInt8) Note

def init : PmpComponentManager := ⟨false, .PMP_ROLE_NONE, -1, -1⟩

/-- `next` is what the next call of `genRandomNumber` gives. -/
def negotiateRole (m : PmpComponentManager) (next : RoleNumber) : Done :=
  ⟨{ m with mRoleNubmer := next.val }, [sendNegotiateNumber next.val], [.drew next.val]⟩

def onNegotiateRole (m : PmpComponentManager) (next : RoleNumber) (number : UInt32) : Done :=
  if m.mRoleNubmer = -1 then ⟨{ m with mOtherRoleNumber := number }, [], []⟩
  else if m.mRoleNubmer = number then
    let r := m.negotiateRole next
    { r with told := .compared m.mRoleNubmer number :: r.told }
  else
    ⟨{ m with mRole := if m.mRoleNubmer > number then .PMP_ROLE_MASTER else .PMP_ROLE_SLAVE }, [],
      [.compared m.mRoleNubmer number]⟩

/-- A number that was kept is looked at once the own one is sent; when they are equal a second
number is drawn. -/
def endInitialization (m : PmpComponentManager) (first second : RoleNumber) : Done :=
  if m.mInitializationDone then ⟨m, [], []⟩
  else
    let r := negotiateRole { m with mInitializationDone := true } first
    if r.state.mOtherRoleNumber ≠ -1 then
      let r' := r.state.onNegotiateRole second r.state.mOtherRoleNumber
      ⟨r'.state, r.sent ++ r'.sent, r.told ++ r'.told⟩
    else r

end PmpComponentManager

/-! ## Two managers -/

abbrev PmpComponentManagers := Duplex Side PmpComponentManager (List UInt8) Note

namespace PmpComponentManagers

/-- With an action or a message come the numbers that are drawn if any are. -/
abbrev Action := Duplex.Action Side (RoleNumber × RoleNumber) RoleNumber

def machine :
    Machine PmpComponentManager (RoleNumber × RoleNumber) RoleNumber (List UInt8) Note :=
  ⟨fun m r => some (m.endInitialization r.1 r.2),
    fun m next data => some (m.onNegotiateRole next (onGotNegotiateNuber data))⟩

def step (w : PmpComponentManagers) (a : Action) : Option PmpComponentManagers :=
  Duplex.step machine Side.other w a

def init : PmpComponentManagers := ⟨fun _ => .init, fun _ => [], fun _ => []⟩

end PmpComponentManagers

end IviLink.ProfileManager
