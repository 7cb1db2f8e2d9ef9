import IviLink.L1.L1InterfaceStub

/-!
# `CConnectivityAgent`

How the agent gets, loses and replaces its connection. Finders look for carriers and
report what they have found; the agent makes the handshake with a found carrier and
takes it into use, with a new `CConnectivityManager` or in the one there is. Its
thread notices that the carrier in use is broken; a client may ask for a disconnect.

A carrier hands no frame on before it is unlocked (`mIsFrameProcessingAllowed`). Who
unlocks it is the stub, when it is told of the connection.

What a finder finds, how a handshake ends and when a carrier breaks is up to the
surroundings. `none` is a failed assertion.
-/

namespace IviLink.Hal

open IviLink.L0 (L0Interface)
open IviLink.L1 (L1InterfaceStub)

inductive EGenderType
  | serverGender
  | clientGender
  | anyGender
  deriving DecidableEq, Repr

/-- A `CCarrierAdapter`, as the agent sees it. -/
structure Carrier where
  isBroken : Bool
  mIsFrameProcessingAllowed : Bool
  /-- Is a frame receiver registered? -/
  mpFrameReceiver : Bool
  mGenderType : EGenderType
  deriving DecidableEq, Repr

namespace Carrier

/-- `CCarrierAdapter::CCarrierAdapter`, with the gender the finder gives it. -/
def new (gender : EGenderType) : Carrier := ⟨false, false, false, gender⟩

def registerFrameReceiver (c : Carrier) : Carrier := { c with mpFrameReceiver := true }

def unlockFrameProcessing (c : Carrier) : Carrier := { c with mIsFrameProcessingAllowed := true }

end Carrier

/-! ## Finders -/

/-- `CConnectionFinder::EState` -/
inductive EState
  | searching
  /-- A connection was found, and the agent has to decide. -/
  | waitAck
  | stopped
  deriving DecidableEq, Repr

structure CConnectionFinder where
  mState : EState
  mpAdapter : Option Carrier
  deriving DecidableEq, Repr

namespace CConnectionFinder

def init : CConnectionFinder := ⟨.stopped, none⟩

def startSearch (f : CConnectionFinder) : CConnectionFinder :=
  if f.mState = .stopped then { f with mState := .searching } else f

def stopSearch (f : CConnectionFinder) : CConnectionFinder :=
  if f.mState ≠ .stopped then { f with mState := .stopped } else f

def continueSearch (f : CConnectionFinder) : CConnectionFinder :=
  if f.mState = .waitAck then { f with mState := .searching } else f

/-- `setReady` up to its call of `connectionFound`. -/
def setReady (_ : CConnectionFinder) (pAdapter : Option Carrier) : CConnectionFinder :=
  ⟨.waitAck, pAdapter⟩

/-- The adapter is given away. -/
def getConnectedAdapter (f : CConnectionFinder) : CConnectionFinder × Option Carrier :=
  if f.mState = .waitAck then ({ f with mpAdapter := none }, f.mpAdapter) else (f, none)

@[simp] theorem startSearch_mpAdapter (f : CConnectionFinder) :
    f.startSearch.mpAdapter = f.mpAdapter := by
  rw [startSearch]
  split <;> rfl

@[simp] theorem stopSearch_mpAdapter (f : CConnectionFinder) :
    f.stopSearch.mpAdapter = f.mpAdapter := by
  rw [stopSearch]
  split <;> rfl

@[simp] theorem continueSearch_mpAdapter (f : CConnectionFinder) :
    f.continueSearch.mpAdapter = f.mpAdapter := by
  rw [continueSearch]
  split <;> rfl

end CConnectionFinder

/-! ## The agent -/

/-- `CConnectivityManager`, apart from what the allocator has a pointer to. -/
structure CConnectivityManager where
  mpCarrierAdapter : Option Carrier
  deriving DecidableEq, Repr

/-- The agent and the stub, a singleton. `ι` are the finders. -/
structure CConnectivityAgent (ι : Type) where
  mConnectionEstablished : Bool
  mpManager : Option CConnectivityManager
  mGenderType : EGenderType
  mFinders : ι → CConnectionFinder
  stub : L1InterfaceStub

namespace CConnectivityAgent

variable {ι : Type}

def init : CConnectivityAgent ι := ⟨false, none, .anyGender, fun _ => .init, .init⟩

def getCurrentCarrierAdapter (a : CConnectivityAgent ι) : Option Carrier :=
  a.mpManager.bind CConnectivityManager.mpCarrierAdapter

/-- The adapter in use changes. -/
def atCarrier (a : CConnectivityAgent ι) (f : Carrier → Carrier) : CConnectivityAgent ι :=
  { a with mpManager := a.mpManager.map fun m => ⟨m.mpCarrierAdapter.map f⟩ }

/-- `L1InterfaceStub::OnConnected`, by way of the manager and the allocator. -/
def onConnected (a : CConnectivityAgent ι) : Option (CConnectivityAgent ι) :=
  match a.stub.OnConnected with
  | none => none
  | some stub =>
    match a.getCurrentCarrierAdapter with
    | none => none
    | some _ => some ({ a with stub := stub }.atCarrier Carrier.unlockFrameProcessing)

/-- `CConnectivityManager::CConnectivityManager`: the dispatchers are made, the one for incoming
frames registers itself, and the allocator is given the new interface. -/
def newManager (a : CConnectivityAgent ι) (pAdapter : Carrier) : CConnectivityAgent ι :=
  { a with
    mpManager := some ⟨some pAdapter.registerFrameReceiver⟩
    stub := { a.stub with channelAllocator := ⟨some .init⟩ } }

/-- `CConnectivityManager::replaceCarrier` -/
def replaceCarrier (a : CConnectivityAgent ι) (pAdapter : Carrier) : CConnectivityAgent ι :=
  { a with
    mpManager := some ⟨some pAdapter.registerFrameReceiver⟩
    stub := { a.stub with
      channelAllocator := ⟨a.stub.channelAllocator.mpL0Interface.map fun l =>
        { l with mpIncomeDispatcher := l.mpIncomeDispatcher.replaceCarrier }⟩ } }

/-- `initAdapterHandshake`, given how the adapter's handshake ends. -/
def initAdapterHandshake (a : CConnectivityAgent ι) (pAdapter : Option Carrier)
    (handshakeResult : ConnectivityAgentError) :
    Option (CConnectivityAgent ι × ConnectivityAgentError) :=
  match pAdapter with
  | none => some (a, .inconsistentData)
  | some pAdapter =>
    if handshakeResult.isNoError then
      let a := { a with mGenderType := pAdapter.mGenderType }
      match a.mpManager with
      | none => ((a.newManager pAdapter).onConnected).map fun a => (a, .noError)
      | some _ => some (a.replaceCarrier pAdapter, .noError)
    else some (a, handshakeResult)

/-- `disconnect`. The clients are told by the destructor of the manager. -/
def disconnect (a : CConnectivityAgent ι) : CConnectivityAgent ι :=
  match a.mpManager with
  | none => { a with mGenderType := .anyGender }
  | some _ =>
    { a with mpManager := none, stub := a.stub.OnDisconnected.state, mGenderType := .anyGender }

/-- `onConnectionProblem`: `tryToRecover` returns no adapter. -/
def onConnectionProblem (a : CConnectivityAgent ι) : CConnectivityAgent ι := a.disconnect

/-- One turn of `threadFunc`. -/
def threadFunc (a : CConnectivityAgent ι) : CConnectivityAgent ι :=
  if a.mpManager = none ∨ a.mConnectionEstablished = false then
    { a with mFinders := fun i => (a.mFinders i).startSearch }
  else if a.getCurrentCarrierAdapter.all Carrier.isBroken then
    { a with
      mConnectionEstablished := false
      mGenderType := .anyGender
      stub := a.stub.OnDisconnected.state }
  else a

variable [DecidableEq ι]

def connectionFound (a : CConnectivityAgent ι) (pFinder : ι)
    (handshakeResult : ConnectivityAgentError) : Option (CConnectivityAgent ι) :=
  if (a.mFinders pFinder).mState = .waitAck then
    -- `assert(false && "not implemented")`
    if a.mConnectionEstablished then none
    else
      let taken := (a.mFinders pFinder).getConnectedAdapter
      let a := { a with mFinders := Function.update a.mFinders pFinder taken.1 }
      match a.initAdapterHandshake taken.2 handshakeResult with
      | none => none
      | some (a, result) =>
        if result.isNoError then
          some { a with
            mConnectionEstablished := true
            mFinders := fun i => (a.mFinders i).stopSearch }
        else
          some { a with
            mFinders := Function.update a.mFinders pFinder (a.mFinders pFinder).continueSearch }
  else some a

/-- What happens to an agent. -/
inductive Event (ι : Type)
  /-- A turn of the agent's thread. -/
  | threadFunc
  /-- A finder has an adapter. -/
  | setReady (pFinder : ι) (gender : Option EGenderType)
  /-- Its report gets to the agent. -/
  | connectionFound (pFinder : ι) (handshakeResult : ConnectivityAgentError)
  /-- A client's request to disconnect. -/
  | onConnectionProblem
  /-- The carrier in use is lost. -/
  | breaks

def step (a : CConnectivityAgent ι) : Event ι → Option (CConnectivityAgent ι)
  | .threadFunc => some a.threadFunc
  | .setReady pFinder gender => some { a with
      mFinders := Function.update a.mFinders pFinder
        ((a.mFinders pFinder).setReady (gender.map Carrier.new)) }
  | .connectionFound pFinder handshakeResult => a.connectionFound pFinder handshakeResult
  | .onConnectionProblem => some a.onConnectionProblem
  | .breaks => some (a.atCarrier fun c => { c with isBroken := true })

end CConnectivityAgent

end IviLink.Hal
