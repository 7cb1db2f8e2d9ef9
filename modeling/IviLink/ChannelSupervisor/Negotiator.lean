import IviLink.ChannelSupervisor.Map
import IviLink.L0.Peers
import IviLink.Lib.Duplex

/-!
# The negotiator

Every request of a client that takes both sides is held by a processor, which waits
for the client's request and for the notification of the other side, in any order.
`ProcessorsHolder` looks the processor up by type and tag or makes a new one.

A processor is known by its address. In the model it is numbered in the order of
creation, and where its address comes in the order of the set is up to the
surroundings. `none` is a failed assertion.
-/

namespace IviLink.ChannelSupervisor

open IviLink.Ipc (DirectionId MsgId)
open IviLink.L0 (Side)
open IviLink.Lib

/-- Whom the response goes to. -/
structure ResponseContainer where
  mClientID : DirectionId
  mResponseID : MsgId
  deriving DecidableEq, Repr

/-- A response, with the processor that gives it. -/
structure Answer where
  number : Nat
  container : ResponseContainer
  response : Response
  deriving DecidableEq, Repr

/-! ## Processors -/

/-- The classes of processors, with the members that only one of them has. -/
inductive Kind
  | allocation (mIsMaster mGotAllocateRequest : Bool)
  | conAgentAllocationDone (mGotRemoteNotificationCaalloc : Bool)
  | deallocation
  | updateChannel
  deriving DecidableEq, Repr

structure Processor where
  number : Nat
  kind : Kind
  mRequestType : RequestType
  mNotificationType : NotificationType
  /-- Whether the pointer is set. -/
  mResponseSender : Bool
  mContainer : ResponseContainer
  mChannelID : UInt32
  mTag : Tag
  mLocalClientID : DirectionId
  mLocalRequestID : MsgId
  mRemoteClientID : DirectionId
  mRemoteRequestID : MsgId
  deriving DecidableEq, Repr

/-- What a processor has done: itself and the map afterwards, what it sent and what it answered. -/
structure Outcome where
  processor : Processor
  map : Map
  sent : List Notification
  told : List Answer

namespace Processor

/-- A constructor of a processor class: the types are those it waits for. -/
def new (number : Nat) (kind : Kind) (mRequestType : RequestType)
    (mNotificationType : NotificationType) : Processor where
  number := number
  kind := kind
  mRequestType := mRequestType
  mNotificationType := mNotificationType
  mResponseSender := false
  mContainer := ⟨0, 0⟩
  mChannelID := 0
  mTag := []
  mLocalClientID := 0
  mLocalRequestID := 0
  mRemoteClientID := 0
  mRemoteRequestID := 0

/-- What `sendNotification` sends. -/
def notification (p : Processor) (type : NotificationType) : Notification where
  mTag := p.mTag
  mChannelID := p.mChannelID
  mClientID := p.mContainer.mClientID
  mRequestID := p.mContainer.mResponseID
  mNotificationType := type
  mErrorCode := .success

/-- What `sendResponse` sends. -/
def response (p : Processor) (type : ResponseType) : List Answer :=
  if p.mResponseSender then
    [⟨p.number, p.mContainer, ⟨p.mTag, p.mChannelID, type, .success⟩⟩]
  else []

/-- `isFinished` of each class. -/
def isFinished (p : Processor) : Bool :=
  match p.kind with
  | .allocation _ _ => p.mNotificationType = .unknown
  | .conAgentAllocationDone _ => p.mNotificationType = .unknown
  | .deallocation => p.mRequestType = .unknown
  | .updateChannel => p.mNotificationType = .unknown ∧ p.mRequestType = .unknown

end Processor

namespace AllocationProcessor

def onRemoteNotification (p : Processor) (mIsMaster : Bool) (m : Map) (n : Notification) :
    Option Outcome :=
  match n.mNotificationType with
  | .allocate =>
    let p := { p with
      kind := .allocation mIsMaster true
      mChannelID := if mIsMaster then p.mChannelID else n.mChannelID }
    if p.mRequestType ≠ .unknown then
      some ⟨{ p with mTag := getComplementingTag n.mTag }, m, [], []⟩
    else
      some ⟨{ p with mNotificationType := .checkMap }, m, [p.notification .checkMap], []⟩
  | .checkMap =>
    if n.mErrorCode = .success then
      some ⟨{ p with mNotificationType := .unknown }, m, [], p.response .allocateChannel⟩
    else none
  | _ => none

/-- The master takes the id from the map, which does not record it. -/
def onLocalRequest (p : Processor) (mIsMaster mGotAllocateRequest : Bool) (m : Map)
    (r : Request) : Outcome :=
  let next := m.getNextFreeChannelId r.mChannelID
  let p := { p with
    mRequestType := .unknown
    mTag := r.mTag
    mChannelID := if mIsMaster then next.1 else p.mChannelID }
  let m := if mIsMaster then next.2 else m
  if mGotAllocateRequest then
    ⟨{ p with mNotificationType := .checkMap }, m,
      [p.notification .allocate, p.notification .checkMap], []⟩
  else ⟨p, m, [p.notification .allocate], []⟩

end AllocationProcessor

namespace ConAgentAllocationDoneProcessor

def onRemoteNotification (p : Processor) (mGotRemoteNotificationCaalloc : Bool) (m : Map)
    (n : Notification) : Option Outcome :=
  match n.mNotificationType with
  | .caAllocate =>
    if mGotRemoteNotificationCaalloc then none
    else
      let p := { p with kind := .conAgentAllocationDone true }
      if p.mRequestType ≠ .unknown then
        some ⟨{ p with mTag := getComplementingTag n.mTag, mChannelID := n.mChannelID },
          m, [], []⟩
      else if p.mChannelID = n.mChannelID then
        some ⟨{ p with mNotificationType := .mapAddCid }, m, [p.notification .mapAddCid], []⟩
      else none
  | .mapAddCid =>
    if n.mErrorCode = .success then
      some ⟨{ p with mNotificationType := .unknown }, m.addChannelInfo p.mChannelID p.mTag, [],
        p.response .caAllocationDone⟩
    else none
  | _ => none

def onLocalRequest (p : Processor) (mGotRemoteNotificationCaalloc : Bool) (m : Map)
    (r : Request) : Outcome :=
  let p := { p with
    mRequestType := .unknown
    mTag := r.mTag
    mChannelID := r.mChannelID }
  if mGotRemoteNotificationCaalloc then
    ⟨{ p with mNotificationType := .mapAddCid }, m,
      [p.notification .caAllocate, p.notification .mapAddCid], []⟩
  else ⟨p, m, [p.notification .caAllocate], []⟩

end ConAgentAllocationDoneProcessor

namespace DeallocationProcessor

/-- The client gets no response. -/
def onLocalRequest (p : Processor) (m : Map) (r : Request) : Outcome :=
  let p := { p with
    mRequestType := .unknown
    mTag := r.mTag
    mChannelID := r.mChannelID }
  ⟨p, m.invalidateChannelInfo p.mChannelID, [], []⟩

end DeallocationProcessor

namespace UpdateChannelProcessor

def updateMapAndSendResponse (p : Processor) (m : Map) (sent : List Notification) : Outcome :=
  ⟨p, m.updateChannelInfo p.mChannelID p.mTag, sent, p.response .updateChannelInfo⟩

def onRemoteNotification (p : Processor) (m : Map) (n : Notification) : Outcome :=
  let p := { p with mNotificationType := .unknown }
  if p.isFinished then updateMapAndSendResponse p m []
  else
    ⟨{ p with mTag := getComplementingTag n.mTag, mChannelID := n.mChannelID }, m, [], []⟩

def onLocalRequest (p : Processor) (m : Map) (r : Request) : Outcome :=
  let p := { p with
    mRequestType := .unknown
    mTag := r.mTag
    mChannelID := r.mChannelID }
  if p.isFinished then updateMapAndSendResponse p m [p.notification .updateChannelInfo]
  else ⟨p, m, [p.notification .updateChannelInfo], []⟩

end UpdateChannelProcessor

namespace Processor

/-- `onRemoteNotification`: what `Processor` does, then the class. -/
def onRemoteNotification (p : Processor) (m : Map) (n : Notification) : Option Outcome :=
  let p := { p with
    mRemoteClientID := n.mClientID
    mRemoteRequestID := n.mRequestID }
  match p.kind with
  | .allocation mIsMaster _ => AllocationProcessor.onRemoteNotification p mIsMaster m n
  | .conAgentAllocationDone mGotRemoteNotificationCaalloc =>
    ConAgentAllocationDoneProcessor.onRemoteNotification p mGotRemoteNotificationCaalloc m n
  | .deallocation => some ⟨p, m, [], []⟩
  | .updateChannel => some (UpdateChannelProcessor.onRemoteNotification p m n)

/-- `onLocalRequest`: what `Processor` does, then the class. -/
def onLocalRequest (p : Processor) (m : Map) (r : Request) (container : ResponseContainer) :
    Outcome :=
  let p := { p with
    mResponseSender := true
    mContainer := container
    mLocalClientID := container.mClientID
    mLocalRequestID := container.mResponseID }
  match p.kind with
  | .allocation mIsMaster mGotAllocateRequest =>
    AllocationProcessor.onLocalRequest p mIsMaster mGotAllocateRequest m r
  | .conAgentAllocationDone mGotRemoteNotificationCaalloc =>
    ConAgentAllocationDoneProcessor.onLocalRequest p mGotRemoteNotificationCaalloc m r
  | .deallocation => DeallocationProcessor.onLocalRequest p m r
  | .updateChannel => UpdateChannelProcessor.onLocalRequest p m r

end Processor

/-! ## The holder -/

/-- The negotiator process: `ProcessorsHolder` with its processors in the order of the set, the
number of processors made so far, and the map. -/
structure Negotiator where
  mIsMaster : Bool
  mProcessors : List Processor
  created : Nat
  map : Map

namespace Negotiator

def init (mIsMaster : Bool) : Negotiator := ⟨mIsMaster, [], 0, .init⟩

def requestTypeToNotification : RequestType → NotificationType
  | .allocateChannel => .allocate
  | .caAllocationDone => .caAllocate
  | .deallocateChannel => .deallocate
  | .updateChannelInfo => .updateChannelInfo
  | _ => .unknown

def createProcessorForType (n : Negotiator) : NotificationType → Option Processor
  | .allocate =>
    some (.new n.created (.allocation n.mIsMaster false) .allocateChannel .allocate)
  | .deallocate => some (.new n.created .deallocation .deallocateChannel .unknown)
  | .caAllocate =>
    some (.new n.created (.conAgentAllocationDone false) .caAllocationDone .caAllocate)
  | .updateChannelInfo =>
    some (.new n.created .updateChannel .updateChannelInfo .updateChannelInfo)
  | _ => none

/-- `mProcessors.insert`, at a place of the set. -/
def insert (n : Negotiator) (place : Nat) (p : Processor) : Negotiator :=
  { n with
    mProcessors := n.mProcessors.take place ++ p :: n.mProcessors.drop place
    created := n.created + 1 }

/-- Looks a processor up, else makes one of the type. -/
def obtainProcessor (n : Negotiator) (found : Processor → Bool) (type : NotificationType)
    (place : Nat) : Option (Processor × Negotiator) :=
  match n.mProcessors.find? found with
  | some p => some (p, n)
  | none =>
    match n.createProcessorForType type with
    | none => none
    | some p => some (p, n.insert place p)

/-- Whether the loop of `obtainProcessorForRequest` returns the processor. -/
def fitsRequest (r : Request) (p : Processor) : Bool :=
  p.mRequestType = r.mRequestType ∧ p.mTag = r.mTag
    ∧ (r.mRequestType = .allocateChannel ∨ p.mChannelID = r.mChannelID)

/-- Whether the loop of `obtainProcessorForNotification` returns the processor. -/
def fitsNotification (x : Notification) (p : Processor) : Bool :=
  p.mNotificationType = x.mNotificationType ∧ p.mTag = getComplementingTag x.mTag
    ∧ (x.mNotificationType = .allocate ∨ p.mChannelID = x.mChannelID)

def obtainProcessorForRequest (n : Negotiator) (r : Request) (place : Nat) :
    Option (Processor × Negotiator) :=
  n.obtainProcessor (fitsRequest r) (requestTypeToNotification r.mRequestType) place

def obtainProcessorForNotification (n : Negotiator) (x : Notification) (place : Nat) :
    Option (Processor × Negotiator) :=
  n.obtainProcessor (fitsNotification x) x.mNotificationType place

/-- A processor has worked; when it is finished it is deleted. -/
def settle (n : Negotiator) (o : Outcome) : Reaction Negotiator Notification Answer where
  state := { n with
    map := o.map
    mProcessors :=
      if o.processor.isFinished then n.mProcessors.filter fun q => q.number ≠ o.processor.number
      else n.mProcessors.map fun q => if q.number = o.processor.number then o.processor else q }
  sent := o.sent
  told := o.told

def processClientRequest (n : Negotiator) (r : Request) (container : ResponseContainer)
    (place : Nat) : Reaction Negotiator Notification Answer :=
  if requestTypeToNotification r.mRequestType = .unknown then ⟨n, [], []⟩
  else
    match n.obtainProcessorForRequest r place with
    | none => ⟨n, [], []⟩
    | some (p, n') => n'.settle (p.onLocalRequest n'.map r container)

def processTubeNotification (n : Negotiator) (x : Notification) (place : Nat) :
    Option (Reaction Negotiator Notification Answer) :=
  if x.mNotificationType = .unknown then some ⟨n, [], []⟩
  else
    match n.obtainProcessorForNotification x place with
    | none => some ⟨n, [], []⟩
    | some (p, n') => (p.onRemoteNotification n'.map x).map n'.settle

def processLocalClientDisconnected (n : Negotiator) (clientID : DirectionId) : Negotiator :=
  { n with mProcessors := n.mProcessors.filter fun p => p.mLocalClientID ≠ clientID }

def processRemoteClientDisconnected (n : Negotiator) (clientID : DirectionId) : Negotiator :=
  { n with mProcessors := n.mProcessors.filter fun p => p.mRemoteClientID ≠ clientID }

def invalidateLocalTimedOutRequest (n : Negotiator) (clientID : DirectionId) (reqID : MsgId) :
    Negotiator :=
  if clientID = 0 ∨ reqID = 0 then n
  else
    { n with
      mProcessors := n.mProcessors.eraseP fun p =>
        p.mLocalClientID = clientID ∧ p.mLocalRequestID = reqID }

def invalidateRemoteTimedOutRequest (n : Negotiator) (clientID : DirectionId) (reqID : MsgId) :
    Negotiator :=
  if clientID = 0 ∨ reqID = 0 then n
  else
    { n with
      mProcessors := n.mProcessors.eraseP fun p =>
        p.mRemoteClientID = clientID ∧ p.mRemoteRequestID = reqID }

/-! ## What the negotiator is called for -/

/-- `OnConnectionLost` and `OnAsyncRequest` send before they take the lock of the processors, so
that each is two calls here. -/
inductive Call
  | processClientRequest (r : Request) (container : ResponseContainer) (place : Nat)
  | sendClientDisconnected (dirId : DirectionId)
  | processLocalClientDisconnected (dirId : DirectionId)
  | sendInvalidateTimedoutRequest (dirId : DirectionId) (id : MsgId)
  | invalidateLocalTimedOutRequest (dirId : DirectionId) (id : MsgId)
  /-- The watchdog gives a channel up. -/
  | invalidateChannelInfo (channelId : UInt32)

def call (n : Negotiator) : Call → Reaction Negotiator Notification Answer
  | .processClientRequest r container place => n.processClientRequest r container place
  | .sendClientDisconnected dirId =>
    ⟨n, [⟨[], 0, dirId, 0, .clientDisconnected, .success⟩], []⟩
  | .processLocalClientDisconnected dirId => ⟨n.processLocalClientDisconnected dirId, [], []⟩
  | .sendInvalidateTimedoutRequest dirId id =>
    ⟨n, [⟨[], 0, dirId, id, .invalidateTimedoutRequest, .success⟩], []⟩
  | .invalidateLocalTimedOutRequest dirId id =>
    ⟨n.invalidateLocalTimedOutRequest dirId id, [], []⟩
  | .invalidateChannelInfo channelId =>
    ⟨{ n with map := n.map.invalidateChannelInfo channelId }, [], []⟩

/-- `NegotiatorTube::onDataReceived` -/
def onDataReceived (n : Negotiator) (place : Nat) (x : Notification) :
    Option (Reaction Negotiator Notification Answer) :=
  match x.mNotificationType with
  | .clientDisconnected => some ⟨n.processRemoteClientDisconnected x.mClientID, [], []⟩
  | .invalidateTimedoutRequest =>
    some ⟨n.invalidateRemoteTimedOutRequest x.mClientID x.mRequestID, [], []⟩
  | _ => n.processTubeNotification x place

end Negotiator

/-! ## Two negotiators -/

abbrev Negotiators := Duplex Side Negotiator Notification Answer

namespace Negotiators

abbrev Action := Duplex.Action Side Negotiator.Call Nat

def machine : Machine Negotiator Negotiator.Call Nat Notification Answer :=
  ⟨fun n c => some (n.call c), Negotiator.onDataReceived⟩

/-- One of the sides is the master. -/
def init (master : Side) : Negotiators :=
  ⟨fun i => .init (decide (i = master)), fun _ => [], fun _ => []⟩

def step (w : Negotiators) (a : Action) : Option Negotiators :=
  Duplex.step machine Side.other w a

end Negotiators

end IviLink.ChannelSupervisor
