import IviLink.Ipc.Socket
import IviLink.Lib.Run
import Mathlib.Logic.Function.Basic

/-!
# The client of the negotiator

A call of `communicateWithNegotiator` takes a message id, sends its request and waits
for a response. The calling thread and the receiving one meet in `mResponsesMap`: who
comes first to `getDataForMessageId` makes the entry for the id, the other one finds
it. The receiving thread stores a response in the entry and signals its semaphore;
the caller waits for the semaphore, reads the response and erases the entry.

The mutex of the map is held while an entry is looked up or erased, and not while it
is used. An entry is known by its address, one for each that is made, so that what is
done to an entry that is no longer there can be told (`usedErased`). Responses are
numbered as they arrive, and are kept until they are deleted.
-/

namespace IviLink.ChannelSupervisor.NegotiatorClient

open IviLink.Ipc (MsgId)
open IviLink.Lib

/-- A `Response *`, with the message id it came with. -/
structure Response where
  number : Nat
  id : MsgId
  deriving DecidableEq, Repr

structure NegotiatorResponseData where
  address : Nat
  mResponse : Option Response
  mSema : Nat
  deriving DecidableEq, Repr

/-- A `NegotiatorResponseData *`, with the key it was got for. -/
structure DataPtr where
  key : MsgId
  address : Nat
  deriving DecidableEq, Repr

/-- Where a call is. -/
inductive Phase
  | sending
  | sent
  | waiting (responseData : DataPtr)
  /-- Its wait has ended, with the semaphore or without. -/
  | waited (responseData : DataPtr) (ok : Bool)
  | erasing (result : Option Response) (ok : Bool)
  deriving DecidableEq, Repr

/-- Where the receiving thread is. -/
inductive Receiver
  | idle
  | received (response : Response)
  | found (data : DataPtr) (response : Response)
  | stored (data : DataPtr)
  deriving DecidableEq, Repr

/-- The message id that the receiving thread is busy with. -/
def Receiver.about : Receiver → Option MsgId
  | .idle => none
  | .received response => some response.id
  | .found data _ => some data.key
  | .stored data => some data.key

structure Client where
  mMessageId : MsgId
  mResponsesMap : MsgId → Option NegotiatorResponseData
  /-- The calls under way, by their message id. -/
  calls : MsgId → List Phase
  receiver : Receiver
  /-- How many entries have been made. -/
  allocated : Nat
  /-- How many responses have come. -/
  arrived : Nat
  undeleted : List Response
  /-- What calls have returned, with their message ids. -/
  returned : List (MsgId × Response)
  usedErased : Bool

namespace Client

def init : Client := ⟨1, fun _ => none, fun _ => [], .idle, 0, 0, [], [], false⟩

/-- Finds the entry or makes it. -/
def getDataForMessageId (c : Client) (messageId : MsgId) : Client × DataPtr :=
  match c.mResponsesMap messageId with
  | some data => (c, ⟨messageId, data.address⟩)
  | none =>
    ({ c with
      mResponsesMap := Function.update c.mResponsesMap messageId (some ⟨c.allocated, none, 0⟩)
      allocated := c.allocated + 1 }, ⟨messageId, c.allocated⟩)

def eraseDataForMessageId (c : Client) (messageId : MsgId) : Client :=
  { c with mResponsesMap := Function.update c.mResponsesMap messageId none }

/-- What is at the address, if it has not been erased. -/
def deref (c : Client) (p : DataPtr) : Option NegotiatorResponseData :=
  (c.mResponsesMap p.key).filter fun data => data.address = p.address

def assign (c : Client) (p : DataPtr) (data : NegotiatorResponseData) : Client :=
  { c with mResponsesMap := Function.update c.mResponsesMap p.key (some data) }

/-- The `k`-th of the calls with this message id goes on. -/
def setPhase (c : Client) (id : MsgId) (k : Nat) (phase : Phase) : Client :=
  { c with calls := Function.update c.calls id ((c.calls id).set k phase) }

/-- It ends. -/
def endCall (c : Client) (id : MsgId) (k : Nat) : Client :=
  { c with calls := Function.update c.calls id ((c.calls id).eraseIdx k) }

def misuse (c : Client) : Client := { c with usedErased := true }

/-- The end of `waitForResponse` and of `communicateWithNegotiator`: only a response that came in
time is looked at, and deleted. -/
def finish (c : Client) (id : MsgId) (result : Option Response) (ok : Bool) : Client :=
  if ok then
    match result with
    | some response => { c with
        returned := c.returned ++ [(id, response)]
        undeleted := c.undeleted.filter (· ≠ response) }
    | none => c
  else c

end Client

inductive Event
  /-- A call begins. -/
  | communicateWithNegotiator
  /-- A channel is freed, which takes an id and nothing else. -/
  | freeChannel
  /-- The request is sent, or cannot be. -/
  | sendMessageToNegotiator (id : MsgId) (k : Nat) (ok : Bool)
  | getDataForMessageId (id : MsgId) (k : Nat)
  | wakeUp (id : MsgId) (k : Nat)
  | timedOut (id : MsgId) (k : Nat)
  | readResponse (id : MsgId) (k : Nat)
  | eraseDataForMessageId (id : MsgId) (k : Nat)
  /-- A response comes with this id. -/
  | OnAsyncRequest (id : MsgId)
  | findData
  | storeResponse
  | signal
  deriving DecidableEq, Repr

open Client in
/-- One step. -/
def next (c : Client) : Event → Option Client
  | .communicateWithNegotiator => some { c with
      mMessageId := c.mMessageId + 1
      calls := Function.update c.calls c.mMessageId (c.calls c.mMessageId ++ [.sending]) }
  | .freeChannel => some { c with mMessageId := c.mMessageId + 1 }
  | .sendMessageToNegotiator id k ok =>
    match (c.calls id)[k]? with
    | some .sending => some (if ok then c.setPhase id k .sent else c.endCall id k)
    | _ => none
  | .getDataForMessageId id k =>
    match (c.calls id)[k]? with
    | some .sent =>
      let r := c.getDataForMessageId id
      some (r.1.setPhase id k (.waiting r.2))
    | _ => none
  | .wakeUp id k =>
    match (c.calls id)[k]? with
    | some (.waiting p) =>
      match c.deref p with
      | none => some c.misuse
      | some data =>
        match data.mSema with
        | 0 => none
        | n + 1 => some ((c.assign p { data with mSema := n }).setPhase id k (.waited p true))
    | _ => none
  | .timedOut id k =>
    match (c.calls id)[k]? with
    | some (.waiting p) =>
      match c.deref p with
      | none => some c.misuse
      | some data => if data.mSema = 0 then some (c.setPhase id k (.waited p false)) else none
    | _ => none
  | .readResponse id k =>
    match (c.calls id)[k]? with
    | some (.waited p ok) =>
      match c.deref p with
      | none => some c.misuse
      | some data => some (c.setPhase id k (.erasing data.mResponse ok))
    | _ => none
  | .eraseDataForMessageId id k =>
    match (c.calls id)[k]? with
    | some (.erasing result ok) =>
      some (((c.eraseDataForMessageId id).endCall id k).finish id result ok)
    | _ => none
  | .OnAsyncRequest id =>
    match c.receiver with
    | .idle => some { c with
        receiver := .received ⟨c.arrived, id⟩
        arrived := c.arrived + 1
        undeleted := c.undeleted ++ [⟨c.arrived, id⟩] }
    | _ => none
  | .findData =>
    match c.receiver with
    | .received response =>
      let r := c.getDataForMessageId response.id
      some { r.1 with receiver := .found r.2 response }
    | _ => none
  | .storeResponse =>
    match c.receiver with
    | .found p response =>
      match c.deref p with
      | none => some { c.misuse with receiver := .stored p }
      | some data =>
        some { c.assign p { data with mResponse := some response } with receiver := .stored p }
    | _ => none
  | .signal =>
    match c.receiver with
    | .stored p =>
      match c.deref p with
      | none => some { c.misuse with receiver := .idle }
      | some data => some { c.assign p { data with mSema := data.mSema + 1 } with receiver := .idle }
    | _ => none

/-- The call has sent its request and has not stopped waiting. -/
def Phase.waits : Phase → Bool
  | .sent => true
  | .waiting _ => true
  | .sending | .waited _ _ | .erasing _ _ => false

/-- A response comes only for a call that waits for it, and only one; no wait times out while a
response for it is handled; and no call gets the id of another one under way. -/
def Prompt (c : Client) : Event → Prop
  | .communicateWithNegotiator => c.calls c.mMessageId = []
  | .OnAsyncRequest id =>
    (∃ phase ∈ c.calls id, phase.waits = true) ∧
      ∀ data, c.mResponsesMap id = some data → data.mResponse = none
  | .timedOut id _ => c.receiver.about ≠ some id
  | _ => True

instance (c : Client) : (e : Event) → Decidable (Prompt c e)
  | .communicateWithNegotiator => inferInstanceAs (Decidable (c.calls c.mMessageId = []))
  | .OnAsyncRequest id => inferInstanceAs (Decidable ((∃ phase ∈ c.calls id, phase.waits = true) ∧
      ∀ data ∈ c.mResponsesMap id, data.mResponse = none))
  | .timedOut id _ => inferInstanceAs (Decidable (c.receiver.about ≠ some id))
  | .freeChannel | .sendMessageToNegotiator .. | .getDataForMessageId .. | .wakeUp ..
  | .readResponse .. | .eraseDataForMessageId .. | .findData | .storeResponse | .signal =>
    isTrue trivial

/-- No call is under way, and no response is being handled. -/
def Quiet (c : Client) : Prop := (∀ id, c.calls id = []) ∧ c.receiver = .idle

/-- Nothing is left of calls and responses. -/
structure Clean (c : Client) : Prop where
  mResponsesMap : ∀ id, c.mResponsesMap id = none
  undeleted : c.undeleted = []

end IviLink.ChannelSupervisor.NegotiatorClient
