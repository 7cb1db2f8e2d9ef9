import IviLink.Lib.Run
import Mathlib.Logic.Function.Basic

/-!
# Blocking calls on the profile manager

`CIpcProtocol` makes three kinds of calls that wait for an answer. Each kind has a
result flag, a value and a semaphore in `SyncRequestsData`, and nothing else: the
request and its response carry no common id. A call resets the flag, sends its
request, waits for the semaphore or ten seconds, reads the value and then the flag.
The thread that gets a response sets the flag, stores the value and signals.

No mutex is held at any of this, so each of these is a step of its own. A message
that cannot be read, or that has nothing in it, is dropped, as if it had not come.
-/

namespace IviLink.PMAL.SyncRequestsData

open IviLink.Lib

inductive Kind
  | generatePIUid
  | getProfileLibPath
  | findProfiles
  deriving DecidableEq, Repr

/-- `Profile::IUid`, the path, and the list of `Profile::Uid`. -/
abbrev Content : Kind → Type
  | .generatePIUid => String
  | .getProfileLibPath => String
  | .findProfiles => List String

instance : (k : Kind) → DecidableEq (Content k)
  | .generatePIUid => inferInstanceAs (DecidableEq String)
  | .getProfileLibPath => inferInstanceAs (DecidableEq String)
  | .findProfiles => inferInstanceAs (DecidableEq (List String))

/-- What the variables of a kind are before the first response. -/
def Content.initial : (k : Kind) → Content k
  | .generatePIUid => ""
  | .getProfileLibPath => ""
  | .findProfiles => []

/-- Where a call is. -/
inductive Phase (k : Kind)
  /-- The flag is reset. -/
  | reset
  /-- The request could not be sent. -/
  | unsent
  | waiting
  /-- The wait has ended, with the semaphore or without. -/
  | waited
  | read (value : Content k)
  | returned (result : Bool) (value : Content k)
  deriving DecidableEq

def Phase.underWay {k : Kind} : Phase k → Bool
  | .reset | .waiting | .waited | .read _ => true
  | .unsent | .returned _ _ => false

/-- The request has been sent. -/
def Phase.sent {k : Kind} : Phase k → Bool
  | .waiting | .waited | .read _ | .returned _ _ => true
  | .reset | .unsent => false

/-- The answer to a call, which are counted from 0 for each kind. -/
structure Response (k : Kind) where
  call : Nat
  content : Content k
  deriving DecidableEq

/-- `generatePIUidResponseResult` and so on, the calls of the kind, and the responses that came. -/
structure Slot (k : Kind) where
  result : Bool
  value : Content k
  sem : Nat
  calls : List (Phase k)
  responses : List (Response k)

/-- Where the thread is that gets the responses. -/
inductive Receiver
  | idle
  /-- The flag is set. -/
  | flagged (k : Kind) (response : Response k)
  /-- The value is stored. -/
  | stored (k : Kind)

structure State where
  slots : (k : Kind) → Slot k
  receiver : Receiver

namespace State

def init : State := ⟨fun k => ⟨false, Content.initial k, 0, [], []⟩, .idle⟩

def setSlot (s : State) (k : Kind) (slot : Slot k) : State :=
  { s with slots := Function.update s.slots k slot }

/-- The `n`-th call of the kind goes on. -/
def setPhase (s : State) (k : Kind) (n : Nat) (phase : Phase k) : State :=
  s.setSlot k { s.slots k with calls := (s.slots k).calls.set n phase }

end State

inductive Event
  /-- A call begins with `generatePIUidResponseReset` or another of these. -/
  | reset (k : Kind)
  | asyncRequest (k : Kind) (n : Nat) (ok : Bool)
  | wakeUp (k : Kind) (n : Nat)
  /-- `waitTimeout` ends without the semaphore. -/
  | timedOut (k : Kind) (n : Nat)
  | readValue (k : Kind) (n : Nat)
  | readResult (k : Kind) (n : Nat)
  /-- A response comes, and `generatePIUidResponseSignal` or another of these is called. -/
  | setResult (k : Kind) (response : Response k)
  | storeValue
  | signal

/-- Responses are to requests that were sent, one to each. -/
def Slot.Answerable {k : Kind} (slot : Slot k) (response : Response k) : Prop :=
  (∃ phase ∈ slot.calls[response.call]?, phase.sent = true) ∧
    response.call ∉ slot.responses.map (·.call)

instance {k : Kind} (slot : Slot k) (response : Response k) :
    Decidable (slot.Answerable response) :=
  inferInstanceAs (Decidable (_ ∧ _))

/-- One step. -/
def next (s : State) : Event → Option State
  | .reset k => some (s.setSlot k
      { s.slots k with result := false, calls := (s.slots k).calls ++ [.reset] })
  | .asyncRequest k n ok =>
    match (s.slots k).calls[n]? with
    | some .reset => some (s.setPhase k n (if ok then .waiting else .unsent))
    | _ => none
  | .wakeUp k n =>
    match (s.slots k).calls[n]?, (s.slots k).sem with
    | some .waiting, m + 1 => some (s.setSlot k
        { s.slots k with sem := m, calls := (s.slots k).calls.set n .waited })
    | _, _ => none
  | .timedOut k n =>
    match (s.slots k).calls[n]? with
    | some .waiting => some (s.setPhase k n .waited)
    | _ => none
  | .readValue k n =>
    match (s.slots k).calls[n]? with
    | some .waited => some (s.setPhase k n (.read (s.slots k).value))
    | _ => none
  | .readResult k n =>
    match (s.slots k).calls[n]? with
    | some (.read value) => some (s.setPhase k n (.returned (s.slots k).result value))
    | _ => none
  | .setResult k response =>
    match s.receiver with
    | .idle =>
      if (s.slots k).Answerable response then
        some { s.setSlot k { s.slots k with
            result := true, responses := (s.slots k).responses ++ [response] } with
          receiver := .flagged k response }
      else none
    | _ => none
  | .storeValue =>
    match s.receiver with
    | .flagged k response => some { s.setSlot k { s.slots k with value := response.content } with
        receiver := .stored k }
    | _ => none
  | .signal =>
    match s.receiver with
    | .stored k => some { s.setSlot k { s.slots k with sem := (s.slots k).sem + 1 } with
        receiver := .idle }
    | _ => none

/-- A call that returns true has the content of the response to it. -/
def OwnAnswers (s : State) : Prop :=
  ∀ k n value, (s.slots k).calls[n]? = some (.returned true value) →
    ⟨n, value⟩ ∈ (s.slots k).responses

/-- A response comes when no other call of its kind is under way and before its own call has read
the value, and no call reads the value between the two halves of its being stored. -/
def Undisturbed (s : State) : Event → Prop
  | .setResult k response => ∀ n phase, (s.slots k).calls[n]? = some phase →
      phase.underWay = true → n = response.call ∧ ∀ value, phase ≠ .read value
  | .readValue k _ => ∀ response, s.receiver ≠ .flagged k response
  | _ => True

end IviLink.PMAL.SyncRequestsData
