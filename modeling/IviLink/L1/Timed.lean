import IviLink.L1.Agents
import IviLink.Lib.Run

/-!
# A stub and its timers

A stub as it runs: the calls and messages that come to it, in any order, and the
timers of its timeout manager, which fire when they are due. A `RequestTimeout` has
a channel and the kind of its request and nothing else, so whose request it hits when
it fires is not in the code's own state. Here the requests are numbered as they are
taken up (`count`); `owners` has the number of the request each timer was armed for,
and `latest` the number of the last request for each channel.
-/

namespace IviLink.L1

open IviLink.Lib

/-- What comes to a stub. -/
inductive Event
  | call (c : L1InterfaceStub.Call)
  | receive (m : ServiceMessage) (env : Env)

/-- What a stub does about a request it does not turn down. -/
inductive Taking
  /-- An allocation is requested, and waits. -/
  | begins
  /-- An allocation that was waiting is registered. -/
  | registers
  /-- A deallocation is requested. -/
  | asks
  deriving DecidableEq, Repr

namespace Taking

/-- Is it a new request? -/
def isNew : Taking → Bool
  | .begins => true
  | .registers => false
  | .asks => true

/-- The kind of timers that would take it for the request they were armed for. -/
def exposedTo : Taking → tOpCode
  | .begins => .allocateChannel
  | .registers => .deallocateChannel
  | .asks => .deallocateChannel

end Taking

namespace Event

def env : Event → Env
  | .call (.allocate _ _ _ env) => env
  | .call (.deallocate _ env) => env
  | .call (.deallocateByWD _ _ env) => env
  | .call (.timeout env) => env
  | .receive _ env => env

def handle (l : L1InterfaceStub) : Event → Option L1InterfaceStub.Handled
  | .call c => l.call c
  | .receive m env => l.receive env m

/-- The channel and what the stub does about the request, as the handlers decide it. -/
def takes (l : L1InterfaceStub) : Event → Option (UInt32 × Taking)
  | .call (.allocate c _ _ _) =>
    if c = CA_SERVICE_CHANNEL then none
    else
      match l.mL1ChannelRegistry c, l.mRequestedMap c with
      | some _, _ => none
      | none, none => some (c, .begins)
      | none, some info => if info.mState = .transitionAgent then some (c, .registers) else none
  | .call (.deallocate c _) =>
    if c ≠ CA_SERVICE_CHANNEL ∧ l.mL1ChannelRegistry c ≠ none then some (c, .asks) else none
  | .call (.deallocateByWD c _ _) =>
    if c ≠ CA_SERVICE_CHANNEL ∧ l.mL1ChannelRegistry c ≠ none then some (c, .asks) else none
  | .call (.timeout _) => none
  | .receive (.allocateChannel c _ errorCode) _ =>
    if errorCode.isNoError then
      match l.mL1ChannelRegistry c, l.mRequestedMap c with
      | some _, _ => none
      | none, none => some (c, .begins)
      | none, some _ => some (c, .registers)
    else none
  | .receive _ _ => none

end Event

structure Timed where
  stub : L1InterfaceStub
  clock : Nat
  count : Nat
  latest : UInt32 → Nat
  owners : List Nat

namespace Timed

def init : Timed := ⟨.connected, 0, 0, fun _ => 0, []⟩

/-- The clock does not go back. A timer that fires is gone, with the number of its request. -/
def step (w : Timed) (e : Event) : Option Timed :=
  if w.clock ≤ e.env.now then
    match e.handle w.stub with
    | none => none
    | some r => some
      { stub := r.state
        clock := e.env.now
        count := w.count + 1
        latest :=
          match e.takes w.stub with
          | some (c, k) => if k.isNew then Function.update w.latest c (w.count + 1) else w.latest
          | none => w.latest
        owners :=
          match e with
          | .call (.timeout _) => w.owners.tail
          | _ =>
            if w.stub.mTimeoutManager.length < r.state.mTimeoutManager.length then
              w.owners ++ [w.count + 1]
            else w.owners }
  else none

/-- The timer that is next, when it fires now, erases a request or tells a client something, and
the last request for its channel is not its own. -/
def Hits (w : Timed) (env : Env) : Prop :=
  ∃ t n r, w.stub.mTimeoutManager.head? = some t ∧ w.owners.head? = some n
    ∧ w.stub.processTopTimeout env = some r ∧ w.latest t.mChannelID ≠ n
    ∧ (r.state.mRequestedMap t.mChannelID ≠ w.stub.mRequestedMap t.mChannelID ∨ r.told ≠ [])

/-- No timer is armed that would take the request that comes for its own. -/
def Fresh (w : Timed) (e : Event) : Prop :=
  ∀ x ∈ e.takes w.stub, ∀ t ∈ w.stub.mTimeoutManager,
    t.mChannelID = x.1 → t.mRequest ≠ x.2.exposedTo

instance : DecidableRel Fresh := fun w e =>
  inferInstanceAs (Decidable (∀ x ∈ e.takes w.stub, ∀ t ∈ w.stub.mTimeoutManager,
    t.mChannelID = x.1 → t.mRequest ≠ x.2.exposedTo))

end Timed

end IviLink.L1
