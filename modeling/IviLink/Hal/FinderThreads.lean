import IviLink.Hal.CConnectivityAgent
import IviLink.Lib.Waiting

/-!
# The threads of the agent and of its finders

`CConnectionFinder` with the thread it is (`CThread`), and the thread of
`CConnectivityAgent` that starts the finders. A finder that has found a connection
reports it from its own thread, and the agent, if it takes the connection, stops all
finders from that thread: `stopSearch` joins the thread of a finder while it has the
mutex of the finder's `mStateCondVar`, and `connectionFound` has `mMainFuncMutex`.

A thread is at one place of its code. A step takes a mutex, or does what is done up to
the next place where a mutex is taken or given back, a wait begins or a join ends. A
mutex is free when no thread is between the places that take and give it back. Flags and
semaphores (`mStopFlagMutex`, `mpSleepSemaphore`) hold nobody up. So does
`mManagerMutex`: these threads use it only with `mMainFuncMutex` taken, and what a
handshake and the manager do is a step of its own that comes to an end.

What a search finds, how a handshake ends and whether a carrier is broken is up to the
surroundings. A wait may end for no reason, so that signals need not be modelled. The
assertion at the end of a finder's `threadFunc` is left out: nothing comes after it.
-/

namespace IviLink.Hal.FinderThreads

open IviLink.Lib

/-- A mutex: `mMainFuncMutex`, or that of a finder's `mStateCondVar`. -/
inductive Mutex
  | main
  | state (finder : Nat)
  deriving DecidableEq, Repr

/-- Where a finder's thread is. `inside` tells whether it has the mutex of a finder's state. -/
inductive Phase
  /-- `while (!stop && !getStopFlag())` -/
  | head
  | locking
  /-- It looks at the state, and waits or goes on. -/
  | checking
  /-- `mStateCondVar.wait()` -/
  | waiting
  | waking
  /-- `performSearch`, up to a connection that is found or to its end. -/
  | searching
  /-- `setReady`, about to lock. -/
  | setReady
  | ready
  /-- `connectionFound`, about to lock. -/
  | connectionFound
  | getState (inside : Bool)
  | getConnectedAdapter (inside : Bool)
  /-- `initAdapterHandshake`; there may be no adapter. -/
  | handshake (pAdapter : Bool)
  | stopSearch (finder : Nat) (inside : Bool)
  /-- `CThread::join` in `stopSearch`. -/
  | join (finder thread : Nat)
  | continueSearch (inside : Bool)
  | unlocking
  /-- It returns from `connectionFound`, `setReady` and `performSearch`. -/
  | returning
  /-- The thread has ended. -/
  | exited
  deriving DecidableEq, Repr

namespace Phase

/-- The mutexes that a thread of the finder `own` has. -/
def holds (own : Nat) : Phase → Mutex → Prop
  | .checking, m | .ready, m => m = .state own
  | .getState inside, m | .getConnectedAdapter inside, m | .continueSearch inside, m =>
    m = .main ∨ (inside = true ∧ m = .state own)
  | .handshake _, m | .unlocking, m => m = .main
  | .stopSearch finder inside, m => m = .main ∨ (inside = true ∧ m = .state finder)
  | .join finder _, m => m = .main ∨ m = .state finder
  | _, _ => False

/-- The mutex that it is about to lock. -/
def wants (own : Nat) : Phase → Option Mutex
  | .locking | .waking | .setReady => some (.state own)
  | .connectionFound => some .main
  | .getState false | .getConnectedAdapter false | .continueSearch false => some (.state own)
  | .stopSearch finder false => some (.state finder)
  | _ => none

instance (own : Nat) (p : Phase) (m : Mutex) : Decidable (p.holds own m) := by
  cases p <;> unfold holds <;> infer_instance

end Phase

/-- Where the agent's thread is. -/
inductive AgentPhase
  | head
  | locking
  | deciding
  | startSearch (finder : Nat) (inside : Bool)
  | unlocking
  | sleeping
  | ended
  deriving DecidableEq, Repr

namespace AgentPhase

def holds : AgentPhase → Mutex → Prop
  | .deciding, m | .unlocking, m => m = .main
  | .startSearch finder inside, m => m = .main ∨ (inside = true ∧ m = .state finder)
  | _, _ => False

def wants : AgentPhase → Option Mutex
  | .locking => some .main
  | .startSearch finder false => some (.state finder)
  | _ => none

instance (p : AgentPhase) (m : Mutex) : Decidable (p.holds m) := by
  cases p <;> unfold holds <;> infer_instance

end AgentPhase

/-- A `CConnectionFinder`, with what it has of a `CThread`. -/
structure Finder where
  mState : EState
  /-- There is an `mpAdapter`. -/
  mpAdapter : Bool
  mStopFlag : Bool
  /-- The thread that was started last, if it was not joined. -/
  mThread : Option Nat
  deriving DecidableEq, Repr

structure Thread where
  finder : Nat
  phase : Phase
  deriving DecidableEq, Repr

inductive Actor
  | agent
  | thread (n : Nat)
  deriving DecidableEq, Repr

structure State where
  /-- `mFinders.size()` -/
  count : Nat
  /-- `__APPLE__` -/
  apple : Bool
  mFinders : Nat → Finder
  /-- The finders' threads in the order in which they were started. -/
  threads : List Thread
  agent : AgentPhase
  agentStopFlag : Bool
  mConnectionEstablished : Bool
  /-- There is an `mpManager`. -/
  mpManager : Bool
  /-- `assert(false && "not implemented")` was reached. -/
  asserted : Bool

namespace State

/-- Nobody has the mutex. -/
def Free (s : State) (m : Mutex) : Prop :=
  ¬ s.agent.holds m ∧ ∀ th ∈ s.threads, ¬ th.phase.holds th.finder m

instance (s : State) (m : Mutex) : Decidable (s.Free m) := inferInstanceAs (Decidable (_ ∧ _))

def Exited (s : State) (t : Nat) : Prop := ∀ th ∈ s.threads[t]?, th.phase = .exited

instance (s : State) (t : Nat) : Decidable (s.Exited t) :=
  inferInstanceAs (Decidable (∀ _ ∈ _, _))

/-- The thread `t` of the finder `own` gets to another place. -/
def goto (s : State) (t own : Nat) (p : Phase) : State :=
  { s with threads := s.threads.set t ⟨own, p⟩ }

def setFinder (s : State) (k : Nat) (f : Finder) : State :=
  { s with mFinders := Function.update s.mFinders k f }

/-- The loop over the finders in `connectionFound`, from `k` on. -/
def stopFrom (s : State) (k : Nat) : Phase :=
  if k < s.count then .stopSearch k false else .unlocking

/-- The loop over the finders in `threadFunc` of the agent. -/
def startFrom (s : State) (k : Nat) : AgentPhase :=
  if k < s.count then .startSearch k false else .unlocking

/-- A step into a mutex. -/
def lock (s : State) (m : Mutex) (t own : Nat) (p : Phase) : Option State :=
  if s.Free m then some (s.goto t own p) else none

/-- `CConnectionFinder::stopSearch` of the finder `k` by the thread `t`, with the mutex taken, up
to the join in `CThread::stop`. -/
def stopSearch (s : State) (t own k : Nat) : State :=
  let f := s.mFinders k
  if f.mState = .stopped then s.goto t own (s.stopFrom (k + 1))
  else if f.mThread = some t then
    -- `isThisThread()`
    (s.setFinder k { f with mState := .stopped }).goto t own (s.stopFrom (k + 1))
  else
    (s.setFinder k { f with mState := .stopped, mStopFlag := true }).goto t own
      (match f.mThread with
        | none => s.stopFrom (k + 1)
        | some u => .join k u)

/-- `CConnectionFinder::startSearch` of the finder `k`, with the mutex taken. -/
def startSearch (s : State) (k : Nat) : State :=
  let f := s.mFinders k
  if f.mState = .stopped then
    { s.setFinder k
        { f with mState := .searching, mStopFlag := false, mThread := some s.threads.length } with
      threads := s.threads ++ [⟨k, .head⟩] }
  else s

/-- `CConnectionFinder::continueSearch`, with the mutex taken. -/
def continueSearch (s : State) (k : Nat) : State :=
  if (s.mFinders k).mState = .waitAck then
    s.setFinder k { s.mFinders k with mState := .searching }
  else s

/-- A step of the thread `t` of the finder `own`. `answer` says whether a search has found a
connection, and whether a handshake succeeds. -/
def threadNext (s : State) (t own : Nat) (answer : Bool) : Phase → Option State
  | .head => some (s.goto t own (if (s.mFinders own).mStopFlag then .exited else .locking))
  | .locking => s.lock (.state own) t own .checking
  | .checking =>
    some (s.goto t own (match (s.mFinders own).mState with
      | .waitAck => .waiting
      | .stopped => .exited
      | .searching => .searching))
  | .waiting => some (s.goto t own .waking)
  | .waking => s.lock (.state own) t own .checking
  | .searching => some (s.goto t own (if answer then .setReady else .head))
  | .setReady => s.lock (.state own) t own .ready
  | .ready =>
    some ((s.setFinder own { s.mFinders own with mState := .waitAck, mpAdapter := true }).goto t own
      .connectionFound)
  | .connectionFound => s.lock .main t own (.getState false)
  | .getState false => s.lock (.state own) t own (.getState true)
  | .getState true =>
    if (s.mFinders own).mState = .waitAck then
      if s.mConnectionEstablished then some ({ s with asserted := true }.goto t own .unlocking)
      else some (s.goto t own (.getConnectedAdapter false))
    else some (s.goto t own .unlocking)
  | .getConnectedAdapter false => s.lock (.state own) t own (.getConnectedAdapter true)
  | .getConnectedAdapter true =>
    if (s.mFinders own).mState = .waitAck then
      some ((s.setFinder own { s.mFinders own with mpAdapter := false }).goto t own
        (.handshake (s.mFinders own).mpAdapter))
    else some (s.goto t own (.handshake false))
  | .handshake pAdapter =>
    if pAdapter && answer then
      some ({ s with mConnectionEstablished := true, mpManager := true }.goto t own (s.stopFrom 0))
    else some (s.goto t own (.continueSearch false))
  | .stopSearch k false => s.lock (.state k) t own (.stopSearch k true)
  | .stopSearch k true => some (s.stopSearch t own k)
  | .join k u =>
    if s.Exited u then
      some ((s.setFinder k { s.mFinders k with mThread := none }).goto t own (s.stopFrom (k + 1)))
    else none
  | .continueSearch false => s.lock (.state own) t own (.continueSearch true)
  | .continueSearch true => some ((s.continueSearch own).goto t own .unlocking)
  | .unlocking => some (s.goto t own .returning)
  | .returning => some (s.goto t own .head)
  | .exited => none

def setAgent (s : State) (p : AgentPhase) : State := { s with agent := p }

/-- A step of the agent's thread. `broken` says whether the carrier in use is broken. -/
def agentNext (s : State) (broken : Bool) : AgentPhase → Option State
  | .head => some (s.setAgent (if s.agentStopFlag then .ended else .locking))
  | .locking => if s.Free .main then some (s.setAgent .deciding) else none
  | .deciding =>
    if s.mpManager = false ∨ s.mConnectionEstablished = false then some (s.setAgent (s.startFrom 0))
    else if broken then
      -- an Apple build stops the thread here; that it cannot join itself is only logged
      some ({ s with
        mConnectionEstablished := false
        agentStopFlag := s.agentStopFlag || s.apple }.setAgent .unlocking)
    else some (s.setAgent .unlocking)
  | .startSearch k false =>
    if s.Free (.state k) then some (s.setAgent (.startSearch k true)) else none
  | .startSearch k true => some ((s.startSearch k).setAgent (s.startFrom (k + 1)))
  | .unlocking => some (s.setAgent .sleeping)
  | .sleeping => some (s.setAgent .head)
  | .ended => none

/-! ## Who waits for whom -/

def holds (s : State) : Actor → Mutex → Prop
  | .agent, m => s.agent.holds m
  | .thread t, m => ∃ th, s.threads[t]? = some th ∧ th.phase.holds th.finder m

def wants (s : State) : Actor → Option Mutex
  | .agent => s.agent.wants
  | .thread t => s.threads[t]?.bind fun th => th.phase.wants th.finder

def joins (s : State) : Actor → Option Actor
  | .agent => none
  | .thread t => s.threads[t]?.bind fun th =>
    match th.phase with
    | .join _ u => if s.Exited u then none else some (.thread u)
    | _ => none

def waiting (s : State) : Waiting Actor Mutex := ⟨s.holds, s.wants, s.joins⟩

/-- An agent with `count` finders whose thread begins to run. -/
def initial (count : Nat) (apple : Bool) : State :=
  ⟨count, apple, fun _ => ⟨.stopped, false, false, none⟩, [], .head, false, false, false, false⟩

end State

/-- A step of some thread, with what its surroundings answer. -/
inductive Event
  | agent (answer : Bool)
  | thread (t : Nat) (answer : Bool)
  deriving DecidableEq, Repr

def next (s : State) : Event → Option State
  | .agent answer => s.agentNext answer s.agent
  | .thread t answer =>
    match s.threads[t]? with
    | none => none
    | some th => s.threadNext t th.finder answer th.phase

end IviLink.Hal.FinderThreads
