import IviLink.Lib.Run

/-!
# The timeout manager

Subscribers wait in a multimap by the time they are due. One thread, the worker,
fires those that are due and then sleeps until the first of the others is, or for
good when there is none; other threads add and remove subscribers, and signal the
semaphore the worker sleeps on where they think that it has to look again.

A step is what happens while `mSubscriberMapMutex` is held, or one operation on the
semaphore. Signalling comes after the mutex is unlocked, so there are threads that
are about to signal (`signalling`). Times are what the clock gave, in milliseconds;
starting to wait takes none.
-/

namespace IviLink.Utils

open IviLink.Lib

/-- An `ITimeoutSubscriber *`. -/
abbrev Subscriber := Nat

/-- Where the worker is. -/
inductive Worker
  /-- At the head of the loop of `threadFunc`. -/
  | looping
  /-- In `processTimeout`, about to call `processTopTimeout`. -/
  | processing (now : Int)
  | smartWait
  /-- On the semaphore, until this time or for good. -/
  | waiting (deadline : Option Int)
  | stopped
  deriving DecidableEq, Repr

structure TimeoutManager where
  mSubscriberMap : List (Int × Subscriber)
  /-- The value of `mThreadSemaphore`. -/
  mThreadSemaphore : Nat
  mBe : Bool
  /-- The subscribers handed to the thread pool. -/
  jobs : List Subscriber
  worker : Worker
  signalling : Nat
  /-- Something was read from an element of the map when there was none. -/
  touchedEmpty : Bool
  deriving DecidableEq, Repr

namespace TimeoutManager

def init : TimeoutManager := ⟨[], 0, true, [], .looping, 0, false⟩

/-- `std::multimap::insert`: behind the elements with the same key. -/
def insert (x : Int × Subscriber) : List (Int × Subscriber) → List (Int × Subscriber)
  | [] => [x]
  | y :: ys => if x.1 < y.1 then x :: y :: ys else y :: insert x ys

/-- The thread signals after it has unlocked the mutex, if it has to. -/
def needReSetTimer (m : TimeoutManager) (b : Bool) : TimeoutManager :=
  { m with signalling := m.signalling + b.toNat }

def addSubscriber (m : TimeoutManager) (subscriber : Subscriber) (curTime : Int) (ms : UInt32) :
    TimeoutManager :=
  let timeoutTime := curTime + ms.toNat
  let first := m.mSubscriberMap.head?.map (·.1)
  let earlier := first.any fun t => timeoutTime < t
  ({ m with mSubscriberMap := insert (timeoutTime, subscriber) m.mSubscriberMap }).needReSetTimer
    (m.mSubscriberMap.isEmpty || (earlier && m.mSubscriberMap.isEmpty))

/-- The first element with the subscriber is erased. -/
def removeSubscriber (m : TimeoutManager) (subscriber : Subscriber) : TimeoutManager :=
  let found := fun x : Int × Subscriber => decide (x.2 = subscriber)
  ({ m with mSubscriberMap := m.mSubscriberMap.eraseP found }).needReSetTimer
    (m.mSubscriberMap.isEmpty || m.mSubscriberMap.head?.any found)

/-- The log line at its start reads the first key, if lines of its level are logged. -/
def processTopTimeout (logsInfo : Bool) (m : TimeoutManager) (now : Int) : TimeoutManager :=
  match m.mSubscriberMap with
  | [] => { m with worker := .smartWait, touchedEmpty := m.touchedEmpty || logsInfo }
  | x :: rest =>
    if now < x.1 then { m with worker := .smartWait }
    else { m with mSubscriberMap := rest, jobs := m.jobs ++ [x.2] }

def smartWait (m : TimeoutManager) (now : Int) : TimeoutManager :=
  match m.mSubscriberMap with
  | [] => { m with worker := .waiting none }
  | x :: _ => { m with worker := if 0 < x.1 - now then .waiting (some x.1) else .looping }

inductive Event
  /-- The clock gives `curTime`. -/
  | addSubscriber (subscriber : Subscriber) (curTime : Int) (ms : UInt32)
  | removeSubscriber (subscriber : Subscriber)
  | signal
  | finish
  /-- The worker goes on: its loop starts again, with the time the clock gives. -/
  | processTimeout (now : Int)
  | processTopTimeout
  | smartWait (now : Int)
  | wakeUp
  | timedOut
  deriving DecidableEq, Repr

/-- One step; `logsInfo` tells whether lines of level INFO are logged. -/
def step (logsInfo : Bool) (m : TimeoutManager) : Event → Option TimeoutManager
  | .addSubscriber subscriber curTime ms => some (m.addSubscriber subscriber curTime ms)
  | .removeSubscriber subscriber => some (m.removeSubscriber subscriber)
  | .signal =>
    match m.signalling with
    | 0 => none
    | n + 1 => some { m with signalling := n, mThreadSemaphore := m.mThreadSemaphore + 1 }
  | .finish => some { m with mBe := false, mThreadSemaphore := m.mThreadSemaphore + 1 }
  | .processTimeout now =>
    match m.worker with
    | .looping => some { m with worker := if m.mBe then .processing now else .stopped }
    | _ => none
  | .processTopTimeout =>
    match m.worker with
    | .processing now => some (processTopTimeout logsInfo m now)
    | _ => none
  | .smartWait now =>
    match m.worker with
    | .smartWait => some (m.smartWait now)
    | _ => none
  | .wakeUp =>
    match m.worker, m.mThreadSemaphore with
    | .waiting _, n + 1 => some { m with worker := .looping, mThreadSemaphore := n }
    | _, _ => none
  | .timedOut =>
    match m.worker with
    | .waiting (some _) => some { m with worker := .looping }
    | _ => none

/-- The worker merely waits: nothing has woken it or is about to. -/
def Asleep (m : TimeoutManager) (deadline : Option Int) : Prop :=
  m.worker = .waiting deadline ∧ m.mThreadSemaphore = 0 ∧ m.signalling = 0

instance (m : TimeoutManager) (deadline : Option Int) : Decidable (m.Asleep deadline) :=
  inferInstanceAs (Decidable (_ ∧ _ ∧ _))

/-- What the worker waits for is not later than what is due first, and no element was looked for
where there was none. -/
structure Punctual (m : TimeoutManager) : Prop where
  forGood : m.Asleep none → m.mSubscriberMap = []
  timed : ∀ deadline, m.Asleep (some deadline) → ∀ x ∈ m.mSubscriberMap, deadline ≤ x.1
  untouched : m.touchedEmpty = false

/-- No subscriber is added that is due before the time the worker sleeps until, others being
there; and where lines of level INFO are logged there is a subscriber whenever the worker looks
for the first one. -/
def InTime (logsInfo : Bool) (m : TimeoutManager) : Event → Prop
  | .addSubscriber _ curTime ms =>
    ∀ deadline, m.Asleep (some deadline) → m.mSubscriberMap ≠ [] → deadline ≤ curTime + ms.toNat
  | .processTopTimeout =>
    ∀ now, m.worker = .processing now → logsInfo = true → m.mSubscriberMap ≠ []
  | _ => True

end TimeoutManager

end IviLink.Utils
