import IviLink.Lib.Semaphore
import IviLink.Utils.TimeoutManager

/-!
# The event handler

One thread takes events from two queues and handles them; when both are empty it waits on
`mEventSemaphore`, which is signalled once for every event that is pushed into either. An event may
leave a timeout event, which a timeout manager of its own pushes when its time has come.

A step is one operation on a queue (under its mutex), on the semaphore, on the stop flag or on the
timeout manager. Any thread may push, the worker among them while it handles an event.
`handleEvent` of the events is what they like. The clock does not go back. `init` has been called,
and the manager's thread pool has one thread, so that its jobs are performed one after another.
-/

namespace IviLink.Utils

open IviLink.Lib

/-- An `IEvent *`. -/
abbrev IEvent := Nat

/-- Where `threadFunc` is. -/
inductive EventHandler.Place
  /-- At the head of the loop. -/
  | loop
  /-- `mExceptionQueue->pop()` has returned NULL. -/
  | exceptionsEmpty
  | handling (event : IEvent)
  | waiting
  /-- At `while (!getStopFlag())`. -/
  | testStop
  | stopped
  deriving DecidableEq, Repr

/-- Where the thread is that calls `deinit`. -/
inductive EventHandler.Deinit
  | notCalled
  | joining
  | joined
  | done
  deriving DecidableEq, Repr

structure EventHandler where
  mExceptionQueue : List IEvent
  mEventQueue : List IEvent
  mEventSemaphore : Semaphore
  mTimeoutManager : TimeoutManager
  mStopFlag : Bool
  worker : EventHandler.Place
  deinit : EventHandler.Deinit
  clock : Int
  /-- The timeout events that were given to the manager, and when they are due. An `EventTimeout`
  is its place in this list. -/
  armed : List (IEvent × Int)
  pushedExceptions : List IEvent
  /-- With the `EventTimeout` that has pushed the event. -/
  pushedEvents : List (IEvent × Option Subscriber)
  handledExceptions : List IEvent
  handledEvents : List IEvent
  deriving DecidableEq, Repr

namespace EventHandler

def init : EventHandler where
  mExceptionQueue := []
  mEventQueue := []
  mEventSemaphore := .init
  mTimeoutManager := .init
  mStopFlag := false
  worker := .loop
  deinit := .notCalled
  clock := 0
  armed := []
  pushedExceptions := []
  pushedEvents := []
  handledExceptions := []
  handledEvents := []

/-- Signals after it, in a step of its own. -/
def pushException (h : EventHandler) : Option IEvent → EventHandler
  | none => h
  | some event =>
    { h with
      mExceptionQueue := h.mExceptionQueue ++ [event]
      mEventSemaphore := h.mEventSemaphore.announce
      pushedExceptions := h.pushedExceptions ++ [event] }

/-- Signals after it, in a step of its own. `timeout` is the `EventTimeout` that calls it. -/
def pushEvent (h : EventHandler) (timeout : Option Subscriber) : Option IEvent → EventHandler
  | none => h
  | some event =>
    { h with
      mEventQueue := h.mEventQueue ++ [event]
      mEventSemaphore := h.mEventSemaphore.announce
      pushedEvents := h.pushedEvents ++ [(event, timeout)] }

/-- `addSubscriber` takes the `int` as an `UInt32`. -/
def addTimeoutEvent (h : EventHandler) (timeoutMs : Int32) : Option IEvent → EventHandler
  | none => h
  | some timeoutEvent =>
    let ms := timeoutMs.toUInt32
    { h with
      mTimeoutManager := h.mTimeoutManager.addSubscriber h.armed.length h.clock ms
      armed := h.armed ++ [(timeoutEvent, h.clock + ms.toNat)] }

/-- What the thread of the timeout manager does, and the threads that signal to it. -/
inductive Timer
  | signal
  | processTimeout
  | processTopTimeout
  | smartWait
  | wakeUp
  | timedOut
  deriving DecidableEq, Repr

/-- The manager takes the time from the clock. -/
def Timer.toEvent (clock : Int) : Timer → TimeoutManager.Event
  | .signal => .signal
  | .processTimeout => .processTimeout clock
  | .processTopTimeout => .processTopTimeout
  | .smartWait => .smartWait clock
  | .wakeUp => .wakeUp
  | .timedOut => .timedOut

inductive Step
  | pushEvent (event : Option IEvent)
  | pushException (exception : Option IEvent)
  /-- A thread that has pushed signals. -/
  | signal
  | popException
  | popEvent
  /-- `handleEvent` has returned; the event may have left a timeout event. -/
  | finishHandling (timeoutEvent : Option IEvent) (timeoutMs : Int32)
  | wait
  | testStop
  | tick (ms : Nat)
  | timer (t : Timer)
  /-- The thread of the pool performs its next job. -/
  | onTimeout
  /-- `CThread::stop` sets the flag, and goes on to join. -/
  | stop
  | join
  /-- The last line of `deinit`. -/
  | signalEnd
  deriving DecidableEq, Repr

/-- The steps of `threadFunc`. -/
def Step.ofWorker : Step → Bool
  | .popException | .popEvent | .finishHandling .. | .wait | .testStop => true
  | _ => false

/-- One step; `logsInfo` tells whether lines of level INFO are logged. -/
def step (logsInfo : Bool) (h : EventHandler) : Step → Option EventHandler
  | .pushEvent event => some (h.pushEvent none event)
  | .pushException exception => some (h.pushException exception)
  | .signal => h.mEventSemaphore.post.map fun s => { h with mEventSemaphore := s }
  | .popException =>
    match h.worker, h.mExceptionQueue with
    | .loop, [] => some { h with worker := .exceptionsEmpty }
    | .loop, event :: rest =>
      some { h with
        mExceptionQueue := rest
        worker := .handling event
        handledExceptions := h.handledExceptions ++ [event] }
    | _, _ => none
  | .popEvent =>
    match h.worker, h.mEventQueue with
    | .exceptionsEmpty, [] => some { h with worker := .waiting }
    | .exceptionsEmpty, event :: rest =>
      some { h with
        mEventQueue := rest
        worker := .handling event
        handledEvents := h.handledEvents ++ [event] }
    | _, _ => none
  | .finishHandling timeoutEvent timeoutMs =>
    match h.worker with
    | .handling _ => some { h.addTimeoutEvent timeoutMs timeoutEvent with worker := .testStop }
    | _ => none
  | .wait =>
    match h.worker with
    | .waiting =>
      h.mEventSemaphore.wait.map fun s => { h with mEventSemaphore := s, worker := .testStop }
    | _ => none
  | .testStop =>
    match h.worker with
    | .testStop => some { h with worker := if h.mStopFlag then .stopped else .loop }
    | _ => none
  | .tick ms => some { h with clock := h.clock + ms }
  | .timer t =>
    (TimeoutManager.step logsInfo h.mTimeoutManager (t.toEvent h.clock)).map fun m =>
      { h with mTimeoutManager := m }
  | .onTimeout =>
    match h.mTimeoutManager.jobs with
    | [] => none
    | timeout :: rest =>
      let mEvent := (h.armed[timeout]?).map (·.1)
      some ({ h with mTimeoutManager := { h.mTimeoutManager with jobs := rest } }.pushEvent
        (some timeout) mEvent)
  | .stop =>
    match h.deinit with
    | .notCalled => some { h with deinit := .joining, mStopFlag := true }
    | _ => none
  | .join =>
    match h.deinit, h.worker with
    | .joining, .stopped => some { h with deinit := .joined }
    | _, _ => none
  | .signalEnd =>
    match h.deinit with
    | .joined => some { h with deinit := .done, mEventSemaphore := h.mEventSemaphore.signal }
    | _ => none

/-- The timeouts that are still to push their events. -/
def outstanding (h : EventHandler) : List Subscriber :=
  h.mTimeoutManager.mSubscriberMap.map (·.2) ++ h.mTimeoutManager.jobs

/-- The timeouts that have pushed their events. -/
def expired (h : EventHandler) : List Subscriber := h.pushedEvents.filterMap (·.2)

/-! ## The order of the events -/

/-- What holds of the events and timeouts in a state. -/
structure HandlesInOrder (h : EventHandler) : Prop where
  exceptions : h.handledExceptions ++ h.mExceptionQueue = h.pushedExceptions
  events : h.handledEvents ++ h.mEventQueue = h.pushedEvents.map (·.1)
  /-- Every timeout is outstanding, or has pushed once. -/
  timeouts : (h.expired ++ h.outstanding).Perm (List.range h.armed.length)
  /-- What it has pushed is its event, at its time or after it. -/
  due : ∀ event timeout, (event, some timeout) ∈ h.pushedEvents →
    ∃ time, h.armed[timeout]? = some (event, time) ∧ time ≤ h.clock
  /-- The manager does not sleep for good while there are timeouts. -/
  awake : h.mTimeoutManager.Asleep none → h.mTimeoutManager.mSubscriberMap = []
  /-- If the worker waits while there is an event, it is or will be woken. -/
  notStranded : h.worker = .waiting → h.mExceptionQueue ≠ [] ∨ h.mEventQueue ≠ [] →
    0 < h.mEventSemaphore.value ∨ 0 < h.mEventSemaphore.signalling

/-- The worker's last step on this run has found the exception queue empty. -/
def FoundEmpty (logsInfo : Bool) (as : List Step) : Prop :=
  ∃ bs cs h, as = bs ++ .popException :: cs ∧ run (step logsInfo) init bs = some h
    ∧ h.worker = .loop ∧ h.mExceptionQueue = [] ∧ ∀ s ∈ cs, s.ofWorker = false

/-! ## The end -/

/-- `deinit` waits for the worker to end, the worker waits to be woken, and nobody else is about
to do that: there is no thread that has pushed an event, and no timeout that will. -/
def Hung (h : EventHandler) : Prop :=
  h.deinit = .joining ∧ h.worker = .waiting ∧ h.mEventSemaphore.tokens = 0 ∧ h.outstanding = []

/-- The worker is on its way to the semaphore or there, and there is nothing to do. -/
def Idle (h : EventHandler) : Prop :=
  (h.worker = .loop ∨ h.worker = .exceptionsEmpty ∨ h.worker = .waiting)
    ∧ h.mExceptionQueue = [] ∧ h.mEventQueue = [] ∧ h.mEventSemaphore.tokens = 0
    ∧ h.outstanding = []

instance (h : EventHandler) : Decidable h.Hung := inferInstanceAs (Decidable (_ ∧ _ ∧ _ ∧ _))

instance (h : EventHandler) : Decidable h.Idle :=
  inferInstanceAs (Decidable (_ ∧ _ ∧ _ ∧ _ ∧ _))

end EventHandler

end IviLink.Utils
