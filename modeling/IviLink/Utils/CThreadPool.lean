import IviLink.Lib.Run
import IviLink.Lib.Semaphore
import Mathlib.Algebra.GroupWithZero.Nat

/-!
# The thread pool

`addJob` puts a copy of a job into a queue and signals a semaphore; every worker waits for the
semaphore, takes the first job of the queue and performs it. The destructor clears the queue, sets
the stop flags of all workers, signals once for each of them and joins one after another.

A step is one operation on the queue (under `mJobMutex`), on the semaphore or on a stop flag, or
the begin or the end of a job. The constructor has returned: every worker has started.
-/

namespace IviLink.Utils

open IviLink.Lib

/-- `perform` calls `mPerformer`, unless it is NULL, with the data, and deletes the data. -/
structure CThreadPoolJob where
  mPerformer : Option Nat
  mpJobData : Nat
  deriving DecidableEq, Repr

namespace CThreadPool

/-- Where `threadFunc` of a worker is. -/
inductive Place
  /-- At `while (false == getStopFlag())`. -/
  | testing
  | waiting
  /-- After the wait, at `if (true == getStopFlag())`. -/
  | woken
  /-- About to look into the queue. -/
  | popping
  /-- The job is taken and not begun. -/
  | holding (job : CThreadPoolJob)
  | performing (job : CThreadPoolJob)
  | ended
  deriving DecidableEq, Repr

structure CWorkerThread where
  mStopFlag : Bool
  place : Place
  deriving DecidableEq, Repr

/-- Where the destructor is. The numbers are of the workers that come next. -/
inductive Destructor
  | notCalled
  | setting (next : Nat)
  | signalling (next : Nat)
  | deleting (next : Nat)
  | done
  deriving DecidableEq, Repr

end CThreadPool

open CThreadPool

structure CThreadPool where
  mJobQueue : List CThreadPoolJob
  mAvailableJobs : Semaphore
  mThreadsQueue : List CWorkerThread
  destructor : Destructor
  added : List CThreadPoolJob
  taken : List CThreadPoolJob
  started : List CThreadPoolJob
  finished : List CThreadPoolJob
  deriving DecidableEq, Repr

namespace CThreadPool

def init (num_threads : UInt32) : CThreadPool where
  mJobQueue := []
  mAvailableJobs := .init
  mThreadsQueue := List.replicate num_threads.toNat ⟨false, .testing⟩
  destructor := .notCalled
  added := []
  taken := []
  started := []
  finished := []

/-- Worker `i`, which is `worker`, comes to another place. -/
def move (p : CThreadPool) (i : Nat) (worker : CWorkerThread) (place : Place) : CThreadPool :=
  { p with mThreadsQueue := p.mThreadsQueue.set i { worker with place := place } }

inductive Step
  /-- The caller signals after it, in a step of its own. -/
  | addJob (job : CThreadPoolJob)
  /-- A thread that has added a job signals. -/
  | signal
  /-- Worker `i` goes on. -/
  | worker (i : Nat)
  /-- The destructor is called, and clears the queue. -/
  | destroy
  /-- The destructor goes on. -/
  | destructor
  deriving DecidableEq, Repr

/-- The next step of worker `i`. -/
def threadFunc (p : CThreadPool) (i : Nat) (worker : CWorkerThread) : Option CThreadPool :=
  match worker.place with
  | .testing => some (p.move i worker (if worker.mStopFlag then .ended else .waiting))
  | .waiting =>
    p.mAvailableJobs.wait.map fun s => { p.move i worker .woken with mAvailableJobs := s }
  | .woken => some (p.move i worker (if worker.mStopFlag then .ended else .popping))
  | .popping =>
    match p.mJobQueue with
    | [] => some (p.move i worker .testing)
    | job :: rest =>
      some { p.move i worker (.holding job) with mJobQueue := rest, taken := p.taken ++ [job] }
  | .holding job =>
    some { p.move i worker (.performing job) with started := p.started ++ [job] }
  | .performing job =>
    some { p.move i worker .testing with finished := p.finished ++ [job] }
  | .ended => none

/-- The next step of the destructor. To delete a worker is to stop it, that is to join it. -/
def continueDestructor (p : CThreadPool) : Option CThreadPool :=
  match p.destructor with
  | .notCalled => none
  | .setting next =>
    match p.mThreadsQueue[next]? with
    | none => some { p with destructor := .signalling 0 }
    | some worker =>
      some { p with
        mThreadsQueue := p.mThreadsQueue.set next { worker with mStopFlag := true }
        destructor := .setting (next + 1) }
  | .signalling next =>
    if next < p.mThreadsQueue.length then
      some { p with
        mAvailableJobs := p.mAvailableJobs.signal
        destructor := .signalling (next + 1) }
    else some { p with destructor := .deleting 0 }
  | .deleting next =>
    match p.mThreadsQueue[next]? with
    | none => some { p with destructor := .done }
    | some worker =>
      if worker.place = .ended then some { p with destructor := .deleting (next + 1) } else none
  | .done => none

def step (p : CThreadPool) : Step → Option CThreadPool
  | .addJob job =>
    some { p with
      mJobQueue := p.mJobQueue ++ [job]
      mAvailableJobs := p.mAvailableJobs.announce
      added := p.added ++ [job] }
  | .signal => p.mAvailableJobs.post.map fun s => { p with mAvailableJobs := s }
  | .worker i =>
    match p.mThreadsQueue[i]? with
    | none => none
    | some worker => p.threadFunc i worker
  | .destroy =>
    match p.destructor with
    | .notCalled => some { p with destructor := .setting 0, mJobQueue := [] }
    | _ => none
  | .destructor => p.continueDestructor

/-- The steps that need nobody from outside: those of the workers and of the destructor, and the
signals of those who have added a job. -/
def Step.own : Step → Bool
  | .signal | .worker _ | .destructor => true
  | .addJob _ | .destroy => false

/-! ## What the workers are doing -/

/-- The worker was woken and has not looked into the queue. -/
def Place.awakened : Place → Bool
  | .woken | .popping => true
  | _ => false

def Place.held : Place → Option CThreadPoolJob
  | .holding job => some job
  | _ => none

def Place.performed : Place → Option CThreadPoolJob
  | .performing job => some job
  | _ => none

def awakened (p : CThreadPool) : Nat := p.mThreadsQueue.countP (·.place.awakened)

/-- The jobs that are taken and not begun. -/
def held (p : CThreadPool) : List CThreadPoolJob := p.mThreadsQueue.filterMap (·.place.held)

def performing (p : CThreadPool) : List CThreadPoolJob :=
  p.mThreadsQueue.filterMap (·.place.performed)

/-- What holds of the jobs in a state. -/
structure RunsOnce (p : CThreadPool) : Prop where
  inOrder : p.destructor = .notCalled → p.taken ++ p.mJobQueue = p.added
  started : (p.started ++ p.held).Perm p.taken
  finished : (p.finished ++ p.performing).Perm p.started
  /-- One worker also begins them in order, each when it has finished the others. -/
  oneWorker : p.mThreadsQueue.length = 1 → p.started ++ p.held = p.taken
    ∧ p.finished ++ p.performing = p.started ∧ p.held.length + p.performing.length ≤ 1
  /-- Every job in the queue has an awakened worker, a count, or a thread about to signal. -/
  notBlocked : p.destructor = .notCalled →
    p.mJobQueue.length = p.awakened + p.mAvailableJobs.value + p.mAvailableJobs.signalling

/-- There is nothing left to do, unless somebody adds a job or destroys the pool. -/
def Quiet (p : CThreadPool) : Prop := ∀ s : Step, s.own = true → p.step s = none

/-! ## How much is left to do -/

/-- The steps a worker makes before it waits, or ends. -/
def Place.rank : Place → Nat
  | .testing => 1
  | .waiting | .ended => 0
  | .woken => 5
  | .popping => 4
  | .holding _ => 3
  | .performing _ => 2

/-- The steps of the destructor, and those of the workers that it signals for. -/
def Destructor.rank (workers : Nat) : Destructor → Nat
  | .setting next => (workers - next) + 7 * workers + workers + 3
  | .signalling next => 7 * (workers - next) + workers + 2
  | .deleting next => (workers - next) + 1
  | .notCalled | .done => 0

/-- A signal makes at most six steps possible. -/
def rank (p : CThreadPool) : Nat :=
  7 * p.mAvailableJobs.signalling + 6 * p.mAvailableJobs.value
    + (p.mThreadsQueue.map (·.place.rank)).sum + p.destructor.rank p.mThreadsQueue.length

end CThreadPool

end IviLink.Utils
