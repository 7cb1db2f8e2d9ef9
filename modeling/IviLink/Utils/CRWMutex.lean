import IviLink.Lib.Run

/-!
# The read-write lock

`CRWMutex` where it is written by hand (Android): four counters that are used under one
mutex, and two conditions to wait on. What a function does between the places where it
takes the mutex or waits is one step; a wait gives the mutex back, and its thread goes on
in a step of its own once it has been woken.

The counters are numbers here. They are `unsigned` in the source, where a process has
fewer threads than such a counter can count.
-/

namespace IviLink.Utils.CRWMutex

open IviLink.Lib

/-- What a thread is doing with the lock. A thread that waits has been woken, or not: by a signal,
by a broadcast, or for no reason. -/
inductive Phase
  | idle
  | reading
  | writing
  /-- In `pthread_cond_wait(&self->read, ..)`. -/
  | readWait (woken : Bool)
  /-- In `pthread_cond_wait(&self->write, ..)`. -/
  | writeWait (woken : Bool)
  deriving DecidableEq, Repr

namespace Phase

def isReadWait : Phase → Bool
  | .readWait _ => true
  | _ => false

def isWriteWait : Phase → Bool
  | .writeWait _ => true
  | _ => false

def holds : Phase → Bool
  | .reading | .writing => true
  | _ => false

def waits (p : Phase) : Bool := p.isReadWait || p.isWriteWait

/-- What a broadcast on `read` does to a thread. -/
def broadcast : Phase → Phase
  | .readWait _ => .readWait true
  | p => p

end Phase

/-- The counters of `struct rwlock`. -/
structure rwlock where
  readers : Nat
  writers : Nat
  read_waiters : Nat
  write_waiters : Nat
  deriving DecidableEq, Repr

/-- The lock and the threads that use it. -/
structure State where
  self : rwlock
  threads : List Phase
  deriving DecidableEq, Repr

namespace State

/-- `rwlock_init`, and `n` threads. -/
def init (n : Nat) : State := ⟨⟨0, 0, 0, 0⟩, List.replicate n .idle⟩

def setPhase (s : State) (n : Nat) (p : Phase) : State := { s with threads := s.threads.set n p }

def setSelf (s : State) (self : rwlock) : State := { s with self := self }

/-- `pthread_cond_signal(&self->write)`: a thread that waits is woken, if there is one. -/
def signalWrite (s : State) (k : Nat) : Option State :=
  if .writeWait false ∈ s.threads then
    if s.threads[k]? = some (.writeWait false) then some (s.setPhase k (.writeWait true)) else none
  else some s

/-- `pthread_cond_broadcast(&self->read)`. -/
def broadcastRead (s : State) : State := { s with threads := s.threads.map Phase.broadcast }

/-- `reader_lock` has to wait. -/
def readerWaits (s : State) : Prop := s.self.writers ≠ 0 ∨ s.self.write_waiters ≠ 0

/-- `writer_lock` has to wait. -/
def writerWaits (s : State) : Prop := s.self.readers ≠ 0 ∨ s.self.writers ≠ 0

instance (s : State) : Decidable s.readerWaits := inferInstanceAs (Decidable (_ ∨ _))

instance (s : State) : Decidable s.writerWaits := inferInstanceAs (Decidable (_ ∨ _))

/-- `reader_lock`, as far as its wait. -/
def reader_lock (s : State) (n : Nat) : State :=
  if s.readerWaits then
    (s.setSelf { s.self with read_waiters := s.self.read_waiters + 1 }).setPhase n (.readWait false)
  else (s.setSelf { s.self with readers := s.self.readers + 1 }).setPhase n .reading

/-- `reader_lock` from the return of its wait on. -/
def reader_woken (s : State) (n : Nat) : State :=
  if s.readerWaits then s.setPhase n (.readWait false)
  else
    (s.setSelf { s.self with
      read_waiters := s.self.read_waiters - 1
      readers := s.self.readers + 1 }).setPhase n .reading

/-- The thread `k` gets the signal. -/
def reader_unlock (s : State) (n k : Nat) : Option State :=
  let s := (s.setSelf { s.self with readers := s.self.readers - 1 }).setPhase n .idle
  if s.self.write_waiters ≠ 0 then s.signalWrite k else some s

/-- `writer_lock`, as far as its wait. -/
def writer_lock (s : State) (n : Nat) : State :=
  if s.writerWaits then
    (s.setSelf { s.self with write_waiters := s.self.write_waiters + 1 }).setPhase n
      (.writeWait false)
  else (s.setSelf { s.self with writers := 1 }).setPhase n .writing

/-- `writer_lock` from the return of its wait on. -/
def writer_woken (s : State) (n : Nat) : State :=
  if s.writerWaits then s.setPhase n (.writeWait false)
  else
    (s.setSelf { s.self with
      write_waiters := s.self.write_waiters - 1
      writers := 1 }).setPhase n .writing

/-- The thread `k` gets the signal. -/
def writer_unlock (s : State) (n k : Nat) : Option State :=
  let s := (s.setSelf { s.self with writers := 0 }).setPhase n .idle
  if s.self.write_waiters ≠ 0 then s.signalWrite k
  else if s.self.read_waiters ≠ 0 then some s.broadcastRead
  else some s

end State

inductive Act
  | reader_lock (n : Nat)
  | reader_unlock (n k : Nat)
  | writer_lock (n : Nat)
  | writer_unlock (n k : Nat)
  /-- A thread that has been woken goes on. -/
  | woken (n : Nat)
  /-- A thread is woken for no reason. -/
  | spurious (n : Nat)
  deriving DecidableEq, Repr

/-- A thread locks when it does nothing with the lock, and unlocks what it holds. -/
def step (s : State) : Act → Option State
  | .reader_lock n => if s.threads[n]? = some .idle then some (s.reader_lock n) else none
  | .reader_unlock n k => if s.threads[n]? = some .reading then s.reader_unlock n k else none
  | .writer_lock n => if s.threads[n]? = some .idle then some (s.writer_lock n) else none
  | .writer_unlock n k => if s.threads[n]? = some .writing then s.writer_unlock n k else none
  | .woken n =>
    match s.threads[n]? with
    | some (.readWait true) => some (s.reader_woken n)
    | some (.writeWait true) => some (s.writer_woken n)
    | _ => none
  | .spurious n =>
    match s.threads[n]? with
    | some (.readWait _) => some (s.setPhase n (.readWait true))
    | some (.writeWait _) => some (s.setPhase n (.writeWait true))
    | _ => none

/-! ## What the lock is for -/

namespace State

/-- A thread that writes holds the lock alone. -/
def Exclusive (s : State) : Prop :=
  ∀ (i j : Nat) (p : Phase), s.threads[i]? = some .writing → s.threads[j]? = some p → p.holds = true → i = j

/-- The counters are the numbers of threads that hold the lock and that wait for it. -/
structure Counted (s : State) : Prop where
  readers : s.self.readers = s.threads.countP (· = .reading)
  writers : s.self.writers = s.threads.countP (· = .writing)
  read_waiters : s.self.read_waiters = s.threads.countP Phase.isReadWait
  write_waiters : s.self.write_waiters = s.threads.countP Phase.isWriteWait

/-- If nobody holds the lock and some thread waits for it, one that waits has been woken and has
not gone on yet. -/
def WakeupPending (s : State) : Prop :=
  (∀ p ∈ s.threads, p.holds = false) → (∃ p ∈ s.threads, p.waits = true) →
    .readWait true ∈ s.threads ∨ .writeWait true ∈ s.threads

end State

end IviLink.Utils.CRWMutex
