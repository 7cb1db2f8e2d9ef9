import Mathlib.Order.Basic

/-!
# A counting semaphore and those who are about to signal it

A thread that has put something into a queue signals the semaphore a step later. Until then it is
among those that are about to, and for the question whether somebody will be woken its signal
counts as if it had been given.
-/

namespace IviLink.Lib

structure Semaphore where
  value : Nat
  /-- The threads that are about to signal. -/
  signalling : Nat
  deriving DecidableEq, Repr

namespace Semaphore

variable {s s' : Semaphore}

def init : Semaphore := ⟨0, 0⟩

/-- A thread has done what it will signal for. -/
def announce (s : Semaphore) : Semaphore := { s with signalling := s.signalling + 1 }

/-- One of the threads that are about to signal does. -/
def post (s : Semaphore) : Option Semaphore :=
  match s.signalling with
  | 0 => none
  | n + 1 => some ⟨s.value + 1, n⟩

/-- A signal that was not announced. -/
def signal (s : Semaphore) : Semaphore := { s with value := s.value + 1 }

/-- A waiting thread goes on. -/
def wait (s : Semaphore) : Option Semaphore :=
  match s.value with
  | 0 => none
  | n + 1 => some ⟨n, s.signalling⟩

/-- The waits that are or will be possible. -/
def tokens (s : Semaphore) : Nat := s.value + s.signalling

@[simp] theorem tokens_init : init.tokens = 0 := rfl

@[simp] theorem tokens_announce : s.announce.tokens = s.tokens + 1 := rfl

@[simp] theorem tokens_signal : s.signal.tokens = s.tokens + 1 := Nat.add_right_comm ..

theorem post_spec (h : s.post = some s') :
    s'.value = s.value + 1 ∧ s.signalling = s'.signalling + 1 := by
  rw [post] at h
  split at h
  · cases h
  · next n hn =>
    obtain rfl := Option.some.inj h
    exact ⟨rfl, hn⟩

theorem wait_spec (h : s.wait = some s') :
    s.value = s'.value + 1 ∧ s'.signalling = s.signalling := by
  rw [wait] at h
  split at h
  · cases h
  · next n hn =>
    obtain rfl := Option.some.inj h
    exact ⟨hn, rfl⟩

theorem tokens_post (h : s.post = some s') : s'.tokens = s.tokens := by
  obtain ⟨hvalue, hsignalling⟩ := post_spec h
  rw [tokens, tokens, hvalue, hsignalling]
  exact Nat.succ_add_eq_add_succ ..

theorem tokens_wait (h : s.wait = some s') : s.tokens = s'.tokens + 1 := by
  obtain ⟨hvalue, hsignalling⟩ := wait_spec h
  rw [tokens, tokens, hvalue, hsignalling]
  exact Nat.succ_add ..

theorem post_eq_none : s.post = none ↔ s.signalling = 0 := by
  rw [post]
  cases s.signalling <;> simp

theorem wait_eq_none : s.wait = none ↔ s.value = 0 := by
  rw [wait]
  cases s.value <;> simp

end Semaphore

end IviLink.Lib
