import Mathlib.Logic.Relation
import Mathlib.Order.Basic

/-!
# Threads that wait for one another

A thread waits for a mutex that another one holds, or for another one to end. Threads
are deadlocked when some of them wait in a circle. The usual way to exclude it is a rank
that falls along every wait; two threads that wait for each other are the least circle.
-/

namespace IviLink.Lib

/-- What the threads of a system hold and what they are waiting for. -/
structure Waiting (α μ : Type*) where
  holds : α → μ → Prop
  /-- The mutex that a thread is about to lock. -/
  wants : α → Option μ
  /-- The thread that it joins, as long as that one has not ended. -/
  joins : α → Option α

namespace Waiting

variable {α μ : Type*} {w : Waiting α μ} {x y : α} {m : μ}

def WaitsFor (w : Waiting α μ) (x y : α) : Prop :=
  (∃ m, w.wants x = some m ∧ w.holds y m) ∨ w.joins x = some y

/-- There is a circle of threads, each of which waits for the next one. -/
def Deadlocked (w : Waiting α μ) : Prop := ∃ x, Relation.TransGen w.WaitsFor x x

theorem waitsFor_of_mutex (hx : w.wants x = some m) (hy : w.holds y m) : w.WaitsFor x y :=
  Or.inl ⟨m, hx, hy⟩

theorem waitsFor_of_join (h : w.joins x = some y) : w.WaitsFor x y := Or.inr h

/-- **The rank rule.** -/
theorem not_deadlocked {rank : α → Nat} (h : ∀ x y, w.WaitsFor x y → rank y < rank x) :
    ¬ w.Deadlocked := by
  rintro ⟨x, hx⟩
  have hfalls : ∀ y, Relation.TransGen w.WaitsFor x y → rank y < rank x := by
    intro y hy
    induction hy with
    | single hxy => exact h _ _ hxy
    | tail _ hyz ih => exact Nat.lt_trans (h _ _ hyz) ih
  exact Nat.lt_irrefl _ (hfalls x hx)

theorem deadlocked_of_mutual (hxy : w.WaitsFor x y) (hyx : w.WaitsFor y x) : w.Deadlocked :=
  ⟨x, .tail (.single hxy) hyx⟩

end Waiting

end IviLink.Lib
