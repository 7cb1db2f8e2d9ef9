import IviLink.Lib.Run
import Mathlib.Data.List.Nodup
import Mathlib.Logic.Function.Basic

/-!
# Threads that share mutexes

What a method does is a `Code`: it locks and unlocks mutexes, and in between it reads and changes
a state that all threads share. What it reads decides how it goes on, and other threads may have
changed it before. A mutex cannot be locked twice, not even by the thread that holds it.

`Disciplined` looks at the code alone: whatever is read, a method unlocks what it has locked
before it returns, never locks what it holds, and uses what a mutex protects only while it holds
the mutex. Reads at a place that may go wrong can be restricted by a condition. Threads whose
methods are disciplined are `Orderly` in every run whose reads meet the condition.
-/

namespace IviLink.Lib

variable {I M σ L R Op : Type*}

/-- What is left to do of a method. -/
inductive Code (M σ L R : Type*) where
  /-- It has returned. -/
  | ret (result : R)
  | lock (m : M) (next : Code M σ L R)
  | unlock (m : M) (next : Code M σ L R)
  /-- The state is read and changed at a place of the code; what the mutexes `guards` protect is
  used. -/
  | act (guards : List M) (place : L) (f : σ → σ) (next : σ → Code M σ L R)
  /-- What happens is not defined. -/
  | undefined

namespace Code

variable [DecidableEq M]

/-- The discipline of a method that holds the mutexes `held`, where every read meets `S`. -/
def Disciplined (S : L → σ → Prop) : List M → Code M σ L R → Prop
  | held, ret _ => held = []
  | held, lock m next => m ∉ held ∧ next.Disciplined S (m :: held)
  | held, unlock m next => m ∈ held ∧ next.Disciplined S (held.erase m)
  | held, act guards place _ next =>
    (∀ m ∈ guards, m ∈ held) ∧ ∀ s, S place s → (next s).Disciplined S held
  | _, undefined => False

/-- The method keeps the discipline from the state `s` on, when it is not disturbed. -/
def Keeps : List M → σ → Code M σ L R → Prop
  | held, _, ret _ => held = []
  | held, s, lock m next => m ∉ held ∧ next.Keeps (m :: held) s
  | held, s, unlock m next => m ∈ held ∧ next.Keeps (held.erase m) s
  | held, s, act guards _ f next => (∀ m ∈ guards, m ∈ held) ∧ (next s).Keeps held (f s)
  | _, _, undefined => False

section Keeps

variable {held guards : List M} {s : σ} {m : M} {next : Code M σ L R}

@[simp] theorem keeps_ret {result : R} :
    (ret result : Code M σ L R).Keeps held s ↔ held = [] := Iff.rfl

@[simp] theorem keeps_lock :
    (lock m next).Keeps held s ↔ m ∉ held ∧ next.Keeps (m :: held) s := Iff.rfl

@[simp] theorem keeps_unlock :
    (unlock m next).Keeps held s ↔ m ∈ held ∧ next.Keeps (held.erase m) s := Iff.rfl

@[simp] theorem keeps_act {place : L} {f : σ → σ} {next : σ → Code M σ L R} :
    (act guards place f next).Keeps held s ↔
      (∀ m ∈ guards, m ∈ held) ∧ (next s).Keeps held (f s) := Iff.rfl

@[simp] theorem not_keeps_undefined : ¬ (undefined : Code M σ L R).Keeps held s := id

end Keeps

end Code

/-- Threads with what is left of their methods. -/
structure Threads (I M σ L R : Type*) where
  shared : σ
  owner : M → Option I
  code : I → Code M σ L R

/-- What happens next: a thread that is done calls a method, or a thread goes on. -/
inductive Move (I Op : Type*) where
  | call (i : I) (op : Op)
  | go (i : I)
  deriving DecidableEq, Repr

namespace Threads

/-- No thread holds a mutex. -/
def init (s : σ) (r : R) : Threads I M σ L R := ⟨s, fun _ => none, fun _ => .ret r⟩

/-- Every thread keeps the discipline with what it does next. -/
structure Orderly (w : Threads I M σ L R) : Prop where
  /-- It returns with every mutex unlocked. -/
  returned : ∀ i r, w.code i = .ret r → ∀ m, w.owner m ≠ some i
  /-- It does not lock what it holds. -/
  locks : ∀ i m next, w.code i = .lock m next → w.owner m ≠ some i
  unlocks : ∀ i m next, w.code i = .unlock m next → w.owner m = some i
  /-- It uses only what the mutexes protect that it holds. -/
  guarded : ∀ i guards place f next, w.code i = .act guards place f next →
    ∀ m ∈ guards, w.owner m = some i
  defined : ∀ i, w.code i ≠ .undefined

variable [DecidableEq M]

/-- Each thread holds the mutexes that it owns, and its code is disciplined. -/
def Inv (S : L → σ → Prop) (w : Threads I M σ L R) : Prop :=
  ∃ held : I → List M, (∀ i, (held i).Nodup) ∧ (∀ i m, m ∈ held i ↔ w.owner m = some i) ∧
    ∀ i, (w.code i).Disciplined S (held i)

variable {S : L → σ → Prop} {w w' : Threads I M σ L R} {i : I} {m : M}

theorem Inv.orderly (h : w.Inv S) : w.Orderly := by
  obtain ⟨held, -, howner, hcode⟩ := h
  refine ⟨?_, ?_, ?_, ?_, ?_⟩
  · intro i r hret m hm
    have hd := hcode i
    rw [hret, Code.Disciplined] at hd
    rw [← howner, hd] at hm
    cases hm
  · intro i m next hlock hm
    have hd := hcode i
    rw [hlock, Code.Disciplined] at hd
    exact hd.1 ((howner i m).mpr hm)
  · intro i m next hunlock
    have hd := hcode i
    rw [hunlock, Code.Disciplined] at hd
    exact (howner i m).mp hd.1
  · intro i guards place f next hact m hm
    have hd := hcode i
    rw [hact, Code.Disciplined] at hd
    exact (howner i m).mp (hd.1 m hm)
  · intro i hundefined
    have hd := hcode i
    rw [hundefined, Code.Disciplined] at hd
    exact hd

theorem inv_init (s : σ) (r : R) : (init s r : Threads I M σ L R).Inv S :=
  ⟨fun _ => [], fun _ => List.nodup_nil, fun i m => by simp [init], fun i => rfl⟩

variable [DecidableEq I]

/-- A thread that locks a mutex waits until no one holds it. -/
def go (w : Threads I M σ L R) (i : I) : Option (Threads I M σ L R) :=
  match w.code i with
  | .ret _ => none
  | .lock m next =>
    if w.owner m = none then
      some { w with
        owner := Function.update w.owner m (some i)
        code := Function.update w.code i next }
    else none
  | .unlock m next =>
    some { w with
      owner := Function.update w.owner m none
      code := Function.update w.code i next }
  | .act _ _ f next =>
    some { w with
      shared := f w.shared
      code := Function.update w.code i (next w.shared) }
  | .undefined => none

def step (body : Op → Code M σ L R) (w : Threads I M σ L R) :
    Move I Op → Option (Threads I M σ L R)
  | .call i op =>
    match w.code i with
    | .ret _ => some { w with code := Function.update w.code i (body op) }
    | _ => none
  | .go i => w.go i

/-- What the thread reads, if it does, meets the condition. -/
def Spares (S : L → σ → Prop) (w : Threads I M σ L R) : Move I Op → Prop
  | .call _ _ => True
  | .go i =>
    match w.code i with
    | .act _ place _ _ => S place w.shared
    | _ => True

instance [∀ place s, Decidable (S place s)] (w : Threads I M σ L R) :
    ∀ a : Move I Op, Decidable (Spares S w a)
  | .call _ _ => .isTrue trivial
  | .go i =>
    match h : w.code i with
    | .act _ place _ _ => decidable_of_iff (S place w.shared) (by rw [Spares, h])
    | .ret _ | .lock _ _ | .unlock _ _ | .undefined => .isTrue (by rw [Spares, h]; trivial)

/-- The others go on as before when one thread is elsewhere in its code. -/
theorem disciplined_update {held held' : I → List M} {code : I → Code M σ L R}
    {c : Code M σ L R} (hcode : ∀ j, (code j).Disciplined S (held j))
    (hsame : ∀ j, j ≠ i → held' j = held j) (hc : c.Disciplined S (held' i)) :
    ∀ j, (Function.update code i c j).Disciplined S (held' j) := by
  intro j
  by_cases hj : j = i
  · subst hj
    rw [Function.update_self]
    exact hc
  · rw [Function.update_of_ne hj, hsame j hj]
    exact hcode j

theorem Inv.go (h : w.Inv S) (hs : w.go i = some w')
    (hspares : Spares S w (.go i : Move I Op)) : w'.Inv S := by
  obtain ⟨held, hnodup, howner, hcode⟩ := h
  have hd := hcode i
  rw [Threads.go] at hs
  rw [Spares] at hspares
  cases hi : w.code i with
  | ret r =>
    rw [hi] at hs
    cases hs
  | undefined =>
    rw [hi] at hs
    cases hs
  | act guards place f next =>
    rw [hi] at hs hd hspares
    obtain rfl := Option.some.inj hs
    exact ⟨held, hnodup, howner, disciplined_update hcode (fun _ _ => rfl) (hd.2 _ hspares)⟩
  | lock m next =>
    rw [hi] at hs hd
    dsimp only at hs
    split at hs
    · rename_i hfree
      obtain rfl := Option.some.inj hs
      refine ⟨Function.update held i (m :: held i), ?_, ?_, disciplined_update hcode ?_ ?_⟩
      · intro j
        by_cases hj : j = i
        · subst hj
          rw [Function.update_self]
          exact List.nodup_cons.mpr ⟨hd.1, hnodup j⟩
        · rw [Function.update_of_ne hj]
          exact hnodup j
      · intro j m'
        by_cases hm : m' = m
        · subst hm
          by_cases hj : j = i
          · simp [hj]
          · simp [Function.update_of_ne hj, howner, hfree, Ne.symm hj]
        · by_cases hj : j = i
          · subst hj
            simp [hm, howner]
          · simp [Function.update_of_ne hj, hm, howner]
      · intro j hj
        exact Function.update_of_ne hj _ _
      · rw [Function.update_self]
        exact hd.2
    · cases hs
  | unlock m next =>
    rw [hi] at hs hd
    obtain rfl := Option.some.inj hs
    have hmine := (howner i m).mp hd.1
    refine ⟨Function.update held i ((held i).erase m), ?_, ?_, disciplined_update hcode ?_ ?_⟩
    · intro j
      by_cases hj : j = i
      · subst hj
        rw [Function.update_self]
        exact (hnodup j).erase m
      · rw [Function.update_of_ne hj]
        exact hnodup j
    · intro j m'
      by_cases hj : j = i
      · subst hj
        rw [Function.update_self, (hnodup j).mem_erase_iff, howner]
        by_cases hm : m' = m
        · simp [hm]
        · simp [hm]
      · rw [Function.update_of_ne hj, howner]
        by_cases hm : m' = m
        · subst hm
          simp [hmine, Ne.symm hj]
        · simp [hm]
    · intro j hj
      exact Function.update_of_ne hj _ _
    · rw [Function.update_self]
      exact hd.2

/-- **The discipline of the methods is that of the threads**, in every run whose reads meet the
condition. -/
theorem orderly_of_run {body : Op → Code M σ L R} (hbody : ∀ op, (body op).Disciplined S [])
    {s : σ} {r : R} {as : List (Move I Op)}
    (hspares : Along (step body) (Spares S) (init s r : Threads I M σ L R) as)
    (hr : run (step body) (init s r) as = some w) : w.Orderly := by
  refine Inv.orderly (run_invariant (I := Inv S) ?_ (inv_init s r) hspares hr)
  intro v a v' hv hspare hs
  cases a with
  | go i => exact hv.go hs hspare
  | call i op =>
    obtain ⟨held, hnodup, howner, hcode⟩ := hv
    rw [step] at hs
    split at hs
    · rename_i r hret
      obtain rfl := Option.some.inj hs
      have hd := hcode i
      rw [hret] at hd
      refine ⟨held, hnodup, howner, disciplined_update hcode (fun _ _ => rfl) ?_⟩
      rw [show held i = [] from hd]
      exact hbody op
    · cases hs

/-- The threads are orderly in every run whose reads meet the condition, however many they are,
from any state in which no mutex is locked. -/
def RunsOrderly (body : Op → Code M σ L R) (S : L → σ → Prop) (r : R) : Prop :=
  ∀ (I : Type) [DecidableEq I] (s : σ) (as : List (Move I Op)) (w : Threads I M σ L R),
    Along (step body) (Spares S) (init s r) as → run (step body) (init s r) as = some w →
      w.Orderly

theorem runsOrderly {body : Op → Code M σ L R} (hbody : ∀ op, (body op).Disciplined S []) (r : R) :
    RunsOrderly body S r :=
  fun _ _ _ _ _ => orderly_of_run hbody

end Threads

end IviLink.Lib
