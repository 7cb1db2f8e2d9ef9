import IviLink.Lib.Run
import Mathlib.Logic.Function.Basic

/-!
# Profile instances of an application

`CPIM` of the application library. Threads of the application load and unload profile
instances; notices of deaths on the other side come in one after the other on the
thread of the pool, which calls the application back and then unloads the instance if
the application has not.

The profile manager gives a piuid to one instance only, so that an instance is known
by its piuid and `CProfileInstanceMap` is a set. A step is one critical section of the
map, one operation on `mRemoteDiedProfiles`, or one use of the instance. A thread of
the application unloads only what has been returned to it. What is loaded and unloaded
on the thread of the pool, in the callback of a notice or for an incoming profile, is
done by thread 0.
-/

namespace IviLink.PMAL.CPIM

open IviLink.Lib

abbrev IUid := Nat

abbrev ThreadId := Nat

/-- The thread of the pool. -/
def poolThread : ThreadId := 0

/-- Where a thread is in `loadProfile` or `unloadProfile`. -/
inductive Call
  | idle
  /-- The instance is registered, and not yet announced. -/
  | registered (x : IUid)
  /-- It is announced, and not yet enabled. -/
  | announced (x : IUid)
  /-- The instance to unload is known. -/
  | found (x : IUid)
  | unregistered (x : IUid)
  | disabled (x : IUid)
  /-- The profile manager has been told, or need not be. -/
  | told (x : IUid)
  deriving DecidableEq, Repr

/-- Where the thread of the pool is in `profileDiedInternal`. -/
inductive Job
  | none
  | found (x : IUid)
  | inserted (x : IUid)
  /-- `clbs->profileDied` is under way. -/
  | callback (x : IUid)
  | returned (x : IUid)
  /-- `unloadProfile` is under way. -/
  | unloading (x : IUid)
  deriving DecidableEq, Repr

/-- The instance that a notice is about. -/
def Job.about : Job → Option IUid
  | .none => Option.none
  | .found x | .inserted x | .callback x | .returned x | .unloading x => some x

/-- An instance, and what has been done to it. -/
structure Instance where
  /-- It is in `mInstanceMap`. -/
  known : Bool
  /-- It is in `mRemoteDiedProfiles`. -/
  remoteDied : Bool
  created : Bool
  /-- `loadProfile` has returned it. -/
  returned : Bool
  removed : Nat
  destroyed : Nat
  /-- How often the profile manager was told of its death. -/
  told : Nat
  /-- It was removed, and not by the thread that handles a notice of its death. -/
  locally : Bool
  deriving DecidableEq, Repr

def Instance.absent : Instance := ⟨false, false, false, false, 0, 0, 0, false⟩

structure State where
  instances : IUid → Instance
  calls : ThreadId → Call
  job : Job
  usedDestroyed : Bool

namespace State

def init : State := ⟨fun _ => .absent, fun _ => .idle, .none, false⟩

def setInstance (s : State) (x : IUid) (i : Instance) : State :=
  { s with instances := Function.update s.instances x i }

def setCall (s : State) (t : ThreadId) (c : Call) : State :=
  { s with calls := Function.update s.calls t c }

def setJob (s : State) (job : Job) : State := { s with job := job }

/-- Something of the instance is read or called. -/
def use (s : State) (x : IUid) : State :=
  { s with usedDestroyed := s.usedDestroyed || decide ((s.instances x).destroyed ≠ 0) }

/-- The application can be running on the thread. -/
def Running (s : State) (t : ThreadId) : Prop :=
  s.calls t = .idle ∧ (t = poolThread → s.job = .none ∨ ∃ x, s.job = .callback x)

/-- `unloadProfile(piuid, pp)` by the thread of the pool. -/
def unloadDied (s : State) (x : IUid) : State := (s.setJob (.unloading x)).setCall poolThread (.found x)

end State

instance (s : State) (t : ThreadId) : Decidable (s.Running t) :=
  have _ : Decidable (∃ x, s.job = .callback x) :=
    match s.job with
    | .callback x => isTrue ⟨x, rfl⟩
    | .none | .found _ | .inserted _ | .returned _ | .unloading _ => isFalse fun ⟨_, h⟩ => nomatch h
  inferInstanceAs (Decidable (_ ∧ (_ → _ ∨ _)))

inductive Event
  /-- `loadProfile` gets as far as `registerProfile`. -/
  | registerProfile (t : ThreadId) (x : IUid)
  | createProfile (t : ThreadId) (ok : Bool)
  | enable (t : ThreadId)
  /-- `unloadProfile` looks for the piuid. -/
  | findPiuid (t : ThreadId) (x : IUid)
  | unregisterProfile (t : ThreadId)
  | disable (t : ThreadId)
  /-- The piuid is erased from `mRemoteDiedProfiles`, or else the profile manager is told. -/
  | eraseRemoteDied (t : ThreadId)
  | destroy (t : ThreadId)
  /-- A notice comes, and `profileDiedInternal` looks for the instance. -/
  | findInstance (x : IUid)
  | insertRemoteDied
  | profileDied (clbs : Bool)
  | callbackReturns
  | isKnown
  | jobDone
  deriving DecidableEq, Repr

open State in
/-- One step. -/
def next (s : State) : Event → Option State
  | .registerProfile t x =>
    if s.Running t ∧ (s.instances x).created = false then
      some ((s.setInstance x { s.instances x with known := true, created := true }).setCall t
        (.registered x))
    else none
  | .createProfile t ok =>
    match s.calls t with
    | .registered x => some (s.setCall t (if ok then .announced x else .idle))
    | _ => none
  | .enable t =>
    match s.calls t with
    | .announced x =>
      some (((s.use x).setInstance x { s.instances x with returned := true }).setCall t .idle)
    | _ => none
  | .findPiuid t x =>
    if s.Running t ∧ (s.instances x).returned = true then
      some (if (s.instances x).known then s.setCall t (.found x) else s)
    else none
  | .unregisterProfile t =>
    match s.calls t with
    | .found x =>
      if (s.instances x).known then
        some ((s.setInstance x { s.instances x with
          known := false
          removed := (s.instances x).removed + 1
          locally := !decide (t = poolThread ∧ s.job.about = some x) }).setCall t (.unregistered x))
      else some (s.setCall t .idle)
    | _ => none
  | .disable t =>
    match s.calls t with
    | .unregistered x => some ((s.use x).setCall t (.disabled x))
    | _ => none
  | .eraseRemoteDied t =>
    match s.calls t with
    | .disabled x =>
      some ((s.setInstance x
        (if (s.instances x).remoteDied then { s.instances x with remoteDied := false }
        else { s.instances x with told := (s.instances x).told + 1 })).setCall t (.told x))
    | _ => none
  | .destroy t =>
    match s.calls t with
    | .told x =>
      some ((s.setInstance x
        { s.instances x with destroyed := (s.instances x).destroyed + 1 }).setCall t .idle)
    | _ => none
  | .findInstance x =>
    if s.job = .none ∧ s.calls poolThread = .idle then
      some (if (s.instances x).known then s.setJob (.found x) else s)
    else none
  | .insertRemoteDied =>
    match s.job with
    | .found x =>
      some ((s.setInstance x { s.instances x with remoteDied := true }).setJob (.inserted x))
    | _ => none
  | .profileDied clbs =>
    match s.job with
    | .inserted x => some (if clbs then (s.use x).setJob (.callback x) else s.unloadDied x)
    | _ => none
  | .callbackReturns =>
    match s.job with
    | .callback x => if s.calls poolThread = .idle then some (s.setJob (.returned x)) else none
    | _ => none
  | .isKnown =>
    match s.job with
    | .returned x => some (if (s.instances x).known then s.unloadDied x else s.setJob .none)
    | _ => none
  | .jobDone =>
    match s.job with
    | .unloading _ => if s.calls poolThread = .idle then some (s.setJob .none) else none
    | _ => none

/-- No thread is in a call, and no notice is being handled. -/
def Quiet (s : State) : Prop := (∀ t, s.calls t = .idle) ∧ s.job = .none

/-- The instance lives, or has died once. -/
def Instance.DiedOnce (i : Instance) : Prop :=
  if i.known then i.removed = 0 ∧ i.destroyed = 0 ∧ i.told = 0
  else i.removed = 1 ∧ i.destroyed = 1 ∧ i.told = if i.locally then 1 else 0

/-- No instance has been used after it was destroyed, none has been removed or destroyed or told of
more than once, and when nothing is under way every instance lives or has died once, and none that
has died is among those that died on the other side. -/
structure Proper (s : State) : Prop where
  unused : s.usedDestroyed = false
  once : ∀ x, (s.instances x).removed ≤ 1 ∧ (s.instances x).destroyed ≤ 1 ∧
    (s.instances x).told ≤ 1
  died : Quiet s → ∀ x, (s.instances x).created = true → (s.instances x).DiedOnce
  forgotten : Quiet s → ∀ x, (s.instances x).remoteDied = true → (s.instances x).known = true

/-- The instance is being loaded. -/
def Call.loading (c : Call) (x : IUid) : Prop := c = .registered x ∨ c = .announced x

/-- No instance is removed by another thread while a notice of its death is handled, and no notice
is taken up for an instance that is still being loaded. -/
def Undisturbed (s : State) : Event → Prop
  | .unregisterProfile t => ∀ x, s.calls t = .found x → (s.instances x).known = true →
      s.job.about = some x → t = poolThread
  | .findInstance x => ∀ t, ¬ (s.calls t).loading x
  | _ => True

theorem of_enable {s s' : State} {t : Nat} (hs : next s (.enable t) = some s') :
    ∃ x, s.calls t = .announced x ∧ s' =
      ((s.use x).setInstance x { s.instances x with returned := true }).setCall t .idle := by
  simp only [next] at hs
  split at hs
  · rename_i x hcall
    exact ⟨x, hcall, (Option.some.inj hs).symm⟩
  · cases hs

theorem of_jobDone {s s' : State} (hs : next s .jobDone = some s') :
    ∃ x, s.job = .unloading x ∧ s.calls poolThread = .idle ∧ s' = s.setJob .none := by
  simp only [next] at hs
  split at hs
  · rename_i x hjob
    split at hs
    · rename_i hpool
      exact ⟨x, hjob, hpool, (Option.some.inj hs).symm⟩
    · cases hs
  · cases hs

end IviLink.PMAL.CPIM
