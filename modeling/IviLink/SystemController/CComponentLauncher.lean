import IviLink.Lib.Run
import IviLink.SystemController.SystemControllerWatchdog

/-!
# The processes of the components

`CComponentLauncher` starts a process for a component, after it has told the one it knows of to
terminate, and does not wait for it to end. What has ended is waited for in the handler of
`SIGCHLD`, on whichever thread that runs, which erases the entry with the pid. The components are
launched by one thread, and `shutdownAllComponents` runs in the handler of `SIGTERM`.

A step is one look at `mComponentPid`, one change of it or one system call. The pid of a process is
given to another one only after the process has been waited for.
-/

namespace IviLink.SystemController.Launching

open IviLink.Lib Watchdog

/-- `pid_t` -/
abbrev Pid := Int

structure Process where
  component : Components
  /-- `SIGTERM` has been sent to it. -/
  told : Bool
  /-- It has ended, and waits to be waited for. -/
  ended : Bool
  deriving DecidableEq

/-- Where the thread is that launches a component. -/
inductive Place
  | idle
  | isComponentRunning (component : Components)
  | shutdownComponent (component : Components)
  | kill (component : Components) (pid : Pid)
  | launchComponent (component : Components)
  /-- `mComponentPid[component]` is to be set. -/
  | setPid (component : Components) (pid : Pid)
  deriving DecidableEq

structure CComponentLauncher where
  mComponentPid : Components → Option Pid
  place : Place
  /-- Whether `shutdownAllComponents` has been called, what it has yet to shut down, and what it is
  about to kill. -/
  stopping : Bool
  toStop : List Components
  toKill : Option (Components × Pid)
  /-- What `onSIGCHLD` has waited for, and is to look for in `mComponentPid`. -/
  reaped : List Pid
  processes : Pid → Option Process

namespace CComponentLauncher

def init : CComponentLauncher where
  mComponentPid := fun _ => none
  place := .idle
  stopping := false
  toStop := []
  toKill := none
  reaped := []
  processes := fun _ => none

/-- In the order of their values, which is that of the map. -/
def components : List Components :=
  [.PROFILE_MANAGER, .CHANNEL_SUPERVISOR, .CONNECTIVITY_AGENT, .APPLICATION_MANAGER,
    .AUTHENTICATION_APP, .SPLASH_SCREEN, .SYSTEM_CONTROLLER, .SYSTEM_CONTROLLER_WATCHDOG]

/-- What `shutdownAllComponents` shuts down. -/
def allComponents : List Components :=
  [.SPLASH_SCREEN, .SYSTEM_CONTROLLER_WATCHDOG, .AUTHENTICATION_APP, .APPLICATION_MANAGER,
    .CONNECTIVITY_AGENT, .CHANNEL_SUPERVISOR, .PROFILE_MANAGER]

def setProcess (l : CComponentLauncher) (pid : Pid) (process : Option Process) :
    CComponentLauncher :=
  { l with processes := Function.update l.processes pid process }

/-- `kill(-pid, SIGTERM)` -/
def terminate (l : CComponentLauncher) (pid : Pid) : CComponentLauncher :=
  match l.processes pid with
  | none => l
  | some process => l.setProcess pid (some { process with told := true })

/-- The next step of the thread that launches; `fork` gives `child`. -/
def next (l : CComponentLauncher) (child : Option Pid) : Option CComponentLauncher :=
  match l.place with
  | .idle => none
  | .isComponentRunning component =>
    some { l with
      place := match l.mComponentPid component with
        | none => .launchComponent component
        | some _ => .shutdownComponent component }
  | .shutdownComponent component =>
    some { l with
      place := match l.mComponentPid component with
        | none => .launchComponent component
        | some pid => .kill component pid }
  | .kill component pid => some { l.terminate pid with place := .launchComponent component }
  | .launchComponent component =>
    match child with
    | none => some { l with place := .idle }
    | some pid =>
      match l.processes pid with
      | some _ => none
      | none =>
        some { l.setProcess pid (some ⟨component, false, false⟩) with
          place := .setPid component pid }
  | .setPid component pid =>
    some { l with
      mComponentPid := Function.update l.mComponentPid component (some pid)
      place := .idle }

/-- The next step of `shutdownAllComponents`. -/
def stopNext (l : CComponentLauncher) : Option CComponentLauncher :=
  match l.toKill with
  | some (_, pid) => some { l.terminate pid with toKill := none }
  | none =>
    match l.toStop with
    | [] => none
    | component :: toStop =>
      some { l with toStop, toKill := (l.mComponentPid component).map (component, ·) }

/-- `waitpid` of a process that has ended. -/
def waitpid (l : CComponentLauncher) (pid : Pid) : Option CComponentLauncher :=
  match l.processes pid with
  | some ⟨_, _, true⟩ => some { l.setProcess pid none with reaped := l.reaped ++ [pid] }
  | _ => none

/-- The loop of `onSIGCHLD` over `mComponentPid`. -/
def erase (l : CComponentLauncher) (pid : Pid) : Option CComponentLauncher :=
  if pid ∈ l.reaped then
    let l := { l with reaped := l.reaped.erase pid }
    match components.find? fun component => l.mComponentPid component = some pid with
    | none => some l
    | some component =>
      some { l with mComponentPid := Function.update l.mComponentPid component none }
  else none

inductive Action
  /-- One of the methods that launch a component. -/
  | launch (component : Components)
  | shutdownAllComponents
  | next (child : Option Pid)
  | stopNext
  /-- A process ends. -/
  | ends (pid : Pid)
  | waitpid (pid : Pid)
  | erase (pid : Pid)
  deriving DecidableEq

def launchConnectivityAgent : Action := .launch .CONNECTIVITY_AGENT

def launchProfileManager : Action := .launch .PROFILE_MANAGER

def launchChannelSupervisor : Action := .launch .CHANNEL_SUPERVISOR

def launchApplicationManager : Action := .launch .APPLICATION_MANAGER

def launchAuthenticationApp : Action := .launch .AUTHENTICATION_APP

def launchSplashScreen : Action := .launch .SPLASH_SCREEN

def launchSystemControllerWatchdog : Action := .launch .SYSTEM_CONTROLLER_WATCHDOG

def step (l : CComponentLauncher) : Action → Option CComponentLauncher
  | .launch component =>
    if l.place = .idle then some { l with place := .isComponentRunning component } else none
  | .shutdownAllComponents =>
    if l.stopping then none else some { l with stopping := true, toStop := allComponents }
  | .next child => l.next child
  | .stopNext => l.stopNext
  | .ends pid =>
    match l.processes pid with
    | some process => some (l.setProcess pid (some { process with ended := true }))
    | none => none
  | .waitpid pid => l.waitpid pid
  | .erase pid => l.erase pid

/-! ## What the launcher knows -/

/-- The pid is that of a process of the component, which may have ended. -/
def Runs (l : CComponentLauncher) (component : Components) (pid : Pid) : Prop :=
  ∃ process, l.processes pid = some process ∧ process.component = component

/-- The component has a process with the pid that has not been told to terminate. -/
def Untold (l : CComponentLauncher) (component : Components) (pid : Pid) : Prop :=
  ∃ process, l.processes pid = some process ∧ process.component = component ∧
    process.told = false

/-- A thread is about to kill the process as one of the component, or to make it its entry. -/
def Holds (l : CComponentLauncher) (component : Components) (pid : Pid) : Prop :=
  l.place = .kill component pid ∨ l.place = .setPid component pid ∨
    l.toKill = some (component, pid)

/-- A component has one process at most that has not been told to terminate, and that is the one
that is known. What is known, and what will be killed, is a process of the component. -/
structure Tracked (l : CComponentLauncher) : Prop where
  single : ∀ component pid pid', l.Untold component pid → l.Untold component pid' → pid = pid'
  known : ∀ component pid, l.Untold component pid →
    l.mComponentPid component = some pid ∨ l.place = .setPid component pid
  entries : ∀ component pid, l.mComponentPid component = some pid →
    l.Runs component pid ∨ pid ∈ l.reaped
  held : ∀ component pid, l.Holds component pid → l.Runs component pid
  reaped : ∀ pid ∈ l.reaped, l.processes pid = none

/-- A process is not waited for while a thread is about to use its pid, and its pid is neither
looked up nor used again before the entry has been erased. -/
def Spares (l : CComponentLauncher) : Action → Prop
  | .next child =>
    (∀ component pid, l.place = .shutdownComponent component →
      l.mComponentPid component = some pid → pid ∉ l.reaped) ∧
    ∀ component pid, l.place = .launchComponent component → child = some pid →
      l.processes pid = none → pid ∉ l.reaped
  | .stopNext =>
    ∀ component toStop pid, l.toKill = none → l.toStop = component :: toStop →
      l.mComponentPid component = some pid → pid ∉ l.reaped
  | .waitpid pid =>
    ∀ component process, l.processes pid = some process → process.ended = true →
      ¬ l.Holds component pid
  | _ => True

/-! ## Processes -/

section processes

variable {l : CComponentLauncher} {component : Components} {pid pid' : Pid}

theorem Untold.runs (h : l.Untold component pid) : l.Runs component pid := by
  obtain ⟨process, hprocess, hcomponent, -⟩ := h
  exact ⟨process, hprocess, hcomponent⟩

theorem Runs.component_eq {component' : Components} (h : l.Runs component pid)
    (h' : l.Runs component' pid) : component = component' := by
  obtain ⟨process, hprocess, rfl⟩ := h
  obtain ⟨process', hprocess', rfl⟩ := h'
  rw [Option.some.inj (hprocess.symm.trans hprocess')]

theorem Runs.not_none (h : l.Runs component pid) : l.processes pid ≠ none := by
  obtain ⟨process, hprocess, -⟩ := h
  rw [hprocess]
  exact Option.some_ne_none process

theorem setProcess_self (process : Option Process) :
    (l.setProcess pid process).processes pid = process := Function.update_self ..

theorem setProcess_of_ne (h : pid' ≠ pid) (process : Option Process) :
    (l.setProcess pid process).processes pid' = l.processes pid' := Function.update_of_ne h ..

/-- A process that stays one of its component. -/
theorem runs_setProcess {process process' : Process} (h : l.processes pid = some process)
    (hcomponent : process'.component = process.component) :
    (l.setProcess pid (some process')).Runs component pid' ↔ l.Runs component pid' := by
  by_cases hpid : pid' = pid
  · subst hpid
    simp [Runs, setProcess_self, h, hcomponent]
  · simp [Runs, setProcess_of_ne hpid]

theorem runs_terminate :
    (l.terminate pid).Runs component pid' ↔ l.Runs component pid' := by
  rw [terminate]
  split
  · exact Iff.rfl
  · next process hprocess => exact runs_setProcess hprocess rfl

theorem untold_terminate :
    (l.terminate pid).Untold component pid' ↔ pid' ≠ pid ∧ l.Untold component pid' := by
  rw [terminate]
  split
  · next hnone =>
    refine ⟨fun h => ⟨?_, h⟩, And.right⟩
    rintro rfl
    exact h.runs.not_none hnone
  · by_cases hpid : pid' = pid
    · subst hpid
      simp [Untold, setProcess_self]
    · simp [Untold, setProcess_of_ne hpid, hpid]

theorem runs_setProcess_none :
    (l.setProcess pid none).Runs component pid' ↔ pid' ≠ pid ∧ l.Runs component pid' := by
  by_cases hpid : pid' = pid
  · subst hpid
    simp [Runs, setProcess_self]
  · simp [Runs, setProcess_of_ne hpid, hpid]

theorem untold_setProcess_none :
    (l.setProcess pid none).Untold component pid' ↔ pid' ≠ pid ∧ l.Untold component pid' := by
  by_cases hpid : pid' = pid
  · subst hpid
    simp [Untold, setProcess_self]
  · simp [Untold, setProcess_of_ne hpid, hpid]

theorem terminate_frame (l : CComponentLauncher) (pid : Pid) :
    (l.terminate pid).mComponentPid = l.mComponentPid ∧
    (l.terminate pid).place = l.place ∧ (l.terminate pid).toKill = l.toKill ∧
    (l.terminate pid).reaped = l.reaped := by
  rw [terminate]
  split <;> exact ⟨rfl, rfl, rfl, rfl⟩

end processes

/-! ## The invariant -/

/-- Before a process is started those of the component have been told to terminate. -/
def Ready (l : CComponentLauncher) : Prop :=
  match l.place with
  | .kill component pid | .setPid component pid => ∀ pid', l.Untold component pid' → pid' = pid
  | .launchComponent component => ∀ pid, ¬ l.Untold component pid
  | _ => True

structure Inv (l : CComponentLauncher) : Prop extends Tracked l where
  distinct : ∀ component component' pid, l.mComponentPid component = some pid →
    l.mComponentPid component' = some pid → component = component'
  ready : l.Ready

section inv

variable {l l' : CComponentLauncher} {component : Components} {pid : Pid}

theorem inv_init : init.Inv where
  single := fun _ _ _ ⟨_, h, _⟩ => by cases h
  known := fun _ _ ⟨_, h, _⟩ => by cases h
  entries := fun _ _ h => by cases h
  held := by
    intro component pid h
    rcases h with h | h | h <;> cases h
  reaped := fun _ _ => rfl
  distinct := fun _ _ _ h => by cases h
  ready := trivial

/-- The thread goes on, and no process is started or killed. -/
theorem Inv.move {place : Place} (hi : l.Inv) (hplace : ∀ component pid,
      l.place ≠ .setPid component pid)
    (hheld : ∀ component pid, place = .kill component pid ∨ place = .setPid component pid →
      l.Runs component pid)
    (hready : ({ l with place } : CComponentLauncher).Ready) :
    ({ l with place } : CComponentLauncher).Inv where
  single := hi.single
  known := fun component pid h =>
    Or.inl ((hi.known component pid h).resolve_right (hplace component pid))
  entries := hi.entries
  held := by
    intro component pid h
    rcases h with h | h | h
    · exact hheld component pid (Or.inl h)
    · exact hheld component pid (Or.inr h)
    · exact hi.held component pid (Or.inr (Or.inr h))
  reaped := hi.reaped
  distinct := hi.distinct
  ready := hready

/-- It is enough that no process has come that has not been told. -/
theorem Inv.ready_of_untold (hi : l.Inv) (hplace : l'.place = l.place)
    (huntold : ∀ component pid, l'.Untold component pid → l.Untold component pid) : l'.Ready := by
  have hready := hi.ready
  rw [Ready] at hready ⊢
  rw [hplace]
  cases h : l.place with
  | kill component pid | setPid component pid =>
    rw [h] at hready
    exact fun pid' h => hready pid' (huntold component pid' h)
  | launchComponent component =>
    rw [h] at hready
    exact fun pid' h => hready pid' (huntold component pid' h)
  | idle | isComponentRunning component | shutdownComponent component => trivial

/-- A process is told to terminate. -/
theorem Inv.terminate (hi : l.Inv) (pid : Pid) : (l.terminate pid).Inv := by
  obtain ⟨hmap, hplace, htoKill, hreaped⟩ := terminate_frame l pid
  refine ⟨⟨?_, ?_, ?_, ?_, ?_⟩, ?_, ?_⟩
  · intro component pid₁ pid₂ h₁ h₂
    exact hi.single component pid₁ pid₂ (untold_terminate.mp h₁).2 (untold_terminate.mp h₂).2
  · intro component pid₁ h
    rw [hmap, hplace]
    exact hi.known component pid₁ (untold_terminate.mp h).2
  · intro component pid₁ h
    rw [hmap] at h
    rw [runs_terminate, hreaped]
    exact hi.entries component pid₁ h
  · intro component pid₁ h
    rw [Holds, hplace, htoKill] at h
    exact runs_terminate.mpr (hi.held component pid₁ h)
  · intro pid₁ h
    rw [hreaped] at h
    have hnone := hi.reaped pid₁ h
    rw [CComponentLauncher.terminate]
    split
    · exact hnone
    · next process hprocess =>
      have hne : pid₁ ≠ pid := by
        rintro rfl
        rw [hprocess] at hnone
        cases hnone
      rwa [setProcess_of_ne hne]
  · rw [hmap]
    exact hi.distinct
  · exact hi.ready_of_untold hplace fun _ _ h => (untold_terminate.mp h).2

/-- A pid that is found is that of a process of the component, unless it is about to be erased. -/
theorem Inv.runs_of_found (hi : l.Inv) (h : l.mComponentPid component = some pid)
    (hspares : pid ∉ l.reaped) : l.Runs component pid :=
  (hi.entries component pid h).resolve_right hspares

/-- A process is started when none of the component is left that has not been told. -/
theorem Inv.fork (hi : l.Inv) (hplace : l.place = .launchComponent component)
    (hpid : l.processes pid = none) (hspares : pid ∉ l.reaped) :
    ({ l.setProcess pid (some ⟨component, false, false⟩) with
      place := .setPid component pid } : CComponentLauncher).Inv := by
  have hruns : ∀ component' pid', l.Runs component' pid' →
      (l.setProcess pid (some ⟨component, false, false⟩)).Runs component' pid' := by
    intro component' pid' h
    have hne : pid' ≠ pid := by
      rintro rfl
      exact h.not_none hpid
    simpa [Runs, setProcess_of_ne hne] using h
  have huntold : ∀ component' pid',
      (l.setProcess pid (some ⟨component, false, false⟩)).Untold component' pid' →
      component' = component ∧ pid' = pid ∨ l.Untold component' pid' := by
    intro component' pid' ⟨process, hprocess, hcomponent, htold⟩
    by_cases hne : pid' = pid
    · subst hne
      rw [setProcess_self] at hprocess
      obtain rfl := Option.some.inj hprocess
      exact Or.inl ⟨hcomponent.symm, rfl⟩
    · rw [setProcess_of_ne hne] at hprocess
      exact Or.inr ⟨process, hprocess, hcomponent, htold⟩
  have hready := hi.ready
  rw [Ready, hplace] at hready
  have hnotSet : ∀ component' pid', l.place ≠ .setPid component' pid' := by
    intro component' pid' h
    rw [hplace] at h
    cases h
  refine ⟨⟨?_, ?_, ?_, ?_, ?_⟩, hi.distinct, ?_⟩
  · intro component' pid₁ pid₂ h₁ h₂
    rcases huntold component' pid₁ h₁ with ⟨rfl, rfl⟩ | hold₁
    · rcases huntold _ pid₂ h₂ with ⟨-, rfl⟩ | hold₂
      · rfl
      · exact absurd hold₂ (hready pid₂)
    · rcases huntold component' pid₂ h₂ with ⟨rfl, rfl⟩ | hold₂
      · exact absurd hold₁ (hready pid₁)
      · exact hi.single component' pid₁ pid₂ hold₁ hold₂
  · intro component' pid' h
    rcases huntold component' pid' h with ⟨rfl, rfl⟩ | h
    · exact Or.inr rfl
    · exact Or.inl ((hi.known component' pid' h).resolve_right (hnotSet component' pid'))
  · intro component' pid' h
    exact (hi.entries component' pid' h).imp_left (hruns component' pid')
  · intro component' pid' h
    rcases h with h | h | h
    · cases h
    · obtain ⟨rfl, rfl⟩ := Place.setPid.inj h
      exact ⟨_, setProcess_self _, rfl⟩
    · exact hruns component' pid' (hi.held component' pid' (Or.inr (Or.inr h)))
  · intro pid' h
    have hne : pid' ≠ pid := fun heq => hspares (heq ▸ h)
    exact (setProcess_of_ne hne _).trans (hi.reaped pid' h)
  · intro pid' h
    rcases huntold component pid' h with ⟨-, rfl⟩ | h
    · rfl
    · exact absurd h (hready pid')

/-- The new process takes the place of the one that has been told. -/
theorem Inv.setPid (hi : l.Inv) (hplace : l.place = .setPid component pid) :
    ({ l with
      mComponentPid := Function.update l.mComponentPid component (some pid)
      place := .idle } : CComponentLauncher).Inv := by
  have hruns := hi.held component pid (Or.inr (Or.inl hplace))
  have hready := hi.ready
  rw [Ready, hplace] at hready
  -- the pid is that of no other entry
  have hother : ∀ component', l.mComponentPid component' = some pid → component' = component := by
    intro component' h
    rcases hi.entries component' pid h with h | h
    · exact h.component_eq hruns
    · exact absurd (hi.reaped pid h) hruns.not_none
  refine ⟨⟨hi.single, ?_, ?_, ?_, hi.reaped⟩, ?_, trivial⟩
  · intro component' pid' h
    left
    by_cases hcomponent : component' = component
    · subst hcomponent
      simp [hready pid' h]
    · have hknown := hi.known component' pid' h
      rw [hplace] at hknown
      simp only [Function.update_of_ne hcomponent]
      refine hknown.resolve_right fun hset => hcomponent ?_
      exact (Place.setPid.inj hset).1.symm
  · intro component' pid' h
    by_cases hcomponent : component' = component
    · subst hcomponent
      simp only [Function.update_self] at h
      exact Or.inl (Option.some.inj h ▸ hruns)
    · simp only [Function.update_of_ne hcomponent] at h
      exact hi.entries component' pid' h
  · intro component' pid' h
    rcases h with h | h | h
    · cases h
    · cases h
    · exact hi.held component' pid' (Or.inr (Or.inr h))
  · intro component₁ component₂ pid' h₁ h₂
    by_cases hc₁ : component₁ = component <;> by_cases hc₂ : component₂ = component
    · rw [hc₁, hc₂]
    · subst hc₁
      simp only [Function.update_self] at h₁
      simp only [Function.update_of_ne hc₂] at h₂
      obtain rfl := Option.some.inj h₁
      exact (hother component₂ h₂).symm
    · subst hc₂
      simp only [Function.update_of_ne hc₁] at h₁
      simp only [Function.update_self] at h₂
      obtain rfl := Option.some.inj h₂
      exact hother component₁ h₁
    · simp only [Function.update_of_ne hc₁] at h₁
      simp only [Function.update_of_ne hc₂] at h₂
      exact hi.distinct component₁ component₂ pid' h₁ h₂

theorem Inv.next {child : Option Pid} (hi : l.Inv) (hspares : l.Spares (.next child))
    (h : l.next child = some l') : l'.Inv := by
  obtain ⟨hfound, hfork⟩ := hspares
  rw [CComponentLauncher.next] at h
  cases hplace : l.place with
  | idle =>
    simp only [hplace] at h
    cases h
  | isComponentRunning component =>
    simp only [hplace] at h
    obtain rfl := Option.some.inj h
    have hnot : ∀ component' pid, l.place ≠ .setPid component' pid := by simp [hplace]
    cases hmap : l.mComponentPid component with
    | none =>
      refine hi.move hnot (by simp) fun pid huntold => ?_
      have hknown := (hi.known component pid huntold).resolve_right (hnot component pid)
      rw [hmap] at hknown
      cases hknown
    | some pid => exact hi.move hnot (by simp) trivial
  | shutdownComponent component =>
    simp only [hplace] at h
    obtain rfl := Option.some.inj h
    have hnot : ∀ component' pid, l.place ≠ .setPid component' pid := by simp [hplace]
    have hknown : ∀ pid, l.Untold component pid → l.mComponentPid component = some pid :=
      fun pid huntold => (hi.known component pid huntold).resolve_right (hnot component pid)
    cases hmap : l.mComponentPid component with
    | none =>
      refine hi.move hnot (by simp) fun pid huntold => ?_
      have hnone := hknown pid huntold
      rw [hmap] at hnone
      cases hnone
    | some pid =>
      refine hi.move hnot ?_ fun pid' huntold => ?_
      · intro component' pid' hheld
        obtain ⟨rfl, rfl⟩ : component = component' ∧ pid = pid' := by simpa using hheld
        exact hi.runs_of_found hmap (hfound component pid hplace hmap)
      · exact (Option.some.inj (hmap.symm.trans (hknown pid' huntold))).symm
  | kill component pid =>
    simp only [hplace] at h
    obtain rfl := Option.some.inj h
    have hready := hi.ready
    rw [Ready, hplace] at hready
    refine (hi.terminate pid).move ?_ (by simp) fun pid' huntold => ?_
    · rw [(terminate_frame l pid).2.1, hplace]
      simp
    · obtain ⟨hne, huntold⟩ := untold_terminate.mp huntold
      exact hne (hready pid' huntold)
  | launchComponent component =>
    simp only [hplace] at h
    split at h
    · obtain rfl := Option.some.inj h
      exact hi.move (by simp [hplace]) (by simp) trivial
    · next pid =>
      split at h
      · cases h
      · next hnone =>
        obtain rfl := Option.some.inj h
        exact hi.fork hplace hnone (hfork component pid hplace rfl hnone)
  | setPid component pid =>
    simp only [hplace] at h
    obtain rfl := Option.some.inj h
    exact hi.setPid hplace

theorem Inv.stopNext (hi : l.Inv) (hspares : l.Spares .stopNext) (h : l.stopNext = some l') :
    l'.Inv := by
  -- what changes is `toKill`
  have hset : ∀ {l : CComponentLauncher} {toStop : List Components}
      {toKill : Option (Components × Pid)}, l.Inv →
      (∀ component pid, toKill = some (component, pid) → l.Runs component pid) →
      ({ l with toStop, toKill } : CComponentLauncher).Inv := by
    intro l toStop toKill hi hruns
    refine ⟨⟨hi.single, hi.known, hi.entries, ?_, hi.reaped⟩, hi.distinct, hi.ready⟩
    intro component pid h
    rcases h with h | h | h
    · exact hi.held component pid (Or.inl h)
    · exact hi.held component pid (Or.inr (Or.inl h))
    · exact hruns component pid h
  rw [CComponentLauncher.stopNext] at h
  split at h
  · next pid _ =>
    obtain rfl := Option.some.inj h
    exact hset (hi.terminate pid) fun _ _ h => nomatch h
  · next htoKill =>
    split at h
    · cases h
    · next component toStop htoStop =>
      obtain rfl := Option.some.inj h
      refine hset hi fun component' pid hfound => ?_
      obtain ⟨pid', hmap, heq⟩ := Option.map_eq_some_iff.mp hfound
      obtain ⟨rfl, rfl⟩ := Prod.mk.inj heq
      exact hi.runs_of_found hmap (hspares component toStop pid' htoKill htoStop hmap)

theorem Inv.ends {process : Process} (hi : l.Inv) (hprocess : l.processes pid = some process) :
    (l.setProcess pid (some { process with ended := true })).Inv := by
  have hruns : ∀ component pid',
      (l.setProcess pid (some { process with ended := true })).Runs component pid' ↔
        l.Runs component pid' := fun _ _ => runs_setProcess hprocess rfl
  have huntold : ∀ component pid',
      (l.setProcess pid (some { process with ended := true })).Untold component pid' →
        l.Untold component pid' := by
    intro component pid' ⟨process', hprocess', hcomponent, htold⟩
    by_cases hne : pid' = pid
    · subst hne
      rw [setProcess_self] at hprocess'
      obtain rfl := Option.some.inj hprocess'
      exact ⟨process, hprocess, hcomponent, htold⟩
    · rw [setProcess_of_ne hne] at hprocess'
      exact ⟨process', hprocess', hcomponent, htold⟩
  refine ⟨⟨?_, ?_, ?_, ?_, ?_⟩, hi.distinct, ?_⟩
  · intro component pid₁ pid₂ h₁ h₂
    exact hi.single component pid₁ pid₂ (huntold _ _ h₁) (huntold _ _ h₂)
  · exact fun component pid' h => hi.known component pid' (huntold component pid' h)
  · exact fun component pid' h => (hi.entries component pid' h).imp_left (hruns component pid').mpr
  · exact fun component pid' h => (hruns component pid').mpr (hi.held component pid' h)
  · intro pid' h
    have hne : pid' ≠ pid := by
      rintro rfl
      exact Option.some_ne_none _ (hprocess.symm.trans (hi.reaped pid' h))
    exact (setProcess_of_ne hne _).trans (hi.reaped pid' h)
  · exact hi.ready_of_untold rfl huntold

theorem Inv.waitpid (hi : l.Inv) (hspares : l.Spares (.waitpid pid))
    (h : l.waitpid pid = some l') : l'.Inv := by
  rw [CComponentLauncher.waitpid] at h
  split at h
  · next hprocess =>
    obtain rfl := Option.some.inj h
    have huntold : ∀ component pid', (l.setProcess pid none).Untold component pid' →
        l.Untold component pid' := fun _ _ h => (untold_setProcess_none.mp h).2
    refine ⟨⟨?_, ?_, ?_, ?_, ?_⟩, hi.distinct, ?_⟩
    · intro component pid₁ pid₂ h₁ h₂
      exact hi.single component pid₁ pid₂ (huntold _ _ h₁) (huntold _ _ h₂)
    · exact fun component pid' h => hi.known component pid' (huntold component pid' h)
    · intro component pid' h
      by_cases hpid : pid' = pid
      · exact Or.inr (List.mem_append_right _ (List.mem_singleton.mpr hpid))
      · exact (hi.entries component pid' h).imp
          (fun h => runs_setProcess_none.mpr ⟨hpid, h⟩) (List.mem_append_left _)
    · intro component pid' h
      have hpid : pid' ≠ pid := by
        rintro rfl
        exact hspares component _ hprocess rfl h
      exact runs_setProcess_none.mpr ⟨hpid, hi.held component pid' h⟩
    · intro pid' h
      by_cases hpid : pid' = pid
      · subst hpid
        exact setProcess_self _
      · rcases List.mem_append.mp h with h | h
        · exact (setProcess_of_ne hpid _).trans (hi.reaped pid' h)
        · exact absurd (List.mem_singleton.mp h) hpid
    · exact hi.ready_of_untold rfl huntold
  · cases h

theorem mem_components (component : Components) : component ∈ components := by
  cases component <;> decide

/-- Where the pid is one that has been waited for, the first entry with it is the only one. -/
theorem Inv.erase (hi : l.Inv) (h : l.erase pid = some l') : l'.Inv := by
  rw [CComponentLauncher.erase] at h
  split at h
  case isFalse => cases h
  next hreaped =>
  have hruns : ∀ component, ¬ l.Runs component pid :=
    fun component h => h.not_none (hi.reaped pid hreaped)
  have hentries : ∀ component pid', pid' ≠ pid → l.mComponentPid component = some pid' →
      l.Runs component pid' ∨ pid' ∈ l.reaped.erase pid := by
    intro component pid' hne h
    exact (hi.entries component pid' h).imp_right (List.mem_erase_of_ne hne).mpr
  simp only at h
  split at h
  · next hnone =>
    obtain rfl := Option.some.inj h
    refine ⟨⟨hi.single, hi.known, ?_, hi.held, ?_⟩, hi.distinct, hi.ready⟩
    · intro component pid' h
      refine hentries component pid' ?_ h
      rintro rfl
      have hnot := List.find?_eq_none.mp hnone component (mem_components component)
      exact hnot (decide_eq_true h)
    · exact fun pid' h => hi.reaped pid' (List.mem_of_mem_erase h)
  · next component hsome =>
    obtain rfl := Option.some.inj h
    have hmap : l.mComponentPid component = some pid := by
      simpa using List.find?_some hsome
    have hold : ∀ component' pid', Function.update l.mComponentPid component none component' =
        some pid' → component' ≠ component ∧ l.mComponentPid component' = some pid' := by
      intro component' pid' h
      by_cases hcomponent : component' = component
      · subst hcomponent
        rw [Function.update_self] at h
        cases h
      · rw [Function.update_of_ne hcomponent] at h
        exact ⟨hcomponent, h⟩
    refine ⟨⟨hi.single, ?_, ?_, hi.held, ?_⟩, ?_, hi.ready⟩
    · intro component' pid' huntold
      refine (hi.known component' pid' huntold).imp_left fun hknown => ?_
      have hcomponent : component' ≠ component := by
        rintro rfl
        obtain rfl := Option.some.inj (hmap.symm.trans hknown)
        exact hruns component' huntold.runs
      exact (Function.update_of_ne hcomponent ..).trans hknown
    · intro component' pid' hentry
      obtain ⟨hcomponent, hkept⟩ := hold component' pid' hentry
      refine hentries component' pid' ?_ hkept
      rintro rfl
      exact hcomponent (hi.distinct component' component pid' hkept hmap)
    · exact fun pid' h => hi.reaped pid' (List.mem_of_mem_erase h)
    · intro component₁ component₂ pid' h₁ h₂
      exact hi.distinct component₁ component₂ pid' (hold _ _ h₁).2 (hold _ _ h₂).2

theorem inv_step {a : Action} (hi : l.Inv) (hspares : l.Spares a) (h : step l a = some l') :
    l'.Inv := by
  cases a with
  | launch component =>
    rw [step] at h
    split at h
    · next hidle =>
      obtain rfl := Option.some.inj h
      exact hi.move (by simp [hidle]) (by simp) trivial
    · cases h
  | shutdownAllComponents =>
    rw [step] at h
    split at h
    · cases h
    · obtain rfl := Option.some.inj h
      exact ⟨⟨hi.single, hi.known, hi.entries, hi.held, hi.reaped⟩, hi.distinct, hi.ready⟩
  | next child => exact hi.next hspares h
  | stopNext => exact hi.stopNext hspares h
  | ends pid =>
    rw [step] at h
    split at h
    · next process hprocess =>
      obtain rfl := Option.some.inj h
      exact hi.ends hprocess
    · cases h
  | waitpid pid => exact hi.waitpid hspares h
  | erase pid => exact hi.erase h

/-- A process that is held has not been waited for. -/
theorem Tracked.not_reaped (h : l.Tracked) (hheld : l.Holds component pid) : pid ∉ l.reaped :=
  fun hreaped => (h.held component pid hheld).not_none (h.reaped pid hreaped)

theorem tracked_iff_spares {a : Action} (hi : l.Inv) :
    (∀ l', step l a = some l' → l'.Tracked) ↔ l.Spares a := by
  refine ⟨?_, fun hspares l' h => (inv_step hi hspares h).toTracked⟩
  intro htracked
  cases a with
  | launch component => trivial
  | shutdownAllComponents => trivial
  | next child =>
    constructor
    · intro component pid hplace hmap
      have h : step l (.next child) = some { l with place := .kill component pid } := by
        rw [step, CComponentLauncher.next]
        simp only [hplace, hmap]
      exact (htracked _ h).not_reaped (Or.inl rfl)
    · rintro component pid hplace rfl hnone
      have h : step l (.next (some pid)) = some
          { l.setProcess pid (some ⟨component, false, false⟩) with
            place := .setPid component pid } := by
        rw [step, CComponentLauncher.next]
        simp only [hplace, hnone]
      exact (htracked _ h).not_reaped (Or.inr (Or.inl rfl))
  | stopNext =>
    intro component toStop pid htoKill htoStop hmap
    have h : step l .stopNext = some { l with toStop, toKill := some (component, pid) } := by
      rw [step, CComponentLauncher.stopNext]
      simp only [htoKill, htoStop, hmap, Option.map_some]
    exact (htracked _ h).not_reaped (Or.inr (Or.inr rfl))
  | ends pid => trivial
  | waitpid pid =>
    intro component process hprocess hended hheld
    have h : step l (.waitpid pid) =
        some { l.setProcess pid none with reaped := l.reaped ++ [pid] } := by
      obtain ⟨component', told, ended⟩ := process
      obtain rfl : ended = true := hended
      rw [step, CComponentLauncher.waitpid]
      simp only [hprocess]
    have hin : pid ∈ l.reaped ++ [pid] := List.mem_append_right _ (List.mem_singleton.mpr rfl)
    exact (htracked _ h).not_reaped hheld hin
  | erase pid => trivial

end inv

end CComponentLauncher

end IviLink.SystemController.Launching
