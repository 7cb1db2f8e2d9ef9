import IviLink.Lib.Rivals
import Mathlib.Data.List.Induction
import Mathlib.Data.Option.Basic
import Mathlib.Logic.Function.Iterate

/-!
# The watchdog of the system controller

A component sends datagrams to a port of its own. The watchdog binds the port when it is told that
the component was launched, and takes one datagram of each port in a round, without waiting. A
component that has not answered for `MAX_FAIL_COUNT` rounds is down, and a component that is down
makes the watchdog restart the stack.

A port that is bound already cannot be bound once more, and the listener's thread tries for ever.
The rounds go on, with the components that are known by then.
-/

namespace IviLink.SystemController.Watchdog

/-- `SystemController::Components` -/
inductive Components
  | PROFILE_MANAGER
  | CHANNEL_SUPERVISOR
  | CONNECTIVITY_AGENT
  | APPLICATION_MANAGER
  | AUTHENTICATION_APP
  | SPLASH_SCREEN
  | SYSTEM_CONTROLLER
  | SYSTEM_CONTROLLER_WATCHDOG
  deriving DecidableEq

inductive Statuses
  | IS_UP
  | IS_DOWN
  | NOT_STARTED
  deriving DecidableEq

def MAX_FAIL_COUNT : Nat := 5

structure Component where
  component : Components
  status : Statuses
  failCount : Nat
  /-- The datagrams that wait in the socket. -/
  socket : List UInt8
  deriving DecidableEq

namespace Component

/-- `Component::Component`: the port was not bound before, so nothing waits there. -/
def new (component : Components) : Component := ⟨component, .IS_UP, 0, []⟩

/-- `isComponentResponsive`, with what `receiveMessage` leaves in the socket. -/
def isResponsive (c : Component) : Bool × Component :=
  match c.socket with
  | [] => (false, c)
  | message :: rest => (message ≠ 0, { c with socket := rest })

/-- `updateComponentStatus` -/
def updateStatus (c : Component) : Component :=
  match c.isResponsive with
  | (true, c) => { c with status := .IS_UP, failCount := 0 }
  | (false, c) =>
    { c with
      failCount := c.failCount + 1
      status := if MAX_FAIL_COUNT ≤ c.failCount + 1 then .IS_DOWN else c.status }

end Component

structure SystemControllerWatchdog where
  /-- One for each key. -/
  componentStatusMap : List Component
  /-- The listener's thread does not come back from `initReceiver`. -/
  blocked : Bool
  deriving DecidableEq

namespace SystemControllerWatchdog

/-- `componentStatusMap.find` -/
def find (w : SystemControllerWatchdog) (key : Components) : Option Component :=
  w.componentStatusMap.find? fun c => c.component = key

/-- `addComponent(new Component(key))` -/
def addComponent (w : SystemControllerWatchdog) (key : Components) : SystemControllerWatchdog :=
  match w.find key with
  | some _ => { w with blocked := true }
  | none => { w with componentStatusMap := w.componentStatusMap ++ [.new key] }

def removeComponent (w : SystemControllerWatchdog) (key : Components) : SystemControllerWatchdog :=
  { w with componentStatusMap := w.componentStatusMap.filter fun c => c.component ≠ key }

def updateAllComponentsStatus (w : SystemControllerWatchdog) : SystemControllerWatchdog :=
  { w with componentStatusMap := w.componentStatusMap.map Component.updateStatus }

def getNumberOfFailComponent (w : SystemControllerWatchdog) : Nat :=
  w.componentStatusMap.countP fun c => c.status = .IS_DOWN

/-- `waitLoop`, with the watchdog after it. -/
def waitLoop (w : SystemControllerWatchdog) : Bool × SystemControllerWatchdog :=
  let w := w.updateAllComponentsStatus
  (w.getNumberOfFailComponent = 0, w)

/-- A datagram reaches the socket. One to a port that is not bound is lost. -/
def receive (w : SystemControllerWatchdog) (key : Components) (message : UInt8) :
    SystemControllerWatchdog :=
  { w with componentStatusMap := w.componentStatusMap.map fun c =>
      if c.component = key then { c with socket := c.socket ++ [message] } else c }

inductive Event
  /-- The system controller tells that it has launched a component. -/
  | started (key : Components)
  | stopped (key : Components)
  | datagram (key : Components) (message : UInt8)
  | round
  deriving DecidableEq

def step (w : SystemControllerWatchdog) : Event → SystemControllerWatchdog
  | .started key => if w.blocked then w else w.addComponent key
  | .stopped key => if w.blocked then w else w.removeComponent key
  | .datagram key message => w.receive key message
  | .round => w.waitLoop.2

/-- The listener adds the system controller itself, before the first round. -/
def init : SystemControllerWatchdog := ⟨[.new .SYSTEM_CONTROLLER], false⟩

def after (es : List Event) : SystemControllerWatchdog := es.foldl step init

end SystemControllerWatchdog

/-! ## What the watchdog is for -/

/-- A component that is watched: the datagrams that wait, and what the rounds have taken, the last
one first. -/
structure Watched where
  waiting : List UInt8
  taken : List (Option UInt8)

namespace Watched

def start : Watched := ⟨[], []⟩

def round (h : Watched) : Watched := ⟨h.waiting.tail, h.waiting.head? :: h.taken⟩

/-- A round has got no answer. -/
def Silent (t : Option UInt8) : Prop := t = none ∨ t = some 0

instance : DecidablePred Silent := fun t => inferInstanceAs (Decidable (t = none ∨ t = some 0))

/-- The last rounds that have got no answer. -/
def silence (h : Watched) : Nat := (h.taken.takeWhile fun t => Silent t).length

end Watched

/-- Who is watched, as long as the listener listens. -/
structure Watch where
  listening : Bool
  watched : Components → Option Watched

namespace Watch

open SystemControllerWatchdog (Event)

def set (a : Watch) (key : Components) (h : Option Watched) : Watch :=
  { a with watched := Function.update a.watched key h }

def step (a : Watch) : Event → Watch
  | .started key =>
    if a.listening then
      match a.watched key with
      | some _ => { a with listening := false }
      | none => a.set key (some .start)
    else a
  | .stopped key => if a.listening then a.set key none else a
  | .datagram key message =>
    a.set key ((a.watched key).map fun h => { h with waiting := h.waiting ++ [message] })
  | .round => { a with watched := fun key => (a.watched key).map Watched.round }

def init : Watch := Watch.set ⟨true, fun _ => none⟩ .SYSTEM_CONTROLLER (some .start)

def after (es : List Event) : Watch := es.foldl step init

end Watch

/-! ## Refinement -/

open SystemControllerWatchdog (Event)

variable {c : Component} {h : Watched} {w : SystemControllerWatchdog} {a : Watch}
variable {key : Components}

/-- The component's record says how long it has been silent. -/
structure Agrees (c : Component) (h : Watched) : Prop where
  socket : c.socket = h.waiting
  failCount : c.failCount = h.silence
  status : c.status = .IS_DOWN ↔ MAX_FAIL_COUNT ≤ h.silence

theorem agrees_new : Agrees (.new key) .start :=
  ⟨rfl, rfl, by simp [Component.new, Watched.start, Watched.silence, MAX_FAIL_COUNT]⟩

namespace Watched

theorem silence_round_nil (hq : h.waiting = []) : h.round.silence = h.silence + 1 := by
  simp [silence, round, hq, Silent]

theorem silence_round_cons {message : UInt8} {rest : List UInt8}
    (hq : h.waiting = message :: rest) :
    h.round.silence = if message = 0 then h.silence + 1 else 0 := by
  by_cases hm : message = 0
  · simp [silence, round, hq, Silent, hm]
  · simp [silence, round, hq, Silent, hm]

end Watched

namespace Component

@[simp] theorem component_updateStatus (c : Component) :
    c.updateStatus.component = c.component := by
  unfold updateStatus isResponsive
  cases c.socket with
  | nil => rfl
  | cons message rest => by_cases hm : message = 0 <;> simp [hm]

/-- A round without an answer counts one more failure. -/
theorem agrees_silent {socket : List UInt8} (hc : Agrees c h) (hs : h.round.waiting = socket)
    (hn : h.round.silence = h.silence + 1) :
    Agrees { c with
      socket := socket
      failCount := c.failCount + 1
      status := if MAX_FAIL_COUNT ≤ c.failCount + 1 then .IS_DOWN else c.status } h.round := by
  refine ⟨hs.symm, by rw [hn, hc.failCount], ?_⟩
  rw [hn, hc.failCount]
  split
  case isTrue hmax => simp [hmax]
  case isFalse hmax =>
    rw [hc.status]
    omega

theorem agrees_updateStatus (hc : Agrees c h) : Agrees c.updateStatus h.round := by
  have hsocket := hc.socket
  cases hq : h.waiting with
  | nil =>
    rw [hq] at hsocket
    have hround : h.round.waiting = c.socket := by simp [Watched.round, hq, hsocket]
    have hup := agrees_silent hc hround (Watched.silence_round_nil hq)
    simpa [updateStatus, isResponsive, hsocket] using hup
  | cons message rest =>
    rw [hq] at hsocket
    have hround : h.round.waiting = rest := by simp [Watched.round, hq]
    have hsilence := Watched.silence_round_cons hq
    by_cases hm : message = 0
    · rw [if_pos hm] at hsilence
      have hup := agrees_silent hc hround hsilence
      simpa [updateStatus, isResponsive, hsocket, hm] using hup
    · -- an answer resets the counters
      rw [if_neg hm] at hsilence
      refine ⟨?_, ?_, ?_⟩
      · simp [updateStatus, isResponsive, hsocket, hm, hround]
      · simp [updateStatus, isResponsive, hsocket, hm, hsilence]
      · simp [updateStatus, isResponsive, hsocket, hm, hsilence, MAX_FAIL_COUNT]

end Component

/-- The watchdog keeps one record for each that is watched. -/
structure Refines (w : SystemControllerWatchdog) (a : Watch) : Prop where
  listening : w.blocked = !a.listening
  keyed : Lib.Keyed Component.component w.componentStatusMap
  watched : ∀ key, Option.Rel Agrees (w.find key) (a.watched key)

namespace SystemControllerWatchdog

/-- A change of the records that leaves the keys. -/
theorem find_map {f : Component → Component} (hf : ∀ c, (f c).component = c.component) :
    find ⟨w.componentStatusMap.map f, w.blocked⟩ key = (w.find key).map f := by
  rw [find, List.find?_map, find]
  congr 2
  funext c
  simp [hf]

theorem component_of_find (h : w.find key = some c) : c.component = key := by
  have hc := List.find?_some h
  simpa using hc

theorem mem_of_find (h : w.find key = some c) : c ∈ w.componentStatusMap :=
  List.mem_of_find?_eq_some h

theorem find_addComponent (hnone : w.find key = none) (key' : Components) :
    (w.addComponent key).find key' = if key' = key then some (.new key) else w.find key' := by
  have hadd : w.addComponent key =
      { w with componentStatusMap := w.componentStatusMap ++ [.new key] } := by
    simp only [addComponent, hnone]
  rw [hadd, find, List.find?_append]
  by_cases hk : key' = key
  · subst hk
    rw [find] at hnone
    rw [hnone, if_pos rfl]
    simp [Component.new]
  · rw [if_neg hk]
    have hne : (Component.new key).component ≠ key' := fun h => hk h.symm
    simp [find, hne]

theorem find_removeComponent (key' : Components) :
    (w.removeComponent key).find key' = if key' = key then none else w.find key' := by
  rw [removeComponent, find, List.find?_filter]
  by_cases hk : key' = key
  · rw [if_pos hk, List.find?_eq_none]
    intro c _
    simp [hk]
  · rw [if_neg hk, find]
    congr 1
    funext c
    by_cases hc : c.component = key'
    · simp [hc, hk]
    · simp [hc]

theorem find_of_mem (hw : Lib.Keyed Component.component w.componentStatusMap)
    (hc : c ∈ w.componentStatusMap) : w.find c.component = some c := by
  cases hf : w.find c.component with
  | none =>
    have hno := List.find?_eq_none.mp hf c hc
    simp at hno
  | some c' => rw [hw.eq (mem_of_find hf) hc (component_of_find hf)]

end SystemControllerWatchdog

theorem rel_map {f : Component → Component} {g : Watched → Watched} {o : Option Component}
    {o' : Option Watched} (hfg : ∀ c h, Agrees c h → Agrees (f c) (g h))
    (ho : Option.Rel Agrees o o') : Option.Rel Agrees (o.map f) (o'.map g) := by
  cases ho with
  | none => exact .none
  | some h => exact .some (hfg _ _ h)

theorem of_rel_some {o : Option Watched} (h : Option.Rel Agrees (some c) o) :
    ∃ h, o = some h ∧ Agrees c h := by
  cases h with
  | some hc => exact ⟨_, rfl, hc⟩

theorem of_rel_none {o : Option Watched} (h : Option.Rel Agrees none o) : o = none := by
  cases h with
  | none => rfl

namespace Refines

open SystemControllerWatchdog

/-- One that is watched has a record. -/
theorem record (hr : Refines w a) (hh : a.watched key = some h) :
    ∃ c, w.find key = some c ∧ Agrees c h := by
  have hwatched := hr.watched key
  cases hf : w.find key with
  | none =>
    rw [hf] at hwatched
    rw [of_rel_none hwatched] at hh
    cases hh
  | some c =>
    rw [hf] at hwatched
    obtain ⟨h', hh', hc⟩ := of_rel_some hwatched
    rw [hh] at hh'
    cases hh'
    exact ⟨c, rfl, hc⟩

theorem init : Refines .init .init where
  listening := rfl
  keyed := by simp [SystemControllerWatchdog.init, Lib.Keyed]
  watched key := by
    by_cases hk : key = .SYSTEM_CONTROLLER
    · subst hk
      exact .some agrees_new
    · have hfind : SystemControllerWatchdog.init.find key = none := by
        simp [SystemControllerWatchdog.init, find, Component.new, Ne.symm hk]
      have hwatched : Watch.init.watched key = none := by
        simp [Watch.init, Watch.set, hk]
      rw [hfind, hwatched]
      exact .none

/-- The records are changed in place. -/
theorem map (hr : Refines w a) {f : Component → Component}
    (hf : ∀ c, (f c).component = c.component) {watched : Components → Option Watched}
    (hw : ∀ key, Option.Rel Agrees ((w.find key).map f) (watched key)) :
    Refines ⟨w.componentStatusMap.map f, w.blocked⟩ ⟨a.listening, watched⟩ where
  listening := hr.listening
  keyed := by
    have hkeys : (w.componentStatusMap.map f).map Component.component =
        w.componentStatusMap.map Component.component := by
      rw [List.map_map]
      exact List.map_congr_left fun c _ => hf c
    rw [Lib.Keyed, hkeys]
    exact hr.keyed
  watched key := by
    rw [find_map hf]
    exact hw key

theorem addComponent (hr : Refines w a) (hl : a.listening = true) :
    Refines (w.addComponent key) (a.step (.started key)) := by
  have hwatched := hr.watched key
  cases hf : w.find key with
  | some c =>
    -- the port is bound: the listener does not come back
    rw [hf] at hwatched
    obtain ⟨h, ha, -⟩ := of_rel_some hwatched
    have hadd : w.addComponent key = { w with blocked := true } := by
      simp only [SystemControllerWatchdog.addComponent, hf]
    have hstep : a.step (.started key) = { a with listening := false } := by
      simp only [Watch.step, hl, ha, if_true]
    rw [hadd, hstep]
    exact ⟨rfl, hr.keyed, hr.watched⟩
  | none =>
    rw [hf] at hwatched
    have ha := of_rel_none hwatched
    have hstep : a.step (.started key) = a.set key (some .start) := by
      simp only [Watch.step, hl, ha, if_true]
    rw [hstep]
    refine ⟨?_, ?_, ?_⟩
    · simp only [SystemControllerWatchdog.addComponent, hf, Watch.set, hr.listening]
    · have hnew : ∀ c ∈ w.componentStatusMap, c.component ≠ (Component.new key).component := by
        intro c hc heq
        have hno := List.find?_eq_none.mp hf c hc
        exact hno (decide_eq_true heq)
      have hkeyed := hr.keyed.insert hnew w.componentStatusMap.length
      simpa [SystemControllerWatchdog.addComponent, hf] using hkeyed
    · intro key'
      rw [find_addComponent hf]
      by_cases hk : key' = key
      · subst hk
        simpa [Watch.set] using Option.Rel.some agrees_new
      · simpa [Watch.set, hk] using hr.watched key'

theorem removeComponent (hr : Refines w a) :
    Refines (w.removeComponent key) (a.set key none) where
  listening := hr.listening
  keyed := hr.keyed.sublist List.filter_sublist
  watched key' := by
    rw [find_removeComponent]
    by_cases hk : key' = key
    · subst hk
      simp [Watch.set]
    · simpa [Watch.set, hk] using hr.watched key'

theorem receive (hr : Refines w a) (message : UInt8) :
    Refines (w.receive key message) (a.step (.datagram key message)) := by
  refine hr.map (fun c => by split <;> rfl) ?_
  intro key'
  by_cases hk : key' = key
  · subst hk
    have hrel : Option.Rel Agrees
        ((w.find key').map fun c => { c with socket := c.socket ++ [message] })
        ((a.watched key').map fun h => { h with waiting := h.waiting ++ [message] }) := by
      refine rel_map ?_ (hr.watched key')
      intro c h hc
      exact ⟨by rw [hc.socket], hc.failCount, hc.status⟩
    have hmap : ((w.find key').map fun c =>
        if c.component = key' then { c with socket := c.socket ++ [message] } else c) =
        (w.find key').map fun c => { c with socket := c.socket ++ [message] } := by
      refine Option.map_congr ?_
      intro c hc
      rw [if_pos (component_of_find hc)]
    rw [hmap]
    simpa [Watch.set] using hrel
  · have hmap : ((w.find key').map fun c =>
        if c.component = key then { c with socket := c.socket ++ [message] } else c) =
        w.find key' := by
      cases hf : w.find key' with
      | none => rfl
      | some c =>
        have hc : c.component ≠ key := by
          rw [component_of_find hf]
          exact hk
        rw [Option.map_some, if_neg hc]
    rw [hmap]
    simpa [Watch.set, hk] using hr.watched key'

theorem waitLoop (hr : Refines w a) : Refines w.waitLoop.2 (a.step .round) :=
  hr.map Component.component_updateStatus
    fun key => rel_map (fun _ _ hc => Component.agrees_updateStatus hc) (hr.watched key)

theorem step (hr : Refines w a) (e : Event) : Refines (w.step e) (a.step e) := by
  have hlisten := hr.listening
  cases e with
  | started key =>
    cases hl : a.listening with
    | false => simpa [SystemControllerWatchdog.step, Watch.step, hlisten, hl] using hr
    | true =>
      have hadd : Refines (w.addComponent key) (a.step (.started key)) := hr.addComponent hl
      simpa [SystemControllerWatchdog.step, hlisten, hl] using hadd
  | stopped key =>
    cases hl : a.listening with
    | false => simpa [SystemControllerWatchdog.step, Watch.step, hlisten, hl] using hr
    | true =>
      have hremove : Refines (w.removeComponent key) (a.set key none) := hr.removeComponent
      simpa [SystemControllerWatchdog.step, Watch.step, hlisten, hl] using hremove
  | datagram key message => exact hr.receive message
  | round => exact hr.waitLoop

theorem after (es : List Event) : Refines (.after es) (.after es) := by
  induction es using List.reverseRecOn with
  | nil => exact init
  | append_singleton es e ih =>
    rw [SystemControllerWatchdog.after, Watch.after, List.foldl_append, List.foldl_append]
    exact ih.step e

/-- The round fails where one has been silent for too long. -/
theorem waitLoop_eq_false (hr : Refines w a) : w.waitLoop.1 = false ↔
    ∃ key h, (a.step .round).watched key = some h ∧ MAX_FAIL_COUNT ≤ h.silence := by
  have hround := hr.waitLoop
  have hcount : w.waitLoop.1 = false ↔ ∃ c ∈ w.waitLoop.2.componentStatusMap,
      c.status = .IS_DOWN := by
    simp [SystemControllerWatchdog.waitLoop, getNumberOfFailComponent]
  rw [hcount]
  constructor
  · rintro ⟨c, hc, hdown⟩
    have hwatched := hround.watched c.component
    rw [find_of_mem hround.keyed hc] at hwatched
    obtain ⟨h, hh, hagrees⟩ := of_rel_some hwatched
    exact ⟨c.component, h, hh, hagrees.status.mp hdown⟩
  · rintro ⟨key, h, hh, hsilence⟩
    obtain ⟨c, hc, hagrees⟩ := hround.record hh
    exact ⟨c, mem_of_find hc, hagrees.status.mpr hsilence⟩

end Refines

/-- **A round fails exactly where a component that is watched has not answered the last five
rounds**, this one included, whatever was launched, stopped and sent before. -/
theorem round_fails_iff (es : List Event) :
    (SystemControllerWatchdog.after es).waitLoop.1 = false ↔
      ∃ key h, (Watch.after (es ++ [.round])).watched key = some h ∧
        MAX_FAIL_COUNT ≤ h.silence := by
  rw [Watch.after, List.foldl_append]
  exact (Refines.after es).waitLoop_eq_false

/-! ## How long it takes -/

/-- The events that a component can bring about. -/
def Concerns (key : Components) (e : Event) : Prop :=
  e = .started key ∨ e = .stopped key ∨ ∃ message, e = .datagram key message

theorem Watch.watched_step {e : Event} (hh : a.watched key = some h) (he : ¬ Concerns key e) :
    (a.step e).watched key = some (if e = .round then h.round else h) := by
  cases e with
  | started key' =>
    have hk : key ≠ key' := fun heq => he (Or.inl (by rw [heq]))
    simp only [Watch.step, reduceCtorEq, if_false]
    split
    · split
      · exact hh
      · simpa [Watch.set, hk] using hh
    · exact hh
  | stopped key' =>
    have hk : key ≠ key' := fun heq => he (Or.inr (Or.inl (by rw [heq])))
    simp only [Watch.step, reduceCtorEq, if_false]
    split
    · simpa [Watch.set, hk] using hh
    · exact hh
  | datagram key' message =>
    have hk : key ≠ key' := fun heq => he (Or.inr (Or.inr ⟨message, by rw [heq]⟩))
    simpa [Watch.step, Watch.set, hk] using hh
  | round => simp [Watch.step, hh]

/-- Nothing but the rounds touches a component that sends nothing. -/
theorem Watch.watched_quiet {es : List Event} (hes : ∀ e ∈ es, ¬ Concerns key e)
    (hh : a.watched key = some h) :
    (es.foldl Watch.step a).watched key = some (Watched.round^[es.count .round] h) := by
  induction es generalizing a h with
  | nil => exact hh
  | cons e rest ih =>
    have hstep := Watch.watched_step hh (hes e List.mem_cons_self)
    have hrest := ih (fun e' he' => hes e' (List.mem_cons_of_mem e he')) hstep
    rw [List.foldl_cons, hrest]
    by_cases he : e = .round
    · rw [if_pos he, he, List.count_cons_self, Function.iterate_succ_apply]
    · rw [if_neg he, List.count_cons_of_ne he]

/-- The datagrams that wait hide the silence, for one round each. -/
theorem Watched.silence_rounds (hq : 0 ∉ h.waiting) (n : Nat) :
    (Watched.round^[n] h).silence =
      if n = 0 ∨ h.waiting = [] then h.silence + n else n - h.waiting.length := by
  induction n generalizing h with
  | zero => simp
  | succ n ih =>
    rw [Function.iterate_succ_apply]
    cases hw : h.waiting with
    | nil =>
      have hround : h.round.waiting = [] := by simp [Watched.round, hw]
      rw [ih (by simp [hround]), if_pos (Or.inr hround), Watched.silence_round_nil hw,
        if_pos (Or.inr rfl)]
      omega
    | cons message rest =>
      rw [hw, List.mem_cons, not_or] at hq
      have hround : h.round.waiting = rest := by simp [Watched.round, hw]
      have hzero : h.round.silence = 0 := by
        rw [Watched.silence_round_cons hw, if_neg (Ne.symm hq.1)]
      have hmore : ¬ (n + 1 = 0 ∨ message :: rest = []) := by simp
      rw [ih (by rw [hround]; exact hq.2), hround, hzero, if_neg hmore, List.length_cons]
      split
      case isTrue hn =>
        obtain rfl | rfl := hn
        · simp
        · simp
      case isFalse => omega

/-- **A component that stops sending is down after five rounds, and after one more for each of
its datagrams that still waits**, not earlier and not later, and stays down: whatever the other
components do. -/
theorem down_iff (es quiet : List Event) {c : Component}
    (hc : (SystemControllerWatchdog.after es).find key = some c) (hs : 0 ∉ c.socket)
    (hquiet : ∀ e ∈ quiet, ¬ Concerns key e) :
    ∃ c', (SystemControllerWatchdog.after (es ++ quiet)).find key = some c' ∧
      (c'.status = .IS_DOWN ↔
        if quiet.count .round = 0 ∨ c.socket = [] then
          MAX_FAIL_COUNT ≤ c.failCount + quiet.count .round
        else c.socket.length + MAX_FAIL_COUNT ≤ quiet.count .round) := by
  have hbefore := (Refines.after es).watched key
  rw [hc] at hbefore
  obtain ⟨h, hh, hagrees⟩ := of_rel_some hbefore
  rw [hagrees.socket] at hs
  have hwatched : (Watch.after (es ++ quiet)).watched key =
      some (Watched.round^[quiet.count .round] h) := by
    rw [Watch.after, List.foldl_append]
    exact Watch.watched_quiet hquiet hh
  obtain ⟨c', hc', hagrees'⟩ := (Refines.after (es ++ quiet)).record hwatched
  refine ⟨c', hc', ?_⟩
  rw [hagrees'.status, Watched.silence_rounds hs, hagrees.socket, hagrees.failCount]
  split
  case isTrue => rfl
  case isFalse =>
    have hmax : 0 < MAX_FAIL_COUNT := by decide
    omega

/-- The profile manager has sent twice before the first round, and nothing after it. -/
theorem down_iff_profileManager :
    ∃ c', (SystemControllerWatchdog.after ([.started .PROFILE_MANAGER,
        .datagram .PROFILE_MANAGER 1, .datagram .PROFILE_MANAGER 1] ++
        List.replicate 7 .round)).find .PROFILE_MANAGER = some c' ∧
      (c'.status = .IS_DOWN ↔ 2 + MAX_FAIL_COUNT ≤ 7) := by
  have hc : (SystemControllerWatchdog.after [.started .PROFILE_MANAGER,
      .datagram .PROFILE_MANAGER 1, .datagram .PROFILE_MANAGER 1]).find .PROFILE_MANAGER =
      some ⟨.PROFILE_MANAGER, .IS_UP, 0, [1, 1]⟩ := by decide
  have hdown := down_iff _ (List.replicate 7 .round) hc (by decide)
    (by intro e he; rw [List.eq_of_mem_replicate he]; simp [Concerns])
  simpa using hdown

end IviLink.SystemController.Watchdog
