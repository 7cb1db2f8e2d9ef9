import IviLink.Lib.Run
import IviLink.MessageProtocols.AppManMessages
import Mathlib.Data.List.Nodup
import Mathlib.Data.List.Perm.Basic

/-!
# Session requests that come early

`CAppManProtoClient::OnRequest` looks at `mAppInited` and calls the handler, or puts the request
into `mSessionReqsList`. The thread of `CAppManProxy` calls `initApplication`, which sets the flag,
and then `checkSessionRequest`, which calls the handler for every request of the list and clears
it. Nothing of this is locked.

A step is one access to what the threads share. Each call of `OnRequest` has a number, by which
its request is told from others with the same uids. The handler is there (`init`).
-/

namespace IviLink.AppMan.Ipc

/-- `tSessionRequestInfo`, with the number of the call. -/
structure SessionRequestInfo where
  number : Nat
  mPid : Pid
  mSession : ServiceUid
  mUid : ServiceUid
  deriving DecidableEq, Repr

/-- Where `checkSessionRequest` is. The end of a list stays its end when something is pushed. -/
inductive Check
  | idle
  /-- `it` points to the element at this index. -/
  | pointing (index : Nat)
  /-- The handler has been called for it. -/
  | called (index : Nat)
  /-- `it` is the end of the list. -/
  | atEnd
  deriving DecidableEq, Repr

structure EarlyRequests where
  mAppInited : Bool
  mSessionReqsList : List SessionRequestInfo
  /-- The calls of `OnRequest` that have not returned, with what they have read of the flag. -/
  receiving : List (SessionRequestInfo × Option Bool)
  check : Check
  /-- `checkSessionRequest` has run. -/
  checked : Bool
  received : List SessionRequestInfo
  /-- The calls of the handler. -/
  passed : List SessionRequestInfo
  deriving DecidableEq, Repr

namespace EarlyRequests

def init : EarlyRequests := ⟨false, [], [], .idle, false, [], []⟩

/-- `it` at an index, or at the end where there is no such element. -/
def pointTo (c : EarlyRequests) (index : Nat) : Check :=
  if index < c.mSessionReqsList.length then .pointing index else .atEnd

inductive Step
  /-- `OnRequest` is called. -/
  | receive (pid : Pid) (session service : ServiceUid)
  /-- A call reads the flag. -/
  | testInited (call : Nat)
  /-- A call does what the flag told, and returns. -/
  | finish (call : Nat)
  | initApplication
  | beginCheck
  /-- The handler is called for `*it`. -/
  | callHandler
  /-- `++it` -/
  | advance
  | clear
  deriving DecidableEq, Repr

def step (c : EarlyRequests) : Step → Option EarlyRequests
  | .receive pid session service =>
    let request := ⟨c.received.length, pid, session, service⟩
    some { c with
      received := c.received ++ [request]
      receiving := c.receiving ++ [(request, none)] }
  | .testInited call =>
    match c.receiving[call]? with
    | some (request, none) =>
      some { c with receiving := c.receiving.set call (request, some c.mAppInited) }
    | _ => none
  | .finish call =>
    match c.receiving[call]? with
    | some (request, some true) =>
      some { c with
        receiving := c.receiving.eraseIdx call
        passed := c.passed ++ [request] }
    | some (request, some false) =>
      some { c with
        receiving := c.receiving.eraseIdx call
        mSessionReqsList := c.mSessionReqsList ++ [request] }
    | _ => none
  | .initApplication =>
    match c.check with
    | .idle => some { c with mAppInited := true }
    | _ => none
  | .beginCheck =>
    match c.check with
    | .idle => if c.mAppInited then some { c with check := c.pointTo 0 } else none
    | _ => none
  | .callHandler =>
    match c.check with
    | .pointing index =>
      (c.mSessionReqsList[index]?).map fun request =>
        { c with check := .called index, passed := c.passed ++ [request] }
    | _ => none
  | .advance =>
    match c.check with
    | .called index => some { c with check := c.pointTo (index + 1) }
    | _ => none
  | .clear =>
    match c.check with
    | .atEnd => some { c with check := .idle, checked := true, mSessionReqsList := [] }
    | _ => none

/-- The requests of the calls that have not returned. -/
def pending (c : EarlyRequests) : List SessionRequestInfo := c.receiving.map (·.1)

/-- No request is passed on twice; and when the application has been initialised and
`checkSessionRequest` has run, each one has been that was received. -/
structure DeliversOnce (c : EarlyRequests) : Prop where
  once : c.passed.Nodup
  received : ∀ request ∈ c.passed, request ∈ c.received
  all : c.checked = true → ∀ request ∈ c.received, request ∈ c.passed ∨ request ∈ c.pending

/-- A call that found the flag unset stores its request before `checkSessionRequest` has run; and
when the list is cleared, the iterator has been at everything in it. -/
def InTime (c : EarlyRequests) : Step → Prop
  | .finish call => ∀ request, c.receiving[call]? = some (request, some false) → c.checked = false
  | .clear => c.check = .atEnd → ∀ request ∈ c.mSessionReqsList, request ∈ c.passed
  | _ => True

/-- The client, without what its threads are doing. -/
def toClient (c : EarlyRequests) : CAppManProtoClient where
  mpHandler := true
  mAppInited := c.mAppInited
  mSessionReqsList := c.mSessionReqsList.map fun request =>
    (request.mPid, request.mSession, request.mUid)

end EarlyRequests

end IviLink.AppMan.Ipc

/-!
## When early session requests are delivered once

A request that was received is in one of three places: its call has not returned, it is in the
list, or it has been passed on. The iterator of `checkSessionRequest` comes to every request of the
list that has not been passed on, unless it is at the end: what is stored then is cleared with the
others, and what is stored after that stays in the list.
-/

namespace IviLink.AppMan.Ipc

open IviLink.Lib

/-- The index of the element that the handler is called for next, if the iterator is not at the
end. -/
def Check.next : Check → Option Nat
  | .idle => some 0
  | .pointing index => some index
  | .called index => some (index + 1)
  | .atEnd => none

namespace EarlyRequests

variable {c c' : EarlyRequests} {request : SessionRequestInfo} {call : Nat}

theorem nodup_snoc {l : List SessionRequestInfo} (h : l.Nodup) (hr : request ∉ l) :
    (l ++ [request]).Nodup :=
  List.concat_eq_append ▸ List.Nodup.concat hr h

structure Inv (c : EarlyRequests) : Prop where
  numbered : ∀ r ∈ c.received, r.number < c.received.length
  placed : ∀ r, r ∈ c.received ↔ r ∈ c.passed ∨ r ∈ c.mSessionReqsList ∨ r ∈ c.pending
  passed : c.passed.Nodup
  stored : c.mSessionReqsList.Nodup
  pending : c.pending.Nodup
  apart : ∀ r ∈ c.pending, r ∉ c.passed ∧ r ∉ c.mSessionReqsList
  ahead : ∀ n, c.check.next = some n →
    n ≤ c.mSessionReqsList.length ∧ ∀ r ∈ c.mSessionReqsList.drop n, r ∉ c.passed
  emptied : c.checked = true → c.mSessionReqsList = []

theorem inv_init : init.Inv where
  numbered := by intro r hr; cases hr
  placed := by intro r; simp [init, EarlyRequests.pending]
  passed := .nil
  stored := .nil
  pending := .nil
  apart := by intro r hr; cases hr
  ahead := by
    intro n hn
    obtain rfl := Option.some.inj hn
    exact ⟨Nat.le_refl _, fun r hr => by cases hr⟩
  emptied := fun _ => rfl

theorem Inv.deliversOnce (h : c.Inv) : c.DeliversOnce where
  once := h.passed
  received := fun r hr => (h.placed r).mpr (.inl hr)
  all := by
    intro hchecked r hr
    rcases (h.placed r).mp hr with hpassed | hstored | hpending
    · exact .inl hpassed
    · rw [h.emptied hchecked] at hstored
      cases hstored
    · exact .inr hpending

/-! ## The calls of `OnRequest` -/

theorem pending_perm {flag : Option Bool} (hcall : c.receiving[call]? = some (request, flag)) :
    c.pending.Perm (request :: (c.receiving.eraseIdx call).map (·.1)) := by
  obtain ⟨hlt, hget⟩ := List.getElem?_eq_some_iff.mp hcall
  have hperm := (List.getElem_cons_eraseIdx_perm hlt).map (·.1)
  rw [List.map_cons, hget] at hperm
  exact hperm.symm

theorem Inv.receive (h : c.Inv) {pid : Pid} {session service : ServiceUid}
    (hs : c.step (.receive pid session service) = some c') : c'.Inv := by
  obtain rfl := Option.some.inj hs
  -- its number is a new one
  have hnew : (⟨c.received.length, pid, session, service⟩ : SessionRequestInfo) ∉ c.received :=
    fun hmem => Nat.lt_irrefl _ (h.numbered _ hmem)
  have hplaces := mt (h.placed _).mpr hnew
  rw [not_or, not_or] at hplaces
  obtain ⟨hpassed, hstored, hpending⟩ := hplaces
  constructor
  · intro r hr
    rw [List.length_append, List.length_singleton]
    rcases List.mem_append.mp hr with hr | hr
    · exact Nat.lt_succ_of_lt (h.numbered r hr)
    · rw [List.mem_singleton.mp hr]
      exact Nat.lt_succ_self _
  · intro r
    simp only [EarlyRequests.pending, List.map_append, List.mem_append, h.placed r]
    simp only [List.map_cons, List.map_nil, or_assoc]
  · exact h.passed
  · exact h.stored
  · simp only [EarlyRequests.pending, List.map_append]
    exact nodup_snoc h.pending hpending
  · intro r hr
    simp only [EarlyRequests.pending, List.map_append] at hr
    rcases List.mem_append.mp hr with hr | hr
    · exact h.apart r hr
    · rw [List.mem_singleton.mp hr]
      exact ⟨hpassed, hstored⟩
  · exact h.ahead
  · exact h.emptied

theorem Inv.testInited (h : c.Inv) (hs : c.step (.testInited call) = some c') : c'.Inv := by
  rw [step] at hs
  split at hs
  · rename_i request hcall
    obtain rfl := Option.some.inj hs
    have hsame : (c.receiving.set call (request, some c.mAppInited)).map (·.1) = c.pending := by
      have hpending : c.pending[call]? = some request := by
        rw [EarlyRequests.pending, List.getElem?_map, hcall]
        rfl
      have hself : (c.pending).set call request = c.pending := by
        obtain ⟨hlt, hget⟩ := List.getElem?_eq_some_iff.mp hpending
        rw [← hget, List.set_getElem_self]
      rw [List.map_set]
      exact hself
    exact ⟨h.numbered, by simpa only [EarlyRequests.pending, hsame] using h.placed, h.passed,
      h.stored, by simpa only [EarlyRequests.pending, hsame] using h.pending,
      by simpa only [EarlyRequests.pending, hsame] using h.apart, h.ahead, h.emptied⟩
  · cases hs

/-- A call that found the flag set passes its request on. -/
theorem Inv.pass (h : c.Inv) (hcall : c.receiving[call]? = some (request, some true)) :
    { c with
      receiving := c.receiving.eraseIdx call
      passed := c.passed ++ [request] : EarlyRequests }.Inv := by
  have hperm := pending_perm hcall
  obtain ⟨hnot, hrest⟩ := List.nodup_cons.mp (hperm.nodup_iff.mp h.pending)
  have hpending : ∀ r, r ∈ c.pending ↔ r = request ∨ r ∈ (c.receiving.eraseIdx call).map (·.1) :=
    fun r => hperm.mem_iff.trans List.mem_cons
  obtain ⟨hpassed, hstored⟩ := h.apart request ((hpending request).mpr (.inl rfl))
  constructor
  · exact h.numbered
  · intro r
    rw [h.placed r, hpending r]
    simp only [EarlyRequests.pending, List.mem_append, List.mem_singleton]
    grind
  · exact nodup_snoc h.passed hpassed
  · exact h.stored
  · exact hrest
  · intro r hr
    obtain ⟨hr₁, hr₂⟩ := h.apart r ((hpending r).mpr (.inr hr))
    refine ⟨?_, hr₂⟩
    rw [List.mem_append, List.mem_singleton, not_or]
    exact ⟨hr₁, fun heq => hnot (heq ▸ hr)⟩
  · intro n hn
    obtain ⟨hle, hahead⟩ := h.ahead n hn
    refine ⟨hle, fun r hr => ?_⟩
    rw [List.mem_append, List.mem_singleton, not_or]
    exact ⟨hahead r hr, fun heq => hstored (heq ▸ List.mem_of_mem_drop hr)⟩
  · exact h.emptied

/-- A call that found the flag unset stores its request. -/
theorem Inv.store (h : c.Inv) (hcall : c.receiving[call]? = some (request, some false))
    (hchecked : c.checked = false) :
    { c with
      receiving := c.receiving.eraseIdx call
      mSessionReqsList := c.mSessionReqsList ++ [request] : EarlyRequests }.Inv := by
  have hperm := pending_perm hcall
  obtain ⟨hnot, hrest⟩ := List.nodup_cons.mp (hperm.nodup_iff.mp h.pending)
  have hpending : ∀ r, r ∈ c.pending ↔ r = request ∨ r ∈ (c.receiving.eraseIdx call).map (·.1) :=
    fun r => hperm.mem_iff.trans List.mem_cons
  obtain ⟨hpassed, hstored⟩ := h.apart request ((hpending request).mpr (.inl rfl))
  constructor
  · exact h.numbered
  · intro r
    rw [h.placed r, hpending r]
    simp only [EarlyRequests.pending, List.mem_append, List.mem_singleton]
    grind
  · exact h.passed
  · exact nodup_snoc h.stored hstored
  · exact hrest
  · intro r hr
    obtain ⟨hr₁, hr₂⟩ := h.apart r ((hpending r).mpr (.inr hr))
    refine ⟨hr₁, ?_⟩
    rw [List.mem_append, List.mem_singleton, not_or]
    exact ⟨hr₂, fun heq => hnot (heq ▸ hr)⟩
  · intro n hn
    obtain ⟨hle, hahead⟩ := h.ahead n hn
    constructor
    · rw [List.length_append]
      exact Nat.le_add_right_of_le hle
    · intro r hr
      rw [List.drop_append_of_le_length hle] at hr
      rcases List.mem_append.mp hr with hr | hr
      · exact hahead r hr
      · rwa [List.mem_singleton.mp hr]
  · intro htrue
    rw [hchecked] at htrue
    cases htrue

theorem Inv.finish (h : c.Inv) (hq : c.InTime (.finish call))
    (hs : c.step (.finish call) = some c') : c'.Inv := by
  rw [step] at hs
  split at hs
  · rename_i request hcall
    obtain rfl := Option.some.inj hs
    exact h.pass hcall
  · rename_i request hcall
    obtain rfl := Option.some.inj hs
    exact h.store hcall (hq request hcall)
  · cases hs

/-! ## `checkSessionRequest` -/

/-- The iterator goes to the element that it has to come to next, or to the end. -/
theorem Inv.pointTo (h : c.Inv) {index : Nat} (hnext : c.check.next = some index) :
    { c with check := c.pointTo index : EarlyRequests }.Inv := by
  refine { h with ahead := ?_ }
  intro n hn
  dsimp only [EarlyRequests.pointTo] at hn
  split at hn
  · obtain rfl := Option.some.inj hn
    exact h.ahead index hnext
  · cases hn

theorem Inv.callHandler (h : c.Inv) (hs : c.step .callHandler = some c') : c'.Inv := by
  rw [step] at hs
  split at hs
  · rename_i index hcheck
    obtain ⟨request, hget, rfl⟩ := Option.map_eq_some_iff.mp hs
    obtain ⟨hlt, heq⟩ := List.getElem?_eq_some_iff.mp hget
    have hnext : c.check.next = some index := by rw [hcheck]; rfl
    have hdrop : c.mSessionReqsList.drop index = request :: c.mSessionReqsList.drop (index + 1) := by
      rw [List.drop_eq_getElem_cons hlt, heq]
    have hmem : request ∈ c.mSessionReqsList := List.mem_of_getElem? hget
    have hpassed : request ∉ c.passed := (h.ahead index hnext).2 request (hdrop ▸ List.mem_cons_self)
    constructor
    · exact h.numbered
    · intro r
      rw [h.placed r]
      simp only [EarlyRequests.pending, List.mem_append, List.mem_singleton]
      grind
    · exact nodup_snoc h.passed hpassed
    · exact h.stored
    · exact h.pending
    · intro r hr
      obtain ⟨hr₁, hr₂⟩ := h.apart r hr
      refine ⟨?_, hr₂⟩
      rw [List.mem_append, List.mem_singleton, not_or]
      exact ⟨hr₁, fun heq => hr₂ (heq ▸ hmem)⟩
    · intro n hn
      obtain rfl := Option.some.inj hn
      refine ⟨hlt, fun r hr => ?_⟩
      have hnodup := h.stored.sublist (List.drop_sublist index _)
      rw [hdrop] at hnodup
      rw [List.mem_append, List.mem_singleton, not_or]
      refine ⟨(h.ahead index hnext).2 r (hdrop ▸ List.mem_cons_of_mem _ hr), ?_⟩
      exact fun heq => (List.nodup_cons.mp hnodup).1 (heq ▸ hr)
    · exact h.emptied
  · cases hs

theorem Inv.clear (h : c.Inv) (hq : c.InTime .clear) (hs : c.step .clear = some c') : c'.Inv := by
  rw [step] at hs
  split at hs
  · rename_i hcheck
    obtain rfl := Option.some.inj hs
    constructor
    · exact h.numbered
    · intro r
      rw [h.placed r]
      have hpassed := hq hcheck r
      simp only [EarlyRequests.pending, List.not_mem_nil, false_or]
      grind
    · exact h.passed
    · exact .nil
    · exact h.pending
    · exact fun r hr => ⟨(h.apart r hr).1, List.not_mem_nil⟩
    · intro n hn
      obtain rfl := Option.some.inj hn
      exact ⟨Nat.le_refl _, fun r hr => by cases hr⟩
    · exact fun _ => rfl
  · cases hs

/-! ## Steps and runs -/

theorem Inv.step (h : c.Inv) (a : Step) (hq : c.InTime a) (hs : c.step a = some c') : c'.Inv := by
  cases a with
  | receive pid session service => exact h.receive hs
  | testInited call => exact h.testInited hs
  | finish call => exact h.finish hq hs
  | initApplication =>
    rw [EarlyRequests.step] at hs
    split at hs
    · obtain rfl := Option.some.inj hs
      exact { h with }
    · cases hs
  | beginCheck =>
    rw [EarlyRequests.step] at hs
    split at hs
    · rename_i hcheck
      split at hs
      · obtain rfl := Option.some.inj hs
        exact h.pointTo (by rw [hcheck]; rfl)
      · cases hs
    · cases hs
  | callHandler => exact h.callHandler hs
  | advance =>
    rw [EarlyRequests.step] at hs
    split at hs
    · rename_i index hcheck
      obtain rfl := Option.some.inj hs
      exact h.pointTo (by rw [hcheck]; rfl)
    · cases hs
  | clear => exact h.clear hq hs

/-- A step that comes too late loses a request. -/
theorem Inv.inTime (h : c.Inv) (a : Step)
    (hdelivers : ∀ c', c.step a = some c' → c'.DeliversOnce) : c.InTime a := by
  cases a with
  | finish call =>
    intro request hcall
    by_contra hchecked
    rw [Bool.not_eq_false] at hchecked
    have hperm := pending_perm hcall
    have hmem : request ∈ c.pending := hperm.mem_iff.mpr List.mem_cons_self
    have hs : c.step (.finish call) = some { c with
        receiving := c.receiving.eraseIdx call
        mSessionReqsList := c.mSessionReqsList ++ [request] } := by
      rw [EarlyRequests.step, hcall]
    rcases (hdelivers _ hs).all hchecked request ((h.placed request).mpr (.inr (.inr hmem))) with
      hpassed | hpending
    · exact (h.apart request hmem).1 hpassed
    · exact (List.nodup_cons.mp (hperm.nodup_iff.mp h.pending)).1 hpending
  | clear =>
    intro hcheck request hstored
    have hs : c.step .clear = some { c with
        check := .idle
        checked := true
        mSessionReqsList := [] } := by
      rw [EarlyRequests.step, hcheck]
    rcases (hdelivers _ hs).all rfl request ((h.placed request).mpr (.inr (.inl hstored))) with
      hpassed | hpending
    · exact hpassed
    · exact absurd hstored (h.apart request hpending).2
  | _ => trivial

/-- **When every request is delivered once**: exactly if none is stored too late. -/
theorem delivers_once_iff (as : List Step) :
    Always EarlyRequests.step init as DeliversOnce ↔ Along EarlyRequests.step InTime init as := by
  refine always_iff_of_enabled (fun c h => h.deliversOnce) ?_
    (fun c a c' h hq hs => h.step a hq hs) inv_init
  intro c a h
  constructor
  · exact h.inTime a
  · intro hq c' hs
    exact (h.step a hq hs).deliversOnce

/-- A request whose call reads the flag before the application is initialised, and stores the
request when `checkSessionRequest` has run. -/
def storedLate : List Step :=
  [.receive 1 [97] [98], .testInited 0, .initApplication, .beginCheck, .clear, .finish 0]

/-- The request stays in the list. -/
theorem stored_late : ∃ c, run EarlyRequests.step init storedLate = some c ∧
    c.checked = true ∧ c.pending = [] ∧ c.received = [⟨0, 1, [97], [98]⟩] ∧ c.passed = [] ∧
    ¬ Always EarlyRequests.step init storedLate DeliversOnce := by
  refine ⟨_, rfl, rfl, rfl, rfl, rfl, ?_⟩
  rw [always_iff_along]
  rintro ⟨-, h⟩
  have hlast := (h.2 _ rfl).2 _ rfl |>.2 _ rfl |>.2 _ rfl |>.2 _ rfl |>.1 _ rfl
  rcases hlast.all rfl _ List.mem_cons_self with hpassed | hpending
  · cases hpassed
  · cases hpending

/-- A call whose two steps come one behind the other does what `receiveSessionRequest` does. -/
theorem toClient_receive (c : EarlyRequests) (pid : Pid) (session service : ServiceUid) :
    ∃ c', run EarlyRequests.step c [.receive pid session service,
        .testInited c.receiving.length, .finish c.receiving.length] = some c' ∧
      c'.receiving = c.receiving ∧
      c'.toClient = (c.toClient.receiveSessionRequest pid session service).1 ∧
      c'.passed.length =
        c.passed.length + (c.toClient.receiveSessionRequest pid session service).2.length := by
  have herase : ∀ x : SessionRequestInfo × Option Bool,
      (c.receiving ++ [x]).eraseIdx c.receiving.length = c.receiving := by
    intro x
    rw [List.eraseIdx_append_of_length_le (Nat.le_refl _), Nat.sub_self, List.eraseIdx_cons_zero,
      List.append_nil]
  cases hinited : c.mAppInited with
  | true => simp [run, step, toClient, CAppManProtoClient.receiveSessionRequest, hinited, herase]
  | false => simp [run, step, toClient, CAppManProtoClient.receiveSessionRequest, hinited, herase]

end EarlyRequests

end IviLink.AppMan.Ipc
