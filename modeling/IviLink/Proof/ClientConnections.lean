import IviLink.Lib.FirstEntries
import IviLink.Lib.Run
import IviLink.MessageProtocols.AppManMessages
import Std.Data.TreeMap

/-!
# The connections of the applications

`CAppManProtoServer` keeps in `mClients` over which direction each process is connected. It learns
the pid of a process from its requests; the loss of a connection tells only the direction. Where an
entry goes, `CRequestHandler::onConnectionLost` forgets the application.

A process may be connected over several directions for some time, since the loss of one may be
reported after the next one has been made. What the server cannot see stands beside its state: the
connections, and over which of them the last request of each process came.
-/

namespace IviLink.AppMan.Ipc

structure ClientConnections where
  mClients : Std.TreeMap Pid DirectionID
  /-- Which pids are in `CRequestHandler::mApps`. -/
  mApps : Pid → Bool
  /-- The connections that have not been lost, the newest one first. -/
  connections : List (DirectionID × Pid)
  /-- The direction of the last request of a process, until it is lost. -/
  last : Pid → Option DirectionID

namespace ClientConnections

open Function (update)

def init : ClientConnections := ⟨∅, fun _ => false, [], fun _ => none⟩

/-- The process at the other end. -/
def owner (s : ClientConnections) (dirId : DirectionID) : Option Pid :=
  (s.connections.find? fun connection => connection.1 = dirId).map (·.2)

/-- Only a pid that is not there is entered. -/
def enter (s : ClientConnections) (pid : Pid) (dirId : DirectionID) : ClientConnections :=
  { s with mClients := s.mClients.insertIfNew pid dirId }

/-- `CAppManProtoServer::OnConnectionLost`: the first entry with the direction goes. -/
def OnConnectionLost (s : ClientConnections) (dirId : DirectionID) : ClientConnections :=
  match s.mClients.toList.find? fun it => it.2 = dirId with
  | none => s
  | some it =>
    { s with
      mClients := s.mClients.erase it.1
      mApps := update s.mApps it.1 false }

inductive Event
  /-- `OnConnection` does nothing. -/
  | connect (pid : Pid) (dirId : DirectionID)
  /-- A request with a pid; `C_PROTO_INIT_APP` makes the application known to the handler. -/
  | request (dirId : DirectionID) (initApp : Bool)
  /-- `C_PROTO_IS_LINK_ALIVE` has no pid. -/
  | isLinkAlive (dirId : DirectionID)
  | lose (dirId : DirectionID)
  deriving DecidableEq, Repr

def step (s : ClientConnections) : Event → Option ClientConnections
  | .connect pid dirId =>
    match s.owner dirId with
    | none => some { s with connections := (dirId, pid) :: s.connections }
    | some _ => none
  | .request dirId initApp =>
    match s.owner dirId with
    | none => none
    | some pid =>
      some { s.enter pid dirId with
        mApps := if initApp then update s.mApps pid true else s.mApps
        last := update s.last pid (some dirId) }
  | .isLinkAlive dirId =>
    match s.owner dirId with
    | none => none
    | some _ => some s
  | .lose dirId =>
    match s.owner dirId with
    | none => none
    | some pid =>
      some ({ s with
        connections := s.connections.filter fun connection => connection.1 ≠ dirId
        last := if s.last pid = some dirId then update s.last pid none else s.last
        }.OnConnectionLost dirId)

/-- The entry of every process whose last request came over a connection that is there has this
one, and no entry has a connection that was lost. -/
structure Known (s : ClientConnections) : Prop where
  current : ∀ (pid : Pid) dirId, s.last pid = some dirId → s.mClients[pid]? = some dirId
  live : ∀ (pid : Pid) dirId, s.mClients[pid]? = some dirId → s.owner dirId ≠ none

/-- The process has a connection that is newer than this one. -/
def Newer (s : ClientConnections) (pid : Pid) (dirId : DirectionID) : Prop :=
  ∃ before after other owner, s.connections = before ++ (dirId, owner) :: after ∧
    (other, pid) ∈ before

/-- A process that is connected over a newer direction is not removed with an old one. -/
def Spares (s t : ClientConnections) : Event → Prop
  | .lose dirId => ∀ pid, s.Newer pid dirId →
      (pid ∈ s.mClients → pid ∈ t.mClients) ∧ (s.mApps pid = true → t.mApps pid = true)
  | _ => True

def Truthful (s : ClientConnections) (e : Event) : Prop :=
  ∀ t, s.step e = some t → t.Known ∧ s.Spares t e

/-- A process that reconnects makes its first request, and no other, when its old direction has
been lost; and it is not yet connected anew when that one is lost that its entry has. -/
def Settled (s : ClientConnections) : Event → Prop
  | .request dirId _ => ∀ pid, s.owner dirId = some pid →
      ∀ other, s.mClients[pid]? = some other → other = dirId
  | .lose dirId => ∀ pid : Pid, s.owner dirId = some pid → s.mClients[pid]? = some dirId →
      ¬ s.Newer pid dirId
  | _ => True

/-- The state of the server alone. -/
def toServer (s : ClientConnections) : CAppManProtoServer :=
  ⟨true, fun pid => s.mClients[pid]?⟩

/-- What the server does with a request. -/
theorem toServer_enter (s : ClientConnections) (pid : Pid) (dirId : DirectionID) :
    (s.enter pid dirId).toServer = s.toServer.insertClient pid dirId := by
  rw [toServer, CAppManProtoServer.insertClient]
  congr 1
  funext p
  dsimp only [enter, toServer]
  rw [Std.TreeMap.getElem?_insertIfNew]
  by_cases hp : p = pid
  · subst hp
    rw [if_pos rfl]
    by_cases hmem : p ∈ s.mClients
    · obtain ⟨v, hv⟩ := Option.isSome_iff_exists.mp (Std.TreeMap.isSome_getElem?_iff_mem.mpr hmem)
      rw [if_neg fun h => h.2 hmem, hv, Option.some_or]
    · rw [if_pos ⟨Std.ReflCmp.compare_self, hmem⟩, Std.TreeMap.getElem?_eq_none hmem,
        Option.none_or]
  · rw [if_neg hp, if_neg fun h => hp (Std.LawfulEqCmp.eq_of_compare h.1).symm]

end ClientConnections

end IviLink.AppMan.Ipc

/-!
## When the application manager knows the directions of its clients

As long as no process is connected over two directions that the server has heard of, an entry has
the direction of the last request. A direction belongs to one process, so that the entry that goes
with it is the only one that has it.
-/

namespace IviLink.AppMan.Ipc.ClientConnections

open IviLink.Lib
open Function (update update_self)

variable {s t : ClientConnections} {pid p : Pid} {dirId d : DirectionID}

structure Inv (s : ClientConnections) : Prop where
  current : ∀ (pid : Pid) dirId, s.last pid = some dirId → s.mClients[pid]? = some dirId
  own : ∀ (pid : Pid) dirId, s.mClients[pid]? = some dirId → s.owner dirId = some pid
  latest : ∀ pid dirId, s.last pid = some dirId → s.owner dirId = some pid

theorem inv_init : init.Inv where
  current := by intro pid dirId h; cases h
  own := by
    intro pid dirId h
    rw [init, Std.TreeMap.getElem?_emptyc] at h
    cases h
  latest := by intro pid dirId h; cases h

theorem Inv.known (h : s.Inv) : s.Known where
  current := h.current
  live := by
    intro pid dirId hpid
    rw [h.own pid dirId hpid]
    exact Option.some_ne_none pid

/-! ## Connections -/

theorem owner_connect (s : ClientConnections) (pid : Pid) (dirId d : DirectionID) :
    { s with connections := (dirId, pid) :: s.connections : ClientConnections }.owner d =
      if d = dirId then some pid else s.owner d := by
  rw [owner]
  dsimp only
  by_cases hd : d = dirId
  · rw [List.find?_cons_of_pos (by simp [hd]), if_pos hd]
    rfl
  · rw [List.find?_cons_of_neg (by simp [Ne.symm hd]), if_neg hd, owner]

theorem Inv.connect (h : s.Inv) (hs : s.step (.connect pid dirId) = some t) : t.Inv := by
  rw [step] at hs
  split at hs
  · rename_i hnone
    obtain rfl := Option.some.inj hs
    -- a direction that has an owner is not the new one
    have hkeep : ∀ {d p}, s.owner d = some p →
        { s with connections := (dirId, pid) :: s.connections : ClientConnections }.owner d =
          some p := by
      intro d p hd
      rw [owner_connect, if_neg ?_, hd]
      rintro rfl
      rw [hnone] at hd
      cases hd
    exact ⟨h.current, fun p d hp => hkeep (h.own p d hp), fun p d hp => hkeep (h.latest p d hp)⟩
  · cases hs

/-! ## Requests -/

theorem getElem?_enter (s : ClientConnections) (pid p : Pid) (dirId : DirectionID) :
    (s.enter pid dirId).mClients[p]? =
      if p = pid then (s.mClients[pid]?).or (some dirId) else s.mClients[p]? := by
  have hserver := congrFun (congrArg CAppManProtoServer.mClients (toServer_enter s pid dirId)) p
  dsimp only [toServer, CAppManProtoServer.insertClient] at hserver
  rw [hserver]
  split
  · rename_i hp
    rw [hp]
  · rfl

/-- What a request does. -/
theorem of_request {initApp : Bool} (hs : s.step (.request dirId initApp) = some t) :
    ∃ pid, s.owner dirId = some pid ∧ (∀ d, t.owner d = s.owner d) ∧
      (∀ p, t.last p = if p = pid then some dirId else s.last p) ∧
      ∀ p : Pid, t.mClients[p]? =
        if p = pid then (s.mClients[pid]?).or (some dirId) else s.mClients[p]? := by
  rw [step] at hs
  split at hs
  · cases hs
  · rename_i pid howner
    obtain rfl := Option.some.inj hs
    refine ⟨pid, howner, fun d => rfl, fun p => ?_, fun p => getElem?_enter s pid p dirId⟩
    exact Function.update_apply ..

theorem Inv.request (h : s.Inv) {initApp : Bool} (hq : s.Settled (.request dirId initApp))
    (hs : s.step (.request dirId initApp) = some t) : t.Inv := by
  obtain ⟨pid, howner, howners, hlast, hclients⟩ := of_request hs
  have hentry : (s.mClients[pid]?).or (some dirId) = some dirId := by
    cases hpid : s.mClients[pid]? with
    | none => rfl
    | some other => rw [hq pid howner other hpid, Option.some_or]
  constructor
  · intro p d hp
    rw [hlast] at hp
    rw [hclients]
    split at hp
    · rename_i heq
      rw [if_pos heq, hentry, hp]
    · rename_i hne
      rw [if_neg hne]
      exact h.current p d hp
  · intro p d hp
    rw [hclients] at hp
    rw [howners]
    split at hp
    · rename_i heq
      obtain rfl := Option.some.inj (hentry.symm.trans hp)
      rw [heq, howner]
    · exact h.own p d hp
  · intro p d hp
    rw [hlast] at hp
    rw [howners]
    split at hp
    · rename_i heq
      obtain rfl := Option.some.inj hp
      rw [heq, howner]
    · exact h.latest p d hp

/-! ## Losses -/

/-- What goes with a direction is what belongs to it. -/
structure Lost (s t : ClientConnections) (dirId : DirectionID) : Prop where
  owner : ∀ d, t.owner d = if d = dirId then none else s.owner d
  last : ∀ p, t.last p = if s.last p = some dirId then none else s.last p
  clients : ∀ p : Pid, t.mClients[p]? = if s.mClients[p]? = some dirId then none
    else s.mClients[p]?
  apps : ∀ p : Pid, t.mApps p = if s.mClients[p]? = some dirId then false else s.mApps p

/-- Where one entry at most has the direction, it is the one that goes. -/
theorem onConnectionLost_clients (s : ClientConnections) (dirId : DirectionID)
    (hone : ∀ p q : Pid, s.mClients[p]? = some dirId →
      s.mClients[q]? = some dirId → p = q) :
    (∀ p : Pid, (s.OnConnectionLost dirId).mClients[p]? =
        if s.mClients[p]? = some dirId then none else s.mClients[p]?) ∧
      (∀ p : Pid, (s.OnConnectionLost dirId).mApps p =
        if s.mClients[p]? = some dirId then false else s.mApps p) := by
  rw [OnConnectionLost]
  split
  · rename_i hfind
    have hnone : ∀ p : Pid, s.mClients[p]? ≠ some dirId := by
      intro p hp
      have hmem := Std.TreeMap.mem_toList_iff_getElem?_eq_some.mpr hp
      exact absurd (List.find?_eq_none.mp hfind _ hmem) (by simp)
    exact ⟨fun p => (if_neg (hnone p)).symm, fun p => (if_neg (hnone p)).symm⟩
  · rename_i it hfind
    have hit : s.mClients[it.1]? = some dirId := by
      have hdir : it.2 = dirId := by simpa using List.find?_some hfind
      rw [← hdir]
      exact Std.TreeMap.mem_toList_iff_getElem?_eq_some.mp (List.mem_of_find?_eq_some hfind)
    have hiff : ∀ p : Pid, p = it.1 ↔ s.mClients[p]? = some dirId := by
      intro p
      constructor
      · rintro rfl
        exact hit
      · intro hp
        exact hone p it.1 hp hit
    constructor
    · intro p
      dsimp only
      rw [Std.TreeMap.getElem?_erase]
      by_cases hp : p = it.1
      · rw [if_pos ((hiff p).mp hp), if_pos (by rw [hp]; exact Std.ReflCmp.compare_self)]
      · rw [if_neg fun hc => hp ((hiff p).mpr hc),
          if_neg fun hc => hp (Std.LawfulEqCmp.eq_of_compare hc).symm]
    · intro p
      dsimp only
      rw [Function.update_apply]
      exact if_congr (hiff p) rfl rfl

theorem onConnectionLost_rest (s : ClientConnections) (dirId : DirectionID) :
    (s.OnConnectionLost dirId).connections = s.connections ∧
      (s.OnConnectionLost dirId).last = s.last := by
  rw [OnConnectionLost]
  split
  · exact ⟨rfl, rfl⟩
  · exact ⟨rfl, rfl⟩

theorem find?_filter_ne (connections : List (DirectionID × Pid)) (dirId d : DirectionID) :
    ((connections.filter fun connection => connection.1 ≠ dirId).find? fun connection =>
      connection.1 = d).map (·.2) =
      if d = dirId then none
      else (connections.find? fun connection => connection.1 = d).map (·.2) := by
  rw [List.find?_filter]
  by_cases hd : d = dirId
  · rw [if_pos hd, Option.map_eq_none_iff, List.find?_eq_none]
    intro connection _
    simp [hd]
  · rw [if_neg hd]
    congr 2
    funext connection
    rw [Bool.eq_iff_iff]
    simp only [ne_eq, decide_not, Bool.not_eq_true', decide_eq_false_iff_not,
      decide_eq_true_eq, and_iff_right_iff_imp]
    rintro rfl
    exact hd

theorem Inv.lost (h : s.Inv) (hs : s.step (.lose dirId) = some t) :
    s.owner dirId ≠ none ∧ s.Lost t dirId := by
  rw [step] at hs
  split at hs
  · cases hs
  · rename_i pid howner
    obtain rfl := Option.some.inj hs
    have hone : ∀ p q : Pid, s.mClients[p]? = some dirId → s.mClients[q]? = some dirId → p = q :=
      fun p q hp hq => Option.some.inj ((h.own p dirId hp).symm.trans (h.own q dirId hq))
    obtain ⟨hclients, happs⟩ := onConnectionLost_clients
      { s with
        connections := s.connections.filter fun connection => connection.1 ≠ dirId
        last := if s.last pid = some dirId then update s.last pid none else s.last } dirId hone
    obtain ⟨hconnections, hlast⟩ := onConnectionLost_rest
      { s with
        connections := s.connections.filter fun connection => connection.1 ≠ dirId
        last := if s.last pid = some dirId then update s.last pid none else s.last } dirId
    refine ⟨by rw [howner]; exact Option.some_ne_none pid, ?_, ?_, hclients, happs⟩
    · intro d
      rw [owner, hconnections]
      exact find?_filter_ne s.connections dirId d
    · intro p
      rw [hlast]
      dsimp only
      by_cases hp : s.last p = some dirId
      · obtain rfl := Option.some.inj ((h.latest p dirId hp).symm.trans howner)
        rw [if_pos hp, if_pos hp, Function.update_self]
      · rw [if_neg hp]
        split
        · rename_i hpid
          rw [Function.update_of_ne (fun heq : p = pid => hp (heq ▸ hpid))]
        · rfl

theorem Inv.lose (h : s.Inv) (hs : s.step (.lose dirId) = some t) : t.Inv := by
  obtain ⟨-, hlost⟩ := h.lost hs
  -- an entry or a last direction that is left is another one
  have hother : ∀ {x : Option DirectionID} {d}, (if x = some dirId then none else x) = some d →
      x = some d ∧ d ≠ dirId := by
    intro x d hx
    split at hx
    · cases hx
    · rename_i hne
      exact ⟨hx, fun heq => hne (heq ▸ hx)⟩
  constructor
  · intro p d hp
    rw [hlost.last] at hp
    obtain ⟨hp, hne⟩ := hother hp
    have hentry := h.current p d hp
    rw [hlost.clients, hentry, if_neg (fun heq => hne (Option.some.inj heq))]
  · intro p d hp
    rw [hlost.clients] at hp
    obtain ⟨hp, hne⟩ := hother hp
    rw [hlost.owner, if_neg hne]
    exact h.own p d hp
  · intro p d hp
    rw [hlost.last] at hp
    obtain ⟨hp, hne⟩ := hother hp
    rw [hlost.owner, if_neg hne]
    exact h.latest p d hp

/-! ## Steps and runs -/

theorem Inv.step (h : s.Inv) (e : Event) (hq : s.Settled e) (hs : s.step e = some t) : t.Inv := by
  cases e with
  | connect pid dirId => exact h.connect hs
  | request dirId initApp => exact h.request hq hs
  | isLinkAlive dirId =>
    rw [ClientConnections.step] at hs
    split at hs
    · cases hs
    · exact Option.some.inj hs ▸ h
  | lose dirId => exact h.lose hs

/-- **One step** is truthful exactly if the processes are settled. -/
theorem Inv.truthful_iff (h : s.Inv) (e : Event) : s.Truthful e ↔ s.Settled e := by
  constructor
  · intro htruthful
    cases e with
    | request dirId initApp =>
      intro pid howner other hother
      have hs : s.step (.request dirId initApp) = some { s.enter pid dirId with
          mApps := if initApp then update s.mApps pid true else s.mApps
          last := update s.last pid (some dirId) } := by
        rw [ClientConnections.step, howner]
      have hentry := (htruthful _ hs).1.current pid dirId (update_self ..)
      have hkept := getElem?_enter s pid pid dirId
      rw [if_pos rfl, hother, Option.some_or] at hkept
      exact Option.some.inj (hkept.symm.trans hentry)
    | lose dirId =>
      intro pid howner hentry hnewer
      obtain ⟨t, hs⟩ : ∃ t, s.step (.lose dirId) = some t := by
        rw [ClientConnections.step, howner]
        exact ⟨_, rfl⟩
      obtain ⟨hknown, hspares⟩ := htruthful t hs
      have hmem : pid ∈ s.mClients := Std.TreeMap.mem_iff_isSome_getElem?.mpr (by rw [hentry]; rfl)
      have hkept := (hspares pid hnewer).1 hmem
      rw [Std.TreeMap.mem_iff_isSome_getElem?, (h.lost hs).2.clients, if_pos hentry] at hkept
      cases hkept
    | _ => trivial
  · intro hq t hs
    refine ⟨(h.step e hq hs).known, ?_⟩
    cases e with
    | lose dirId =>
      intro pid hnewer
      have hlost := (h.lost hs).2
      have hother : s.mClients[pid]? ≠ some dirId :=
        fun hentry => hq pid (h.own pid dirId hentry) hentry hnewer
      constructor
      · intro hmem
        rw [Std.TreeMap.mem_iff_isSome_getElem?] at hmem ⊢
        rwa [hlost.clients, if_neg hother]
      · intro happ
        rwa [hlost.apps, if_neg hother]
    | _ => trivial

/-- **When the directions of the clients are known**: all along a run, exactly if every step of it
finds the processes settled. -/
theorem directions_known_iff (es : List Event) :
    Along ClientConnections.step Truthful init es ↔ Along ClientConnections.step Settled init es :=
  along_iff_along (E := fun _ _ => True) (fun _ e h _ => h.truthful_iff e)
    (fun _ e _ h _ hq hs => h.step e hq hs) inv_init (along_of_mem fun _ _ _ => trivial)

/-- A process that is connected again, and makes a request, before its first direction is lost. -/
def reconnects : List Event :=
  [.connect 7 1, .request 1 true, .connect 7 2, .request 2 false, .lose 1]

/-- The entry keeps the first direction, and goes with it although the process is connected. -/
theorem reconnected_forgotten :
    (∃ s, run ClientConnections.step init (reconnects.take 4) = some s ∧ s.last 7 = some 2 ∧
        s.mClients[(7 : Pid)]? = some 1) ∧
      (∃ s, run ClientConnections.step init reconnects = some s ∧ s.owner 2 = some 7 ∧
        s.mClients[(7 : Pid)]? = none ∧ s.mApps 7 = false) ∧
      ¬ Along ClientConnections.step Truthful init reconnects := by
  refine ⟨⟨_, rfl, rfl, ?_⟩, ⟨_, rfl, rfl, ?_, rfl⟩, ?_⟩
  · decide
  · decide
  · intro h
    have hstep := (h.2 _ rfl).2 _ rfl |>.2 _ rfl |>.1 _ rfl
    have hentry := hstep.1.current 7 2 rfl
    exact absurd hentry (by decide)

end IviLink.AppMan.Ipc.ClientConnections
