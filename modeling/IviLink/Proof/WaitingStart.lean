import IviLink.Lib.Lane
import IviLink.Proof.ComplementMatching
import IviLink.Proof.RoleAgreement
import IviLink.ProfileManager.WaitingServices

/-!
# Waiting services are started once

Each of the events from outside is handled once at most, and each handler looks whether
it was the last of those that a start needs; so `startWaitingService` is put into the
queue of a stack once, when it is due (`due`). The slave sends its list then, the master
finds the service, and loads it then or when the authentication is done, whichever comes
later. That list is the only one that is sent, so that all that the master has received,
and what is on the way to it, is one list at most.

The search starts from `UINT_MAX`, so a service with this very priority is not found.
-/

namespace IviLink.ProfileManager.WaitingServices

open IviLink.L0 (Side)
open IviLink.Lib
open Complements

/-! ## The list in bytes -/

theorem readServices_flatMap {services : List Uid} (h : ∀ it ∈ services, it.length + 1 < 2 ^ 32)
    (pos : Nat) (rest : List UInt8) :
    readServices services.length pos (services.flatMap stringToBuffer ++ rest) = some services ∨
      readServices services.length pos (services.flatMap stringToBuffer ++ rest) = none := by
  induction services generalizing pos with
  | nil => exact Or.inl rfl
  | cons str services ih =>
    have hdrop : (stringToBuffer str ++ (services.flatMap stringToBuffer ++ rest)).drop
        (stringInBufSize str) = services.flatMap stringToBuffer ++ rest := by
      rw [← length_stringToBuffer, List.drop_left]
    rw [List.flatMap_cons, List.length_cons, List.append_assoc, readServices,
      bufferToString_stringToBuffer (h str List.mem_cons_self)]
    dsimp only
    rw [hdrop]
    split
    · rcases ih (fun it hit => h it (List.mem_cons_of_mem _ hit)) (pos + stringInBufSize str)
        with hread | hread
      · rw [hread]
        exact Or.inl rfl
      · rw [hread]
        exact Or.inr rfl
    · exact Or.inr rfl

theorem length_le_flatMap_stringToBuffer (services : List Uid) :
    services.length ≤ (services.flatMap stringToBuffer).length := by
  induction services with
  | nil => exact Nat.le_refl _
  | cons it services ih =>
    rw [List.flatMap_cons, List.length_append, List.length_cons, length_stringToBuffer,
      stringInBufSize]
    omega

/-- **A list that is read is what was sent.** -/
theorem list_read {services services' : List Uid} {data : List UInt8}
    (hsent : sendWaitingServicesList services = some data)
    (hread : onReceivedServicesList data = some services') : services' = services := by
  unfold sendWaitingServicesList at hsent
  split at hsent
  · next hle =>
    obtain rfl := Option.some.inj hsent
    have hlt := (frameSize services).toNat_lt
    have hlen : (listData services).length = 4 + (services.flatMap stringToBuffer).length := by
      rw [listData, List.length_append, length_le32]
    have hmem : ∀ it ∈ services, it.length + 5 ≤ (services.flatMap stringToBuffer).length := by
      intro it hit
      have hit_le : (stringToBuffer it).length ≤ (services.flatMap stringToBuffer).length :=
        (List.sublist_flatten_of_mem (List.mem_map_of_mem hit)).length_le
      rw [length_stringToBuffer, stringInBufSize] at hit_le
      omega
    have hcount := length_le_flatMap_stringToBuffer services
    have hn : (UInt32.ofNat services.length).toNat = services.length := by
      rw [UInt32.toNat_ofNat', Nat.mod_eq_of_lt (by omega)]
    have hshort : ∀ it ∈ services, it.length + 1 < 2 ^ 32 := by
      intro it hit
      have := hmem it hit
      omega
    rw [onReceivedServicesList, listData, readUInt32_le32] at hread
    dsimp only at hread
    rw [hn, ← List.append_nil (services.flatMap stringToBuffer)] at hread
    rcases readServices_flatMap hshort 4 [] with h | h
    · rw [h] at hread
      exact (Option.some.inj hread).symm
    · rw [h] at hread
      cases hread
  · cases hsent

/-! ## The search -/

namespace WaitingServiceManager

/-- **What the search finds**: something, if there was something or some service has a smaller
priority number, other than 0. -/
theorem minService_found {repository : ServiceRepository} {services : List Uid}
    {found found' : UInt32 × Uid} (h : minService repository services found = some found') :
    (found'.2 ≠ [] ↔ found.2 ≠ [] ∨ ∃ it ∈ services, ∃ info,
      repository.getServiceInfo it = some info ∧ info.priority < found.1 ∧ 0 ≠ info.priority) := by
  induction services generalizing found with
  | nil =>
    obtain rfl := Option.some.inj h
    simp
  | cons it services ih =>
    obtain ⟨minPrio, service⟩ := found
    rw [minService] at h
    split at h
    · cases h
    · next info hinfo =>
      split at h
      · next hless =>
        have hname : it ≠ [] := by
          rintro rfl
          rw [repository.named] at hinfo
          cases hinfo
        exact iff_of_true ((ih h).mpr (Or.inl hname))
          (Or.inr ⟨it, List.mem_cons_self, info, hinfo, hless⟩)
      · next hnot =>
        rw [ih h]
        refine or_congr_right ?_
        constructor
        · rintro ⟨it', hit', hrest⟩
          exact ⟨it', List.mem_cons_of_mem _ hit', hrest⟩
        · rintro ⟨it', hit', info', hinfo', hless⟩
          rcases List.mem_cons.mp hit' with rfl | hit'
          · rw [hinfo] at hinfo'
            obtain rfl := Option.some.inj hinfo'
            exact absurd hless hnot
          · exact ⟨it', hit', info', hinfo', hless⟩

theorem minService_append (repository : ServiceRepository) (services services' : List Uid)
    (found : UInt32 × Uid) :
    minService repository (services ++ services') found =
      (minService repository services found).bind (minService repository services') := by
  induction services generalizing found with
  | nil => rfl
  | cons it services ih =>
    rw [List.cons_append, minService, minService]
    split
    · rfl
    · split
      · exact ih _
      · exact ih _

theorem startAsMaster_eq {w w' : WaitingServiceManager} {repository : ServiceRepository}
    (h : w.startAsMaster repository = some w') :
    ∃ minPrio service, minService repository (w.mLocalWaitingServices ++ w.mRemoteWaitingServices)
        (UINT_MAX, []) = some (minPrio, service) ∧
      w' = { w with mStartRequest := true, mServiceToStart := service } := by
  unfold startAsMaster at h
  rw [minService_append]
  split at h
  · cases h
  · next found hfound =>
    split at h
    · cases h
    · next minPrio service hservice =>
      rw [hfound]
      exact ⟨minPrio, service, hservice, (Option.some.inj h).symm⟩

end WaitingServiceManager

/-! ## One stack -/

namespace Event

def isRole : Event → Bool
  | .negotiateRole _ => true
  | _ => false

def isLocal : Event → Bool
  | .onWaitingServicesRequest _ => true
  | _ => false

def isRemote : Event → Bool
  | .receiveRemoteWaitingServiceList _ => true
  | _ => false

def isAuthentication : Event → Bool
  | .authenticationDone => true
  | _ => false

def isStart : Event → Bool
  | .startWaitingService _ => true
  | _ => false

end Event

namespace Stack

variable {s s' : Stack} {repository : ServiceRepository} {own other : RoleNumber}
  {pairs : List Uid → Prop} {told : List Uid} {d : Bool} {rest : List Event} {e : Event}

def isMaster (s : Stack) : Bool := s.manager.mRole = .PMP_ROLE_MASTER

/-- All that the start needs of this stack is there, the authentication apart. -/
def due (s : Stack) : Bool :=
  match s.manager.mRole with
  | .PMP_ROLE_NONE => false
  | .PMP_ROLE_MASTER => s.waiting.mSetLocalServices && s.waiting.mSetRemoteServices
  | .PMP_ROLE_SLAVE => s.waiting.mSetLocalServices

theorem checkWaitingServices_eq (s : Stack) :
    s.checkWaitingServices =
      if s.due = true then s.pushEvent (.startWaitingService s.isMaster) else s := by
  unfold checkWaitingServices due isMaster
  cases s.manager.mRole with
  | PMP_ROLE_NONE => rfl
  | PMP_ROLE_MASTER => simp
  | PMP_ROLE_SLAVE => simp

@[simp] theorem checkWaitingServices_history (s : Stack) :
    s.checkWaitingServices.history = s.history := by
  rw [checkWaitingServices_eq]
  split <;> rfl

@[simp] theorem onNegotiateRole_history (s : Stack) (next : RoleNumber) (number : UInt32) :
    (s.onNegotiateRole next number).history = s.history := by
  unfold onNegotiateRole
  split
  · rfl
  · exact checkWaitingServices_history _

/-- What holds of a stack, with what it has told, if `d` says whether its start has been due;
`pairs` is what may come as the list of the other side. -/
structure Good (repository : ServiceRepository) (own other : RoleNumber) (pairs : List Uid → Prop)
    (told : List Uid) (d : Bool) (s : Stack) : Prop where
  repository_eq : s.repository = repository
  number_eq : s.manager.mRoleNubmer = own.val
  other_eq : s.otherNumber = other
  roleLane : Lane Event.isRole (· = .negotiateRole other.val) s.events
    (if s.manager.mRole = .PMP_ROLE_NONE then 0 else 1) s.history.role.toNat
  role : s.manager.mRole = .PMP_ROLE_NONE ∨ s.manager.mRole = roleOf own.val other.val
  localLane : Lane Event.isLocal
    (fun e => ∃ l, e = .onWaitingServicesRequest l ∧ s.history.services = some l) s.events
    s.waiting.mSetLocalServices.toNat s.history.services.isSome.toNat
  localSet : s.waiting.mSetLocalServices = true →
    s.history.services = some s.waiting.mLocalWaitingServices
  remoteLane : Lane Event.isRemote
    (fun e => ∃ l, e = .receiveRemoteWaitingServiceList l ∧ pairs l) s.events
    s.waiting.mSetRemoteServices.toNat s.history.received
  remoteSet : s.waiting.mSetRemoteServices = true → pairs s.waiting.mRemoteWaitingServices
  authenticationLane : Lane Event.isAuthentication (fun _ => True) s.events
    s.waiting.mAuthenticationDone.toNat s.history.authentication.toNat
  startLane : Lane Event.isStart (· = .startWaitingService s.isMaster) s.events
    s.history.started d.toNat
  requested : s.waiting.mStartRequest = true ↔ s.isMaster = true ∧ 0 < s.history.started
  search : s.waiting.mStartRequest = true → ∃ minPrio,
    WaitingServiceManager.minService repository
      (s.waiting.mLocalWaitingServices ++ s.waiting.mRemoteWaitingServices)
      (WaitingServiceManager.UINT_MAX, []) = some (minPrio, s.waiting.mServiceToStart)
  /-- What was loaded is what would be loaded now. -/
  told_eq : told = s.waiting.startWaitingServiceInAppLib

namespace Good

theorem init (repository : ServiceRepository) (own other : RoleNumber) :
    (Stack.init repository own other).Good repository own other pairs [] false where
  repository_eq := rfl
  number_eq := rfl
  other_eq := rfl
  roleLane := Lane.nil
  role := Or.inl rfl
  localLane := Lane.nil
  localSet := fun h => absurd h Bool.false_ne_true
  remoteLane := Lane.nil
  remoteSet := fun h => absurd h Bool.false_ne_true
  authenticationLane := Lane.nil
  startLane := Lane.nil
  requested := ⟨fun h => absurd h Bool.false_ne_true, fun h => absurd h.2 (Nat.lt_irrefl 0)⟩
  search := fun h => absurd h Bool.false_ne_true
  told_eq := rfl

theorem mono {pairs' : List Uid → Prop} (h : s.Good repository own other pairs told d)
    (hpairs : ∀ l, pairs l → pairs' l) : s.Good repository own other pairs' told d :=
  { h with
    remoteLane := h.remoteLane.imp fun _ ⟨l, he, hl⟩ => ⟨l, he, hpairs l hl⟩
    remoteSet := fun hset => hpairs _ (h.remoteSet hset) }

/-- The check puts the start into the queue if it is due now and was not before. -/
theorem check (h : s.Good repository own other pairs told false) :
    s.checkWaitingServices.Good repository own other pairs told s.checkWaitingServices.due := by
  rw [checkWaitingServices_eq]
  split
  · next hdue =>
    have hdue' : (s.pushEvent (.startWaitingService s.isMaster)).due = true := hdue
    rw [hdue']
    exact { h with
      roleLane := h.roleLane.push_other rfl
      localLane := h.localLane.push_other rfl
      remoteLane := h.remoteLane.push_other rfl
      authenticationLane := h.authenticationLane.push_other rfl
      startLane := h.startLane.push rfl rfl }
  · next hdue =>
    rw [Bool.eq_false_of_not_eq_true hdue]
    exact h

/-! ### What comes from outside -/

theorem pushRole (h : s.Good repository own other pairs told s.due) (hnew : s.history.role = false) :
    let s' := Stack.pushEvent { s with history := { s.history with role := true } }
      (.negotiateRole s.otherNumber.val)
    s'.Good repository own other pairs told s'.due := by
  have hlane := h.roleLane
  rw [hnew] at hlane
  exact { h with
    roleLane := hlane.push rfl (by rw [h.other_eq])
    localLane := h.localLane.push_other rfl
    remoteLane := h.remoteLane.push_other rfl
    authenticationLane := h.authenticationLane.push_other rfl
    startLane := h.startLane.push_other rfl }

theorem pushLocal (h : s.Good repository own other pairs told s.due) (l : List Uid)
    (hnew : s.history.services = none) :
    let s' := Stack.pushEvent { s with history := { s.history with services := some l } }
      (.onWaitingServicesRequest l)
    s'.Good repository own other pairs told s'.due := by
  have hlane := h.localLane
  rw [hnew] at hlane
  have hunset : ¬ s.waiting.mSetLocalServices = true := by
    intro hset
    have := h.localSet hset
    rw [hnew] at this
    cases this
  exact { h with
    roleLane := h.roleLane.push_other rfl
    localLane := hlane.of_none.push rfl ⟨l, rfl, rfl⟩
    localSet := fun hset => absurd hset hunset
    remoteLane := h.remoteLane.push_other rfl
    authenticationLane := h.authenticationLane.push_other rfl
    startLane := h.startLane.push_other rfl }

theorem pushAuthentication (h : s.Good repository own other pairs told s.due)
    (hnew : s.history.authentication = false) :
    let s' := Stack.pushEvent { s with history := { s.history with authentication := true } }
      .authenticationDone
    s'.Good repository own other pairs told s'.due := by
  have hlane := h.authenticationLane
  rw [hnew] at hlane
  exact { h with
    roleLane := h.roleLane.push_other rfl
    localLane := h.localLane.push_other rfl
    remoteLane := h.remoteLane.push_other rfl
    authenticationLane := hlane.push rfl trivial
    startLane := h.startLane.push_other rfl }

theorem pushRemote (h : s.Good repository own other pairs told s.due) {l : List Uid}
    (hl : pairs l) :
    let s' := Stack.pushEvent
      { s with history := { s.history with received := s.history.received + 1 } }
      (.receiveRemoteWaitingServiceList l)
    s'.Good repository own other pairs told s'.due := by
  exact { h with
    roleLane := h.roleLane.push_other rfl
    localLane := h.localLane.push_other rfl
    remoteLane := h.remoteLane.push rfl ⟨l, rfl, hl⟩
    authenticationLane := h.authenticationLane.push_other rfl
    startLane := h.startLane.push_other rfl }

/-! ### What the event thread does -/

/-- Nothing has been started as long as nothing was due. -/
theorem idle (h : s.Good repository own other pairs told s.due) (hdue : s.due = false) :
    s.history.started = 0 ∧ s.waiting.mStartRequest = false := by
  have hle := h.startLane.done_le
  rw [hdue] at hle
  have hzero : s.history.started = 0 := Nat.le_zero.mp hle
  refine ⟨hzero, ?_⟩
  by_contra hne
  have := (h.requested.mp (Bool.eq_true_of_not_eq_false hne)).2
  omega

/-- The start has not been due: the event is the first that came of something it needs. -/
theorem notDue (h : s.Good repository own other pairs told s.due) (hdue : s.due = false) :
    s.Good repository own other pairs told false := by
  rw [hdue] at h
  exact h

theorem handleRole (h : s.Good repository own other pairs told s.due) {number : UInt32}
    (hev : s.events = .negotiateRole number :: rest) (hdiff : own.val ≠ other.val) :
    let s' := Stack.onNegotiateRole { s with events := rest } s.otherNumber number
    s'.Good repository own other pairs told s'.due := by
  have hlane := h.roleLane
  rw [hev] at hlane
  obtain ⟨hlane', hnumber, hlt⟩ := hlane.pop rfl
  obtain rfl := Event.negotiateRole.inj hnumber
  have hnone : s.manager.mRole = .PMP_ROLE_NONE := by
    by_contra hne
    rw [if_neg hne] at hlt
    cases hrole : s.history.role <;> rw [hrole] at hlt <;> simp at hlt
  have hdue : s.due = false := by rw [due, hnone]
  obtain ⟨hstarted, hrequest⟩ := h.idle hdue
  have hdrawn : ¬ s.manager.mRoleNubmer = -1 := h.number_eq ▸ own.val_ne
  have hother : ¬ s.manager.mRoleNubmer = other.val := h.number_eq ▸ hdiff
  have hrole : s.manager.onNegotiateRole s.otherNumber other.val =
      ⟨{ s.manager with mRole := roleOf own.val other.val }, [], [.compared own.val other.val]⟩ := by
    rw [PmpComponentManager.onNegotiateRole, if_neg hdrawn, if_neg hother, ← h.number_eq]
    rfl
  have hcheck : ¬ (s.manager.mRoleNubmer = -1 ∨ s.manager.mRoleNubmer = other.val) :=
    not_or.mpr ⟨hdrawn, hother⟩
  show (Stack.onNegotiateRole { s with events := rest } s.otherNumber other.val).Good _ _ _ _ _ _
  rw [Stack.onNegotiateRole, if_neg hcheck, hrole]
  have hdone : (1 : Nat) = if roleOf own.val other.val = .PMP_ROLE_NONE then 0 else 1 :=
    (if_neg (roleOf_ne_none own.val other.val)).symm
  rw [hnone] at hlane'
  exact check { h.notDue hdue with
    roleLane := by
      show Lane _ _ rest (if roleOf own.val other.val = .PMP_ROLE_NONE then 0 else 1) _
      rw [← hdone]
      exact hlane'
    role := Or.inr rfl
    localLane := (hev ▸ h.localLane).pop_other rfl
    remoteLane := (hev ▸ h.remoteLane).pop_other rfl
    authenticationLane := (hev ▸ h.authenticationLane).pop_other rfl
    startLane := ((hev ▸ (h.notDue hdue).startLane).pop_other rfl).of_none
    requested := by
      refine iff_of_false (Bool.not_eq_true _ ▸ hrequest) ?_
      rintro ⟨-, hpos⟩
      exact absurd hstarted hpos.ne' }

theorem handleLocal (h : s.Good repository own other pairs told s.due) {l : List Uid}
    (hev : s.events = .onWaitingServicesRequest l :: rest) :
    let s' := Stack.checkWaitingServices
      { s with events := rest, waiting := s.waiting.setLocalWaitingServices l }
    s'.Good repository own other pairs told s'.due := by
  have hlane := h.localLane
  rw [hev] at hlane
  obtain ⟨hlane', ⟨l', hl, hservices⟩, hlt⟩ := hlane.pop rfl
  obtain rfl := Event.onWaitingServicesRequest.inj hl
  have hunset : s.waiting.mSetLocalServices = false := by
    rw [hservices] at hlt
    cases hset : s.waiting.mSetLocalServices with
    | false => rfl
    | true =>
      rw [hset] at hlt
      exact absurd hlt (Nat.lt_irrefl 1)
  have hdue : s.due = false := by
    unfold due
    rw [hunset]
    cases s.manager.mRole <;> rfl
  obtain ⟨hstarted, hrequest⟩ := h.idle hdue
  rw [hunset] at hlane'
  exact check { h.notDue hdue with
    roleLane := (hev ▸ h.roleLane).pop_other rfl
    localLane := hlane'
    localSet := fun _ => hservices
    remoteLane := (hev ▸ h.remoteLane).pop_other rfl
    authenticationLane := (hev ▸ h.authenticationLane).pop_other rfl
    startLane := (hev ▸ (h.notDue hdue).startLane).pop_other rfl
    search := fun hreq => absurd (hrequest.symm.trans hreq) Bool.false_ne_true }

theorem handleRemote (h : s.Good repository own other pairs told s.due) {l : List Uid}
    (hev : s.events = .receiveRemoteWaitingServiceList l :: rest) (hone : s.history.received ≤ 1)
    (hmaster : roleOf own.val other.val = .PMP_ROLE_MASTER) :
    let s' := Stack.checkWaitingServices
      { s with events := rest, waiting := s.waiting.setRemoteWaitingServices l }
    s'.Good repository own other pairs told s'.due := by
  have hlane := h.remoteLane
  rw [hev] at hlane
  obtain ⟨hlane', ⟨l', hl, hpairs⟩, hlt⟩ := hlane.pop rfl
  obtain rfl := Event.receiveRemoteWaitingServiceList.inj hl
  have hunset : s.waiting.mSetRemoteServices = false := by
    cases hset : s.waiting.mSetRemoteServices with
    | false => rfl
    | true =>
      rw [hset] at hlt
      exact absurd (Nat.lt_of_lt_of_le hlt hone) (Nat.lt_irrefl 1)
  have hdue : s.due = false := by
    unfold due
    rcases h.role with hrole | hrole
    · rw [hrole]
    · rw [hrole, hmaster, hunset]
      exact Bool.and_false _
  obtain ⟨hstarted, hrequest⟩ := h.idle hdue
  rw [hunset] at hlane'
  exact check { h.notDue hdue with
    roleLane := (hev ▸ h.roleLane).pop_other rfl
    localLane := (hev ▸ h.localLane).pop_other rfl
    remoteLane := hlane'
    remoteSet := fun _ => hpairs
    authenticationLane := (hev ▸ h.authenticationLane).pop_other rfl
    startLane := (hev ▸ (h.notDue hdue).startLane).pop_other rfl
    search := fun hreq => absurd (hrequest.symm.trans hreq) Bool.false_ne_true }

theorem handleAuthentication (h : s.Good repository own other pairs told s.due)
    (hev : s.events = .authenticationDone :: rest) :
    let s' : Stack := { s with events := rest, waiting := s.waiting.authenticationDone }
    s'.Good repository own other pairs (told ++ s'.waiting.startWaitingServiceInAppLib) s'.due := by
  have hlane := h.authenticationLane
  rw [hev] at hlane
  obtain ⟨hlane', -, hlt⟩ := hlane.pop rfl
  have hundone : s.waiting.mAuthenticationDone = false := by
    cases hdone : s.waiting.mAuthenticationDone with
    | false => rfl
    | true =>
      rw [hdone] at hlt
      cases hcame : s.history.authentication <;> rw [hcame] at hlt <;> simp at hlt
  rw [hundone] at hlane'
  have hnothing : told = [] := by
    rw [h.told_eq, WaitingServiceManager.startWaitingServiceInAppLib, hundone]
    rfl
  exact { h with
    roleLane := (hev ▸ h.roleLane).pop_other rfl
    localLane := (hev ▸ h.localLane).pop_other rfl
    remoteLane := (hev ▸ h.remoteLane).pop_other rfl
    authenticationLane := hlane'
    startLane := (hev ▸ h.startLane).pop_other rfl
    told_eq := by rw [hnothing, List.nil_append] }

/-- What there is when a start is handled. -/
theorem starting (h : s.Good repository own other pairs told s.due) {master : Bool}
    (hev : s.events = .startWaitingService master :: rest) :
    Lane Event.isStart (· = .startWaitingService s.isMaster) rest (s.history.started + 1)
        s.due.toNat ∧
      master = s.isMaster ∧ s.waiting.mStartRequest = false ∧ told = [] := by
  have hlane := h.startLane
  rw [hev] at hlane
  obtain ⟨hlane', hmaster, hlt⟩ := hlane.pop rfl
  have hzero : s.history.started = 0 := by
    have := Bool.toNat_le s.due
    omega
  have hrequest : s.waiting.mStartRequest = false := by
    by_contra hne
    have := (h.requested.mp (Bool.eq_true_of_not_eq_false hne)).2
    omega
  refine ⟨hlane', Event.startWaitingService.inj hmaster, hrequest, ?_⟩
  rw [h.told_eq, WaitingServiceManager.startWaitingServiceInAppLib, hrequest]
  exact if_neg fun hboth => absurd hboth.2 Bool.false_ne_true

theorem startMaster (h : s.Good repository own other pairs told s.due)
    (hev : s.events = .startWaitingService true :: rest) {waiting : WaitingServiceManager}
    (hs : s.waiting.startAsMaster s.repository = some waiting) :
    let s' : Stack := { s with
      events := rest
      history := { s.history with started := s.history.started + 1 }
      waiting := waiting }
    s'.Good repository own other pairs (told ++ waiting.startWaitingServiceInAppLib) s'.due := by
  obtain ⟨hlane, hmaster, -, hnothing⟩ := h.starting hev
  obtain ⟨minPrio, service, hservice, rfl⟩ := WaitingServiceManager.startAsMaster_eq hs
  exact { h with
    roleLane := (hev ▸ h.roleLane).pop_other rfl
    localLane := (hev ▸ h.localLane).pop_other rfl
    remoteLane := (hev ▸ h.remoteLane).pop_other rfl
    authenticationLane := (hev ▸ h.authenticationLane).pop_other rfl
    startLane := hlane
    requested := iff_of_true rfl ⟨hmaster.symm, Nat.succ_pos _⟩
    search := fun _ => ⟨minPrio, h.repository_eq ▸ hservice⟩
    told_eq := by rw [hnothing, List.nil_append] }

theorem startSlave (h : s.Good repository own other pairs told s.due)
    (hev : s.events = .startWaitingService false :: rest) :
    let s' : Stack := { s with
      events := rest
      history := { s.history with started := s.history.started + 1 } }
    s'.Good repository own other pairs told s'.due := by
  obtain ⟨hlane, hmaster, hrequest, -⟩ := h.starting hev
  exact { h with
    roleLane := (hev ▸ h.roleLane).pop_other rfl
    localLane := (hev ▸ h.localLane).pop_other rfl
    remoteLane := (hev ▸ h.remoteLane).pop_other rfl
    authenticationLane := (hev ▸ h.authenticationLane).pop_other rfl
    startLane := hlane
    requested := by
      refine iff_of_false (fun hreq => absurd (hrequest.symm.trans hreq) Bool.false_ne_true) ?_
      rintro ⟨htrue, -⟩
      exact absurd (hmaster.trans htrue) Bool.false_ne_true }

/-- The slave starts with the list that was set. -/
theorem slaveList (h : s.Good repository own other pairs told s.due)
    (hev : s.events = .startWaitingService false :: rest) {data : List UInt8}
    (hs : s.waiting.startAsSlave s.repository = some data) :
    ∃ services l, s.history.services = some services ∧
      WaitingServiceManager.pairServices repository services = some l ∧
      sendWaitingServicesList l = some data := by
  have hdue : s.due = true := by
    have hle := (h.starting hev).1.done_le
    by_contra hne
    rw [Bool.eq_false_of_not_eq_true hne] at hle
    exact absurd hle (Nat.not_succ_le_zero _)
  have hset : s.waiting.mSetLocalServices = true := by
    unfold due at hdue
    cases hrole : s.manager.mRole with
    | PMP_ROLE_NONE => rw [hrole] at hdue; cases hdue
    | PMP_ROLE_MASTER => rw [hrole] at hdue; exact (Bool.and_eq_true_iff.mp hdue).1
    | PMP_ROLE_SLAVE => rw [hrole] at hdue; exact hdue
  rw [WaitingServiceManager.startAsSlave, h.repository_eq] at hs
  obtain ⟨l, hl, hdata⟩ := Option.bind_eq_some_iff.mp hs
  exact ⟨_, l, h.localSet hset, hl, hdata⟩

end Good

end Stack

/-! ## Two stacks -/

namespace Stacks

variable {repository : Side → ServiceRepository} {number : Side → RoleNumber} {m i : Side}
  {w w' : Stacks} {r : Stack.Done}

/-- **The invariant**, with `m` for the master. -/
structure Inv (repository : Side → ServiceRepository) (number : Side → RoleNumber) (m : Side)
    (w : Stacks) : Prop where
  good : ∀ s, (w.state s).Good (repository s) (number s) (number s.other) (Pairs repository w s)
    (w.told s) (w.state s).due
  /-- Nothing goes to the slave. -/
  silent : w.link m.other = [] ∧ (w.state m.other).history.received = 0
  /-- The lists that have come to the master, or are on their way, are those of the slave. -/
  lists : (w.state m).history.received + (w.link m).length = (w.state m.other).history.started
  sent : ∀ data ∈ w.link m, ∃ l, Pairs repository w m l ∧ sendWaitingServicesList l = some data

namespace Inv

theorem init (repository : Side → ServiceRepository) (number : Side → RoleNumber) (m : Side) :
    Inv repository number m (.init repository number) where
  good := fun s => .init (repository s) (number s) (number s.other)
  silent := ⟨rfl, rfl⟩
  lists := rfl
  sent := fun _ h => absurd h List.not_mem_nil

/-- What one stack does, if it keeps its own part. -/
theorem react (h : Inv repository number m w)
    (hgood : r.state.Good (repository i) (number i) (number i.other) (Pairs repository w i)
      (w.told i ++ r.told) r.state.due)
    (hservices : ∀ l, (w.state i).history.services = some l → r.state.history.services = some l)
    (hreceived : r.state.history.received = (w.state i).history.received)
    (hmaster : i = m → r.sent = [])
    (hslave : i = m.other →
      r.state.history.started = (w.state i).history.started + r.sent.length ∧
        ∀ data ∈ r.sent, ∃ services l, r.state.history.services = some services ∧
          WaitingServiceManager.pairServices (repository i) services = some l ∧
          sendWaitingServicesList l = some data) :
    Inv repository number m (w.react Side.other i r) := by
  have hpairs : ∀ s l, Pairs repository w s l → Pairs repository (w.react Side.other i r) s l := by
    rintro s l ⟨services, hset, hl⟩
    refine ⟨services, ?_, hl⟩
    rcases eq_or_ne s.other i with rfl | hne
    · rw [Duplex.react_state_self]
      exact hservices services hset
    · rw [Duplex.react_state_ne _ _ _ hne]
      exact hset
  refine ⟨?_, ?_, ?_, ?_⟩
  · intro s
    rcases eq_or_ne s i with rfl | hne
    · rw [Duplex.react_state_self, Duplex.react_told_self]
      exact hgood.mono (hpairs s)
    · rw [Duplex.react_state_ne _ _ _ hne, Duplex.react_told_ne _ _ _ hne]
      exact (h.good s).mono (hpairs s)
  · rcases m.eq_or i with rfl | rfl
    · rw [Duplex.react_link_peer, hmaster rfl, List.append_nil,
        Duplex.react_state_ne _ _ _ i.other_ne]
      exact h.silent
    · rw [Duplex.react_link_ne _ _ _ (by simp [m.other_ne]), Duplex.react_state_self, hreceived]
      exact h.silent
  · rcases m.eq_or i with rfl | rfl
    · rw [Duplex.react_state_self, Duplex.react_link_ne _ _ _ i.other_ne.symm,
        Duplex.react_state_ne _ _ _ i.other_ne, hreceived]
      exact h.lists
    · have hlink : (w.react Side.other m.other r).link m = w.link m ++ r.sent := by
        have := Duplex.react_link_peer w Side.other m.other r
        rwa [Side.other_other] at this
      rw [Duplex.react_state_ne _ _ _ m.other_ne.symm, hlink, Duplex.react_state_self,
        (hslave rfl).1, List.length_append, ← Nat.add_assoc, h.lists]
  · intro data hdata
    rcases m.eq_or i with rfl | rfl
    · rw [Duplex.react_link_ne _ _ _ i.other_ne.symm] at hdata
      obtain ⟨l, hl, hsent⟩ := h.sent data hdata
      exact ⟨l, hpairs i l hl, hsent⟩
    · have hlink : (w.react Side.other m.other r).link m = w.link m ++ r.sent := by
        have := Duplex.react_link_peer w Side.other m.other r
        rwa [Side.other_other] at this
      rw [hlink] at hdata
      rcases List.mem_append.mp hdata with hdata | hdata
      · obtain ⟨l, hl, hsent⟩ := h.sent data hdata
        exact ⟨l, hpairs m l hl, hsent⟩
      · obtain ⟨services, l, hset, hl, hsent⟩ := (hslave rfl).2 data hdata
        refine ⟨l, ⟨services, ?_, hl⟩, hsent⟩
        rw [Duplex.react_state_self]
        exact hset

/-- A stack that handles an event without a word to anybody. -/
theorem react_quiet (h : Inv repository number m w) {s : Stack}
    (hgood : s.Good (repository i) (number i) (number i.other) (Pairs repository w i) (w.told i)
      s.due) (hsame : s.history = (w.state i).history) :
    Inv repository number m (w.react Side.other i ⟨s, [], []⟩) := by
  refine h.react (by rwa [List.append_nil]) (fun l hl => ?_) ?_ (fun _ => rfl) fun _ => ?_
  · exact (congrArg History.services hsame).trans hl
  · exact congrArg History.received hsame
  · exact ⟨congrArg History.started hsame, fun _ hdata => absurd hdata List.not_mem_nil⟩

/-- A start is handled by the master as a master and by the slave as a slave. -/
theorem started_role (h : Inv repository number m w) {master : Bool} {rest : List Event}
    (hev : (w.state i).events = .startWaitingService master :: rest) :
    master = decide (roleOf (number i).val (number i.other).val = .PMP_ROLE_MASTER) := by
  have hle := ((h.good i).starting hev).1.done_le
  have hrole : (w.state i).manager.mRole = roleOf (number i).val (number i.other).val := by
    refine (h.good i).role.resolve_left ?_
    intro hnone
    have hdue : (w.state i).due = false := by rw [Stack.due, hnone]
    rw [hdue] at hle
    exact absurd hle (Nat.not_succ_le_zero _)
  rw [((h.good i).starting hev).2.1, Stack.isMaster, hrole]

/-- What the event thread does with the next event. -/
theorem handle (h : Inv repository number m w)
    (hm : roleOf (number m).val (number m.other).val = .PMP_ROLE_MASTER)
    (hm' : roleOf (number m.other).val (number m).val = .PMP_ROLE_SLAVE)
    (hdiff : (number i).val ≠ (number i.other).val) {e : Event} {rest : List Event}
    (hev : (w.state i).events = e :: rest)
    (hs : Stack.handle { w.state i with events := rest } e = some r) :
    Inv repository number m (w.react Side.other i r) := by
  cases e with
  | negotiateRole n =>
    obtain rfl := Option.some.inj hs
    exact h.react_quiet ((h.good i).handleRole hev hdiff) (Stack.onNegotiateRole_history ..)
  | onWaitingServicesRequest l =>
    obtain rfl := Option.some.inj hs
    exact h.react_quiet ((h.good i).handleLocal hev) (Stack.checkWaitingServices_history _)
  | receiveRemoteWaitingServiceList l =>
    obtain rfl := Option.some.inj hs
    -- the slave has received nothing, and the master one list at most
    have hcame : 0 < (w.state i).history.received :=
      Nat.lt_of_le_of_lt (Nat.zero_le _) ((hev ▸ (h.good i).remoteLane).pop rfl).2.2
    have him : i = m := by
      rcases m.eq_or i with him | rfl
      · exact him
      · rw [h.silent.2] at hcame
        exact absurd hcame (Nat.lt_irrefl 0)
    subst him
    have hone : (w.state i).history.received ≤ 1 := by
      have hle := (h.good i.other).startLane.done_le
      have := Bool.toNat_le (w.state i.other).due
      have := h.lists
      omega
    exact h.react_quiet ((h.good i).handleRemote hev hone hm)
      (Stack.checkWaitingServices_history _)
  | authenticationDone =>
    obtain rfl := Option.some.inj hs
    exact h.react ((h.good i).handleAuthentication hev) (fun _ hl => hl) rfl (fun _ => rfl)
      fun _ => ⟨rfl, fun _ hdata => absurd hdata List.not_mem_nil⟩
  | startWaitingService master =>
    have hmaster := h.started_role hev
    rcases m.eq_or i with rfl | rfl
    · -- the master finds the service, and may load it
      obtain rfl : master = true := by rw [hmaster, hm]; rfl
      simp only [Stack.handle, if_true] at hs
      split at hs
      · cases hs
      · next waiting hstart =>
        obtain rfl := Option.some.inj hs
        exact h.react ((h.good i).startMaster hev hstart) (fun _ hl => hl) rfl (fun _ => rfl)
          fun hi => absurd hi.symm i.other_ne
    · -- the slave sends its list
      obtain rfl : master = false := by rw [hmaster, Side.other_other, hm']; rfl
      simp only [Stack.handle, Bool.false_eq_true, if_false] at hs
      split at hs
      · cases hs
      · next data hstart =>
        obtain rfl := Option.some.inj hs
        have hgood := (h.good m.other).startSlave hev
        refine h.react (by rwa [List.append_nil]) (fun _ hl => hl) rfl
          (fun hi => absurd hi m.other_ne) fun _ => ⟨rfl, ?_⟩
        intro data' hdata
        obtain rfl := List.mem_singleton.mp hdata
        exact (h.good m.other).slaveList hev hstart

theorem act (h : Inv repository number m w)
    (hm : roleOf (number m).val (number m.other).val = .PMP_ROLE_MASTER)
    (hm' : roleOf (number m.other).val (number m).val = .PMP_ROLE_SLAVE)
    (hdiff : (number i).val ≠ (number i.other).val) {a : Stack.Activity}
    (hs : (w.state i).act a = some r) : Inv repository number m (w.react Side.other i r) := by
  cases a with
  | negotiateRole =>
    simp only [Stack.act] at hs
    split at hs
    · cases hs
    · next hnew =>
      obtain rfl := Option.some.inj hs
      have hgood := (h.good i).pushRole (Bool.eq_false_of_not_eq_true hnew)
      exact h.react (by rwa [List.append_nil]) (fun _ hl => hl) rfl (fun _ => rfl)
        fun _ => ⟨rfl, fun _ hdata => absurd hdata List.not_mem_nil⟩
  | onWaitingServicesRequest services =>
    simp only [Stack.act] at hs
    split at hs
    · cases hs
    · next hnew =>
      obtain rfl := Option.some.inj hs
      have hgood := (h.good i).pushLocal services hnew
      refine h.react (by rwa [List.append_nil]) (fun l hl => ?_) rfl (fun _ => rfl)
        fun _ => ⟨rfl, fun _ hdata => absurd hdata List.not_mem_nil⟩
      rw [hnew] at hl
      cases hl
  | authenticationDone =>
    simp only [Stack.act] at hs
    split at hs
    · cases hs
    · next hnew =>
      obtain rfl := Option.some.inj hs
      have hgood := (h.good i).pushAuthentication (Bool.eq_false_of_not_eq_true hnew)
      exact h.react (by rwa [List.append_nil]) (fun _ hl => hl) rfl (fun _ => rfl)
        fun _ => ⟨rfl, fun _ hdata => absurd hdata List.not_mem_nil⟩
  | handleEvent =>
    simp only [Stack.act] at hs
    split at hs
    · cases hs
    · next e rest hev => exact h.handle hm hm' hdiff hev hs

/-- The list of the slave comes to the master. -/
theorem deliver (h : Inv repository number m w) {data : List UInt8} {rest : List (List UInt8)}
    (hlink : w.link i = data :: rest) (hs : (w.state i).receive data = some r) :
    Inv repository number m
      (({ w with link := Function.update w.link i rest } : Stacks).react Side.other i r) := by
  have him : i = m := by
    rcases m.eq_or i with him | rfl
    · exact him
    · rw [h.silent.1] at hlink
      cases hlink
  subst him
  unfold Stack.receive at hs
  split at hs
  · cases hs
  · next l hread =>
    obtain rfl := Option.some.inj hs
    obtain ⟨l', hl', hsent⟩ := h.sent data (hlink ▸ List.mem_cons_self)
    obtain rfl := list_read hsent hread
    have hgood := (h.good i).pushRemote hl'
    refine ⟨?_, ?_, ?_, ?_⟩
    · intro s
      rcases i.eq_or s with rfl | rfl
      · rw [Duplex.react_state_self, Duplex.react_told_self, List.append_nil]
        refine hgood.mono ?_
        rintro k ⟨services, hset, hk⟩
        exact ⟨services, by rwa [Duplex.react_state_ne _ _ _ s.other_ne], hk⟩
      · rw [Duplex.react_state_ne _ _ _ i.other_ne, Duplex.react_told_ne _ _ _ i.other_ne]
        refine (h.good i.other).mono ?_
        rintro k ⟨services, hset, hk⟩
        refine ⟨services, ?_, hk⟩
        rw [Side.other_other] at hset ⊢
        rw [Duplex.react_state_self]
        exact hset
    · rw [Duplex.react_link_peer, List.append_nil, Duplex.react_state_ne _ _ _ i.other_ne]
      refine ⟨?_, h.silent.2⟩
      show Function.update w.link i rest i.other = []
      rw [Function.update_of_ne i.other_ne]
      exact h.silent.1
    · rw [Duplex.react_state_self, Duplex.react_link_ne _ _ _ i.other_ne.symm,
        Duplex.react_state_ne _ _ _ i.other_ne]
      have hlists := h.lists
      rw [hlink, List.length_cons] at hlists
      show (w.state i).history.received + 1 + (Function.update w.link i rest i).length = _
      rw [Function.update_self, ← hlists]
      omega
    · intro data' hdata
      rw [Duplex.react_link_ne _ _ _ i.other_ne.symm] at hdata
      have hmem : data' ∈ rest := by
        have hself : Function.update w.link i rest i = rest := Function.update_self ..
        exact hself ▸ hdata
      obtain ⟨k, ⟨services, hset, hk⟩, hsent'⟩ := h.sent data' (hlink ▸ List.mem_cons_of_mem _ hmem)
      exact ⟨k, ⟨services, by rwa [Duplex.react_state_ne _ _ _ i.other_ne], hk⟩, hsent'⟩

/-- **Preserved by every step.** -/
theorem step (h : Inv repository number m w)
    (hm : roleOf (number m).val (number m.other).val = .PMP_ROLE_MASTER)
    (hm' : roleOf (number m.other).val (number m).val = .PMP_ROLE_SLAVE)
    (hdiff : ∀ i : Side, (number i).val ≠ (number i.other).val) {a : Action}
    (hs : Stacks.step w a = some w') : Inv repository number m w' := by
  cases Duplex.step_cases hs with
  | act hact => exact h.act hm hm' (hdiff _) hact
  | deliver hlink hreceive => exact h.deliver hlink hreceive

end Inv

/-! ## What is started in the end -/

/-- The greater number makes the master. -/
theorem roleOf_master (h : (number m.other).val < (number m).val) :
    roleOf (number m).val (number m.other).val = .PMP_ROLE_MASTER ∧
      roleOf (number m.other).val (number m).val = .PMP_ROLE_SLAVE :=
  ⟨if_pos h, if_neg (UInt32.lt_asymm h)⟩

theorem exists_master (hdiff : (number .a).val ≠ (number .b).val) :
    ∃ m : Side, (number m.other).val < (number m).val := by
  rcases UInt32.lt_or_lt_of_ne hdiff with hlt | hlt
  · exact ⟨.b, hlt⟩
  · exact ⟨.a, hlt⟩

namespace Inv

/-- A stack that has told something is ready, and not the slave. -/
theorem ready (h : Inv repository number m w)
    (hm' : roleOf (number m.other).val (number m).val = .PMP_ROLE_SLAVE)
    (htold : w.told i ≠ []) : i = m ∧ Ready (w.state i) := by
  have hgood := h.good i
  rw [hgood.told_eq, WaitingServiceManager.startWaitingServiceInAppLib] at htold
  obtain ⟨hauth, hrequest⟩ : (w.state i).waiting.mAuthenticationDone = true ∧
      (w.state i).waiting.mStartRequest = true := by
    by_contra hnot
    rw [if_neg hnot] at htold
    exact htold rfl
  obtain ⟨hmaster, hstarted⟩ := hgood.requested.mp hrequest
  have hrole : (w.state i).manager.mRole = .PMP_ROLE_MASTER := of_decide_eq_true hmaster
  have hdue : (w.state i).due = true := by
    have hle := hgood.startLane.done_le
    by_contra hne
    rw [Bool.eq_false_of_not_eq_true hne] at hle
    exact absurd (Nat.lt_of_lt_of_le hstarted hle) (Nat.lt_irrefl 0)
  rw [Stack.due, hrole] at hdue
  obtain ⟨hlocal, hremote⟩ := Bool.and_eq_true_iff.mp hdue
  refine ⟨?_, hrole, hlocal, hremote, hauth⟩
  rcases m.eq_or i with him | rfl
  · exact him
  · rcases hgood.role with hnone | hslave
    · rw [hnone] at hrole
      cases hrole
    · rw [Side.other_other, hm', hrole] at hslave
      cases hslave

theorem told_length (h : Inv repository number m w) : (w.told i).length ≤ 1 := by
  rw [(h.good i).told_eq, WaitingServiceManager.startWaitingServiceInAppLib]
  split
  · split
    · exact Nat.zero_le 1
    · exact Nat.le_refl 1
  · exact Nat.zero_le 1

/-- In the end the role is decided, and the lists are there. -/
theorem settled (h : Inv repository number m w) (hset : w.Settled) (s : Side) :
    (w.state s).manager.mRole = roleOf (number s).val (number s.other).val ∧
      (w.state s).waiting.mSetLocalServices = true ∧
      (w.state s).waiting.mAuthenticationDone = true ∧
      (w.state s).history.started = (w.state s).due.toNat := by
  have hgood := h.good s
  have hrole := hgood.roleLane.count
  have hlocal := hgood.localLane.count
  have hauth := hgood.authenticationLane.count
  have hstart := hgood.startLane.count
  rw [hset.events s, List.countP_nil, Nat.zero_add] at hrole hlocal hauth hstart
  rw [hset.role s] at hrole
  rw [hset.services s] at hlocal
  rw [hset.authentication s] at hauth
  refine ⟨hgood.role.resolve_left ?_, Bool.toNat_eq_one.mp hlocal, Bool.toNat_eq_one.mp hauth, hstart⟩
  intro hnone
  rw [if_pos hnone] at hrole
  exact absurd hrole (by decide)

/-- **In the end the master has looked through both lists**, and loads what it found. -/
theorem found (h : Inv repository number m w)
    (hm : roleOf (number m).val (number m.other).val = .PMP_ROLE_MASTER)
    (hm' : roleOf (number m.other).val (number m).val = .PMP_ROLE_SLAVE) (hset : w.Settled) :
    ∃ services l, (w.state m).history.services = some services ∧ Pairs repository w m l ∧
      (w.told m ≠ [] ↔ ∃ it ∈ services ++ l, ∃ info,
        (repository m).getServiceInfo it = some info ∧
          info.priority < WaitingServiceManager.UINT_MAX ∧ 0 ≠ info.priority) := by
  obtain ⟨hrole, hlocal, hauth, hstarted⟩ := h.settled hset m
  obtain ⟨hrole', hlocal', -, hstarted'⟩ := h.settled hset m.other
  rw [hm] at hrole
  rw [Side.other_other, hm'] at hrole'
  -- the slave has sent its list, so that the master has it
  have hdue' : (w.state m.other).due = true := by rw [Stack.due, hrole', hlocal']
  have hreceived : (w.state m).history.received = 1 := by
    have hlists := h.lists
    rw [hset.link m, List.length_nil, Nat.add_zero, hstarted', hdue'] at hlists
    exact hlists
  have hremote : (w.state m).waiting.mSetRemoteServices = true := by
    have hcount := (h.good m).remoteLane.count
    rw [hset.events m, List.countP_nil, Nat.zero_add, hreceived] at hcount
    exact Bool.toNat_eq_one.mp hcount
  have hdue : (w.state m).due = true := by
    rw [Stack.due, hrole, hlocal, hremote]
    rfl
  have hrequest : (w.state m).waiting.mStartRequest = true := by
    refine (h.good m).requested.mpr ⟨decide_eq_true hrole, ?_⟩
    rw [hstarted, hdue]
    exact Nat.one_pos
  obtain ⟨minPrio, hsearch⟩ := (h.good m).search hrequest
  refine ⟨_, _, (h.good m).localSet hlocal, (h.good m).remoteSet hremote, ?_⟩
  have hfound := WaitingServiceManager.minService_found hsearch
  have hnothing : ¬ (([] : Uid) ≠ []) := not_not.mpr rfl
  simp only [hnothing, false_or] at hfound
  rw [← hfound, (h.good m).told_eq, WaitingServiceManager.startWaitingServiceInAppLib,
    if_pos ⟨hauth, hrequest⟩]
  by_cases hservice : (w.state m).waiting.mServiceToStart = []
  · rw [if_pos hservice]
    exact iff_of_false (not_not.mpr rfl) (not_not.mpr hservice)
  · rw [if_neg hservice]
    exact iff_of_true (List.cons_ne_nil _ _) hservice

end Inv

/-- What is listed, once both lists are known. -/
theorem listed_iff (hlt : (number m.other).val < (number m).val) {services l : List Uid}
    (hservices : (w.state m).history.services = some services) (hl : Pairs repository w m l)
    {it : Uid} {priority : UInt32} :
    Listed repository number w it priority ↔ it ∈ services ++ l ∧
      ∃ info, (repository m).getServiceInfo it = some info ∧ info.priority = priority := by
  constructor
  · rintro ⟨m', hlt', ⟨list, hlist, hit⟩, hinfo⟩
    have hmm : m' = m := by
      rcases m.eq_or m' with rfl | rfl
      · rfl
      · rw [Side.other_other] at hlt'
        exact absurd hlt' (UInt32.lt_asymm hlt)
    subst hmm
    refine ⟨List.mem_append.mpr ?_, hinfo⟩
    rcases hlist with hlist | ⟨set, hset, hpairs⟩
    · rw [hservices] at hlist
      exact Or.inl (Option.some.inj hlist ▸ hit)
    · obtain ⟨set', hset', hpairs'⟩ := hl
      obtain rfl := Option.some.inj (hset.symm.trans hset')
      exact Or.inr (Option.some.inj (hpairs.symm.trans hpairs') ▸ hit)
  · rintro ⟨hit, hinfo⟩
    rcases List.mem_append.mp hit with hit | hit
    · exact ⟨m, hlt, ⟨services, Or.inl hservices, hit⟩, hinfo⟩
    · exact ⟨m, hlt, ⟨l, Or.inr hl, hit⟩, hinfo⟩

theorem lt_max_iff {priority : UInt32} :
    priority < WaitingServiceManager.UINT_MAX ↔ priority ≠ WaitingServiceManager.UINT_MAX := by
  have hle : priority ≤ WaitingServiceManager.UINT_MAX := by
    rw [UInt32.le_iff_toNat_le]
    exact Nat.le_of_lt_succ priority.toNat_lt
  exact ⟨UInt32.ne_of_lt, fun hne => UInt32.lt_of_le_of_ne hle hne⟩

/-- **A waiting service is started once**, whatever the order of events, and in the end if there is
one to start; unless all that there are have the priority `UINT_MAX`. -/
theorem waiting_started_once_iff (repository : Side → ServiceRepository)
    (number : Side → RoleNumber) (hdiff : (number .a).val ≠ (number .b).val) (as : List Action)
    (w : Stacks) (hr : run Stacks.step (.init repository number) as = some w) :
    StartedOnce repository number w ↔ (w.Settled → BelowMax repository number w) := by
  obtain ⟨m, hlt⟩ := exists_master hdiff
  obtain ⟨hm, hm'⟩ := roleOf_master hlt
  have hdiffer : ∀ i : Side, (number i).val ≠ (number i.other).val := by
    intro i
    cases i with
    | a => exact hdiff
    | b => exact hdiff.symm
  have hinv : Inv repository number m w :=
    run_invariant (P := fun _ _ => True) (fun _ _ _ h _ hs => h.step hm hm' hdiffer hs)
      (Inv.init repository number m) (along_of_mem fun _ _ _ => trivial) hr
  have hready : ∀ s, w.told s ≠ [] → s = m ∧ Ready (w.state s) :=
    fun s htold => hinv.ready hm' htold
  have honce : (w.told .a).length + (w.told .b).length ≤ 1 := by
    have hslave : w.told m.other = [] := by
      by_contra hne
      exact m.other_ne (hready m.other hne).1
    have hle := hinv.told_length (i := m)
    cases m with
    | a =>
      rw [show w.told .b = [] from hslave]
      exact hle
    | b =>
      rw [show w.told .a = [] from hslave, List.length_nil, Nat.zero_add]
      exact hle
  have hissued : (∃ s, w.told s ≠ []) ↔ w.told m ≠ [] :=
    ⟨fun ⟨s, hs⟩ => (hready s hs).1 ▸ hs, fun htold => ⟨m, htold⟩⟩
  -- in the end it is called if there is a service that the search finds
  have hcomplete : w.Settled → ((∃ s, w.told s ≠ []) ↔
      ∃ it priority, Listed repository number w it priority ∧ priority ≠ 0 ∧
        priority ≠ WaitingServiceManager.UINT_MAX) := by
    intro hset
    obtain ⟨services, l, hservices, hl, hfound⟩ := hinv.found hm hm' hset
    rw [hissued, hfound]
    constructor
    · rintro ⟨it, hit, info, hinfo, hless, hzero⟩
      exact ⟨it, info.priority, (listed_iff hlt hservices hl).mpr ⟨hit, info, hinfo, rfl⟩,
        hzero.symm, lt_max_iff.mp hless⟩
    · rintro ⟨it, priority, hlisted, hzero, hmax⟩
      obtain ⟨hit, info, hinfo, rfl⟩ := (listed_iff hlt hservices hl).mp hlisted
      exact ⟨it, hit, info, hinfo, lt_max_iff.mpr hmax, hzero.symm⟩
  constructor
  · intro hstarted hset hsome
    exact (hcomplete hset).mp ((hstarted.complete hset).mpr hsome)
  · intro hbelow
    refine ⟨honce, fun s hs => (hready s hs).2, ?_⟩
    intro hset
    rw [hcomplete hset]
    constructor
    · rintro ⟨it, priority, hlisted, hzero, -⟩
      exact ⟨it, priority, hlisted, hzero⟩
    · exact hbelow hset

/-! ### One service to start -/

/-- A repository with one service. -/
def oneService (uid pairUid : Uid) (priority : UInt32) (h : uid ≠ []) : ServiceRepository where
  getServiceInfo it := if it = uid then some ⟨pairUid, priority⟩ else none
  named := if_neg h.symm

def someNumber (n : UInt32) (pos : 1 ≤ n.toNat) (bounded : n.toNat < 2 ^ 31) : RoleNumber :=
  ⟨n, pos, bounded⟩

/-- The service of the second side is waiting, and the first one knows its pair. -/
def waitingPair (priority : UInt32) : Side → ServiceRepository
  | .a => oneService [65] [66] priority (by simp)
  | .b => oneService [66] [65] priority (by simp)

def twoNumbers : Side → RoleNumber
  | .a => someNumber 9 (Nat.le_of_ble_eq_true rfl) (Nat.le_of_ble_eq_true rfl)
  | .b => someNumber 5 (Nat.le_of_ble_eq_true rfl) (Nat.le_of_ble_eq_true rfl)

/-- All events come, and are handled. -/
def allEvents : List Action :=
  [.act .a .authenticationDone, .act .a .negotiateRole, .act .b (.onWaitingServicesRequest [[66]]),
    .act .b .negotiateRole, .act .b .handleEvent, .act .b .handleEvent, .act .b .handleEvent,
    .act .a .handleEvent, .deliver .a (), .act .a .handleEvent, .act .a .handleEvent,
    .act .a (.onWaitingServicesRequest []), .act .b .authenticationDone, .act .a .handleEvent,
    .act .a .handleEvent, .act .b .handleEvent]

theorem waiting_started_once_pair :
    ∃ w, run step (init (waitingPair 1) twoNumbers) allEvents = some w ∧ w.told .a = [[65]] ∧
      (StartedOnce (waitingPair 1) twoNumbers w ↔
        (w.Settled → BelowMax (waitingPair 1) twoNumbers w)) :=
  ⟨_, rfl, rfl, waiting_started_once_iff (waitingPair 1) twoNumbers (by decide) allEvents _ rfl⟩

/-- All is done, the service is listed with the priority `UINT_MAX`, and it is not loaded. -/
theorem service_with_max_priority_not_started :
    ¬ ∀ (repository : Side → ServiceRepository) (number : Side → RoleNumber),
      (number .a).val ≠ (number .b).val → ∀ (as : List Action) (w : Stacks),
        run step (init repository number) as = some w → StartedOnce repository number w := by
  intro h
  obtain ⟨w, hw, htold, hset, hlisted⟩ : ∃ w,
      run step (init (waitingPair WaitingServiceManager.UINT_MAX) twoNumbers) allEvents = some w ∧
      (∀ s, w.told s = []) ∧ w.Settled ∧ Listed (waitingPair WaitingServiceManager.UINT_MAX)
        twoNumbers w [65] WaitingServiceManager.UINT_MAX := by
    refine ⟨_, rfl, fun s => ?_, ⟨fun s => ?_, fun s => ?_, fun s => ?_, fun s => ?_, fun s => ?_⟩,
      .a, by decide, ⟨[[65]], .inr ⟨[[66]], rfl, rfl⟩, by simp⟩, ⟨_, rfl, rfl⟩⟩ <;> cases s <;> rfl
  obtain ⟨s, hs⟩ := ((h _ _ (by decide) allEvents w hw).complete hset).mpr
    ⟨[65], _, hlisted, by decide⟩
  exact hs (htold s)

end Stacks

end IviLink.ProfileManager.WaitingServices
